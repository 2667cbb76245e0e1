import Mathlib
import PomToGradle.Proofs.TokenSeam

/-!
A token of markup is read again wherever its spelling stands in character data. The bytes of a
construct under way lead to the same state from every run of text, so those of a complete one leave
the same token. A run of text holds no byte that would begin a construct.
-/
namespace PomToGradle

/-- A byte that stands for itself in a run of text. -/
def IsPlainByte (b : UInt8) : Prop := b ≠ ascii '<' ∧ b ≠ ascii '&'

instance : DecidablePred IsPlainByte := fun b =>
  inferInstanceAs (Decidable (b ≠ ascii '<' ∧ b ≠ ascii '&'))

def IsPlainChar (c : Char) : Prop := c ≠ '<' ∧ c ≠ '&'

theorem forall_isPlainByte_iff {run : List Char} :
    (∀ b ∈ Utf8.encodeChars run, IsPlainByte b) ↔ ∀ c ∈ run, IsPlainChar c := by
  have angle := Utf8.ascii_mem_encodeChars (c := '<') (by decide) run
  have amp := Utf8.ascii_mem_encodeChars (c := '&') (by decide) run
  constructor
  · intro plain c member
    constructor
    · rintro rfl
      exact (plain _ (angle.mpr member)).1 rfl
    · rintro rfl
      exact (plain _ (amp.mpr member)).2 rfl
  · intro plain b member
    constructor
    · rintro rfl
      exact (plain _ (angle.mp member)).1 rfl
    · rintro rfl
      exact (plain _ (amp.mp member)).2 rfl

def Mode.isRun : Mode → Bool
  | text _ => true
  | _ => false

/-- What is under way is reached by its bytes, whatever run of text is in front of them. -/
def Mode.Recurs (m : Mode) : Prop :=
  ∀ run tokens, (Lexer.mk (.text run) tokens).run m.spelled
    = ⟨m, (textToken run).toList ++ tokens⟩

/-- The token is completed by its bytes, whatever run of text is in front of them. -/
def Token.Recurs (t : Token) : Prop :=
  ∀ run tokens, (Lexer.mk (.text run) tokens).run t.spell
    = ⟨Mode.start, t :: ((Mode.textToken run).toList ++ tokens)⟩

theorem Mode.recurs_opened : opened.Recurs := fun _ _ => rfl

theorem Mode.recurs_reference : (reference []).Recurs := fun _ _ => rfl

theorem Mode.recurs_of_step {m : Mode} {b : UInt8} (recurs : m.Recurs) (flat : (m.step b).2 = none)
    (sane : (m.step b).1.isFailed = false) : (m.step b).1.Recurs := by
  intro run tokens
  have spelled := spelled_step m b sane
  rw [flat] at spelled
  rw [show (m.step b).1.spelled = m.spelled ++ [b] from spelled, Lexer.run_concat, recurs run tokens]
  simp [Lexer.step, flat]

theorem Token.recurs_of_step {m : Mode} {b : UInt8} {t : Token} (recurs : m.Recurs)
    (completes : m.step b = (Mode.start, some t)) : t.Recurs := by
  intro run tokens
  have spelled := Mode.spelled_step m b (by rw [completes]; rfl)
  rw [completes] at spelled
  have whole : t.spell = m.spelled ++ [b] := by
    simpa [Mode.start, Mode.spelled] using spelled
  rw [whole, Lexer.run_concat, recurs run tokens, Lexer.step, completes]
  rfl

namespace Lexer

theorem step_text {b : UInt8} (plain : IsPlainByte b) (run : Bytes) (tokens : List Token) :
    (Lexer.mk (.text run) tokens).step b = ⟨.text (b :: run), tokens⟩ := by
  simp [step, Mode.step, plain.1, plain.2]

/-- All markup so far would be read again, and all runs of text are plain. -/
structure Recurrent (l : Lexer) : Prop where
  markup : ∀ t ∈ l.tokens, t.isRun = false → t.Recurs
  runs : ∀ t ∈ l.tokens, t.isRun = true → ∀ b ∈ t.content, IsPlainByte b
  pending : l.mode.isRun = false → l.mode.isFailed = false → l.mode.Recurs
  run : ∀ run, l.mode = .text run → ∀ b ∈ run, IsPlainByte b

theorem recurrent_start : start.Recurrent where
  markup := by simp [start]
  runs := by simp [start]
  pending := by simp [start, Mode.start, Mode.isRun]
  run run same := by
    obtain rfl := Mode.text.inj same
    simp

/-- A run of text ends where a construct begins. -/
theorem recurrent_step_text {run : Bytes} {tokens : List Token} (b : UInt8)
    (recurrent : (Lexer.mk (.text run) tokens).Recurrent) :
    ((Lexer.mk (.text run) tokens).step b).Recurrent := by
  have plain := recurrent.run run rfl
  have ended : ∀ t ∈ (Mode.textToken run).toList ++ tokens,
      (t.isRun = false → t.Recurs) ∧ (t.isRun = true → ∀ b ∈ t.content, IsPlainByte b) := by
    intro t member
    rcases List.mem_append.mp member with last | before
    · rcases Mode.textToken_cases run with ⟨-, none⟩ | ⟨-, some⟩
      · simp [none] at last
      · rw [some] at last
        obtain rfl := List.mem_singleton.mp last
        exact ⟨by simp [Token.isRun], fun _ b inside => plain b (List.mem_reverse.mp inside)⟩
    · exact ⟨recurrent.markup t before, recurrent.runs t before⟩
  by_cases angle : b = ascii '<'
  · rw [angle]
    exact ⟨fun t member => (ended t member).1, fun t member => (ended t member).2,
      fun _ _ => Mode.recurs_opened, fun _ same => nomatch same⟩
  by_cases amp : b = ascii '&'
  · rw [amp]
    exact ⟨fun t member => (ended t member).1, fun t member => (ended t member).2,
      fun _ _ => Mode.recurs_reference, fun _ same => nomatch same⟩
  rw [step_text ⟨angle, amp⟩]
  refine ⟨recurrent.markup, recurrent.runs, by simp [Mode.isRun], ?_⟩
  intro grown same
  obtain rfl := Mode.text.inj same
  exact List.forall_mem_cons.mpr ⟨⟨angle, amp⟩, plain⟩

theorem recurrent_step_markup {l : Lexer} (b : UInt8) (recurrent : l.Recurrent)
    (markup : l.mode.isRun = false) : (l.step b).Recurrent := by
  have fresh : ∀ run, (l.mode.step b).1 = .text run → ∀ b ∈ run, IsPlainByte b := by
    intro run same
    rcases Mode.run_after_step same with rfl | ⟨before, pending, -⟩
    · simp
    · rw [pending] at markup
      contradiction
  have before : (l.mode.step b).1.isFailed = false → l.mode.Recurs := by
    intro sane
    refine recurrent.pending markup ?_
    cases failed : l.mode.isFailed with
    | false => rfl
    | true => exact absurd (Mode.isFailed_step failed b) (by simp [sane])
  cases token : (l.mode.step b).2 with
  | none =>
    have kept : (l.step b).tokens = l.tokens := by simp [step, token]
    refine ⟨kept ▸ recurrent.markup, kept ▸ recurrent.runs, ?_, fresh⟩
    intro _ sane
    exact Mode.recurs_of_step (before sane) token sane
  | some t =>
    have grown : (l.step b).tokens = t :: l.tokens := by simp [step, token]
    -- no run of text is under way, so the token is markup and the next one is still to begin
    obtain ⟨flat, after⟩ : t.isRun = false ∧ (l.mode.step b).1 = Mode.start := by
      have emits := Mode.emits_of_step token
      generalize (l.mode.step b).1 = next at emits
      cases emits with
      | markup flat => exact ⟨flat, rfl⟩
      | run pending _ _ _ =>
        rw [pending] at markup
        contradiction
    have recurs : t.Recurs := by
      refine Token.recurs_of_step (m := l.mode) (b := b) (before (by rw [after]; rfl)) ?_
      rw [← after, ← token]
    refine ⟨?_, ?_, ?_, fresh⟩
    · rw [grown]
      exact List.forall_mem_cons.mpr ⟨fun _ => recurs, recurrent.markup⟩
    · rw [grown]
      exact List.forall_mem_cons.mpr ⟨fun run => absurd flat (by simp [run]), recurrent.runs⟩
    · intro run
      rw [show (l.step b).mode = Mode.start from after] at run
      contradiction

theorem recurrent_step {l : Lexer} (b : UInt8) (recurrent : l.Recurrent) : (l.step b).Recurrent := by
  obtain ⟨mode, tokens⟩ := l
  cases mode with
  | text run => exact recurrent_step_text b recurrent
  | _ => exact recurrent_step_markup b recurrent rfl

theorem recurrent_run {l : Lexer} (s : Bytes) (recurrent : l.Recurrent) : (l.run s).Recurrent := by
  induction s generalizing l with
  | nil => exact recurrent
  | cons b s ih => exact ih (recurrent_step b recurrent)

end Lexer

namespace Lexed

/-- Markup would be read again, and runs of text are plain. -/
theorem recurs_of_mem {s : Bytes} {t : Token} (member : t ∈ (ofBytes s).tokens) :
    (t.isRun = false → t.Recurs) ∧ (t.isRun = true → ∀ b ∈ t.content, IsPlainByte b) := by
  have recurrent := Lexer.recurrent_run s Lexer.recurrent_start
  rcases mem_tokens_cases member with ⟨run, under, -, rfl⟩ | before
  · exact ⟨by simp [Token.isRun],
      fun _ b inside => recurrent.run run under b (List.mem_reverse.mp inside)⟩
  · exact ⟨recurrent.markup t before, recurrent.runs t before⟩

/-- A run of text holds no ampersand, whatever the bytes of the document are. -/
theorem plain_of_mem {s : Bytes} {t : Token} (member : t ∈ (ofBytes s).tokens) (run : t.isRun = true) :
    ascii '&' ∉ t.content :=
  fun inside => ((recurs_of_mem member).2 run (ascii '&') inside).2 rfl

theorem ofBytes_of_plain {s : Bytes} (plain : ∀ b ∈ s, IsPlainByte b) (some : s ≠ []) :
    ofBytes s = ⟨[.text s], none⟩ := by
  have ran := Lexer.run_text plain [] []
  rw [List.append_nil] at ran
  rcases Mode.textToken_cases s.reverse with ⟨empty, -⟩ | ⟨-, token⟩
  · exact absurd (List.reverse_eq_nil_iff.mp empty) some
  · rw [ofBytes, show Lexer.start = ⟨.text [], []⟩ from rfl, ran]
    simp [Lexer.finish, Mode.close, token]

theorem ofBytes_spell {t : Token} (recurs : t.Recurs) : ofBytes t.spell = ⟨[t], none⟩ := by
  rw [ofBytes, show Lexer.start = ⟨.text [], []⟩ from rfl, recurs [] []]
  rfl

end Lexed

end PomToGradle
