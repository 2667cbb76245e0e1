import PomToGradle.Proofs.AssemblyWalk
import PomToGradle.Proofs.TagSpelling

/-!
Tokens across a seam. Where the markup of a text is complete, the lexer stands in a run of text, and
that run is all that what follows can still change: its first run continues the one under way. The
tree does not show where a run was cut, so it is read from the tokens on the two sides in turn.
-/
namespace PomToGradle

theorem Mode.exists_run_of_complete {m : Mode} (complete : m.close.2 = none) :
    ∃ run, m = .text run := by
  cases m with
  | text run => exact ⟨run, rfl⟩
  | tag quote content => cases quote <;> contradiction
  | endTag quote content => cases quote <;> contradiction
  | _ => contradiction

theorem Mode.reverse_textToken (run : Bytes) :
    (textToken run).toList.reverse = (textToken run).toList := by
  cases run <;> rfl

namespace Lexer

theorem run_mk (mode : Mode) (tokens : List Token) (s : Bytes) :
    (Lexer.mk mode tokens).run s
      = ⟨((Lexer.mk mode []).run s).mode, ((Lexer.mk mode []).run s).tokens ++ tokens⟩ := by
  induction s generalizing mode tokens with
  | nil => rfl
  | cons b s ih =>
    rw [run_cons, run_cons, step, step, ih (mode.step b).1 ((mode.step b).2.toList ++ tokens),
      ih (mode.step b).1 ((mode.step b).2.toList ++ [])]
    simp

theorem finish_run_mk (mode : Mode) (tokens : List Token) (s : Bytes) :
    ((Lexer.mk mode tokens).run s).finish
      = ⟨tokens.reverse ++ ((Lexer.mk mode []).run s).finish.tokens,
          ((Lexer.mk mode []).run s).finish.fault⟩ := by
  rw [run_mk]
  simp [finish]

/-- A byte that ends a run of text leaves the run as a token, whatever comes next. -/
theorem finish_run_delimiter {b : UInt8} {next : Mode} (s : Bytes)
    (ends : ∀ run, (Mode.text run).step b = (next, Mode.textToken run)) (run : Bytes)
    (tokens : List Token) :
    ((Lexer.mk (.text run) tokens).run (b :: s)).finish
      = ⟨tokens.reverse ++ (Mode.textToken run).toList ++ ((Lexer.mk next []).run s).finish.tokens,
          ((Lexer.mk next []).run s).finish.fault⟩ := by
  rw [run_cons, step, ends, finish_run_mk, List.reverse_append, Mode.reverse_textToken]

/-- What a text begins with continues a run of text in front of it; all else in it is as it is. -/
theorem finish_run_text (s : Bytes) :
    ∃ first after fault, ∀ run tokens, ((Lexer.mk (.text run) tokens).run s).finish
      = ⟨tokens.reverse ++ (Mode.textToken (first ++ run)).toList ++ after, fault⟩ := by
  -- `first` grows until a delimiter comes, so the run in front is any run at each step
  induction s with
  | nil =>
    refine ⟨[], [], none, ?_⟩
    intro run tokens
    simp [Lexer.run, finish, Mode.close, Mode.reverse_textToken]
  | cons b s ih =>
    by_cases angle : b = ascii '<'
    · refine ⟨[], ((Lexer.mk .opened []).run s).finish.tokens,
          ((Lexer.mk .opened []).run s).finish.fault, ?_⟩
      exact finish_run_delimiter s fun run => if_pos angle
    · by_cases amp : b = ascii '&'
      · refine ⟨[], ((Lexer.mk (.reference []) []).run s).finish.tokens,
          ((Lexer.mk (.reference []) []).run s).finish.fault, ?_⟩
        exact finish_run_delimiter s fun run => (if_neg angle).trans (if_pos amp)
      · obtain ⟨first, after, fault, rest⟩ := ih
        refine ⟨first ++ [b], after, fault, ?_⟩
        intro run tokens
        have taken : (Lexer.mk (.text run) tokens).step b = ⟨.text (b :: run), tokens⟩ := by
          simp [step, Mode.step, angle, amp]
        rw [run_cons, taken, rest]
        simp

end Lexer

/-- The tokens of a text that goes on where another one is complete. -/
inductive Lexed.Meets : Lexed → Lexed → Lexed → Prop where
  | seam (before after : List Token) (run first : Bytes) (fault : Option Fault) :
      Meets ⟨before ++ (Mode.textToken run).toList, none⟩
        ⟨(Mode.textToken first).toList ++ after, fault⟩
        ⟨before ++ (Mode.textToken (first ++ run)).toList ++ after, fault⟩

theorem Lexed.fault_of_meets {left right whole : Lexed} (meets : Meets left right whole) :
    whole.fault = right.fault := by
  cases meets with
  | seam before after run first fault => rfl

theorem Lexed.meets_ofBytes {u : Bytes} (complete : (ofBytes u).fault = none) (v : Bytes) :
    Meets (ofBytes u) (ofBytes v) (ofBytes (u ++ v)) := by
  obtain ⟨run, under⟩ := Mode.exists_run_of_complete complete
  obtain ⟨first, after, fault, rest⟩ := Lexer.finish_run_text v
  obtain ⟨mode, tokens, read⟩ : ∃ mode tokens, Lexer.start.run u = ⟨mode, tokens⟩ := ⟨_, _, rfl⟩
  rw [read] at under
  obtain rfl : mode = .text run := under
  have left : ofBytes u = ⟨tokens.reverse ++ (Mode.textToken run).toList, none⟩ := by
    simp [ofBytes, read, Lexer.finish, Mode.close, Mode.reverse_textToken]
  have right : ofBytes v = ⟨(Mode.textToken first).toList ++ after, fault⟩ := by
    have alone := rest [] []
    rwa [List.append_nil, List.reverse_nil, List.nil_append] at alone
  rw [left, right, ofBytes, Lexer.run_append, read, rest]
  exact .seam tokens.reverse after run first fault

namespace Assembly

theorem textual_of_run {l : List Token} {a b : Assembly} (textual : a.Textual)
    (done : a.run l = .ok b) : b.Textual := by
  refine run_keeps ?_ textual done
  intro a b t _ before step
  obtain ⟨next, moves, rfl⟩ := step_eq_ok_iff.mp step
  suffices kept : next.Textual from kept
  cases moves with
  | instruction content => rwa [declare_of_textual before]
  | _ => exact before

theorem step_text {a : Assembly} (textual : a.Textual) {l : List Char}
    (plain : ascii '&' ∉ Utf8.encodeChars l) :
    a.step (.text (Utf8.encodeChars l)) = .ok { a.addText (String.ofList l) with
      offset := a.offset + (Utf8.encodeChars l).length } :=
  step_eq_ok_iff.mpr ⟨_, .text (readText_encodeChars textual plain), rfl⟩

/-- Text that is added in two pieces is the same as text added at once. -/
theorem run_text_text {a : Assembly} (textual : a.Textual) {l r : List Char}
    (plain : ascii '&' ∉ Utf8.encodeChars l) (plain' : ascii '&' ∉ Utf8.encodeChars r) :
    a.run [.text (Utf8.encodeChars (l ++ r))]
      = a.run [.text (Utf8.encodeChars l), .text (Utf8.encodeChars r)] := by
  have first := step_text textual plain
  have kept : Textual { a.addText (String.ofList l) with
    offset := a.offset + (Utf8.encodeChars l).length } := textual
  have second := step_text kept plain'
  have both : ascii '&' ∉ Utf8.encodeChars (l ++ r) := by
    rw [Utf8.encodeChars_append]
    exact List.not_mem_append plain plain'
  rw [run_cons, run_cons, step_text textual both, first]
  change _ = Assembly.run _ _
  rw [run_cons, second]
  simp [addText, Forest.pushText_pushText, Utf8.encodeChars_append, Nat.add_assoc]

theorem run_textToken {a : Assembly} (textual : a.Textual) {run first : Bytes}
    (sound : ∀ t ∈ (Mode.textToken run).toList, t.IsText ∧ t.IsPlain)
    (sound' : ∀ t ∈ (Mode.textToken first).toList, t.IsText ∧ t.IsPlain) :
    a.run (Mode.textToken (first ++ run)).toList
      = a.run ((Mode.textToken run).toList ++ (Mode.textToken first).toList) := by
  -- an empty run leaves no token, so only two runs that are not empty are cut differently
  rcases Mode.textToken_cases run with ⟨rfl, none⟩ | ⟨more, token⟩
  · simp [none]
  rcases Mode.textToken_cases first with ⟨rfl, none⟩ | ⟨-, token'⟩
  · simp [none]
  rcases Mode.textToken_cases (first ++ run) with ⟨empty, -⟩ | ⟨-, both⟩
  · exact absurd (List.append_eq_nil_iff.mp empty).2 more
  rw [token, Option.toList_some, List.forall_mem_singleton] at sound
  rw [token', Option.toList_some, List.forall_mem_singleton] at sound'
  obtain ⟨⟨l, left⟩, plain⟩ := sound
  obtain ⟨⟨r, right⟩, plain'⟩ := sound'
  have left : Utf8.encodeChars l = run.reverse := left
  have right : Utf8.encodeChars r = first.reverse := right
  have absent : ascii '&' ∉ run.reverse := (plain rfl).2
  have absent' : ascii '&' ∉ first.reverse := (plain' rfl).2
  have whole : (first ++ run).reverse = Utf8.encodeChars (l ++ r) := by
    rw [List.reverse_append, ← left, ← right, Utf8.encodeChars_append]
  rw [← left] at absent
  rw [← right] at absent'
  rw [token, token', both, whole, ← left, ← right]
  exact run_text_text textual absent absent'

theorem run_congr {a : Assembly} (textual : a.Textual) {l r : List Token}
    (same : ∀ b : Assembly, b.Textual → b.run l = b.run r) (before after : List Token) :
    a.run (before ++ l ++ after) = a.run (before ++ r ++ after) := by
  rw [List.append_assoc, List.append_assoc, run_append a before, run_append a before]
  cases front : a.run before with
  | error e => rfl
  | ok b =>
    change b.run (l ++ after) = b.run (r ++ after)
    rw [run_append, run_append, same b (textual_of_run textual front)]

/-- The tree is read from the tokens on the two sides of a seam in turn. -/
theorem run_of_meets {a : Assembly} (textual : a.Textual) {left right whole : Lexed}
    (meets : Lexed.Meets left right whole)
    (sound : ∀ t ∈ left.tokens ++ right.tokens, t.IsText ∧ t.IsPlain) :
    a.run whole.tokens = a.run (left.tokens ++ right.tokens) := by
  cases meets with
  | seam before after run first fault =>
    have last : ∀ t ∈ (Mode.textToken run).toList, t.IsText ∧ t.IsPlain := by
      intro t inside
      exact sound t (by simp [inside])
    have next : ∀ t ∈ (Mode.textToken first).toList, t.IsText ∧ t.IsPlain := by
      intro t inside
      exact sound t (by simp [inside])
    have joined := run_congr textual (fun b kept => run_textToken kept last next) before after
    simpa using joined

/-- Reading a text that goes on where another one is complete. -/
theorem run_ofBytes_append {a : Assembly} (textual : a.Textual) {u : List Char}
    (complete : (Lexed.ofBytes (Utf8.encodeChars u)).fault = none) (v : List Char) :
    (Lexed.ofBytes (Utf8.encodeChars (u ++ v))).fault
        = (Lexed.ofBytes (Utf8.encodeChars v)).fault ∧
      a.run (Lexed.ofBytes (Utf8.encodeChars (u ++ v))).tokens
        = a.run (Lexed.ofBytes (Utf8.encodeChars u)).tokens
          >>= fun b => b.run (Lexed.ofBytes (Utf8.encodeChars v)).tokens := by
  have meets := Lexed.meets_ofBytes complete (Utf8.encodeChars v)
  rw [← Utf8.encodeChars_append] at meets
  refine ⟨Lexed.fault_of_meets meets, ?_⟩
  rw [run_of_meets textual meets, run_append]
  intro t inside
  rcases List.mem_append.mp inside with left | right
  · exact Lexed.tokens_of_text (Utf8.isText_encodeChars u) t left
  · exact Lexed.tokens_of_text (Utf8.isText_encodeChars v) t right

end Assembly

end PomToGradle
