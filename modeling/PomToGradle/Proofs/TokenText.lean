import PomToGradle.Markup.Lexer.Spelling
import PomToGradle.Proofs.Utf8Boundaries

/-!
Tokens of a text. Delimiters are ASCII, so a document in UTF-8 is cut into tokens whose contents are
texts again, wherever the cuts fall. A run of text ends at the first `&`, so it never contains one.
-/
namespace PomToGradle

namespace Token

def isRun : Token → Bool
  | text _ => true
  | _ => false

def content : Token → Bytes
  | text run => run
  | reference name => name
  | startTag content | emptyTag content | endTag content => content
  | comment content | cdata content | instruction content => content
  | doctype keyword content => keyword ++ content

def opening : Token → Bytes
  | text _ => []
  | reference _ => [ascii '&']
  | startTag _ | emptyTag _ => [ascii '<']
  | endTag _ => Bytes.ofAscii "</"
  | comment _ => Bytes.ofAscii "<!--"
  | cdata _ => Bytes.ofAscii "<!" ++ cdataKeyword
  | doctype _ _ => Bytes.ofAscii "<!"
  | instruction _ => Bytes.ofAscii "<?"

def closing : Token → Bytes
  | text _ => []
  | reference _ => [ascii ';']
  | startTag _ | endTag _ | doctype _ _ => [ascii '>']
  | emptyTag _ => Bytes.ofAscii "/>"
  | comment _ => Bytes.ofAscii "-->"
  | cdata _ => Bytes.ofAscii "]]>"
  | instruction _ => Bytes.ofAscii "?>"

theorem spell_eq (t : Token) : t.spell = t.opening ++ t.content ++ t.closing := by
  cases t <;> simp [spell, opening, content, closing]

instance (b : UInt8) : Decidable (Utf8.IsAscii b) := inferInstanceAs (Decidable (b.toNat < 128))

theorem isAscii_opening (t : Token) : ∀ b ∈ t.opening, Utf8.IsAscii b := by
  cases t <;> simp only [opening] <;> decide +kernel

/-- Only a run of text has no end of its own. -/
theorem closing_eq_cons {t : Token} (markup : t.isRun = false) :
    ∃ b rest, t.closing = b :: rest ∧ Utf8.IsAscii b ∧ ∀ c ∈ rest, Utf8.IsAscii c := by
  cases t with
  | text run => contradiction
  | _ => exact ⟨_, _, rfl, by decide +kernel, by decide +kernel⟩

def IsText (t : Token) : Prop := Utf8.IsText t.content

theorem isText_of_spell {t : Token} (markup : t.isRun = false) {rest : Bytes}
    (text : Utf8.IsText (t.spell ++ rest)) : t.IsText ∧ Utf8.IsText rest := by
  obtain ⟨b, tail, closed, small, smaller⟩ := closing_eq_cons markup
  rw [spell_eq, closed, List.append_assoc, List.append_assoc] at text
  obtain ⟨inside, after⟩ :=
    Utf8.isText_of_append_ascii small (Utf8.isText_of_ascii_append (isAscii_opening t) text)
  exact ⟨inside, Utf8.isText_of_ascii_append smaller after⟩

/-- No reference stands in a run of text, so nothing in it is left to resolve. -/
def IsPlain (t : Token) : Prop := t.isRun = true → t.content ≠ [] ∧ ascii '&' ∉ t.content

end Token

namespace Mode

theorem textToken_cases (run : Bytes) :
    (run = [] ∧ textToken run = none) ∨ (run ≠ [] ∧ textToken run = some (.text run.reverse)) := by
  cases run with
  | nil => exact Or.inl ⟨rfl, rfl⟩
  | cons b run => exact Or.inr ⟨by simp, rfl⟩

/-- A token ends between two others, or is a run of text that the byte read puts an end to. -/
inductive Emits (m : Mode) (b : UInt8) : Mode → Token → Prop where
  | run {run : Bytes} {next : Mode} (pending : m = .text run) (some : run ≠ [])
      (delimiter : b = ascii '<' ∨ b = ascii '&') (after : next.spelled = [b]) :
      Emits m b next (.text run.reverse)
  | markup {t : Token} (flat : t.isRun = false) : Emits m b start t

theorem isRun_tagToken (content : Bytes) : (tagToken content).isRun = false := by
  unfold tagToken
  split <;> rfl

/-- The shape of a step that completes its token on one condition only. -/
theorem emits_of_ite {m next : Mode} {b : UInt8} {t t' : Token} {c : Prop} [Decidable c]
    (flat : t'.isRun = false) (h : (if c then (start, some t') else (next, none)).2 = some t) :
    Emits m b (if c then (start, some t') else (next, none)).1 t := by
  split at h
  next e =>
    obtain rfl := Option.some.inj h
    rw [if_pos e]
    exact .markup flat
  next => contradiction

theorem emits_of_step {m : Mode} {b : UInt8} {t : Token} (h : (m.step b).2 = some t) :
    Emits m b (m.step b).1 t := by
  cases m with
  | text run =>
    simp only [step] at h ⊢
    rcases textToken_cases run with ⟨rfl, none⟩ | ⟨some, token⟩
    · split at h
      · contradiction
      · split at h <;> contradiction
    · split at h
      next e =>
        obtain rfl := Option.some.inj (token.symm.trans h)
        rw [if_pos e]
        exact .run rfl some (Or.inl e) (by rw [spelled, e])
      next ne =>
        split at h
        next e =>
          obtain rfl := Option.some.inj (token.symm.trans h)
          rw [if_neg ne, if_pos e]
          exact .run rfl some (Or.inr e) (by rw [spelled, e]; rfl)
        next => contradiction
  | reference name =>
    simp only [step] at h ⊢
    split at h
    next e =>
      obtain rfl := Option.some.inj h
      rw [if_pos e]
      exact .markup rfl
    next => split at h <;> contradiction
  | opened =>
    simp only [step] at h ⊢
    split at h
    next => contradiction
    next bang =>
      split at h
      next => contradiction
      next query =>
        split at h
        next => contradiction
        next slash =>
          rw [if_neg bang, if_neg query, if_neg slash]
          exact emits_of_ite (isRun_tagToken []) h
  | tag quote content => exact emits_of_ite (isRun_tagToken content) h
  | endTag quote content => exact emits_of_ite rfl h
  | comment content => exact emits_of_ite rfl h
  | cdata content => exact emits_of_ite rfl h
  | instruction content =>
    simp only [step] at h ⊢
    split at h
    next => contradiction
    next more =>
      rw [if_neg more]
      exact emits_of_ite rfl h
  | doctype keyword scan content =>
    simp only [step] at h ⊢
    split at h
    next ends =>
      simp only [endDoctype] at h ⊢
      split at h
      next => contradiction
      next named =>
        obtain rfl := Option.some.inj h
        rw [if_neg named]
        exact .markup rfl
    next => contradiction
  | bang =>
    simp only [step] at h
    split at h
    next => contradiction
    next =>
      split at h
      next => contradiction
      next => split at h <;> contradiction
  | commentOpening =>
    simp only [step] at h
    split at h <;> contradiction
  | cdataOpening seen => contradiction
  | doctypeOpening seen => contradiction
  | failed fault => contradiction

theorem not_isFailed_of_emits {m next : Mode} {b : UInt8} {t : Token} (h : Emits m b next t) :
    next.isFailed = false := by
  cases h with
  | markup flat => rfl
  | run pending some delimiter after =>
    cases next with
    | failed fault => simp [spelled] at after
    | _ => rfl

/-- A run that is still under way after a byte has begun with it or has taken it in. -/
theorem run_after_step {m : Mode} {b : UInt8} {run : Bytes} (h : (m.step b).1 = .text run) :
    run = [] ∨ ∃ before, m = .text before ∧ run = b :: before ∧ b ≠ ascii '&' := by
  cases m with
  | text before =>
    simp only [step] at h
    split at h
    next => contradiction
    next =>
      split at h
      next => contradiction
      next ne =>
        obtain rfl := Mode.text.inj h
        exact Or.inr ⟨before, rfl, rfl, ne⟩
  | _ =>
    -- every other mode goes back to text with an empty run, if it goes there at all
    grind [step, start, endDoctype, cdataOpeningStep, doctypeOpeningStep]

end Mode

namespace Lexer

/-- The tokens so far are in order, and what is under way is a text together with what is still to be
    read. -/
structure Sound (l : Lexer) (rest : Bytes) : Prop where
  texts : ∀ t ∈ l.tokens, t.IsText
  plain : ∀ t ∈ l.tokens, t.IsPlain
  pending : l.mode.isFailed = false → Utf8.IsText (l.mode.spelled ++ rest)
  run : ∀ run, l.mode = .text run → ascii '&' ∉ run

theorem sound_start {s : Bytes} (text : Utf8.IsText s) : start.Sound s where
  texts := by simp [start]
  plain := by simp [start]
  pending _ := text
  run run h := by
    obtain rfl := Mode.text.inj h
    simp

theorem isText_of_emits {m next : Mode} {b : UInt8} {t : Token} {rest : Bytes}
    (emits : Mode.Emits m b next t) (text : Utf8.IsText (t.spell ++ (next.spelled ++ rest))) :
    t.IsText ∧ Utf8.IsText (next.spelled ++ rest) := by
  cases emits with
  | markup flat => exact Token.isText_of_spell flat text
  | run pending some delimiter after =>
    have small : Utf8.IsAscii b := by
      rcases delimiter with rfl | rfl <;> decide
    rw [after] at text ⊢
    exact ⟨(Utf8.isText_of_append_ascii small text).1, Utf8.isText_from_ascii small text⟩

theorem isPlain_of_emits {l : Lexer} {s : Bytes} (sound : l.Sound s) {next : Mode} {b : UInt8}
    {t : Token} (emits : Mode.Emits l.mode b next t) : t.IsPlain := by
  intro isRun
  cases emits with
  | markup flat =>
    rw [flat] at isRun
    contradiction
  | run pending some delimiter after =>
    exact ⟨by simpa [Token.content] using some, by simpa [Token.content] using sound.run _ pending⟩

theorem sound_step {l : Lexer} {b : UInt8} {rest : Bytes} (sound : l.Sound (b :: rest)) :
    (l.step b).Sound rest := by
  have read : (l.mode.step b).1.isFailed = false →
      Utf8.IsText
        (Token.spellAll (l.mode.step b).2.toList ++ ((l.mode.step b).1.spelled ++ rest)) := by
    intro sane
    have before : l.mode.isFailed = false := by
      cases failed : l.mode.isFailed with
      | false => rfl
      | true => exact absurd (Mode.isFailed_step failed b) (by simp [sane])
    have spelled := Mode.spelled_step l.mode b sane
    rw [← List.append_assoc, spelled, List.append_assoc]
    exact sound.pending before
  have run : ∀ run, (l.mode.step b).1 = .text run → ascii '&' ∉ run := by
    intro run h
    rcases Mode.run_after_step h with rfl | ⟨before, pending, rfl, ne⟩
    · simp
    · simpa using ⟨Ne.symm ne, sound.run before pending⟩
  cases token : (l.mode.step b).2 with
  | none =>
    have kept : (l.step b).tokens = l.tokens := by simp [step, token]
    rw [token] at read
    exact ⟨kept ▸ sound.texts, kept ▸ sound.plain, read, run⟩
  | some t =>
    have emits := Mode.emits_of_step token
    have grown : (l.step b).tokens = t :: l.tokens := by simp [step, token]
    have text := read (Mode.not_isFailed_of_emits emits)
    rw [token, Option.toList_some, Token.spellAll_singleton] at text
    obtain ⟨inside, after⟩ := isText_of_emits emits text
    refine ⟨?_, ?_, fun _ => after, run⟩
    · rw [grown]
      exact List.forall_mem_cons.mpr ⟨inside, sound.texts⟩
    · rw [grown]
      exact List.forall_mem_cons.mpr ⟨isPlain_of_emits sound emits, sound.plain⟩

theorem sound_run {l : Lexer} {s rest : Bytes} (sound : l.Sound (s ++ rest)) :
    (l.run s).Sound rest := by
  induction s generalizing l with
  | nil => exact sound
  | cons b s ih => exact ih (l := l.step b) (sound_step sound)

end Lexer

namespace Lexed

/-- A token was completed on the way, or it is the run of text under way at the end. -/
theorem mem_tokens_cases {s : Bytes} {t : Token} (member : t ∈ (ofBytes s).tokens) :
    (∃ run, (Lexer.start.run s).mode = .text run ∧ run ≠ [] ∧ t = .text run.reverse) ∨
      t ∈ (Lexer.start.run s).tokens := by
  simp only [ofBytes, Lexer.finish, List.mem_reverse, List.mem_append] at member
  rcases member with last | before
  · refine Or.inl ?_
    cases under : (Lexer.start.run s).mode with
    | text run =>
      rw [under] at last
      rcases Mode.textToken_cases run with ⟨-, none⟩ | ⟨some, token⟩
      · simp [Mode.close, none] at last
      · simp only [Mode.close, token, Option.toList_some, List.mem_singleton] at last
        exact ⟨run, rfl, some, last⟩
    | tag quote content => cases quote <;> simp [under, Mode.close] at last
    | endTag quote content => cases quote <;> simp [under, Mode.close] at last
    | _ => simp [under, Mode.close] at last
  · exact Or.inr before

/-- The tokens of a text hold texts, and its runs hold no references. -/
theorem tokens_of_text {s : Bytes} (text : Utf8.IsText s) :
    ∀ t ∈ (ofBytes s).tokens, t.IsText ∧ t.IsPlain := by
  have sound : (Lexer.start.run s).Sound [] := by
    apply Lexer.sound_run
    rw [List.append_nil]
    exact Lexer.sound_start text
  intro t member
  rcases mem_tokens_cases member with ⟨run, under, some, rfl⟩ | before
  · have whole := sound.pending (by rw [under]; rfl)
    rw [under, List.append_nil] at whole
    refine ⟨whole, fun _ => ⟨by simpa [Token.content] using some, ?_⟩⟩
    simpa [Token.content] using sound.run run under
  · exact ⟨sound.texts t before, sound.plain t before⟩

end Lexed

theorem Mode.ne_text_nil_of_emits {m next : Mode} {b : UInt8} {t : Token} (emits : Emits m b next t) :
    t ≠ .text [] := by
  rintro rfl
  generalize same : Token.text [] = t at emits
  cases emits with
  | run pending some delimiter after =>
    exact some (List.reverse_eq_nil_iff.mp (Token.text.inj same).symm)
  | markup flat =>
    subst same
    contradiction

theorem Lexer.text_nil_not_mem_run {l : Lexer} (s : Bytes) (solid : .text [] ∉ l.tokens) :
    .text [] ∉ (l.run s).tokens := by
  induction s generalizing l with
  | nil => exact solid
  | cons b s ih =>
    refine ih (l := l.step b) ?_
    intro member
    rcases List.mem_append.mp member with new | old
    · exact Mode.ne_text_nil_of_emits (Mode.emits_of_step (Option.mem_toList.mp new)) rfl
    · exact solid old

/-- A run of text begins with its first byte. -/
theorem Lexed.text_nil_not_mem (s : Bytes) : .text [] ∉ (ofBytes s).tokens := by
  intro member
  rcases mem_tokens_cases member with ⟨run, -, some, empty⟩ | before
  · exact some (List.reverse_eq_nil_iff.mp (Token.text.inj empty).symm)
  · exact Lexer.text_nil_not_mem_run s (List.not_mem_nil : .text [] ∉ Lexer.start.tokens) before

end PomToGradle
