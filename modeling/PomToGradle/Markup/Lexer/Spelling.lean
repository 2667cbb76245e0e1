import PomToGradle.Markup.Lexer

/-!
The lexer only cuts: the spellings of the tokens, followed by the bytes under way, are the document
read so far, by `Lexer.spelled_run`, unless a fault was met.
-/
namespace PomToGradle

namespace Mode

/-- The bytes since the last token, as they stand in the document. A failed mode has lost them. -/
def spelled : Mode → Bytes
  | text run => run.reverse
  | reference name => ascii '&' :: name.reverse
  | opened => [ascii '<']
  | tag _ content => ascii '<' :: content.reverse
  | endTag _ content => Bytes.ofAscii "</" ++ content.reverse
  | bang => Bytes.ofAscii "<!"
  | commentOpening => Bytes.ofAscii "<!-"
  | comment content => Bytes.ofAscii "<!--" ++ content.reverse
  | cdataOpening seen => Bytes.ofAscii "<!" ++ seen
  | cdata content => Bytes.ofAscii "<!" ++ Token.cdataKeyword ++ content.reverse
  | doctypeOpening seen => Bytes.ofAscii "<!" ++ seen
  | doctype keyword _ content => Bytes.ofAscii "<!" ++ keyword ++ content.reverse
  | instruction content => Bytes.ofAscii "<?" ++ content.reverse
  | failed _ => []

def isFailed : Mode → Bool
  | failed _ => true
  | _ => false

@[simp] theorem spellAll_textToken (run : Bytes) :
    Token.spellAll (textToken run).toList = run.reverse := by
  cases run <;> simp [textToken, Token.spell]

theorem spell_tagToken (content : Bytes) :
    (tagToken content).spell = ascii '<' :: (content.reverse ++ [ascii '>']) := by
  have slash : Bytes.ofAscii "/>" = [ascii '/', ascii '>'] := rfl
  cases content with
  | nil => simp [tagToken, Token.spell]
  | cons b content =>
    simp only [tagToken, List.head?_cons, Option.some.injEq]
    split
    next e => simp [Token.spell, e, slash]
    next => simp [Token.spell]

/-- What is cut off a list at its front stands at the end of the list turned around. -/
theorem reverse_drop_append {l w : Bytes} {n : Nat} (h : l.take n = w) :
    (l.drop n).reverse ++ w.reverse = l.reverse := by
  rw [← h, ← List.reverse_append, List.take_append_drop]

theorem spelled_step (m : Mode) (b : UInt8) (h : (m.step b).1.isFailed = false) :
    Token.spellAll (m.step b).2.toList ++ (m.step b).1.spelled = m.spelled ++ [b] := by
  cases m with
  | text run =>
    simp only [step]
    split
    next e => simp [spelled, e]
    next =>
      split
      next e => simp [spelled, e]
      next => simp [spelled]
  | reference name =>
    simp only [step] at h ⊢
    split at h
    next e => simp [Token.spell, spelled, start, e]
    next ne =>
      split at h
      next e => simp [isFailed] at h
      next ne' => simp [ne, ne', spelled]
  | opened =>
    simp only [step]
    split
    next e => rw [e]; rfl
    next =>
      split
      next e => rw [e]; rfl
      next =>
        split
        next e => rw [e]; rfl
        next =>
          split
          next e => simp [spelled, e, spell_tagToken, start]
          next => simp [spelled]
  | tag quote content =>
    simp only [step]
    split
    next e => simp [spelled, e, spell_tagToken, start]
    next => simp [spelled]
  | endTag quote content =>
    simp only [step]
    split
    next e => simp [spelled, e, Token.spell, start]
    next => simp [spelled]
  | bang =>
    simp only [step] at h ⊢
    split
    next e => simp [spelled]
    next =>
      split
      next e => rw [e]; rfl
      next =>
        split
        next e => simp [spelled]
        next n₁ n₂ n₃ => simp [n₁, n₂, n₃, isFailed] at h
  | commentOpening =>
    simp only [step] at h ⊢
    split
    next e => rw [e]; rfl
    next n => simp [n, isFailed] at h
  | comment content =>
    simp only [step]
    split
    next e =>
      have whole := reverse_drop_append e.2
      have dashes : Bytes.ofAscii "-->" = (Bytes.ofAscii "--").reverse ++ [ascii '>'] := rfl
      simp only [Option.toList_some, Token.spellAll_singleton, Token.spell, spelled, start, dashes, e.1]
      simp [← whole]
    next => simp [spelled]
  | cdataOpening seen =>
    simp only [step, cdataOpeningStep] at h ⊢
    split
    next e => simp [spelled, ← e]
    next n₁ =>
      split
      next => simp [spelled]
      next n₂ => simp [n₁, n₂, isFailed] at h
  | cdata content =>
    simp only [step]
    split
    next e =>
      have whole := reverse_drop_append e.2
      have brackets : Bytes.ofAscii "]]>" = (Bytes.ofAscii "]]").reverse ++ [ascii '>'] := rfl
      simp only [Option.toList_some, Token.spellAll_singleton, Token.spell, spelled, start, brackets, e.1]
      simp [← whole]
    next => simp [spelled]
  | doctypeOpening seen =>
    simp only [step, doctypeOpeningStep] at h ⊢
    split
    next => simp [spelled]
    next n₁ =>
      split
      next => simp [spelled]
      next n₂ =>
        rw [if_neg n₁, if_neg n₂] at h
        contradiction
  | doctype keyword scan content =>
    simp only [step] at h ⊢
    split
    next e =>
      simp only [endDoctype] at h ⊢
      split
      next blank => simp [e, blank, isFailed] at h
      next => simp [Token.spell, spelled, start, Doctype.eq_of_step?_eq_none e]
    next => simp [spelled]
  | instruction content =>
    simp only [step] at h ⊢
    split
    next e => simp [e, isFailed] at h
    next =>
      split
      next e =>
        obtain ⟨rfl, mark⟩ := e
        obtain ⟨rest, rfl⟩ := List.head?_eq_some_iff.1 mark
        have closing : Bytes.ofAscii "?>" = [ascii '?', ascii '>'] := rfl
        simp [Token.spell, spelled, start, closing]
      next => simp [spelled]
  | failed fault => simp [step, isFailed] at h

theorem isFailed_step {m : Mode} (h : m.isFailed = true) (b : UInt8) :
    (m.step b).1.isFailed = true := by
  cases m with
  | failed fault => rfl
  | _ => contradiction

end Mode

namespace Lexer

/-- All bytes read so far. -/
def spelled (l : Lexer) : Bytes := Token.spellAll l.tokens.reverse ++ l.mode.spelled

theorem spelled_step (l : Lexer) (b : UInt8) (h : (l.step b).mode.isFailed = false) :
    (l.step b).spelled = l.spelled ++ [b] := by
  have one := Mode.spelled_step l.mode b h
  have tokens : Token.spellAll (l.step b).tokens.reverse
      = Token.spellAll l.tokens.reverse ++ Token.spellAll (l.mode.step b).2.toList := by
    simp only [step]
    cases (l.mode.step b).2 <;> simp [Token.spellAll_append]
  simp only [spelled, tokens, List.append_assoc]
  exact congrArg _ one

/-- A failed lexer stays failed. -/
theorem isFailed_run {l : Lexer} (h : l.mode.isFailed = true) (s : Bytes) :
    (l.run s).mode.isFailed = true := by
  induction s generalizing l with
  | nil => exact h
  | cons b s ih => exact ih (l := l.step b) (Mode.isFailed_step h b)

/-- As long as nothing is wrong, no byte is lost and none is moved. -/
theorem spelled_run (l : Lexer) (s : Bytes) (h : (l.run s).mode.isFailed = false) :
    (l.run s).spelled = l.spelled ++ s := by
  induction s generalizing l with
  | nil => simp [run]
  | cons b s ih =>
    have sound : (l.step b).mode.isFailed = false := by
      cases failed : (l.step b).mode.isFailed with
      | false => rfl
      | true =>
        have same : (l.step b).run s = l.run (b :: s) := rfl
        exact absurd (isFailed_run failed s) (by simp [same, h])
    have rest := ih (l.step b) h
    rw [spelled_step l b sound] at rest
    exact rest.trans (by simp)

end Lexer

/-- Without a fault the document ends in a run of text, and its tokens spell all of it. -/
theorem Lexed.spellAll_tokens {s : Bytes} (sound : (ofBytes s).fault = none) :
    Token.spellAll (ofBytes s).tokens = s := by
  unfold ofBytes Lexer.finish at sound ⊢
  cases under : (Lexer.start.run s).mode with
  | text run =>
    have whole := Lexer.spelled_run Lexer.start s (by rw [under]; rfl)
    have single : (Mode.textToken run).toList.reverse = (Mode.textToken run).toList := by
      cases run <;> rfl
    rw [Lexer.spelled, under] at whole
    simp only [Mode.close, List.reverse_append, single, Token.spellAll_append, Mode.spellAll_textToken]
    exact whole
  | tag quote content => cases quote <;> simp [under, Mode.close] at sound
  | endTag quote content => cases quote <;> simp [under, Mode.close] at sound
  | _ => simp [under, Mode.close] at sound

end PomToGradle
