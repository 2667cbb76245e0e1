import Mathlib
import PomToGradle.Proofs.RecodedBytes
import PomToGradle.Proofs.TokenSeam

/-!
Cutting a document into tokens looks at ASCII bytes only. What bytes outside ASCII do to the token
under way does not depend on which they are or how many, so a document in another code that has the
same ASCII is cut in the same places, by `Lexed.tokens_recode` and `Lexed.fault_recode`.
-/
namespace PomToGradle

/-- The scan after one or more bytes outside ASCII. -/
def Doctype.Scan.afterForeign : Scan → Scan
  | keyword _ => simple
  | comment _ => comment 0
  | instruction _ => instruction false
  | scan => scan

/-- The mode after these bytes outside ASCII, of which there is one at least, last first. -/
def Mode.afterForeign (s : Bytes) : Mode → Mode
  | text run => text (s ++ run)
  | reference name => reference (s ++ name)
  | opened => tag none s
  | tag quote content => tag quote (s ++ content)
  | endTag quote content => endTag quote (s ++ content)
  | bang => failed .unknownMarkup
  | commentOpening => failed (.unclosed .comment)
  | comment content => comment (s ++ content)
  | cdataOpening _ => failed (.unclosed .cdata)
  | cdata content => cdata (s ++ content)
  | doctypeOpening _ => failed (.unclosed .doctype)
  | doctype keyword scan content => doctype keyword scan.afterForeign (s ++ content)
  | instruction content => instruction (s ++ content)
  | failed fault => failed fault

theorem Doctype.afterForeign_afterForeign (scan : Scan) :
    scan.afterForeign.afterForeign = scan.afterForeign := by
  cases scan <;> rfl

theorem Mode.afterForeign_append (m : Mode) (s t : Bytes) :
    (m.afterForeign s).afterForeign t = m.afterForeign (t ++ s) := by
  cases m <;> simp [afterForeign, Doctype.afterForeign_afterForeign]

theorem not_isPrefixOf_of_foreign {b : UInt8} (large : ¬ Utf8.IsAscii b) {k : Bytes}
    (small : ∀ x ∈ k, Utf8.IsAscii x) (seen : Bytes) : ¬ seen ++ [b] <+: k := fun starts =>
  large (small b (starts.subset (by simp)))

theorem Doctype.isAscii_of_mem_keywords {k : Bytes} (member : k ∈ keywords) :
    ∀ x ∈ k, Utf8.IsAscii x := by
  have all : ∀ k ∈ keywords, ∀ x ∈ k, Utf8.IsAscii x := by decide +kernel
  exact all k member

theorem Doctype.keywordStep_of_foreign {b : UInt8} (large : ¬ Utf8.IsAscii b) (seen : Bytes) :
    keywordStep seen b = .simple := by
  have none {k : Bytes} (member : k ∈ keywords) : ¬ seen ++ [b] <+: k :=
    not_isPrefixOf_of_foreign large (isAscii_of_mem_keywords member) seen
  have other {k : Bytes} (member : k ∈ keywords) : seen ++ [b] ≠ k := by
    rintro rfl
    exact none member List.prefix_rfl
  have simple : seen ++ [b] ∉ simpleKeywords := fun member => other (by simp [keywords, member]) rfl
  have literal : seen ++ [b] ∉ literalKeywords := fun member => other (by simp [keywords, member]) rfl
  have begun : (keywords.any fun k => (seen ++ [b]).isPrefixOf k) = false := by
    rw [List.any_eq_false]
    intro k member
    rw [List.isPrefixOf_iff_prefix]
    exact none member
  simp [keywordStep, simpleStep, other (k := instructionKeyword) (by simp [keywords]),
    other (k := commentKeyword) (by simp [keywords]), simple, literal, begun,
    ne_ascii_of_foreign large (c := '>') (by decide)]

theorem Doctype.step?_of_foreign {b : UInt8} (large : ¬ Utf8.IsAscii b) (scan : Scan) :
    scan.step? b = some scan.afterForeign := by
  have other := @ne_ascii_of_foreign b large
  cases scan with
  | keyword seen => rw [Scan.step?, keywordStep_of_foreign large, Scan.afterForeign]
  | literal quote =>
    cases quote <;> simp (disch := decide) [Scan.step?, Scan.afterForeign, other,
      ofByte?_of_foreign large, ne_byte_of_foreign large]
  | _ => simp (disch := decide) [Scan.step?, Scan.afterForeign, subsetStep, simpleStep, other,
      ofByte?_of_foreign large, ne_byte_of_foreign large]

theorem Mode.step_of_foreign {b : UInt8} (large : ¬ Utf8.IsAscii b) (m : Mode) :
    m.step b = (m.afterForeign [b], none) := by
  have other := @ne_ascii_of_foreign b large
  have lower : lowerByte b ≠ ascii 'd' := by
    rw [lowerByte_of_foreign large]
    exact other (by decide)
  have quote (quote : Option Quote) : quoteAfter quote b = quote := by
    cases quote <;> simp [quoteAfter, ofByte?_of_foreign large, ne_byte_of_foreign large]
  cases m with
  | cdataOpening seen =>
    have none := not_isPrefixOf_of_foreign large
      (show ∀ x ∈ Token.cdataKeyword, Utf8.IsAscii x by decide +kernel) seen
    have differs : seen ++ [b] ≠ Token.cdataKeyword := fun same => none (same ▸ List.prefix_rfl)
    simp [step, cdataOpeningStep, afterForeign, none, differs]
  | doctypeOpening seen =>
    have none := not_isPrefixOf_of_foreign large
      (show ∀ x ∈ Token.doctypeKeyword, Utf8.IsAscii x by decide +kernel) (seen.map lowerByte)
    have differs : seen.map lowerByte ++ [b] ≠ Token.doctypeKeyword := fun same =>
      none (same ▸ List.prefix_rfl)
    simp [step, doctypeOpeningStep, afterForeign, lowerByte_of_foreign large, none, differs]
  | doctype keyword scan content =>
    rw [step, Doctype.step?_of_foreign large]
    rfl
  | _ => simp (disch := decide) [step, afterForeign, other, lower, quote, ofByte?_of_foreign large]

theorem Lexer.run_of_foreign {s : Bytes} (some : s ≠ []) (large : ∀ b ∈ s, ¬ Utf8.IsAscii b)
    (m : Mode) (tokens : List Token) :
    (Lexer.mk m tokens).run s = ⟨m.afterForeign s.reverse, tokens⟩ := by
  induction s generalizing m with
  | nil => contradiction
  | cons b s ih =>
    obtain ⟨first, others⟩ := List.forall_mem_cons.mp large
    have taken : (Lexer.mk m tokens).run (b :: s)
        = (Lexer.mk (m.afterForeign [b]) tokens).run s := by
      change ((Lexer.mk m tokens).step b).run s = _
      rw [step, Mode.step_of_foreign first]
      rfl
    rw [taken]
    cases s with
    | nil => rfl
    | cons c s =>
      rw [ih (by simp) others, Mode.afterForeign_append, List.reverse_cons (a := b)]

/-! Recoding what is under way and what is complete. -/

def Doctype.Scan.recode (r : Recoding) : Scan → Scan
  | keyword seen => keyword (r.bytes seen)
  | scan => scan

def Token.recode (r : Recoding) : Token → Token
  | text run => text (r.bytes run)
  | reference name => reference (r.bytes name)
  | startTag content => startTag (r.bytes content)
  | emptyTag content => emptyTag (r.bytes content)
  | endTag content => endTag (r.bytes content)
  | comment content => comment (r.bytes content)
  | cdata content => cdata (r.bytes content)
  | doctype keyword content => doctype (r.bytes keyword) (r.bytes content)
  | instruction content => instruction (r.bytes content)

def Mode.recode (r : Recoding) : Mode → Mode
  | text run => text (r.lastFirst run)
  | reference name => reference (r.lastFirst name)
  | opened => opened
  | tag quote content => tag quote (r.lastFirst content)
  | endTag quote content => endTag quote (r.lastFirst content)
  | bang => bang
  | commentOpening => commentOpening
  | comment content => comment (r.lastFirst content)
  | cdataOpening seen => cdataOpening (r.bytes seen)
  | cdata content => cdata (r.lastFirst content)
  | doctypeOpening seen => doctypeOpening (r.bytes seen)
  | doctype keyword scan content => doctype (r.bytes keyword) (scan.recode r) (r.lastFirst content)
  | instruction content => instruction (r.lastFirst content)
  | failed fault => failed fault

section Recode

variable {r : Recoding}

theorem Doctype.recode_afterForeign (scan : Scan) :
    scan.afterForeign.recode r = (scan.recode r).afterForeign := by
  cases scan <;> rfl

theorem Mode.recode_afterForeign (m : Mode) (b : UInt8) :
    (m.afterForeign [b]).recode r = (m.recode r).afterForeign (r.code b).reverse := by
  cases m <;> simp [afterForeign, recode, Recoding.lastFirst_cons, Doctype.recode_afterForeign]

theorem Doctype.simpleStep_recode (b : UInt8) : (simpleStep b).recode r = simpleStep b := by
  unfold simpleStep
  split <;> rfl

theorem Doctype.keywordStep_recode {b : UInt8} (small : Utf8.IsAscii b) (seen : Bytes) :
    keywordStep (r.bytes seen) b = (keywordStep seen b).recode r := by
  have one {k : Bytes} (known : k ∈ keywords) (s : Bytes) : r.bytes s = k ↔ s = k :=
    Recoding.bytes_eq_iff (isAscii_of_mem_keywords known)
  have listed {l : List Bytes} (known : ∀ k ∈ l, k ∈ keywords) (s : Bytes) : r.bytes s ∈ l ↔ s ∈ l :=
    Recoding.bytes_mem_iff (fun k member => isAscii_of_mem_keywords (known k member)) s
  have begun (s : Bytes) : (keywords.any fun k => (r.bytes s).isPrefixOf k)
      = keywords.any fun k => s.isPrefixOf k := by
    rw [Bool.eq_iff_iff, List.any_eq_true, List.any_eq_true]
    refine exists_congr fun k => and_congr_right fun known => ?_
    rw [Recoding.bytes_isPrefixOf (isAscii_of_mem_keywords known)]
  have instruction := one (k := instructionKeyword) (by simp [keywords])
  have comment := one (k := commentKeyword) (by simp [keywords])
  have simple := listed (l := simpleKeywords) fun k member => by simp [keywords, member]
  have literal := listed (l := literalKeywords) fun k member => by simp [keywords, member]
  simp only [keywordStep, ← r.bytes_concat small, begun, instruction, comment, simple, literal]
  split_ifs
  · rfl
  · rfl
  · rfl
  · rfl
  · rfl
  · exact (simpleStep_recode b).symm

theorem Doctype.step?_recode {b : UInt8} (small : Utf8.IsAscii b) (scan : Scan) :
    (scan.recode r).step? b = (scan.step? b).map (Scan.recode r) := by
  cases scan with
  | keyword seen => exact congrArg some (keywordStep_recode small seen)
  | literal quote =>
    cases quote with
    | none => simp only [Scan.recode, Scan.step?]; split <;> rfl
    | some q => simp only [Scan.recode, Scan.step?]; split <;> rfl
  | outer =>
    simp only [Scan.recode, Scan.step?]
    split_ifs
    · rfl
    · rfl
    · cases Quote.ofByte? b <;> rfl
  | _ =>
    simp only [Scan.recode, Scan.step?, subsetStep, simpleStep]
    split_ifs <;> rfl

theorem Mode.textToken_recode (run : Bytes) :
    textToken (r.lastFirst run) = (textToken run).map (Token.recode r) := by
  rcases textToken_cases run with ⟨rfl, none⟩ | ⟨some, token⟩
  · rfl
  rcases textToken_cases (r.lastFirst run) with ⟨empty, -⟩ | ⟨-, token'⟩
  · exact absurd ((Recoding.lastFirst_eq_nil_iff run).mp empty) some
  · rw [token, token', Recoding.reverse_lastFirst]
    rfl

theorem Mode.tagToken_recode (content : Bytes) :
    tagToken (r.lastFirst content) = (tagToken content).recode r := by
  have slash : Utf8.IsAscii (ascii '/') := by decide
  simp only [tagToken, Recoding.head?_lastFirst slash]
  split
  next empty => rw [Recoding.reverse_tail_lastFirst slash empty]; rfl
  next => rw [Recoding.reverse_lastFirst]; rfl

theorem Mode.cdataOpeningStep_recode (seen : Bytes) :
    cdataOpeningStep (r.bytes seen) = (cdataOpeningStep seen).recode r := by
  have small : ∀ b ∈ Token.cdataKeyword, Utf8.IsAscii b := by decide +kernel
  simp only [cdataOpeningStep, Recoding.bytes_eq_iff small, Recoding.bytes_isPrefixOf small]
  split_ifs <;> rfl

theorem Mode.doctypeOpeningStep_recode (seen : Bytes) :
    doctypeOpeningStep (r.bytes seen) = (doctypeOpeningStep seen).recode r := by
  have small : ∀ b ∈ Token.doctypeKeyword, Utf8.IsAscii b := by decide +kernel
  simp only [doctypeOpeningStep, Recoding.map_lowerByte, Recoding.bytes_eq_iff small,
    Recoding.bytes_isPrefixOf small]
  split_ifs <;> rfl

theorem Mode.endDoctype_recode (keyword content : Bytes) :
    endDoctype (r.bytes keyword) (r.lastFirst content)
      = ((endDoctype keyword content).1.recode r,
          (endDoctype keyword content).2.map (Token.recode r)) := by
  simp only [endDoctype, Recoding.all_lastFirst, Recoding.reverse_lastFirst]
  split_ifs <;> rfl

theorem Mode.step_recode {b : UInt8} (small : Utf8.IsAscii b) (m : Mode) :
    (m.recode r).step b = ((m.step b).1.recode r, (m.step b).2.map (Token.recode r)) := by
  have dashes : ∀ x ∈ Bytes.ofAscii "--", Utf8.IsAscii x := by decide +kernel
  have brackets : ∀ x ∈ Bytes.ofAscii "]]", Utf8.IsAscii x := by decide +kernel
  have two {s : String} (length : (Bytes.ofAscii s).length = 2) := @Recoding.take_lastFirst r _ _ length
  have query : Utf8.IsAscii (ascii '?') := by decide
  -- four constructs look back at bytes they have kept, and two compare what they have seen
  cases m with
  | comment content =>
    simp only [recode, step, two rfl dashes]
    split
    next ends =>
      rw [Recoding.reverse_drop_lastFirst (by rfl) dashes ends.2]
      rfl
    next => rw [← Recoding.lastFirst_ascii r small]; rfl
  | cdata content =>
    simp only [recode, step, two rfl brackets]
    split
    next ends =>
      rw [Recoding.reverse_drop_lastFirst (by rfl) brackets ends.2]
      rfl
    next => rw [← Recoding.lastFirst_ascii r small]; rfl
  | instruction content =>
    simp only [recode, step, Recoding.lastFirst_eq_nil_iff, Recoding.head?_lastFirst query]
    split
    next => rfl
    next =>
      split
      next ends => rw [Recoding.reverse_tail_lastFirst query ends.2]; rfl
      next => rw [← Recoding.lastFirst_ascii r small]; rfl
  | doctype keyword scan content =>
    simp only [recode, step, Doctype.step?_recode small]
    cases scan.step? b with
    | none => exact endDoctype_recode keyword content
    | some scan => simp only [Option.map_some, ← Recoding.lastFirst_ascii r small]; rfl
  | cdataOpening seen =>
    simp only [recode, step, ← r.bytes_concat small, cdataOpeningStep_recode]
    rfl
  | doctypeOpening seen =>
    simp only [recode, step, ← r.bytes_concat small, doctypeOpeningStep_recode]
    rfl
  | opened =>
    simp only [recode, step]
    split_ifs
    · rfl
    · rfl
    · rfl
    · rfl
    · simp [Recoding.lastFirst_ascii r small]
  | bang =>
    simp only [recode, step]
    split_ifs
    · simp [Recoding.bytes_of_ascii, small]
    · rfl
    · simp [Recoding.bytes_of_ascii, small]
    · rfl
  | failed fault => rfl
  | _ =>
    simp only [recode, step, textToken_recode, tagToken_recode, Recoding.reverse_lastFirst,
      ← Recoding.lastFirst_ascii r small]
    split_ifs <;> rfl

def Lexer.recode (r : Recoding) (l : Lexer) : Lexer :=
  ⟨l.mode.recode r, l.tokens.map (Token.recode r)⟩

/-- Reading the code of a byte is reading the byte. -/
theorem Lexer.run_code (l : Lexer) (b : UInt8) :
    (l.recode r).run (r.code b) = (l.step b).recode r := by
  by_cases small : Utf8.IsAscii b
  · -- its own code
    rw [r.code_ascii b small]
    change (l.recode r).step b = _
    simp only [step, recode, Mode.step_recode small]
    cases (l.mode.step b).2 <;> rfl
  · rw [recode, run_of_foreign (r.code_ne_nil b) (r.foreign b small), ← Mode.recode_afterForeign,
      step, Mode.step_of_foreign small]
    rfl

theorem Lexer.run_recode (l : Lexer) (s : Bytes) :
    (l.recode r).run (r.bytes s) = (l.run s).recode r := by
  induction s generalizing l with
  | nil => rfl
  | cons b s ih => rw [Recoding.bytes_cons, run_append, run_code, ih, run_cons]

theorem Mode.close_recode (m : Mode) :
    (m.recode r).close.1 = m.close.1.map (Token.recode r) ∧
      ((m.recode r).close.2 = none ↔ m.close.2 = none) := by
  cases m with
  | text run => exact ⟨textToken_recode run, Iff.rfl⟩
  | tag quote content => cases quote <;> simp [recode, close]
  | endTag quote content => cases quote <;> simp [recode, close]
  | _ => simp [recode, close]

theorem Lexed.ofBytes_recode (s : Bytes) :
    ofBytes (r.bytes s) = ((Lexer.start.run s).recode r).finish :=
  congrArg Lexer.finish (Lexer.run_recode Lexer.start s)

theorem Lexed.tokens_recode (s : Bytes) :
    (ofBytes (r.bytes s)).tokens = (ofBytes s).tokens.map (Token.recode r) := by
  have last := (Mode.close_recode (r := r) (Lexer.start.run s).mode).1
  rw [ofBytes_recode]
  simp only [ofBytes, Lexer.finish, Lexer.recode, last]
  cases (Lexer.start.run s).mode.close.1 <;> simp

theorem Lexed.fault_recode (s : Bytes) :
    (ofBytes (r.bytes s)).fault = none ↔ (ofBytes s).fault = none := by
  rw [ofBytes_recode]
  exact (Mode.close_recode (Lexer.start.run s).mode).2

end Recode

end PomToGradle
