import Mathlib
import PomToGradle.Proofs.TextPieces

/-!
Comments and processing instructions leave no trace. Each is a piece of the text that is complete and
does nothing, wherever content may stand: between two tokens, at an end of the document, or between
two characters of a run of text. So any number of them may be put into a text or taken out of it.
-/
namespace PomToGradle

/-- A comment without its end inside, or an instruction without its end inside that does not begin
    with `>`: with a letter, say. -/
inductive Remark : List Char → Prop where
  | comment {content : List Char} (unclosed : ¬ "-->".toList <:+: content) :
      Remark ("<!--".toList ++ content ++ "-->".toList)
  | instruction {content : List Char} (begins : content.head? ≠ some '>')
      (unclosed : ¬ "?>".toList <:+: content) : Remark ("<?".toList ++ content ++ "?>".toList)

/-- A character with any number of remarks in front of it. -/
inductive Remarked (c : Char) : List Char → Prop where
  | plain : Remarked c [c]
  | remark {r w : List Char} (remark : Remark r) (later : Remarked c w) : Remarked c (r ++ w)

/-- The tokens with remarks in front of any of them, at the end, and within runs of text. -/
inductive Annotates : List Token → List Char → Prop where
  | nil : Annotates [] []
  | remark {r : List Char} {l : List Token} {w : List Char} (remark : Remark r)
      (rest : Annotates l w) : Annotates l (r ++ w)
  | run {run : List Char} {pieces : List (List Char)} {l : List Token} {w : List Char}
      (remarked : List.Forall₂ Remarked run pieces) (rest : Annotates l w) :
      Annotates (.text (Utf8.encodeChars run) :: l) (pieces.flatten ++ w)
  | markup {t : Token} {same : List Char} {l : List Token} {w : List Char}
      (flat : t.isRun = false) (kept : Utf8.encodeChars same = t.spell) (rest : Annotates l w) :
      Annotates (t :: l) (same ++ w)

namespace Lexer

/-- A comment takes in all that does not end it. -/
theorem run_comment {content s : Bytes} (unclosed : ¬ Bytes.ofAscii "-->" <:+: content.reverse ++ s)
    (tokens : List Token) :
    (Lexer.mk (.comment content) tokens).run s = ⟨.comment (s.reverse ++ content), tokens⟩ := by
  induction s generalizing content with
  | nil => rfl
  | cons b s ih =>
    have taken : (Lexer.mk (.comment content) tokens).step b = ⟨.comment (b :: content), tokens⟩ := by
      have other : ¬ (b = ascii '>' ∧ content.take 2 = Bytes.ofAscii "--") := by
        rintro ⟨rfl, dashes⟩
        have whole := Mode.reverse_drop_append dashes
        refine unclosed ⟨(content.drop 2).reverse, s, ?_⟩
        rw [← whole]
        simp [Bytes.ofAscii]
      simp [step, Mode.step, other]
    have later : ¬ Bytes.ofAscii "-->" <:+: (b :: content).reverse ++ s := by simpa using unclosed
    rw [run_cons, taken, ih later]
    simp

/-- An instruction takes in all that does not end it; its end may begin with the mark that the
    instruction begins with. -/
theorem run_instruction {content s : Bytes}
    (unclosed : ¬ Bytes.ofAscii "?>" <:+: ascii '?' :: (content.reverse ++ s)) (tokens : List Token) :
    (Lexer.mk (.instruction content) tokens).run s
      = ⟨.instruction (s.reverse ++ content), tokens⟩ := by
  induction s generalizing content with
  | nil => rfl
  | cons b s ih =>
    have taken : (Lexer.mk (.instruction content) tokens).step b
        = ⟨.instruction (b :: content), tokens⟩ := by
      have more : ¬ (b = ascii '>' ∧ content = []) := by
        rintro ⟨rfl, rfl⟩
        exact unclosed ⟨[], s, rfl⟩
      have other : ¬ (b = ascii '>' ∧ content.head? = some (ascii '?')) := by
        rintro ⟨rfl, mark⟩
        obtain ⟨rest, rfl⟩ := List.head?_eq_some_iff.mp mark
        exact unclosed ⟨ascii '?' :: rest.reverse, s, by simp [Bytes.ofAscii]⟩
      simp only [step, Mode.step, if_neg more, if_neg other]
      rfl
    have later : ¬ Bytes.ofAscii "?>" <:+: ascii '?' :: ((b :: content).reverse ++ s) := by
      simpa using unclosed
    rw [run_cons, taken, ih later]
    simp

end Lexer

theorem ofBytes_comment {content : List Char} (unclosed : ¬ "-->".toList <:+: content) :
    Lexed.ofBytes (Utf8.encodeChars ("<!--".toList ++ content ++ "-->".toList))
      = ⟨[.comment (Utf8.encodeChars content)], none⟩ := by
  have opens : Lexer.start.run (Utf8.encodeChars "<!--".toList) = ⟨.comment [], []⟩ := by
    decide +kernel
  have fills : (Lexer.mk (.comment []) []).run (Utf8.encodeChars content)
      = ⟨.comment ((Utf8.encodeChars content).reverse ++ []), []⟩ := by
    apply Lexer.run_comment
    exact mt (Utf8.infix_of_encodeChars (c := '-') (p := ['-', '>']) (by decide)) unclosed
  have closes (content : Bytes) :
      (Lexer.mk (.comment content) []).run (Utf8.encodeChars "-->".toList)
        = ⟨Mode.start, [.comment content.reverse]⟩ := by rfl
  rw [ofBytes_enclosed opens fills (closes _), List.append_nil, List.reverse_reverse]

theorem ofBytes_instruction {content : List Char} (unclosed : ¬ "?>".toList <:+: '?' :: content) :
    Lexed.ofBytes (Utf8.encodeChars ("<?".toList ++ content ++ "?>".toList))
      = ⟨[.instruction (Utf8.encodeChars content)], none⟩ := by
  have opens : Lexer.start.run (Utf8.encodeChars "<?".toList) = ⟨.instruction [], []⟩ := by
    decide +kernel
  have fills : (Lexer.mk (.instruction []) []).run (Utf8.encodeChars content)
      = ⟨.instruction ((Utf8.encodeChars content).reverse ++ []), []⟩ := by
    apply Lexer.run_instruction
    intro closed
    refine unclosed (Utf8.infix_of_encodeChars (by decide) ?_)
    rwa [Utf8.encodeChars_cons]
  have closes (content : Bytes) :
      (Lexer.mk (.instruction content) []).run (Utf8.encodeChars "?>".toList)
        = ⟨Mode.start, [.instruction content.reverse]⟩ := by rfl
  rw [ofBytes_enclosed opens fills (closes _), List.append_nil, List.reverse_reverse]

theorem not_closed_of_begins {content : List Char} (begins : content.head? ≠ some '>')
    (unclosed : ¬ "?>".toList <:+: content) : ¬ "?>".toList <:+: '?' :: content := by
  rw [List.infix_cons_iff]
  rintro (⟨rest, whole⟩ | inside)
  · obtain rfl : '>' :: rest = content := (List.cons.inj whole).2
    exact begins rfl
  · exact unclosed inside

/-- A remark may stand where nothing stood. -/
theorem replaces_nothing {r : List Char} (remark : Remark r) : Replaces [] r := by
  have delimiter : ¬ IsPlainChar '<' := fun plain => plain.1 rfl
  cases remark with
  | comment unclosed =>
    exact ⟨⟨some, acts_nil, acts_token (ofBytes_comment unclosed)⟩, Or.inr ⟨'<', rfl, delimiter⟩⟩
  | instruction begins unclosed =>
    have token := ofBytes_instruction (not_closed_of_begins begins unclosed)
    exact ⟨⟨some, acts_nil, acts_token token⟩, Or.inr ⟨'<', rfl, delimiter⟩⟩

theorem replaces_remarked {c : Char} (plain : IsPlainChar c) {w : List Char}
    (remarked : Remarked c w) : Replaces [c] w := by
  induction remarked with
  | plain => exact replaces_refl (complete_of_plain (by simpa using plain))
  | remark remark _ ih => exact replaces_append (replaces_nothing remark) ih

theorem replaces_of_annotates {l : List Token} {w : List Char} (annotates : Annotates l w)
    (settled : ∀ t ∈ l, t.Settled) {v : List Char} (spelled : Utf8.encodeChars v = Token.spellAll l) :
    Replaces v w := by
  induction annotates generalizing v with
  | nil =>
    obtain rfl : v = [] := Utf8.encodeChars_injective spelled
    exact replaces_refl rfl
  | remark remark _ ih => exact replaces_append (replaces_nothing remark) (ih settled spelled)
  | @run run pieces l w remarked _ ih =>
    have plain := forall_isPlainByte_iff.mp ((settled _ List.mem_cons_self).run rfl)
    have characters := replaces_characters remarked fun c member _ => replaces_remarked (plain c member)
    exact replaces_token spelled rfl characters
      fun _ behind => ih (fun t member => settled t (List.mem_cons_of_mem _ member)) behind
  | @markup t same l w flat kept _ ih =>
    have complete := complete_of_settled (settled t List.mem_cons_self) flat kept
    exact replaces_token spelled kept (replaces_refl complete)
      fun _ behind => ih (fun u member => settled u (List.mem_cons_of_mem _ member)) behind

namespace Document

/-- The same text in front, which is not part of the document, and then the text with remarks. -/
def Annotated (s s' : String) : Prop :=
  ∃ marks w, s.toList = marks ++ input s ∧ s'.toList = marks ++ w ∧ Annotates (lexed s).tokens w

/-- Comments and instructions do not matter: with any number of them wherever content may stand, a
    text is the same document as without them, and the same is extracted from it and written. -/
theorem parse_annotated {s s' : String} {d : Document} (annotated : Annotated s s')
    (read : parse s = .ok d) : parse s' = .ok d ∧ (Source.text s').Agree (.text s) := by
  obtain ⟨marks, w, whole, whole', annotates⟩ := annotated
  have spelled := spellAll_lexed (parse_eq_ok_iff.mp read).1
  have replaces := replaces_of_annotates annotates (settled_lexed s) spelled
  have again := parse_of_replaces whole whole' replaces read
  exact ⟨again, Source.agree_of_parse (again.trans read.symm)⟩

/-- A comment in the middle of a value, with a tag and the beginning of its end inside, the shortest
    one at the end of the text, and an instruction at its beginning. -/
theorem parse_annotated_value :
    Annotated "<groupId>ab</groupId>" "<?x y?><groupId>a<!-- <b> -- --->b</groupId><!---->" ∧
      parse "<groupId>ab</groupId>" = .ok ⟨.element "groupId" (.text "ab" .nil) .nil⟩ ∧
      parse "<?x y?><groupId>a<!-- <b> -- --->b</groupId><!---->"
        = .ok ⟨.element "groupId" (.text "ab" .nil) .nil⟩ := by
  have instruction : Remark "<?x y?>".toList :=
    @Remark.instruction "x y".toList (by decide) (by decide)
  have comment : Remark "<!-- <b> -- --->".toList :=
    @Remark.comment " <b> -- -".toList (by decide)
  have shortest : Remark "<!---->".toList := @Remark.comment [] (by decide)
  have pieces : List.Forall₂ Remarked "ab".toList ["a".toList, "<!-- <b> -- --->b".toList] :=
    .cons .plain (.cons (.remark comment .plain) .nil)
  have tokens : (lexed "<groupId>ab</groupId>").tokens =
      [.startTag (Utf8.encode "groupId"), .text (Utf8.encodeChars "ab".toList),
        .endTag (Utf8.encode "groupId")] := by
    decide +kernel
  have annotates : Annotates (lexed "<groupId>ab</groupId>").tokens
      ("<?x y?>".toList ++ ("<groupId>".toList ++
        (["a".toList, "<!-- <b> -- --->b".toList].flatten ++
          ("</groupId>".toList ++ ("<!---->".toList ++ []))))) := by
    rw [tokens]
    exact .remark instruction (.markup rfl (by decide +kernel)
      (.run pieces (.markup rfl (by decide +kernel) (.remark shortest .nil))))
  have annotated : Annotated "<groupId>ab</groupId>"
      "<?x y?><groupId>a<!-- <b> -- --->b</groupId><!---->" :=
    ⟨[], _, by decide +kernel, by decide +kernel, annotates⟩
  have read : parse "<groupId>ab</groupId>"
      = .ok ⟨.element "groupId" (.text "ab" .nil) .nil⟩ := by
    cbv
  exact ⟨annotated, read, (parse_annotated annotated read).1⟩

end Document

end PomToGradle
