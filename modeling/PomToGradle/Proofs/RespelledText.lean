import Mathlib
import PomToGradle.Proofs.CharacterReferences
import PomToGradle.Proofs.TextPieces

/-!
Character data may be spelled in many ways. A character of a run of text stands for itself, or a
reference to it or a CDATA section of it stands in its place. Each of these is complete and adds the
character to the text in front of it, so all spellings of a document are the same document.
-/
namespace PomToGradle

/-- The ways to spell a character in character data. -/
inductive Spelling (c : Char) : List Char → Prop where
  | plain : Spelling c [c]
  | reference {name : List Char} (refers : RefersTo c name) : Spelling c ('&' :: (name ++ [';']))
  | cdata : Spelling c ("<![CDATA[".toList ++ [c] ++ "]]>".toList)

/-- The tokens with each character of a run of text spelled in some way, and all markup as it is. -/
inductive Respells : List Token → List Char → Prop where
  | nil : Respells [] []
  | run {run : List Char} {pieces : List (List Char)} {l : List Token} {w : List Char}
      (spelled : List.Forall₂ Spelling run pieces) (rest : Respells l w) :
      Respells (.text (Utf8.encodeChars run) :: l) (pieces.flatten ++ w)
  | markup {t : Token} {same : List Char} {l : List Token} {w : List Char}
      (flat : t.isRun = false) (kept : Utf8.encodeChars same = t.spell) (rest : Respells l w) :
      Respells (t :: l) (same ++ w)

theorem ofBytes_reference {name : List Char}
    (solid : ∀ d ∈ [';', '&', '<'], d ∉ name) :
    Lexed.ofBytes (Utf8.encodeChars ('&' :: (name ++ [';'])))
      = ⟨[.reference (Utf8.encodeChars name)], none⟩ := by
  have absent {d : Char} (small : d.toNat < 128) (member : d ∈ [';', '&', '<']) :
      ∀ b ∈ Utf8.encodeChars name, b ≠ ascii d := by
    rintro b inside rfl
    exact solid d member ((Utf8.ascii_mem_encodeChars small name).mp inside)
  have bytes : ∀ b ∈ Utf8.encodeChars name, b ≠ ascii ';' ∧ b ≠ ascii '&' ∧ b ≠ ascii '<' :=
    fun b inside => ⟨absent (by decide) (by simp) b inside, absent (by decide) (by simp) b inside,
      absent (by decide) (by simp) b inside⟩
  have spelled : Utf8.encodeChars ('&' :: (name ++ [';']))
      = ascii '&' :: (Utf8.encodeChars name ++ [ascii ';']) := by
    rw [Utf8.encodeChars_cons, Utf8.encodeChars_append]
    rfl
  rw [Lexed.ofBytes, spelled, Lexer.run_cons,
    show Lexer.start.step (ascii '&') = ⟨.reference [], []⟩ from rfl, Lexer.run_reference bytes]
  rfl

/-- A CDATA section of one character ends where it should, even if the character is of its end. -/
theorem run_cdata (c : Char) :
    (Lexer.mk (.cdata []) []).run (Utf8.encodeChars [c])
      = ⟨.cdata (Utf8.encodeChars [c]).reverse, []⟩ := by
  by_cases angle : c = '>'
  · rw [angle]
    rfl
  · have absorbed := Lexer.run_of_absorbs Mode.cdata (s := Utf8.encodeChars [c]) ?_ [] []
    · rwa [List.append_nil] at absorbed
    intro b member content
    have other : b ≠ ascii '>' := by
      rintro rfl
      have same := (Utf8.ascii_mem_encodeChars (by decide) [c]).mp member
      exact angle (List.mem_singleton.mp same).symm
    simp [Mode.step, other]

theorem ofBytes_cdata (c : Char) :
    Lexed.ofBytes (Utf8.encodeChars ("<![CDATA[".toList ++ [c] ++ "]]>".toList))
      = ⟨[.cdata (Utf8.encodeChars [c])], none⟩ := by
  have opens : Lexer.start.run (Utf8.encodeChars "<![CDATA[".toList) = ⟨.cdata [], []⟩ := by
    decide +kernel
  have closes (content : Bytes) :
      (Lexer.mk (.cdata content) []).run (Utf8.encodeChars "]]>".toList)
        = ⟨Mode.start, [.cdata content.reverse]⟩ := by rfl
  rw [ofBytes_enclosed opens (run_cdata c) (closes _), List.reverse_reverse]

/-- However a character is spelled, it is added to the text in front of it. -/
theorem acts_spelling {c : Char} (plain : IsPlainChar c) {w : List Char} (spelling : Spelling c w) :
    Acts w fun s => s.take (.text (String.ofList [c])) := by
  cases spelling with
  | plain =>
    have bytes : ∀ b ∈ Utf8.encodeChars [c], IsPlainByte b :=
      forall_isPlainByte_iff.mpr (by simpa using plain)
    have some : Utf8.encodeChars [c] ≠ [] := by
      simp [Utf8.encodeChars, String.utf8EncodeChar_ne_nil]
    have absent : ascii '&' ∉ Utf8.encodeChars [c] := fun inside => (bytes _ inside).2 rfl
    have acts := acts_token (Lexed.ofBytes_of_plain bytes some)
    simpa only [Token.effect?, Charset.readText?_of_plain .utf8 absent, decode?_encodeChars,
      Option.map_some, Option.bind_some] using acts
  | @reference name refers =>
    have acts := acts_token (ofBytes_reference fun d => not_mem_of_refersTo refers)
    have resolved := resolve_of_refersTo refers
    simpa only [Token.effect?, decode?_encodeChars, resolved, Except.toOption, Option.map_some,
      Option.bind_some, String.singleton_eq_ofList] using acts
  | cdata =>
    have acts := acts_token (ofBytes_cdata c)
    simpa only [Token.effect?, decode?_encodeChars, Option.map_some, Option.bind_some] using acts

theorem replaces_spelling {c : Char} (plain : IsPlainChar c) {w : List Char}
    (spelling : Spelling c w) : Replaces [c] w := by
  refine ⟨⟨_, acts_spelling plain .plain, acts_spelling plain spelling⟩, ?_⟩
  cases spelling with
  | plain => exact Or.inl rfl
  | reference refers => exact Or.inr ⟨'&', rfl, fun plain => plain.2 rfl⟩
  | cdata => exact Or.inr ⟨'<', rfl, fun plain => plain.1 rfl⟩

theorem replaces_of_respells {l : List Token} {w : List Char} (respells : Respells l w)
    (settled : ∀ t ∈ l, t.Settled) {v : List Char} (spelled : Utf8.encodeChars v = Token.spellAll l) :
    Replaces v w := by
  induction respells generalizing v with
  | nil =>
    obtain rfl : v = [] := Utf8.encodeChars_injective spelled
    exact replaces_refl rfl
  | @run run pieces l w pieces' rest ih =>
    have plain := forall_isPlainByte_iff.mp ((settled _ List.mem_cons_self).run rfl)
    have characters := replaces_characters pieces' fun c member _ => replaces_spelling (plain c member)
    exact replaces_token spelled rfl characters
      fun _ behind => ih (fun t member => settled t (List.mem_cons_of_mem _ member)) behind
  | @markup t same l w flat kept rest ih =>
    have complete := complete_of_settled (settled t List.mem_cons_self) flat kept
    exact replaces_token spelled kept (replaces_refl complete)
      fun _ behind => ih (fun u member => settled u (List.mem_cons_of_mem _ member)) behind

namespace Document

/-- The same text in front, which is not part of the document, and then another spelling of it. -/
def Respelled (s s' : String) : Prop :=
  ∃ marks w, s.toList = marks ++ input s ∧ s'.toList = marks ++ w ∧ Respells (lexed s).tokens w

theorem parse_of_respelled {s s' : String} {d : Document} (respelled : Respelled s s')
    (read : parse s = .ok d) : parse s' = .ok d := by
  obtain ⟨marks, w, whole, whole', respells⟩ := respelled
  have spelled := spellAll_lexed (parse_eq_ok_iff.mp read).1
  have replaces := replaces_of_respells respells (settled_lexed s) spelled
  exact parse_of_replaces whole whole' replaces read

/-- The spelling of character data does not matter: any number of characters in runs of text, each
    spelled in another way, leave the same document, and the same is extracted from it and written. -/
theorem parse_respelled {s s' : String} {d : Document} (respelled : Respelled s s')
    (read : parse s = .ok d) : parse s' = .ok d ∧ (Source.text s').Agree (.text s) := by
  have again := parse_of_respelled respelled read
  exact ⟨again, Source.agree_of_parse (again.trans read.symm)⟩

/-- A mark in front, a character that also ends tags, and one outside ASCII. -/
theorem parse_respelled_run :
    Respelled "\uFEFF<a k='x'>x>é</a>" "\uFEFF<a k='x'>&#0120;<![CDATA[>]]>&#xE9;</a>" ∧
      parse "\uFEFF<a k='x'>x>é</a>" = .ok ⟨.element "a" (.text "x>é" .nil) .nil⟩ ∧
      parse "\uFEFF<a k='x'>&#0120;<![CDATA[>]]>&#xE9;</a>"
        = .ok ⟨.element "a" (.text "x>é" .nil) .nil⟩ := by
  have pieces : List.Forall₂ Spelling "x>é".toList
      ["&#0120;".toList, "<![CDATA[>]]>".toList, "&#xE9;".toList] :=
    .cons (.reference (.decimal 1)) (.cons .cdata (.cons
      (.reference (.hexadecimal 0 (by decide : ['E', '9'].map Char.toLower = _))) .nil))
  have tokens : (lexed "\uFEFF<a k='x'>x>é</a>").tokens =
      [.startTag (Utf8.encode "a k='x'"), .text (Utf8.encodeChars "x>é".toList),
        .endTag (Utf8.encode "a")] := by
    decide +kernel
  have respells : Respells (lexed "\uFEFF<a k='x'>x>é</a>").tokens
      ("<a k='x'>".toList ++ (["&#0120;".toList, "<![CDATA[>]]>".toList, "&#xE9;".toList].flatten
        ++ ("</a>".toList ++ []))) := by
    rw [tokens]
    exact .markup rfl (by decide +kernel) (.run pieces (.markup rfl (by decide +kernel) .nil))
  have respelled : Respelled "\uFEFF<a k='x'>x>é</a>"
      "\uFEFF<a k='x'>&#0120;<![CDATA[>]]>&#xE9;</a>" :=
    ⟨['\uFEFF'], _, by decide +kernel, by decide +kernel, respells⟩
  have read : parse "\uFEFF<a k='x'>x>é</a>" = .ok ⟨.element "a" (.text "x>é" .nil) .nil⟩ := by
    cbv
  exact ⟨respelled, read, (parse_respelled respelled read).1⟩

end Document

end PomToGradle
