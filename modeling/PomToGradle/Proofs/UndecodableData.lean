import Mathlib
import PomToGradle.Proofs.StrictReading
import PomToGradle.Proofs.TokenEffects
import PomToGradle.Proofs.TokenRecurrence

/-!
Character data that cannot be read is never taken for a text. Where nothing announces another
encoding, a document with ill-formed UTF-8 in a run of text, in a CDATA section or in a reference is
refused, and no character is put into the text of a document in place of such bytes. What is no
character data is passed over unread.
-/
namespace PomToGradle

/-- A token that adds character data to the tree. -/
def Token.isData : Token → Bool
  | .text _ | .cdata _ | .reference _ => true
  | _ => false

theorem Token.isText_of_effect? {t : Token} {e : Effect} (data : t.isData = true)
    (read : t.effect? .utf8 = some e) : t.IsText := by
  cases t with
  | text run =>
    obtain ⟨content, unescaped, -⟩ := Option.map_eq_some_iff.mp read
    obtain ⟨raw, decoded, -⟩ := Option.bind_eq_some_iff.mp unescaped
    exact Utf8.isText_iff.mpr ⟨raw, decoded⟩
  | cdata content =>
    obtain ⟨text, decoded, -⟩ := Option.map_eq_some_iff.mp read
    exact Utf8.isText_iff.mpr ⟨text, decoded⟩
  | reference name =>
    obtain ⟨shown, decoded, -⟩ := Option.bind_eq_some_iff.mp read
    exact Utf8.isText_iff.mpr ⟨shown, decoded⟩
  | _ => contradiction

namespace Site

/-- The only characters that a token adds are those of its text. -/
theorem character_of_take {s s' : Site} {e : Effect} (done : s.take e = some s') {c : Char}
    (member : .character c ∈ s'.walked) :
    .character c ∈ s.walked ∨ ∃ content, e = .text content ∧ c ∈ content.toList := by
  rw [walked_of_take done] at member
  rcases List.mem_append.mp member with before | new
  · exact Or.inl before
  · cases e with
    | text content =>
      obtain ⟨d, inside, same⟩ := List.mem_map.mp new
      obtain rfl := Mark.character.inj same
      exact Or.inr ⟨content, rfl, inside⟩
    | _ => simp [Effect.marks] at new

theorem character_of_read {charset : Charset} {s s' : Site} {l : List Token}
    (done : s.read charset l = some s') {c : Char} (member : .character c ∈ s'.walked) :
    .character c ∈ s.walked ∨
      ∃ t ∈ l, ∃ content, t.effect? charset = some (.text content) ∧ c ∈ content.toList := by
  induction l generalizing s with
  | nil =>
    obtain rfl := Option.some.inj done
    exact Or.inl member
  | cons t l ih =>
    rw [read_cons] at done
    obtain ⟨next, first, rest⟩ := Option.bind_eq_some_iff.mp done
    obtain ⟨e, read, taken⟩ := Option.bind_eq_some_iff.mp first
    rcases ih rest with before | ⟨u, inside, content, read', shown⟩
    · rcases character_of_take taken before with earlier | ⟨content, rfl, shown⟩
      · exact Or.inl earlier
      · exact Or.inr ⟨t, List.mem_cons_self, content, read, shown⟩
    · exact Or.inr ⟨u, List.mem_cons_of_mem t inside, content, read', shown⟩

end Site

theorem Utf8.infix_encode {c : Char} {content : String} (member : c ∈ content.toList) :
    String.utf8EncodeChar c <:+: encode content := by
  obtain ⟨before, after, whole⟩ := List.append_of_mem member
  exact ⟨encodeChars before, encodeChars after, by
    rw [encode, whole, encodeChars_append, encodeChars_cons, List.append_assoc]⟩

/-- A character that a token adds stands in it, or the token refers to it. -/
theorem Token.infix_content_of_effect? {t : Token} {content : String} {c : Char}
    (plain : t.isRun = true → ascii '&' ∉ t.content)
    (read : t.effect? .utf8 = some (.text content)) (member : c ∈ content.toList) :
    String.utf8EncodeChar c <:+: t.content ∨
      ∃ name, t = .reference (Utf8.encode name) ∧ Assembly.resolve name = .ok content := by
  cases t with
  | text run =>
    obtain ⟨text, decoded, same⟩ := Option.map_eq_some_iff.mp read
    obtain rfl := Effect.text.inj same
    have absent : ascii '&' ∉ run := plain rfl
    rw [Charset.readText?_of_plain .utf8 absent] at decoded
    exact Or.inl (Utf8.encode_of_decode? decoded ▸ Utf8.infix_encode member)
  | cdata source =>
    obtain ⟨text, decoded, same⟩ := Option.map_eq_some_iff.mp read
    obtain rfl := Effect.text.inj same
    exact Or.inl (Utf8.encode_of_decode? decoded ▸ Utf8.infix_encode member)
  | reference name =>
    obtain ⟨shown, decoded, rest⟩ := Option.bind_eq_some_iff.mp read
    obtain ⟨text, resolved, same⟩ := Option.map_eq_some_iff.mp rest
    obtain rfl := Effect.text.inj same
    refine Or.inr ⟨shown, ?_, toOption_eq_some_iff.mp resolved⟩
    rw [Utf8.encode_of_decode? decoded]
  | _ => exact absurd (Option.some.inj read) (by simp)

theorem Token.content_infix_spell (t : Token) : t.content <:+: t.spell :=
  ⟨t.opening, t.closing, t.spell_eq.symm⟩

theorem Token.infix_spellAll {t : Token} {l : List Token} (member : t ∈ l) :
    t.spell <:+: spellAll l := by
  obtain ⟨before, after, rfl⟩ := List.append_of_mem member
  exact ⟨spellAll before, spellAll after, by simp [spellAll]⟩

theorem Utf8.isText_append {s t : Bytes} (left : IsText s) (right : IsText t) : IsText (s ++ t) := by
  obtain ⟨l, rfl⟩ := left
  obtain ⟨r, rfl⟩ := right
  exact ⟨l ++ r, encodeChars_append l r⟩

theorem Utf8.isText_of_isAscii {s : Bytes} (small : ∀ b ∈ s, IsAscii b) : IsText s := by
  induction s with
  | nil => exact ⟨[], rfl⟩
  | cons b s ih =>
    obtain ⟨first, others⟩ := List.forall_mem_cons.mp small
    have letter : IsText [b] := ⟨[Char.ofNat b.toNat], by
      rw [encodeChars_cons, utf8EncodeChar_ofNat first]
      rfl⟩
    exact isText_append letter (ih others)

theorem Token.isAscii_closing (t : Token) : ∀ b ∈ t.closing, Utf8.IsAscii b := by
  cases t <;> simp only [closing] <;> decide +kernel

theorem Token.isText_spellAll {l : List Token} (texts : ∀ t ∈ l, t.IsText) :
    Utf8.IsText (spellAll l) := by
  induction l with
  | nil => exact ⟨[], rfl⟩
  | cons t l ih =>
    have first : Utf8.IsText t.spell := by
      rw [spell_eq]
      exact Utf8.isText_append
        (Utf8.isText_append (Utf8.isText_of_isAscii t.isAscii_opening) (texts t List.mem_cons_self))
        (Utf8.isText_of_isAscii t.isAscii_closing)
    exact Utf8.isText_append first (ih fun u inside => texts u (List.mem_cons_of_mem t inside))

namespace Document

/-- The ways in which a byte string can announce that it is UTF-16. -/
def utf16Signatures : List Bytes :=
  [bigEndianMark, littleEndianMark, bigEndianDeclaration, littleEndianDeclaration]

/-- Nothing in the bytes announces an encoding other than UTF-8. -/
structure Unlabelled (s : Bytes) : Prop where
  unsigned : ∀ signature ∈ utf16Signatures, ¬ signature <+: dropUtf8Mark s
  undeclared : ∀ t ∈ (lexedBytes s).tokens, ∀ charset, t.declared? = some charset → charset = .utf8

theorem ofSignature_of_unsigned {s : Bytes}
    (unsigned : ∀ signature ∈ utf16Signatures, ¬ signature <+: s) :
    Charset.ofSignature s = (.utf8, dropUtf8Mark s) := by
  have absent {signature : Bytes} (member : signature ∈ utf16Signatures) :
      signature.isPrefixOf s = false := by
    rw [Bool.eq_false_iff]
    exact mt List.isPrefixOf_iff_prefix.mp (unsigned signature member)
  have marked := absent (show bigEndianMark ∈ utf16Signatures by simp [utf16Signatures])
  have marked' := absent (show littleEndianMark ∈ utf16Signatures by simp [utf16Signatures])
  have declared := absent (show bigEndianDeclaration ∈ utf16Signatures by simp [utf16Signatures])
  have declared' := absent (show littleEndianDeclaration ∈ utf16Signatures by simp [utf16Signatures])
  simp [Charset.ofSignature, marked, marked', declared, declared']

theorem dropUtf8Mark_cases (s : Bytes) : dropUtf8Mark s = s ∨ s = utf8Mark ++ dropUtf8Mark s := by
  unfold dropUtf8Mark
  split
  next marked =>
    obtain ⟨rest, rfl⟩ := List.isPrefixOf_iff_prefix.mp marked
    exact Or.inr (by rw [List.drop_left])
  next => exact Or.inl rfl

theorem dropUtf8Mark_suffix (s : Bytes) : dropUtf8Mark s <:+ s := by
  rcases dropUtf8Mark_cases s with same | marked
  · rw [same]
  · exact ⟨utf8Mark, marked.symm⟩

theorem isText_of_dropUtf8Mark {s : Bytes} (text : Utf8.IsText (dropUtf8Mark s)) :
    Utf8.IsText s := by
  rcases dropUtf8Mark_cases s with same | marked
  · rwa [same] at text
  · rw [marked]
    exact Utf8.isText_append ⟨['\uFEFF'], by decide⟩ text

/-- The document and nothing else: bytes in the encoding that is taken for granted. -/
theorem lexedBytes_of_unlabelled {s : Bytes} (unlabelled : Unlabelled s) :
    lexedBytes s = Lexed.ofBytes (dropUtf8Mark (dropUtf8Mark s)) := by
  rw [lexedBytes, ofSignature_of_unsigned unlabelled.unsigned]

theorem exists_read_of_parseBytes {s : Bytes} (unlabelled : Unlabelled s) {d : Document}
    (read : parseBytes s = .ok d) :
    Token.spellAll (lexedBytes s).tokens = dropUtf8Mark (dropUtf8Mark s) ∧
      ∃ final, Site.top.read .utf8 (lexedBytes s).tokens = some final ∧
        final.walked = d.children.walk := by
  have signed : (Charset.ofSignature (dropUtf8Mark s)).1 = .utf8 := by
    rw [ofSignature_of_unsigned unlabelled.unsigned]
  have done := toOption_parseBytes signed unlabelled.undeclared
  rw [toOption_eq_some_iff.mpr read, Lexed.document?] at done
  split at done
  next => contradiction
  next complete =>
    obtain ⟨final, ran, closed⟩ := Option.bind_eq_some_iff.mp done.symm
    refine ⟨?_, final, ran, ?_⟩
    · rw [lexedBytes_of_unlabelled unlabelled] at complete ⊢
      exact Lexed.spellAll_tokens complete
    · unfold Site.document? at closed
      split at closed
      next none =>
        obtain rfl := Option.some.inj closed
        rw [Site.walked, none]
        rfl
      next => contradiction

/-- No source of these bytes gives a document, and each reports the error. -/
def Refused (s : Bytes) (e : ParseError) : Prop :=
  ∀ source : Source, source.Carries s → source.load = ⟨[], .error (.malformed e)⟩ ∧
    ∀ dialect, source.convert dialect = ⟨[], .error (.pom (.malformed e))⟩

theorem refused_of_parseBytes {s : Bytes} {e : ParseError} (failed : parseBytes s = .error e) :
    Refused s e := by
  intro source carries
  have loaded : source.load = ⟨[], .error (.malformed e)⟩ := by
    rw [Source.load_of_carries carries, loadBytes, ofBytes_ok, failed]
    rfl
  refine ⟨loaded, fun dialect => ?_⟩
  rw [Source.convert_of_carries carries, loaded]
  rfl

/-- Bytes are refused if they are no document. -/
theorem exists_refused {s : Bytes} (none : ∀ d, parseBytes s ≠ .ok d) : ∃ e, Refused s e := by
  cases read : parseBytes s with
  | ok d => exact absurd read (none d)
  | error e => exact ⟨e, refused_of_parseBytes read⟩

theorem isText_of_parseBytes {s : Bytes} (unlabelled : Unlabelled s) {d : Document}
    (read : parseBytes s = .ok d) {t : Token} (member : t ∈ (lexedBytes s).tokens)
    (data : t.isData = true) : t.IsText := by
  obtain ⟨-, final, ran, -⟩ := exists_read_of_parseBytes unlabelled read
  obtain ⟨e, effect⟩ := Site.exists_effect_of_read ran member
  exact Token.isText_of_effect? data effect

/-- Ill-formed UTF-8 in character data is refused, whatever the source. So is a document that is no
    UTF-8 although its tags, comments, instructions and document types are. A character of the text of
    a document stands in the bytes, or a reference to it does. -/
theorem refused_of_undecodable {s : Bytes} (unlabelled : Unlabelled s) :
    ((∃ t ∈ (lexedBytes s).tokens, t.isData = true ∧ ¬ t.IsText) → ∃ e, Refused s e) ∧
    (¬ Utf8.IsText s → (∀ t ∈ (lexedBytes s).tokens, t.isData = false → t.IsText) →
      ∃ e, Refused s e) ∧
    ∀ d, parseBytes s = .ok d → ∀ c, .character c ∈ d.children.walk →
      String.utf8EncodeChar c <:+: s ∨
        ∃ name content, .reference (Utf8.encode name) ∈ (lexedBytes s).tokens ∧
          Assembly.resolve name = .ok content ∧ c ∈ content.toList := by
  refine ⟨?_, ?_, ?_⟩
  · rintro ⟨t, member, data, ill⟩
    exact exists_refused fun d read => ill (isText_of_parseBytes unlabelled read member data)
  · intro ill others
    refine exists_refused fun d read => ill ?_
    have texts : ∀ t ∈ (lexedBytes s).tokens, t.IsText := by
      intro t member
      cases data : t.isData with
      | true => exact isText_of_parseBytes unlabelled read member data
      | false => exact others t member data
    have whole := Token.isText_spellAll texts
    rw [(exists_read_of_parseBytes unlabelled read).1] at whole
    exact isText_of_dropUtf8Mark (isText_of_dropUtf8Mark whole)
  · intro d read c member
    obtain ⟨spelled, final, ran, walked⟩ := exists_read_of_parseBytes unlabelled read
    rw [← walked] at member
    rcases Site.character_of_read ran member with none | ⟨t, inside, content, effect, shown⟩
    · exact absurd none (by simp [Site.walked, Site.top, Assembly.descent, Forest.reverse,
        Forest.reverseOnto, Forest.walk])
    · have plain := Lexed.plain_of_mem inside
      rcases Token.infix_content_of_effect? plain effect shown with stands | ⟨name, rfl, resolved⟩
      · have part := t.content_infix_spell.trans (Token.infix_spellAll inside)
        rw [spelled] at part
        have kept := (dropUtf8Mark_suffix (dropUtf8Mark s)).trans (dropUtf8Mark_suffix s)
        exact Or.inl (stands.trans (part.trans kept.isInfix))
      · exact Or.inr ⟨name, content, inside, resolved, shown⟩

theorem not_isText_of_decode? {s : Bytes} (ill : Utf8.decode? s = none) : ¬ Utf8.IsText s := by
  rw [Utf8.isText_iff, ill]
  simp

theorem refused_of_undecodable_run :
    Unlabelled (Bytes.ofAscii "<a>x" ++ 0xFF :: Bytes.ofAscii "</a>") ∧
      ∃ e, Refused (Bytes.ofAscii "<a>x" ++ 0xFF :: Bytes.ofAscii "</a>") e := by
  have tokens : (lexedBytes (Bytes.ofAscii "<a>x" ++ 0xFF :: Bytes.ofAscii "</a>")).tokens
      = [.startTag (Bytes.ofAscii "a"), .text [ascii 'x', 0xFF], .endTag (Bytes.ofAscii "a")] := by
    decide +kernel
  have unlabelled : Unlabelled (Bytes.ofAscii "<a>x" ++ 0xFF :: Bytes.ofAscii "</a>") := by
    refine ⟨by decide, ?_⟩
    rw [tokens]
    simp [Token.declared?]
  have ill : ¬ Utf8.IsText [ascii 'x', 0xFF] := not_isText_of_decode? (by decide +kernel)
  exact ⟨unlabelled,
    (refused_of_undecodable unlabelled).1 ⟨.text [ascii 'x', 0xFF], by simp [tokens], rfl, ill⟩⟩

/-- Bytes that are no UTF-8 in a comment, in an attribute and in a name. -/
def illFormedMarkup : List Bytes :=
  [Bytes.ofAscii "<!--" ++ 0xFF :: Bytes.ofAscii "-->",
    Bytes.ofAscii "<a b='" ++ 0xFF :: Bytes.ofAscii "'/>",
    Bytes.ofAscii "<" ++ 0xFF :: Bytes.ofAscii "/>"]

/-- Markup is not refused for its bytes, and the text of a name is not always in the document. -/
theorem parseBytes_illFormedMarkup :
    (∀ s ∈ illFormedMarkup, Unlabelled s ∧ ¬ Utf8.IsText s) ∧
      illFormedMarkup.map parseBytes
        = [.ok ⟨.nil⟩, .ok ⟨.element "a" .nil .nil⟩, .ok ⟨.element "\uFFFD" .nil .nil⟩] := by
  refine ⟨?_, by cbv⟩
  have ill : ∀ s ∈ illFormedMarkup, Utf8.decode? s = none := by decide +kernel
  have unsigned : ∀ s ∈ illFormedMarkup, ∀ signature ∈ utf16Signatures,
      ¬ signature <+: dropUtf8Mark s := by
    decide +kernel
  have undeclared : ∀ s ∈ illFormedMarkup, ∀ t ∈ (lexedBytes s).tokens, t.declared? = none := by
    decide +kernel
  intro s member
  refine ⟨⟨unsigned s member, ?_⟩, not_isText_of_decode? (ill s member)⟩
  intro t inside charset declared
  rw [undeclared s member t inside] at declared
  contradiction

end Document

end PomToGradle
