import Mathlib
import PomToGradle.Proofs.RecodedTokens
import PomToGradle.Proofs.StrictReading
import PomToGradle.Proofs.TokenEffects

/-!
A declared single-byte encoding is honoured. Reading a byte in such an encoding and writing the
character in UTF-8 keeps ASCII and takes nothing else into it, so a document in that encoding and the
text that it spells are cut in the same places, and each token is read as the same text.
-/
namespace PomToGradle

/-- The full name in a tag. -/
def Token.name? : Token → Option Bytes
  | .startTag content | .emptyTag content => some (tagName content)
  | .endTag content => some (endTagName content)
  | _ => none

def Token.IsAsciiNamed (t : Token) : Prop := ∀ name ∈ t.name?, ∀ b ∈ name, Utf8.IsAscii b

instance : DecidablePred Token.IsAsciiNamed := fun t =>
  inferInstanceAs (Decidable (∀ name ∈ t.name?, ∀ b ∈ name, Utf8.IsAscii b))

namespace SingleByte

theorem char?_of_ascii (page : Page) {b : UInt8} (small : Utf8.IsAscii b) :
    page.char? b = some (Char.ofNat b.toNat) := if_pos small

/-- No page gives an ASCII character to a byte outside ASCII. -/
theorem le_toNat_of_char? {page : Page} {b : UInt8} (large : ¬ Utf8.IsAscii b) {c : Char}
    (given : page.char? b = some c) : 128 ≤ c.toNat := by
  rw [Page.char?, if_neg (show ¬ b.toNat < 0x80 from large)] at given
  obtain ⟨f, -, rfl⟩ := Option.map_eq_some_iff.mp given
  exact f.outside

/-- The UTF-8 of the character that a byte stands for. A byte that stands for none is replaced by one
    that UTF-8 never has. -/
def Page.code (page : Page) (b : UInt8) : Bytes :=
  match page.char? b with
  | some c => String.utf8EncodeChar c
  | none => [0xFF]

def Page.recoding (page : Page) : Recoding where
  code := page.code
  code_ascii b small := by
    rw [code, char?_of_ascii page small]
    exact Utf8.utf8EncodeChar_ofNat small
  code_ne_nil b := by
    unfold code
    split
    · exact String.utf8EncodeChar_ne_nil
    · simp
  foreign b large x inside := by
    unfold code at inside
    split at inside
    next c given => exact Utf8.not_isAscii_of_mem_utf8EncodeChar (le_toNat_of_char? large given) inside
    next =>
      obtain rfl := List.mem_singleton.mp inside
      decide

theorem bytes_recoding {page : Page} {s : Bytes} {l : List Char} (read : s.mapM page.char? = some l) :
    page.recoding.bytes s = Utf8.encodeChars l := by
  have related := mapM_eq_some_iff.mp read
  clear read
  induction related with
  | nil => rfl
  | @cons b c s l first _ ih =>
    have code : page.recoding.code b = String.utf8EncodeChar c := by
      simp only [Page.recoding, Page.code, first]
    rw [Recoding.bytes_cons, code, ih]
    exact (Utf8.encodeChars_cons c l).symm

theorem exists_of_mapM_eq_none {page : Page} {s : Bytes} (unread : s.mapM page.char? = none) :
    ∃ b ∈ s, page.char? b = none := by
  induction s with
  | nil => contradiction
  | cons b s ih =>
    cases first : page.char? b with
    | none => exact ⟨b, List.mem_cons_self, first⟩
    | some c =>
      cases others : s.mapM page.char? with
      | none =>
        obtain ⟨d, member, missing⟩ := ih others
        exact ⟨d, List.mem_cons_of_mem b member, missing⟩
      | some l => simp [List.mapM_cons, first, others] at unread

/-- Recoded bytes are read as UTF-8 just if they were read, and as the same text. -/
theorem decode?_recoding (page : Page) (s : Bytes) :
    Utf8.decode? (page.recoding.bytes s) = decode? page s := by
  rw [decode?]
  cases read : s.mapM page.char? with
  | some l =>
    have same := Utf8.decode?_encode (String.ofList l)
    rw [Utf8.encode, String.toList_ofList] at same
    rw [bytes_recoding read, same]
    rfl
  | none =>
    obtain ⟨b, member, missing⟩ := exists_of_mapM_eq_none read
    have stands : 0xFF ∈ page.recoding.bytes s :=
      List.mem_flatMap.mpr ⟨b, member, by simp [Page.recoding, Page.code, missing]⟩
    rw [Option.map_none, Option.eq_none_iff_forall_ne_some]
    intro t decoded
    rw [← Utf8.decode?_eq_some_iff.mp decoded] at stands
    obtain ⟨c, -, inside⟩ := List.mem_flatMap.mp stands
    exact absurd (Utf8.lt_of_mem_utf8EncodeChar inside) (by decide)

end SingleByte

section Names

variable {r : Recoding}

/-- No code of a byte outside ASCII has a blank in it. -/
theorem not_blank_of_mem_code {b x : UInt8} (solid : isBlankByte b = false) (inside : x ∈ r.code b) :
    isBlankByte x = false := by
  by_cases low : Utf8.IsAscii b
  · rw [r.code_ascii b low, List.mem_singleton] at inside
    rwa [inside]
  · exact isBlankByte_of_foreign (r.foreign b low x inside)

theorem tagName_recode (content : Bytes) : tagName (r.bytes content) = r.bytes (tagName content) := by
  induction content with
  | nil => rfl
  | cons b content ih =>
    unfold tagName at ih ⊢
    cases blank : isBlankByte b with
    | true => simp [Recoding.bytes_cons, r.code_ascii b (isAscii_of_isBlankByte blank), blank]
    | false =>
      have solid : ∀ x ∈ r.code b, (!isBlankByte x) = true := fun x inside => by
        rw [not_blank_of_mem_code blank inside]
        rfl
      rw [Recoding.bytes_cons, List.takeWhile_append_of_pos solid, ih]
      simp [blank, Recoding.bytes_cons]

theorem dropWhile_lastFirst (s : Bytes) :
    (r.lastFirst s).dropWhile isBlankByte = r.lastFirst (s.dropWhile isBlankByte) := by
  induction s with
  | nil => rfl
  | cons b s ih =>
    cases blank : isBlankByte b with
    | true => simp [r.lastFirst_ascii (isAscii_of_isBlankByte blank), blank, ih]
    | false =>
      obtain ⟨x, others, spelled⟩ :=
        List.exists_cons_of_ne_nil (List.reverse_ne_nil_iff.mpr (r.code_ne_nil b))
      have inside : x ∈ r.code b := List.mem_reverse.mp (by simp [spelled])
      simp [blank, Recoding.lastFirst_cons, spelled, not_blank_of_mem_code blank inside]

theorem endTagName_recode (content : Bytes) :
    endTagName (r.bytes content) = r.bytes (endTagName content) := by
  have whole := Recoding.all_lastFirst (r := r) content.reverse
  rw [Recoding.lastFirst, List.reverse_reverse, List.all_reverse, List.all_reverse] at whole
  unfold endTagName
  rw [whole]
  split
  · rfl
  · have last : (r.bytes content).reverse = r.lastFirst content.reverse := by
      rw [Recoding.lastFirst, List.reverse_reverse]
    rw [last, dropWhile_lastFirst, Recoding.reverse_lastFirst]

theorem Token.name?_recode (t : Token) : (t.recode r).name? = t.name?.map r.bytes := by
  cases t <;> simp [recode, name?, tagName_recode, endTagName_recode]

end Names

/-- A token and its text in UTF-8 do the same. -/
theorem Token.effect?_recode {page : SingleByte.Page} {t : Token}
    (named : (t.recode page.recoding).IsAsciiNamed) :
    (t.recode page.recoding).effect? .utf8 = t.effect? (.singleByte page) := by
  have decoded (s : Bytes) :
      Charset.utf8.decode? (page.recoding.bytes s) = (Charset.singleByte page).decode? s :=
    SingleByte.decode?_recoding page s
  have name {name : Bytes} (same : t.name? = some name) : page.recoding.bytes name = name := by
    have small := named (page.recoding.bytes name) (by rw [Token.name?_recode, same]; rfl)
    exact Recoding.bytes_of_ascii (Recoding.isAscii_of_bytes small)
  cases t with
  | startTag content => simp [recode, effect?, tagName_recode, name rfl]
  | emptyTag content => simp [recode, effect?, tagName_recode, name rfl]
  | endTag content => simp [recode, effect?, endTagName_recode, name rfl]
  | _ => simp [recode, effect?, Charset.readText?, decoded]

/-- Bytes in a single-byte encoding are the document that they are in UTF-8. -/
theorem Lexed.document?_recode {page : SingleByte.Page} {s : Bytes}
    (named : ∀ t ∈ (ofBytes (page.recoding.bytes s)).tokens, t.IsAsciiNamed) :
    (ofBytes (page.recoding.bytes s)).document? .utf8 = (ofBytes s).document? (.singleByte page) := by
  have sound := Lexed.fault_recode (r := page.recoding) s
  have same : Site.top.read .utf8 (ofBytes (page.recoding.bytes s)).tokens
      = Site.top.read (.singleByte page) (ofBytes s).tokens := by
    rw [Lexed.tokens_recode] at named ⊢
    exact Site.read_map _ (fun t member => Token.effect?_recode (named _ (List.mem_map_of_mem member))) _
  rw [document?, document?, same]
  cases fault : (ofBytes s).fault with
  | none => rw [sound.mpr fault]
  | some f =>
    cases fault' : (ofBytes (page.recoding.bytes s)).fault with
    | none => rw [sound.mp fault'] at fault; contradiction
    | some f' => rfl

namespace Document

def latin1Declaration : String := "<?xml version=\"1.0\" encoding=\"ISO-8859-1\"?>"

/-- One byte for each character, its code point. -/
def latin1 (s : String) : Bytes := s.toList.map fun c => UInt8.ofNat c.toNat

/-- What the declared label means has other characters for the codes in between. -/
def IsLatin1 (c : Char) : Prop := c.toNat < 0x80 ∨ (0xA0 ≤ c.toNat ∧ c.toNat < 0x100)

theorem char?_latin1 {c : Char} (latin : IsLatin1 c) :
    SingleByte.Page.windows1252.char? (UInt8.ofNat c.toNat) = some c := by
  have value : (UInt8.ofNat c.toNat).toNat = c.toNat :=
    Utf8.toNat_ofNat_of_lt (by rcases latin with low | ⟨-, high⟩ <;> omega)
  rw [SingleByte.Page.char?, value]
  rcases latin with low | ⟨high, bound⟩
  · rw [if_pos low, Char.ofNat_toNat]
  · have own : ∀ n < 0x100, 0xA0 ≤ n → SingleByte.Page.windows1252.foreign? n = Foreign.ofNat? n := by
      decide +kernel
    have foreign : Foreign.ofChar? c = some ⟨c, by omega⟩ := Foreign.ofChar?_char ⟨c, by omega⟩
    rw [if_neg (by omega), own c.toNat bound high, Foreign.ofNat?, Char.ofNat_toNat, foreign]
    rfl

theorem mapM_latin1 {l : List Char} (latin : ∀ c ∈ l, IsLatin1 c) :
    (l.map fun c => UInt8.ofNat c.toNat).mapM SingleByte.Page.windows1252.char? = some l := by
  rw [mapM_eq_some_iff, List.forall₂_map_left_iff, List.forall₂_same]
  exact fun c member => char?_latin1 (latin c member)

def declaredContent : Bytes := Bytes.ofAscii "xml version=\"1.0\" encoding=\"ISO-8859-1\""

theorem declared?_declaredContent :
    (Token.instruction declaredContent).declared? = some (.singleByte .windows1252) := by
  cbv

theorem ofBytes_declaration (v : Bytes) :
    Lexed.ofBytes (Utf8.encode latin1Declaration ++ v)
      = ⟨.instruction declaredContent :: (Lexed.ofBytes v).tokens, (Lexed.ofBytes v).fault⟩ := by
  have front : Lexer.start.run (Utf8.encode latin1Declaration)
      = ⟨Mode.start, [.instruction declaredContent]⟩ := by
    decide +kernel
  rw [Lexed.ofBytes, Lexer.run_append, front, Lexer.finish_run_mk]
  rfl

/-- What stands behind the declaration is read in the encoding that it names. -/
theorem toOption_parseBytes_declared (v : Bytes) :
    (parseBytes (Utf8.encode latin1Declaration ++ v)).toOption
      = (Lexed.ofBytes v).document? (.singleByte .windows1252) := by
  have unsigned : Charset.ofSignature (dropUtf8Mark (Utf8.encode latin1Declaration ++ v))
      = (.utf8, Utf8.encode latin1Declaration ++ v) := by rfl
  let switched : Assembly :=
    ⟨(Token.instruction declaredContent).length, .singleByte .windows1252, true, .nil, []⟩
  have step : (Assembly.start .utf8 false).step (.instruction declaredContent) = .ok switched := by
    have declared : (declarationBody? declaredContent).bind Charset.declared?
        = some (.singleByte .windows1252) := declared?_declaredContent
    simp [Assembly.step, Assembly.apply, Assembly.declare, Assembly.start, declared, Except.map,
      switched]
  -- the declaration is the first token, so all others are read after the switch
  have behind : (Assembly.start .utf8 false).ofLexed
        ⟨.instruction declaredContent :: (Lexed.ofBytes v).tokens, (Lexed.ofBytes v).fault⟩
      = switched.ofLexed (Lexed.ofBytes v) := by
    rw [Assembly.ofLexed, Assembly.run_cons, step]
    rfl
  rw [parseBytes, unsigned]
  dsimp only
  rw [ofBytes_declaration, behind]
  exact Assembly.toOption_ofLexed (a := switched) rfl (Or.inl rfl)

theorem toOption_parse_declared {s : String} (unmarked : s.toList.head? ≠ some '\uFEFF') :
    (parse (latin1Declaration ++ s)).toOption = (lexed s).document? .utf8 := by
  have whole : lexed (latin1Declaration ++ s)
      = Lexed.ofBytes (Utf8.encode latin1Declaration ++ Utf8.encode s) := by
    rw [lexed_eq, input_of_unmarked (by simp [latin1Declaration]), String.toList_append,
      Utf8.encodeChars_append]
    rfl
  rw [toOption_parse, whole, ofBytes_declaration, lexed_eq, input_of_unmarked unmarked]
  rfl

theorem latin1_declaration (s : String) :
    latin1 (latin1Declaration ++ s) = Utf8.encode latin1Declaration ++ latin1 s := by
  have front : latin1 latin1Declaration = Utf8.encode latin1Declaration := by decide +kernel
  rw [← front, latin1, String.toList_append, List.map_append]
  rfl

/-- A document that declares ISO-8859-1 and is written in it is accepted just if its text is, as the
    same document, with the same reports and the same script. -/
theorem parseBytes_declared_latin1 {s : String} (latin : ∀ c ∈ s.toList, IsLatin1 c)
    (named : ∀ t ∈ (lexed s).tokens, t.IsAsciiNamed) :
    (∀ d, parseBytes (latin1 (latin1Declaration ++ s)) = .ok d ↔
      parse (latin1Declaration ++ s) = .ok d) ∧
    ∀ d, parse (latin1Declaration ++ s) = .ok d →
      ∀ source : Source, source.Carries (latin1 (latin1Declaration ++ s)) →
        source.Agree (.text (latin1Declaration ++ s)) := by
  have unmarked : s.toList.head? ≠ some '\uFEFF' := by
    intro marked
    rcases latin _ (List.mem_of_head? marked) with low | ⟨-, high⟩
    · exact absurd low (by decide)
    · exact absurd high (by decide)
  have text : lexed s = Lexed.ofBytes (SingleByte.Page.windows1252.recoding.bytes (latin1 s)) := by
    rw [latin1, SingleByte.bytes_recoding (mapM_latin1 latin), lexed_eq, input_of_unmarked unmarked]
  have same : (parseBytes (latin1 (latin1Declaration ++ s))).toOption
      = (parse (latin1Declaration ++ s)).toOption := by
    rw [text] at named
    rw [latin1_declaration, toOption_parseBytes_declared, toOption_parse_declared unmarked, text,
      Lexed.document?_recode named]
  have accepted (d : Document) : parseBytes (latin1 (latin1Declaration ++ s)) = .ok d ↔
      parse (latin1Declaration ++ s) = .ok d := by
    rw [← toOption_eq_some_iff, same, toOption_eq_some_iff]
  refine ⟨accepted, fun d read source carries => ?_⟩
  exact Source.agree_text_of_carries carries (((accepted d).mpr read).trans read.symm)

/-- Letters outside ASCII in an attribute, a run of text and a CDATA section. -/
theorem parseBytes_declared_latin1_letters :
    (∀ c ∈ "<a b='é'>é<![CDATA[ÿ]]></a>".toList, IsLatin1 c) ∧
    (∀ t ∈ (lexed "<a b='é'>é<![CDATA[ÿ]]></a>").tokens, t.IsAsciiNamed) ∧
    parseBytes (latin1 (latin1Declaration ++ "<a b='é'>é<![CDATA[ÿ]]></a>"))
      = .ok ⟨.element "a" (.text "éÿ" .nil) .nil⟩ := by
  have latin : ∀ c ∈ "<a b='é'>é<![CDATA[ÿ]]></a>".toList, IsLatin1 c := by
    simp [IsLatin1]
  have named : ∀ t ∈ (lexed "<a b='é'>é<![CDATA[ÿ]]></a>").tokens, t.IsAsciiNamed := by
    decide +kernel
  have read : parse (latin1Declaration ++ "<a b='é'>é<![CDATA[ÿ]]></a>")
      = .ok ⟨.element "a" (.text "éÿ" .nil) .nil⟩ := by
    rw [← toOption_eq_some_iff, toOption_parse_declared (by decide)]
    decide +kernel
  exact ⟨latin, named, ((parseBytes_declared_latin1 latin named).1 _).mpr read⟩

end Document

end PomToGradle
