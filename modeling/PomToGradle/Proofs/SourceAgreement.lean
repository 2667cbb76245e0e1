import Mathlib
import PomToGradle.Conversion
import PomToGradle.Proofs.StreamReading
import PomToGradle.Proofs.WrittenForest

/-!
A document is the same wherever it comes from. Bytes that announce no other encoding are read like the
text they spell: the only difference is whether a declaration may still settle the encoding, and it
settles nothing new. How a stream is cut into pieces does not matter, one mark in front does not
matter, and a read that fails is all that is left of what was read.
-/
namespace PomToGradle

/-- The encoding that a token declares, if it declares a known one. -/
def Token.declared? : Token → Option Charset
  | .instruction content => (declarationBody? content).bind Charset.declared?
  | _ => none

namespace Assembly

def settle (a : Assembly) : Assembly := { a with settled := true }

theorem declare_settle {a : Assembly} (utf8 : a.charset = .utf8) {content : Bytes}
    (same : ∀ charset, (Token.instruction content).declared? = some charset → charset = .utf8) :
    a.settle.declare content = (a.declare content).settle ∧ (a.declare content).charset = .utf8 := by
  have kept : a.settle.declare content = a.settle := rfl
  rw [kept, declare]
  split
  · exact ⟨rfl, utf8⟩
  · split
    next charset declared =>
      obtain rfl := same charset declared
      exact ⟨by rw [settle, settle, utf8], rfl⟩
    next => exact ⟨rfl, utf8⟩

theorem apply_settle {a : Assembly} (utf8 : a.charset = .utf8) {t : Token}
    (same : ∀ charset, t.declared? = some charset → charset = .utf8) :
    a.settle.apply t = (a.apply t).map settle := by
  -- what stands for what depends on the encoding alone, whether it is settled or not
  have decode (s : Bytes) : a.settle.decode s = a.decode s := rfl
  have readText (s : Bytes) : a.settle.readText s = a.readText s := rfl
  cases t with
  | text run =>
    rw [apply, apply, readText]
    cases a.readText run <;> rfl
  | cdata content =>
    rw [apply, apply, decode]
    cases a.decode content <;> rfl
  | reference name =>
    rw [apply, apply, decode]
    cases a.decode name with
    | error e => rfl
    | ok shown =>
      cases resolved : resolve shown <;> simp only [bind, Except.bind, resolved] <;> rfl
  | endTag content =>
    have opened : a.settle.opened = a.opened := rfl
    rw [apply, apply, closeElement, closeElement, opened]
    split
    · rfl
    · split <;> rfl
  | instruction content => exact congrArg Except.ok (declare_settle utf8 same).1
  | _ => rfl

theorem charset_of_moves {a b : Assembly} {t : Token} (utf8 : a.charset = .utf8)
    (same : ∀ charset, t.declared? = some charset → charset = .utf8) (moves : Moves a t b) :
    b.charset = .utf8 := by
  cases moves with
  | instruction content => exact (declare_settle utf8 same).2
  | _ => exact utf8

theorem run_settle {l : List Token}
    (same : ∀ t ∈ l, ∀ charset, t.declared? = some charset → charset = .utf8) {a : Assembly}
    (utf8 : a.charset = .utf8) : a.settle.run l = (a.run l).map settle := by
  induction l generalizing a with
  | nil => rfl
  | cons t l ih =>
    have applied := apply_settle utf8 (same t (by simp))
    rw [run_cons, run_cons, step, step, applied]
    cases moved : a.apply t with
    | error e => rfl
    | ok b =>
      have kept := charset_of_moves utf8 (same t (by simp)) (moves_of_apply moved)
      exact ih (a := { b with offset := a.offset + t.length })
        (fun u member => same u (List.mem_cons_of_mem t member)) kept

/-- Whether the encoding is settled shows only where a declaration changes it. -/
theorem ofLexed_settle {a : Assembly} (utf8 : a.charset = .utf8) {lexed : Lexed}
    (same : ∀ t ∈ lexed.tokens, ∀ charset, t.declared? = some charset → charset = .utf8) :
    a.settle.ofLexed lexed = a.ofLexed lexed := by
  rw [ofLexed, ofLexed, run_settle same utf8]
  cases a.run lexed.tokens with
  | error e => rfl
  | ok b => rfl

end Assembly

theorem Utf8.lt_of_mem_utf8EncodeChar {c : Char} {b : UInt8} (member : b ∈ String.utf8EncodeChar c) :
    b.toNat < 0xF8 := by
  have small {n : Nat} (bound : n < 0xF8) : (UInt8.ofNat n).toNat < 0xF8 := by
    rw [toNat_ofNat_of_lt (by omega)]
    exact bound
  simp only [String.utf8EncodeChar] at member
  split at member
  · obtain rfl := List.mem_singleton.mp member
    exact small (by omega)
  · split at member
    · simp only [List.mem_cons, List.not_mem_nil, or_false] at member
      rcases member with rfl | rfl <;> exact small (by omega)
    · split at member
      · simp only [List.mem_cons, List.not_mem_nil, or_false] at member
        rcases member with rfl | rfl | rfl <;> exact small (by omega)
      · simp only [List.mem_cons, List.not_mem_nil, or_false] at member
        rcases member with rfl | rfl | rfl | rfl <;> exact small (by omega)

namespace Document

/-- The two ways in which a declaration begins in UTF-16, as characters. -/
def signatures : List String := ["\x00<\x00?", "<\x00?\x00"]

/-- Nothing in the text announces another encoding: no signature behind the mark, no declaration. -/
structure Unannounced (s : String) : Prop where
  unsigned : ∀ signature ∈ signatures, ¬ signature.toList <+: dropMark s
  undeclared : ∀ t ∈ (lexed s).tokens, ∀ charset, t.declared? = some charset → charset = .utf8

theorem ofSignature_encodeChars {l : List Char}
    (unsigned : ∀ signature ∈ signatures, ¬ signature.toList <+: l) :
    Charset.ofSignature (Utf8.encodeChars l) = (.utf8, dropUtf8Mark (Utf8.encodeChars l)) := by
  -- the marks of UTF-16 begin with bytes that UTF-8 never has
  have unmarked {b c : UInt8} (high : 0xF8 ≤ b.toNat) :
      [b, c].isPrefixOf (Utf8.encodeChars l) = false := by
    rw [Bool.eq_false_iff]
    intro marked
    obtain ⟨rest, whole⟩ := List.isPrefixOf_iff_prefix.mp marked
    have member : b ∈ Utf8.encodeChars l := by simp [← whole]
    obtain ⟨d, -, inside⟩ := List.mem_flatMap.mp member
    exact absurd (Utf8.lt_of_mem_utf8EncodeChar inside) (by omega)
  have absent {signature : String} (member : signature ∈ signatures) :
      (Utf8.encodeChars signature.toList).isPrefixOf (Utf8.encodeChars l) = false := by
    rw [Bool.eq_false_iff]
    intro signed
    obtain ⟨rest, whole⟩ := List.isPrefixOf_iff_prefix.mp signed
    obtain ⟨t, split, -⟩ := Utf8.encodeChars_eq_append whole.symm
    exact unsigned signature member ⟨t, split.symm⟩
  have bigEndian : bigEndianDeclaration.isPrefixOf (Utf8.encodeChars l) = false :=
    absent (by simp [signatures] : "\x00<\x00?" ∈ signatures)
  have littleEndian : littleEndianDeclaration.isPrefixOf (Utf8.encodeChars l) = false :=
    absent (by simp [signatures] : "<\x00?\x00" ∈ signatures)
  have bigEndianMarked : bigEndianMark.isPrefixOf (Utf8.encodeChars l) = false :=
    unmarked (by decide)
  have littleEndianMarked : littleEndianMark.isPrefixOf (Utf8.encodeChars l) = false :=
    unmarked (by decide)
  simp [Charset.ofSignature, bigEndian, littleEndian, bigEndianMarked, littleEndianMarked]

theorem parseBytes_encode {s : String} (unannounced : Unannounced s) :
    parseBytes (Utf8.encode s) = parse s := by
  have marked : dropUtf8Mark (Utf8.encode s) = Utf8.encodeChars (dropMark s) := by
    rw [Utf8.encode, dropUtf8Mark_encodeChars, String.ofList_toList]
  rw [parseBytes, marked, ofSignature_encodeChars unannounced.unsigned, parse]
  exact congrArg (Except.map Document.mk)
    (Assembly.ofLexed_settle (a := Assembly.start .utf8 false) rfl unannounced.undeclared).symm

theorem dropUtf8Mark_of_unmarked {s : String} (unmarked : s.toList.head? ≠ some '\uFEFF') :
    dropUtf8Mark (Utf8.encode s) = Utf8.encode s := by
  rw [Utf8.encode, dropUtf8Mark_encodeChars, dropMark_of_unmarked unmarked]

/-- One mark in front of a text or of bytes changes nothing. -/
theorem parse_mark {s : String} (unmarked : s.toList.head? ≠ some '\uFEFF') :
    parse ("\uFEFF" ++ s) = parse s := by
  have whole : "\uFEFF" ++ s = String.ofList ('\uFEFF' :: s.toList) := by simp
  have same : input ("\uFEFF" ++ s) = input s := by
    rw [input_of_unmarked unmarked, input, whole, dropMark_mark, dropMark_of_unmarked unmarked]
  rw [parse, parse, lexed_eq, lexed_eq, same]

theorem parseBytes_mark {s : String} (unmarked : s.toList.head? ≠ some '\uFEFF') :
    parseBytes (Utf8.encode ("\uFEFF" ++ s)) = parseBytes (Utf8.encode s) := by
  have marked : Utf8.encode ("\uFEFF" ++ s) = utf8Mark ++ Utf8.encode s := by
    rw [Utf8.encode, String.toList_append, Utf8.encodeChars_append]
    rfl
  have dropped : dropUtf8Mark (utf8Mark ++ Utf8.encode s) = Utf8.encode s := by
    rw [dropUtf8Mark, if_pos (by simp), List.drop_left]
  rw [parseBytes, parseBytes, marked, dropped, dropUtf8Mark_of_unmarked unmarked]

end Document

theorem Document.ofBytes_ok (s : Bytes) :
    ofBytes (.ok s) = (parseBytes s).mapError .malformed := rfl

namespace Source

/-- A source of exactly these bytes. -/
inductive Carries (s : Bytes) : Source → Prop where
  | bytes : Carries s (.bytes s)
  | reader {attempts : List Delivery} (completes : Completes attempts s) :
      Carries s (.reader attempts)
  | file {fs : FileSystem} {path : Path} {attempts : List Delivery}
      (opened : (fs path).opened = .ok attempts) (completes : Completes attempts s) :
      Carries s (.file fs path)

/-- A source that begins to be read and then fails, whatever it gave before. -/
inductive Breaks (error : IoError) : Source → Prop where
  | reader {attempts : List Delivery} (fails : Fails attempts error) : Breaks error (.reader attempts)
  | file {fs : FileSystem} {path : Path} {attempts : List Delivery}
      (opened : (fs path).opened = .ok attempts) (fails : Fails attempts error) :
      Breaks error (.file fs path)

section

variable {s : Bytes} {attempts : List Delivery} {error : IoError} {fs : FileSystem} {path : Path}
  {source : Source}

theorem read_of_opened (opened : (fs path).opened = .ok attempts) : fs.read path = gather attempts := by
  rw [FileSystem.read, opened]
  rfl

/-- A file that can be opened is a reader. -/
theorem load_of_opened (opened : (fs path).opened = .ok attempts) :
    (file fs path).load = (reader attempts).load := by
  rw [load, load, Document.loadFile, Document.loadStream, read_of_opened opened]

theorem convert_of_opened (opened : (fs path).opened = .ok attempts) (dialect : Dialect) :
    (file fs path).convert dialect = (reader attempts).convert dialect := by
  rw [convert, convertFile, opened]
  rfl

theorem load_reader_of_completes (completes : Completes attempts s) :
    (reader attempts).load = Document.loadBytes s := by
  rw [load, Document.loadStream, gather_of_completes completes]
  rfl

theorem load_of_carries (carries : source.Carries s) : source.load = Document.loadBytes s := by
  cases carries with
  | bytes => rfl
  | reader completes => exact load_reader_of_completes completes
  | file opened completes => exact (load_of_opened opened).trans (load_reader_of_completes completes)

theorem convert_of_carries (carries : source.Carries s) (dialect : Dialect) :
    source.convert dialect = source.load.mapError .pom >>= Document.convert dialect := by
  cases carries with
  | bytes | reader => rfl
  | file opened completes =>
    rw [convert_of_opened opened, load_of_opened opened]
    rfl

theorem load_reader_of_fails (fails : Fails attempts error) :
    (reader attempts).load = ⟨[], .error (.io error)⟩ := by
  rw [load, Document.loadStream, gather_of_fails fails]
  rfl

theorem load_of_breaks (breaks : source.Breaks error) : source.load = ⟨[], .error (.io error)⟩ := by
  cases breaks with
  | reader fails => exact load_reader_of_fails fails
  | file opened fails => exact (load_of_opened opened).trans (load_reader_of_fails fails)

theorem convert_reader_of_fails (fails : Fails attempts error) (dialect : Dialect) :
    (reader attempts).convert dialect = ⟨[], .error (.pom (.io error))⟩ := by
  simp only [convert, load_reader_of_fails fails]
  rfl

theorem convert_of_breaks (breaks : source.Breaks error) (dialect : Dialect) :
    source.convert dialect = ⟨[], .error (.pom (.io error))⟩ := by
  cases breaks with
  | reader fails => exact convert_reader_of_fails fails dialect
  | file opened fails =>
    exact (convert_of_opened opened dialect).trans (convert_reader_of_fails fails dialect)

end

/-- Neither loading nor converting tells the two sources apart. -/
structure Agree (a b : Source) : Prop where
  load : a.load = b.load
  convert : ∀ dialect, a.convert dialect = b.convert dialect

theorem agree_of_carries {s t : Bytes} {a b : Source} (first : a.Carries s) (second : b.Carries t)
    (same : Document.parseBytes s = Document.parseBytes t) : a.Agree b := by
  have loaded : a.load = b.load := by
    rw [load_of_carries first, load_of_carries second, Document.loadBytes, Document.loadBytes,
      Document.ofBytes_ok, Document.ofBytes_ok, same]
  refine ⟨loaded, fun dialect => ?_⟩
  rw [convert_of_carries first, convert_of_carries second, loaded]

theorem agree_of_parse {s t : String} (same : Document.parse s = Document.parse t) :
    (Source.text s).Agree (.text t) := by
  have loaded : (Source.text s).load = (Source.text t).load := by
    rw [load, load, Document.load, Document.load, same]
  refine ⟨loaded, fun dialect => ?_⟩
  simp only [convert, loaded]

theorem agree_text_of_carries {s : Bytes} {t : String} {a : Source} (carries : a.Carries s)
    (same : Document.parseBytes s = Document.parse t) : a.Agree (.text t) := by
  have loaded : a.load = (Source.text t).load := by
    rw [load_of_carries carries, Document.loadBytes, Document.ofBytes_ok, same]
    rfl
  refine ⟨loaded, fun dialect => ?_⟩
  rw [convert_of_carries carries, loaded]
  rfl

/-- A text, its bytes, a stream that delivers them in any pieces before it ends and a file of them are
    loaded and converted alike, messages and offsets of errors included. So they are with one mark in
    front. A read that fails is all that remains of its source, be it a stream or a file. -/
theorem agree_of_text (s : String) :
    (Document.Unannounced s →
      ∀ source : Source, source.Carries (Utf8.encode s) → source.Agree (.text s)) ∧
    (s.toList.head? ≠ some '\uFEFF' →
      (Source.text ("\uFEFF" ++ s)).Agree (.text s) ∧
      ∀ marked plain : Source, marked.Carries (Utf8.encode ("\uFEFF" ++ s)) →
        plain.Carries (Utf8.encode s) → marked.Agree plain) ∧
    ∀ (error : IoError) (source : Source), source.Breaks error →
      source.load = ⟨[], .error (.io error)⟩ ∧
      ∀ dialect, source.convert dialect = ⟨[], .error (.pom (.io error))⟩ := by
  refine ⟨fun unannounced source carries => ?_, fun unmarked => ⟨?_, fun marked plain => ?_⟩,
    fun error source breaks => ⟨?_, fun dialect => ?_⟩⟩
  · exact agree_text_of_carries carries (Document.parseBytes_encode unannounced)
  · exact agree_of_parse (Document.parse_mark unmarked)
  · exact fun first second => agree_of_carries first second (Document.parseBytes_mark unmarked)
  · exact load_of_breaks breaks
  · exact convert_of_breaks breaks dialect

/-- The first piece ends within a character, and the tag that follows it does not match; what stands
    behind the end of the stream is not read. The file fails behind an end tag that matches nothing. -/
theorem agree_of_text_in_pieces :
    (Source.reader [.data (Bytes.ofAscii "<?xml encoding='UTF-8'?><a>" ++ [0xC3]), .interrupted,
      .data (0xA9 :: Bytes.ofAscii "</b>"), .data [], .failed .timedOut]).Agree
        (.text "<?xml encoding='UTF-8'?><a>é</b>") ∧
    (Source.reader [.data [0xEF, 0xBB], .data (0xBF :: Bytes.ofAscii "<a/>")]).Agree
      (.bytes (Bytes.ofAscii "<a/>")) ∧
    (Source.file (fun _ => ⟨true, .ok [.data (Bytes.ofAscii "</a>"), .failed .timedOut]⟩)
      (Bytes.ofAscii "p.xml")).load = ⟨[], .error (.io .timedOut)⟩ := by
  have unannounced : Document.Unannounced "<?xml encoding='UTF-8'?><a>é</b>" := by
    refine ⟨by decide, ?_⟩
    have tokens : (Document.lexed "<?xml encoding='UTF-8'?><a>é</b>").tokens =
        [.instruction (Bytes.ofAscii "xml encoding='UTF-8'"), .startTag (Bytes.ofAscii "a"),
          .text [0xC3, 0xA9], .endTag (Bytes.ofAscii "b")] := by
      decide +kernel
    have declared : (Token.instruction (Bytes.ofAscii "xml encoding='UTF-8'")).declared?
        = some .utf8 := by
      cbv
    intro t member charset announced
    simp only [tokens, List.mem_cons, List.not_mem_nil, or_false] at member
    rcases member with rfl | rfl | rfl | rfl
    · exact Option.some.inj (announced.symm.trans declared)
    all_goals contradiction
  have pieces : Completes [.data (Bytes.ofAscii "<?xml encoding='UTF-8'?><a>" ++ [0xC3]), .interrupted,
      .data (0xA9 :: Bytes.ofAscii "</b>"), .data [], .failed .timedOut]
        (Utf8.encode "<?xml encoding='UTF-8'?><a>é</b>") :=
    .behind (.data (by simp) (.interrupted (.data (by simp) .nothing))) (.empty _)
  have marked : Completes [.data [0xEF, 0xBB], .data (0xBF :: Bytes.ofAscii "<a/>")]
      (Utf8.encode ("\uFEFF" ++ "<a/>")) :=
    .behind (.data (by simp) (.data (by simp) .nothing)) .exhausted
  have plain : (Source.bytes (Bytes.ofAscii "<a/>")).Carries (Utf8.encode "<a/>") := .bytes
  have fails : Fails [.data (Bytes.ofAscii "</a>"), .failed .timedOut] .timedOut :=
    .behind (.data (by decide) .nothing) .timedOut []
  have whole := agree_of_text "<a/>"
  exact ⟨(agree_of_text _).1 unannounced _ (.reader pieces),
    (whole.2.1 (by decide)).2 _ _ (.reader marked) plain, (whole.2.2 _ _ (.file rfl fails)).1⟩

end Source

end PomToGradle
