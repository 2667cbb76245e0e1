import Mathlib.Data.List.TakeWhile
import PomToGradle.Markup.Lexer
import PomToGradle.Proofs.Utf8Boundaries

/-!
What the lexer makes of a tag, a reference or a run of text that is spelled in the standard way,
whatever tokens come before. The full name of an element holds no delimiter, and a value is hidden by
its quotes, so a tag has the name that it begins with, whatever attributes and white space follow.
-/
namespace PomToGradle

def isNameStart (c : Char) : Bool := c.isAlpha || c == '_'

def isNameChar (c : Char) : Bool := isNameStart c || c.isDigit || c == '.' || c == '-'

def IsName (name : String) : Prop :=
  ∃ c rest, name.toList = c :: rest ∧ isNameStart c = true ∧ ∀ d ∈ rest, isNameChar d = true

theorem isNameChar_of_mem {name : String} (named : IsName name) :
    ∀ c ∈ name.toList, isNameChar c = true := by
  obtain ⟨c, rest, spelled, first, others⟩ := named
  rw [spelled]
  exact List.forall_mem_cons.mpr ⟨by simp [isNameChar, first], others⟩

/-- The full names of elements of that name: without a prefix, or with one. -/
inductive FullName (name : String) : List Char → Prop where
  | bare (named : IsName name) : FullName name name.toList
  | qualified {space : String} (spaced : IsName space) (named : IsName name) :
      FullName name (space.toList ++ ':' :: name.toList)

theorem not_mem_of_fullName {name : String} {full : List Char} (named : FullName name full)
    {c : Char} (foreign : isNameChar c = false) (other : c ≠ ':') : c ∉ full := by
  have absent {part : String} (named : IsName part) : c ∉ part.toList := fun member =>
    absurd (isNameChar_of_mem named c member) (by simp [foreign])
  cases named with
  | bare named => exact absent named
  | qualified spaced named => simp [absent spaced, absent named, other]

theorem exists_cons_of_fullName {name : String} {full : List Char} (named : FullName name full) :
    ∃ c rest, full = c :: rest := by
  cases named with
  | bare named =>
    obtain ⟨c, rest, spelled, -⟩ := named
    exact ⟨c, rest, spelled⟩
  | qualified spaced named =>
    obtain ⟨c, rest, spelled, -⟩ := spaced
    exact ⟨c, rest ++ ':' :: name.toList, by rw [spelled]; rfl⟩

def isBlankChar (c : Char) : Bool := c == ' ' || c == '\t' || c == '\r' || c == '\n'

theorem isBlankByte_of_mem {c : Char} {b : UInt8} (member : b ∈ String.utf8EncodeChar c) :
    isBlankByte b = isBlankChar c := by
  have space : (b == 0x20) = (c == ' ') := Utf8.beq_ascii_of_mem (d := ' ') (by decide) member
  have tab : (b == 0x09) = (c == '\t') := Utf8.beq_ascii_of_mem (d := '\t') (by decide) member
  have back : (b == 0x0D) = (c == '\r') := Utf8.beq_ascii_of_mem (d := '\r') (by decide) member
  have feed : (b == 0x0A) = (c == '\n') := Utf8.beq_ascii_of_mem (d := '\n') (by decide) member
  rw [isBlankByte, isBlankChar, space, tab, back, feed]

theorem isBlankByte_encodeChars {l : List Char} {blank : Bool}
    (each : ∀ c ∈ l, isBlankChar c = blank) :
    ∀ b ∈ Utf8.encodeChars l, isBlankByte b = blank := by
  intro b member
  obtain ⟨c, inside, bytes⟩ := List.mem_flatMap.mp member
  rw [isBlankByte_of_mem bytes, each c inside]

theorem not_blank_of_fullName {name : String} {full : List Char} (named : FullName name full) :
    ∀ c ∈ full, isBlankChar c = false := by
  intro c member
  have other {d : Char} (foreign : isNameChar d = false) (colon : d ≠ ':') : (c == d) = false := by
    rw [beq_eq_false_iff_ne]
    rintro rfl
    exact not_mem_of_fullName named foreign colon member
  rw [isBlankChar, other (by decide) (by decide), other (by decide) (by decide),
    other (by decide) (by decide), other (by decide) (by decide)]
  rfl

def quoteChar : Quote → Char
  | .single => '\x27'
  | .double => '"'

theorem ascii_quoteChar (quote : Quote) : ascii (quoteChar quote) = quote.byte := by
  cases quote <;> rfl

/-- A character that neither ends a tag nor hides the end of one. -/
def IsSolid (c : Char) : Prop := c ≠ '>' ∧ ∀ quote, c ≠ quoteChar quote

theorem not_delimiter_of_mem {l : List Char} (solid : ∀ c ∈ l, IsSolid c) {b : UInt8}
    (member : b ∈ Utf8.encodeChars l) : b ≠ ascii '>' ∧ Quote.ofByte? b = none := by
  obtain ⟨c, inside, bytes⟩ := List.mem_flatMap.mp member
  have foreign {d : Char} (small : d.toNat < 128) (other : c ≠ d) : b ≠ ascii d :=
    mt (Utf8.eq_ascii_iff_of_mem small bytes).mp other
  obtain ⟨angle, quotes⟩ := solid c inside
  have single : b ≠ Quote.single.byte := foreign (d := quoteChar .single) (by decide) (quotes .single)
  have double : b ≠ Quote.double.byte := foreign (d := quoteChar .double) (by decide) (quotes .double)
  exact ⟨foreign (by decide) angle, by simp [Quote.ofByte?, single, double]⟩

theorem isSolid_of_fullName {name : String} {full : List Char} (named : FullName name full) :
    ∀ c ∈ full, IsSolid c := by
  intro c member
  have other {d : Char} (foreign : isNameChar d = false) (colon : d ≠ ':') : c ≠ d := by
    rintro rfl
    exact not_mem_of_fullName named foreign colon member
  refine ⟨other (by decide) (by decide), fun quote => ?_⟩
  cases quote <;> exact other (by decide) (by decide)

theorem isSolid_of_blank {c : Char} (blank : isBlankChar c = true) : IsSolid c := by
  simp only [isBlankChar, Bool.or_eq_true, beq_iff_eq] at blank
  rcases blank with ((rfl | rfl) | rfl) | rfl <;> exact ⟨by decide, by rintro (_ | _) <;> decide⟩

/-- White space, whatever leads up to a value, and the value in quotes. -/
inductive IsAttribute : List Char → Prop where
  | quoted {blank : Char} {key value : List Char} {quote : Quote} (space : isBlankChar blank = true)
      (solid : ∀ c ∈ key, IsSolid c) (inside : quoteChar quote ∉ value) :
      IsAttribute (blank :: (key ++ quoteChar quote :: (value ++ [quoteChar quote])))

/-- A full name with attributes, and with white space at the end. -/
inductive Heading (full : List Char) : List Char → Prop where
  | mk {attributes : List (List Char)} {blanks : List Char} (each : ∀ a ∈ attributes, IsAttribute a)
      (space : ∀ c ∈ blanks, isBlankChar c = true) :
      Heading full (full ++ (attributes.flatten ++ blanks))

theorem heading_self (full : List Char) : Heading full full := by
  have bare : Heading full (full ++ (([] : List (List Char)).flatten ++ [])) :=
    .mk (by simp) (by simp)
  simpa using bare

/-- Attributes and white space. -/
theorem head?_behind_name {attributes : List (List Char)} {blanks : List Char}
    (each : ∀ a ∈ attributes, IsAttribute a) (space : ∀ c ∈ blanks, isBlankChar c = true) {c : Char}
    (head : (attributes.flatten ++ blanks).head? = some c) : isBlankChar c = true := by
  cases attributes with
  | nil => exact space c (List.mem_of_head? head)
  | cons a attributes =>
    cases each a List.mem_cons_self with
    | quoted first solid inside =>
      obtain rfl := Option.some.inj head
      exact first

theorem tagName_heading {name : String} {full w : List Char} (named : FullName name full)
    (heading : Heading full w) : tagName (Utf8.encodeChars w) = Utf8.encodeChars full := by
  have same (c : Char) (b : UInt8) (member : b ∈ String.utf8EncodeChar c) :
      (!isBlankByte b) = !isBlankChar c := by
    rw [isBlankByte_of_mem member]
  rw [tagName, Utf8.takeWhile_encodeChars same]
  cases heading with
  | @mk attributes blanks each space =>
    have solid := not_blank_of_fullName named
    rw [List.takeWhile_append_of_pos fun c member => by rw [solid c member]; rfl]
    cases behind : attributes.flatten ++ blanks with
    | nil => simp
    | cons c rest =>
      have first : isBlankChar c = true := head?_behind_name each space (by rw [behind]; rfl)
      simp [first]

theorem endTagName_fullName {name : String} {full : List Char} (named : FullName name full)
    {blanks : List Char} (space : ∀ c ∈ blanks, isBlankChar c = true) :
    endTagName (Utf8.encodeChars (full ++ blanks)) = Utf8.encodeChars full := by
  have solid := isBlankByte_encodeChars (not_blank_of_fullName named)
  have blank := isBlankByte_encodeChars space
  obtain ⟨b, rest, bytes⟩ : ∃ b rest, (Utf8.encodeChars full).reverse = b :: rest := by
    obtain ⟨c, more, rfl⟩ := exists_cons_of_fullName named
    apply List.exists_cons_of_ne_nil
    simp [Utf8.encodeChars_cons, String.utf8EncodeChar_ne_nil]
  have last : isBlankByte b = false := by
    refine solid b (List.mem_reverse.mp ?_)
    rw [bytes]
    exact List.mem_cons_self
  have some : (Utf8.encodeChars (full ++ blanks)).all isBlankByte = false := by
    rw [List.all_eq_false]
    refine ⟨b, ?_, by simp [last]⟩
    rw [Utf8.encodeChars_append, ← List.reverse_reverse (Utf8.encodeChars full), bytes]
    simp
  rw [endTagName, if_neg (by simp [some]), Utf8.encodeChars_append, List.reverse_append,
    List.dropWhile_append_of_pos (fun b member => blank b (List.mem_reverse.mp member)), bytes,
    List.dropWhile_cons_of_neg (by simp [last]), ← bytes, List.reverse_reverse]

/-- An attribute ends with a quote. -/
theorem getLast?_attribute {a : List Char} (valued : IsAttribute a) : a.getLast? ≠ some '/' := by
  cases valued with
  | @quoted blank key value quote space solid inside =>
    have last : (blank :: (key ++ quoteChar quote :: (value ++ [quoteChar quote]))).getLast?
        = some (quoteChar quote) := by
      simp [List.getLast?_cons, List.getLast?_append]
    rw [last]
    cases quote <;> decide

theorem getLast?_append_ne {u v : List Char} {c : Char} (left : u.getLast? ≠ some c)
    (right : v.getLast? ≠ some c) : (u ++ v).getLast? ≠ some c := by
  rw [List.getLast?_append]
  cases last : v.getLast? with
  | none => exact left
  | some d => rwa [last] at right

/-- No slash ends a heading, so the tag is not empty unless a slash follows. -/
theorem getLast?_heading {name : String} {full w : List Char} (named : FullName name full)
    (heading : Heading full w) : w.getLast? ≠ some '/' := by
  cases heading with
  | @mk attributes blanks each space =>
    have values : attributes.flatten.getLast? ≠ some '/' := by
      clear space
      induction attributes with
      | nil => simp
      | cons a attributes ih =>
        rw [List.flatten_cons]
        refine getLast?_append_ne (getLast?_attribute (each a List.mem_cons_self)) (ih ?_)
        exact fun a member => each a (List.mem_cons_of_mem _ member)
    have blank : blanks.getLast? ≠ some '/' := fun last =>
      absurd (space '/' (List.mem_of_getLast? last)) (by decide)
    have bare : full.getLast? ≠ some '/' := fun last =>
      not_mem_of_fullName named (by decide) (by decide) (List.mem_of_getLast? last)
    exact getLast?_append_ne bare (getLast?_append_ne values blank)

namespace Lexer

theorem run_cons (l : Lexer) (b : UInt8) (s : Bytes) : l.run (b :: s) = (l.step b).run s := rfl

theorem run_concat (l : Lexer) (s : Bytes) (b : UInt8) : l.run (s ++ [b]) = (l.run s).step b :=
  run_append l s [b]

/-- A construct under way takes in all bytes that do not end it. -/
theorem run_of_absorbs (construct : Bytes → Mode) {s : Bytes}
    (absorbs : ∀ b ∈ s, ∀ content, (construct content).step b = (construct (b :: content), none))
    (content : Bytes) (tokens : List Token) :
    (Lexer.mk (construct content) tokens).run s = ⟨construct (s.reverse ++ content), tokens⟩ := by
  induction s generalizing content with
  | nil => rfl
  | cons b s ih =>
    have first : (Lexer.mk (construct content) tokens).step b
        = ⟨construct (b :: content), tokens⟩ := by
      simp [step, absorbs b (by simp) content]
    have rest := ih (fun a member => absorbs a (List.mem_cons_of_mem b member)) (b :: content)
    rw [run_cons, first, rest]
    simp

theorem run_text {s : Bytes} (plain : ∀ b ∈ s, b ≠ ascii '<' ∧ b ≠ ascii '&') (content : Bytes)
    (tokens : List Token) :
    (Lexer.mk (.text content) tokens).run s = ⟨.text (s.reverse ++ content), tokens⟩ := by
  refine run_of_absorbs Mode.text ?_ content tokens
  intro b member content
  simp [Mode.step, plain b member]

theorem run_reference {s : Bytes}
    (plain : ∀ b ∈ s, b ≠ ascii ';' ∧ b ≠ ascii '&' ∧ b ≠ ascii '<') (tokens : List Token) :
    (Lexer.mk (.reference []) tokens).run (s ++ [ascii ';'])
      = ⟨Mode.start, .reference s :: tokens⟩ := by
  have inside : (Lexer.mk (.reference []) tokens).run s = ⟨.reference (s.reverse ++ []), tokens⟩ := by
    refine run_of_absorbs Mode.reference ?_ [] tokens
    intro b member content
    simp [Mode.step, plain b member]
  rw [run_concat, inside]
  simp [step, Mode.step]

/-- The text does not end a tag, and leaves no quote open in it. -/
def InTag (w : List Char) : Prop :=
  ∀ content tokens, (Lexer.mk (.tag none content) tokens).run (Utf8.encodeChars w)
    = ⟨.tag none ((Utf8.encodeChars w).reverse ++ content), tokens⟩

theorem inTag_append {u v : List Char} (first : InTag u) (second : InTag v) : InTag (u ++ v) := by
  intro content tokens
  rw [Utf8.encodeChars_append, run_append, first, second]
  simp

theorem inTag_of_solid {w : List Char} (solid : ∀ c ∈ w, IsSolid c) : InTag w := by
  refine run_of_absorbs (Mode.tag none) ?_
  intro b member content
  obtain ⟨angle, quote⟩ := not_delimiter_of_mem solid member
  simp [Mode.step, Mode.quoteAfter, angle, quote]

/-- Between quotes nothing counts but the same quote again. -/
theorem inTag_quoted {quote : Quote} {value : List Char} (inside : quoteChar quote ∉ value) :
    InTag (quoteChar quote :: (value ++ [quoteChar quote])) := by
  intro content tokens
  have single : Utf8.encodeChars [quoteChar quote] = [quote.byte] := by cases quote <;> decide
  have opening (content : Bytes) : (Lexer.mk (.tag none content) tokens).step quote.byte
      = ⟨.tag (some quote) (quote.byte :: content), tokens⟩ := by
    cases quote <;> rfl
  have closing (content : Bytes) : (Lexer.mk (.tag (some quote) content) tokens).step quote.byte
      = ⟨.tag none (quote.byte :: content), tokens⟩ := by
    cases quote <;> rfl
  have hidden (content : Bytes) :
      (Lexer.mk (.tag (some quote) content) tokens).run (Utf8.encodeChars value)
        = ⟨.tag (some quote) ((Utf8.encodeChars value).reverse ++ content), tokens⟩ := by
    refine run_of_absorbs (Mode.tag (some quote)) ?_ content tokens
    intro b member content
    have other : b ≠ quote.byte := by
      rw [← ascii_quoteChar]
      rintro rfl
      have small : (quoteChar quote).toNat < 128 := by cases quote <;> decide
      exact inside ((Utf8.ascii_mem_encodeChars small value).mp member)
    simp [Mode.step, Mode.quoteAfter, other]
  have spelled : Utf8.encodeChars (quoteChar quote :: (value ++ [quoteChar quote]))
      = quote.byte :: (Utf8.encodeChars value ++ [quote.byte]) := by
    rw [← List.singleton_append, Utf8.encodeChars_append, Utf8.encodeChars_append, single]
    rfl
  rw [spelled, run_cons, opening, run_concat, hidden, closing]
  simp

theorem inTag_attribute {a : List Char} (valued : IsAttribute a) : InTag a := by
  cases valued with
  | @quoted blank key value quote space solid inside =>
    have leading : InTag (blank :: key) :=
      inTag_of_solid (List.forall_mem_cons.mpr ⟨isSolid_of_blank space, solid⟩)
    exact inTag_append leading (inTag_quoted inside)

theorem inTag_heading {name : String} {full w : List Char} (named : FullName name full)
    (heading : Heading full w) : InTag w := by
  cases heading with
  | @mk attributes blanks each space =>
    have values : InTag attributes.flatten := by
      clear space
      induction attributes with
      | nil => exact fun _ _ => rfl
      | cons a attributes ih =>
        rw [List.flatten_cons]
        refine inTag_append (inTag_attribute (each a List.mem_cons_self)) (ih ?_)
        exact fun a member => each a (List.mem_cons_of_mem _ member)
    have blank : InTag blanks := inTag_of_solid fun c member => isSolid_of_blank (space c member)
    exact inTag_append (inTag_of_solid (isSolid_of_fullName named)) (inTag_append values blank)

/-- The first character of a name begins a tag and no other markup. -/
theorem run_opened {name : String} {full w : List Char} (named : FullName name full)
    (heading : Heading full w) (tokens : List Token) :
    (Lexer.mk .opened tokens).run (Utf8.encodeChars w)
      = ⟨.tag none (Utf8.encodeChars w).reverse, tokens⟩ := by
  have inside := inTag_heading named heading [] tokens
  rw [List.append_nil] at inside
  rw [← inside]
  cases heading with
  | @mk attributes blanks each space =>
    obtain ⟨c, more, rfl⟩ := exists_cons_of_fullName named
    obtain ⟨b, rest, bytes⟩ := List.exists_cons_of_ne_nil (String.utf8EncodeChar_ne_nil (c := c))
    have foreign {d : Char} (small : d.toNat < 128) (absent : d ∉ c :: more) : b ≠ ascii d := by
      refine mt (Utf8.eq_ascii_iff_of_mem (c := c) small (by simp [bytes])).mp ?_
      rintro rfl
      exact absent List.mem_cons_self
    have bang := foreign (d := '!') (by decide) (not_mem_of_fullName named (by decide) (by decide))
    have query := foreign (d := '?') (by decide) (not_mem_of_fullName named (by decide) (by decide))
    have slash := foreign (d := '/') (by decide) (not_mem_of_fullName named (by decide) (by decide))
    have angle := foreign (d := '>') (by decide) (not_mem_of_fullName named (by decide) (by decide))
    have first : (Lexer.mk .opened tokens).step b = (Lexer.mk (.tag none []) tokens).step b := by
      simp [step, Mode.step, Mode.quoteAfter, bang, query, slash, angle]
    rw [List.cons_append, Utf8.encodeChars_cons, bytes, List.cons_append, run_cons, run_cons, first]

theorem run_startTag {name : String} {full w : List Char} (named : FullName name full)
    (heading : Heading full w) (tokens : List Token) :
    (Lexer.mk .opened tokens).run (Utf8.encodeChars w ++ [ascii '>'])
      = ⟨Mode.start, .startTag (Utf8.encodeChars w) :: tokens⟩ := by
  have last : (Utf8.encodeChars w).reverse.head? ≠ some (ascii '/') := by
    rw [List.head?_reverse]
    exact mt (Utf8.getLast?_of_encodeChars (by decide)) (getLast?_heading named heading)
  have token : Mode.tagToken (Utf8.encodeChars w).reverse = .startTag (Utf8.encodeChars w) := by
    rw [Mode.tagToken, if_neg last, List.reverse_reverse]
  rw [run_concat, run_opened named heading]
  simp [step, Mode.step, token]

theorem run_emptyTag {name : String} {full w : List Char} (named : FullName name full)
    (heading : Heading full w) (tokens : List Token) :
    (Lexer.mk .opened tokens).run (Utf8.encodeChars w ++ [ascii '/', ascii '>'])
      = ⟨Mode.start, .emptyTag (Utf8.encodeChars w) :: tokens⟩ := by
  have slash (content : Bytes) : (Lexer.mk (.tag none content) tokens).step (ascii '/')
      = ⟨.tag none (ascii '/' :: content), tokens⟩ := rfl
  have token (content : Bytes) : Mode.tagToken (ascii '/' :: content) = .emptyTag content.reverse :=
    rfl
  rw [run_append, run_opened named heading, run_cons, slash]
  simp [run, step, Mode.step, token]

theorem run_endTag {name : String} {full blanks : List Char} (named : FullName name full)
    (space : ∀ c ∈ blanks, isBlankChar c = true) (tokens : List Token) :
    (Lexer.mk .opened tokens).run (ascii '/' :: (Utf8.encodeChars (full ++ blanks) ++ [ascii '>']))
      = ⟨Mode.start, .endTag (Utf8.encodeChars (full ++ blanks)) :: tokens⟩ := by
  have first : (Lexer.mk .opened tokens).step (ascii '/') = ⟨.endTag none [], tokens⟩ := rfl
  have solid : ∀ c ∈ full ++ blanks, IsSolid c := by
    simp only [List.mem_append]
    rintro c (member | member)
    · exact isSolid_of_fullName named c member
    · exact isSolid_of_blank (space c member)
  have inside : (Lexer.mk (.endTag none []) tokens).run (Utf8.encodeChars (full ++ blanks))
      = ⟨.endTag none ((Utf8.encodeChars (full ++ blanks)).reverse ++ []), tokens⟩ := by
    refine run_of_absorbs (Mode.endTag none) ?_ [] tokens
    intro b member content
    obtain ⟨angle, quote⟩ := not_delimiter_of_mem solid member
    simp [Mode.step, Mode.quoteAfter, angle, quote]
  rw [run_cons, first, run_concat, inside]
  simp [step, Mode.step]

end Lexer

end PomToGradle
