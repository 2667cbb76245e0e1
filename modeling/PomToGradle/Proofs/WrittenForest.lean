import PomToGradle.Proofs.TagSpelling
import PomToGradle.Proofs.TextNodes

/-!
Parsing undoes writing. A forest is written with a start tag and an end tag for each element and with
references for the two characters that text cannot hold. At every moment the tokens so far and the run
of text under way show the walk through what has been written, so what is read has the same walk; of
the forests whose text is never divided, no other one has it.
-/
namespace PomToGradle

/-- How a character of a text is written. -/
def escaped (c : Char) : List Char :=
  if c = '&' then "&amp;".toList else if c = '<' then "&lt;".toList else [c]

namespace Forest

def write : Forest → List Char
  | nil => []
  | text content rest => content.toList.flatMap escaped ++ rest.write
  | element name children rest =>
    '<' :: (name.toList ++ ['>']) ++ children.write ++ '<' :: '/' :: (name.toList ++ ['>'])
      ++ rest.write

/-- Every element has a name, at any depth. -/
def Named : Forest → Prop
  | nil => True
  | text _ rest => rest.Named
  | element name children rest => IsName name ∧ children.Named ∧ rest.Named

end Forest

theorem localName_fullName {name : String} {full : List Char} (named : FullName name full) :
    localName full = name := by
  have solid {part : String} (named : IsName part) : ∀ c ∈ part.toList, (c != ':') = true := by
    intro c member
    rw [bne_iff_ne]
    rintro rfl
    exact absurd (isNameChar_of_mem named ':' member) (by decide)
  cases named with
  | bare named =>
    rw [localName, List.dropWhile_eq_nil_iff.mpr (solid named)]
    exact String.ofList_toList
  | qualified spaced named =>
    rw [localName, List.dropWhile_append_of_pos (solid spaced)]
    exact String.ofList_toList

/-- The tokens show these marks and leave these elements open, and no CDATA section of them is
    empty. -/
structure Shown (tokens : List Token) (names : List Bytes) (marks : List Mark) : Prop where
  shows : ∃ parts, List.Forall₂ Token.Shows tokens parts ∧ parts.flatten = marks
  nests : nestAll [] tokens = some names
  solid : .cdata [] ∉ tokens

theorem shown_nil : Shown [] [] [] := ⟨⟨[], .nil, rfl⟩, rfl, by simp⟩

theorem shown_concat {tokens : List Token} {names names' : List Bytes} {marks part : List Mark}
    {t : Token} (shown : Shown tokens names marks) (shows : t.Shows part)
    (nests : nest names t = some names') (solid : t ≠ .cdata []) :
    Shown (tokens ++ [t]) names' (marks ++ part) := by
  obtain ⟨parts, before, rfl⟩ := shown.shows
  refine ⟨⟨parts ++ [part], List.rel_append before (.cons shows .nil), by simp⟩, ?_, ?_⟩
  · rw [nestAll_append, shown.nests, Option.bind_some, nestAll_cons, nests]
    rfl
  · rw [List.mem_append, List.mem_singleton]
    rintro (inside | same)
    · exact shown.solid inside
    · exact solid same.symm

namespace Lexer

/-- Between two tokens, or in a run of text that is shown already. -/
inductive Reads : Lexer → List Bytes → List Mark → Prop where
  | run {run : List Char} {tokens : List Token} {names : List Bytes} {marks : List Mark}
      (plain : '&' ∉ run) (shown : Shown tokens.reverse names marks) :
      Reads ⟨.text (Utf8.encodeChars run).reverse, tokens⟩ names (marks ++ marksOf run)

variable {l : Lexer} {names : List Bytes} {marks : List Mark}

theorem reads_start {tokens : List Token} (shown : Shown tokens.reverse names marks) :
    Reads ⟨Mode.start, tokens⟩ names marks := by
  have reads : Reads ⟨.text (Utf8.encodeChars []).reverse, tokens⟩ names (marks ++ marksOf []) :=
    .run (by simp) shown
  rwa [marksOf, List.map_nil, List.append_nil] at reads

theorem reads_nothing : start.Reads [] [] := reads_start shown_nil

theorem reads_token {tokens : List Token} {t : Token} {names' : List Bytes} {part : List Mark}
    (shown : Shown tokens.reverse names marks) (shows : t.Shows part)
    (nests : nest names t = some names') (solid : t ≠ .cdata []) :
    Reads ⟨Mode.start, t :: tokens⟩ names' (marks ++ part) := by
  apply reads_start
  rw [List.reverse_cons]
  exact shown_concat shown shows nests solid

/-- A run of text that comes to an end is one more token. -/
theorem shown_textToken {run : List Char} {tokens : List Token} (plain : '&' ∉ run)
    (shown : Shown tokens.reverse names marks) :
    Shown ((Mode.textToken (Utf8.encodeChars run).reverse).toList ++ tokens).reverse names
      (marks ++ marksOf run) := by
  rcases Mode.textToken_cases (Utf8.encodeChars run).reverse with ⟨empty, none⟩ | ⟨-, some⟩
  · have nothing : run = [] := Utf8.encodeChars_injective (List.reverse_eq_nil_iff.mp empty)
    rw [none, nothing]
    simpa [marksOf] using shown
  · rw [some, List.reverse_reverse]
    have grown := shown_concat shown (.text plain) rfl (by simp)
    simpa using grown

theorem reads_delimiter (reads : l.Reads names marks) :
    ∃ tokens, Shown tokens.reverse names marks ∧ l.step (ascii '<') = ⟨.opened, tokens⟩ ∧
      l.step (ascii '&') = ⟨.reference [], tokens⟩ := by
  cases reads with
  | run plain shown => exact ⟨_, shown_textToken plain shown, rfl, rfl⟩

theorem reads_finish (reads : l.Reads names marks) :
    Shown l.finish.tokens names marks ∧ l.finish.fault = none := by
  cases reads with
  | run plain shown => exact ⟨shown_textToken plain shown, rfl⟩

theorem reads_startTag {name : String} (named : IsName name) (reads : l.Reads names marks) :
    (l.run (Utf8.encodeChars ('<' :: (name.toList ++ ['>'])))).Reads (Utf8.encode name :: names)
      (marks ++ [.enter name]) := by
  obtain ⟨tokens, shown, opened, -⟩ := reads_delimiter reads
  have spelled : Utf8.encodeChars ('<' :: (name.toList ++ ['>']))
      = ascii '<' :: (Utf8.encode name ++ [ascii '>']) := by
    rw [Utf8.encodeChars_cons, Utf8.encodeChars_append]
    rfl
  have same := tagName_heading (.bare named) (heading_self name.toList)
  have shows : Token.Shows (.startTag (Utf8.encode name)) [.enter name] := by
    have token := Token.Shows.startTag same.symm
    rwa [localName_fullName (.bare named)] at token
  rw [spelled, run_cons, opened, Utf8.encode, run_startTag (.bare named) (heading_self _)]
  exact reads_token shown shows (by rw [nest, same]) (by simp)

theorem reads_endTag {name : String} (named : IsName name)
    (reads : l.Reads (Utf8.encode name :: names) marks) :
    (l.run (Utf8.encodeChars ('<' :: '/' :: (name.toList ++ ['>'])))).Reads names
      (marks ++ [.leave name]) := by
  obtain ⟨tokens, shown, opened, -⟩ := reads_delimiter reads
  have spelled : Utf8.encodeChars ('<' :: '/' :: (name.toList ++ ['>']))
      = ascii '<' :: ascii '/' :: (Utf8.encode name ++ [ascii '>']) := by
    rw [Utf8.encodeChars_cons, Utf8.encodeChars_cons, Utf8.encodeChars_append]
    rfl
  have none : ∀ c ∈ [], isBlankChar c = true := by simp
  have same := endTagName_fullName (.bare named) none
  rw [List.append_nil] at same
  have shows : Token.Shows (.endTag (Utf8.encode name)) [.leave name] := by
    have token := Token.Shows.endTag same.symm
    rwa [localName_fullName (.bare named)] at token
  have closed := run_endTag (.bare named) none tokens
  rw [List.append_nil] at closed
  rw [spelled, run_cons, opened, Utf8.encode, closed]
  exact reads_token shown shows (by rw [nest, Utf8.encode, same, if_pos rfl]) (by simp)

theorem reads_reference (name : String) {content : String}
    (resolved : Assembly.resolve name = .ok content)
    (plain : ∀ b ∈ Utf8.encode name, b ≠ ascii ';' ∧ b ≠ ascii '&' ∧ b ≠ ascii '<')
    (reads : l.Reads names marks) :
    (l.run (Utf8.encodeChars ('&' :: (name.toList ++ [';'])))).Reads names
      (marks ++ marksOf content.toList) := by
  obtain ⟨tokens, shown, -, opened⟩ := reads_delimiter reads
  have spelled : Utf8.encodeChars ('&' :: (name.toList ++ [';']))
      = ascii '&' :: (Utf8.encode name ++ [ascii ';']) := by
    rw [Utf8.encodeChars_cons, Utf8.encodeChars_append]
    rfl
  rw [spelled, run_cons, opened, run_reference plain]
  exact reads_token shown (.reference resolved) rfl (by simp)

theorem reads_character {c : Char} (amp : c ≠ '&') (angle : c ≠ '<') (reads : l.Reads names marks) :
    (l.run (Utf8.encodeChars [c])).Reads names (marks ++ [.character c]) := by
  have plain : ∀ b ∈ Utf8.encodeChars [c], b ≠ ascii '<' ∧ b ≠ ascii '&' := by
    intro b member
    constructor
    · rintro rfl
      have same := (Utf8.ascii_mem_encodeChars (by decide) [c]).mp member
      exact angle (List.mem_singleton.mp same).symm
    · rintro rfl
      have same := (Utf8.ascii_mem_encodeChars (by decide) [c]).mp member
      exact amp (List.mem_singleton.mp same).symm
  cases reads with
  | @run run tokens names marks free shown =>
    rw [run_text plain, ← List.reverse_append, ← Utf8.encodeChars_append]
    have grown : Reads ⟨.text (Utf8.encodeChars (run ++ [c])).reverse, tokens⟩ names
        (marks ++ marksOf (run ++ [c])) := .run (by simp [free, Ne.symm amp]) shown
    simpa [marksOf] using grown

theorem reads_escaped (c : Char) (reads : l.Reads names marks) :
    (l.run (Utf8.encodeChars (escaped c))).Reads names (marks ++ [.character c]) := by
  unfold escaped
  split
  next amp =>
    rw [amp]
    exact reads_reference "amp" rfl (by decide +kernel) reads
  next noAmp =>
    split
    next angle =>
      rw [angle]
      exact reads_reference "lt" rfl (by decide +kernel) reads
    next noAngle => exact reads_character noAmp noAngle reads

theorem reads_text (s : List Char) (reads : l.Reads names marks) :
    (l.run (Utf8.encodeChars (s.flatMap escaped))).Reads names (marks ++ marksOf s) := by
  induction s generalizing l marks with
  | nil => simpa [Utf8.encodeChars, run, marksOf] using reads
  | cons c s ih =>
    rw [List.flatMap_cons, Utf8.encodeChars_append, run_append]
    have rest := ih (reads_escaped c reads)
    rwa [List.append_assoc] at rest

/-- What is written is shown, wherever in a document it stands. -/
theorem reads_write {f : Forest} (named : f.Named) (reads : l.Reads names marks) :
    (l.run (Utf8.encodeChars f.write)).Reads names (marks ++ f.walk) := by
  induction f generalizing l names marks with
  | nil => simpa [Forest.write, Forest.walk, Utf8.encodeChars, run] using reads
  | text content rest ih =>
    rw [Forest.write, Utf8.encodeChars_append, run_append]
    have after := ih named (reads_text content.toList reads)
    rwa [List.append_assoc] at after
  | element name children rest inner outer =>
    obtain ⟨isName, below, behind⟩ := named
    rw [Forest.write, Utf8.encodeChars_append, Utf8.encodeChars_append, Utf8.encodeChars_append,
      run_append, run_append, run_append]
    have opened := reads_startTag isName reads
    have closed := reads_endTag isName (inner below opened)
    have after := outer behind closed
    simpa [Forest.walk] using after

end Lexer

namespace Document

theorem dropMark_of_unmarked {s : List Char} (unmarked : s.head? ≠ some '\uFEFF') :
    dropMark (String.ofList s) = s := by
  unfold dropMark
  rw [String.toList_ofList]
  split
  next => simp at unmarked
  next => rfl

theorem dropMark_mark (l : List Char) : dropMark (String.ofList ('\uFEFF' :: l)) = l := by
  rw [dropMark, String.toList_ofList]
  rfl

theorem input_of_unmarked {s : String} (unmarked : s.toList.head? ≠ some '\uFEFF') :
    input s = s.toList := by
  have whole := dropMark_of_unmarked unmarked
  rw [String.ofList_toList] at whole
  rw [input, whole, dropMark_of_unmarked unmarked]

theorem lexed_of_unmarked {s : List Char} (unmarked : s.head? ≠ some '\uFEFF') :
    lexed (String.ofList s) = Lexed.ofBytes (Utf8.encodeChars s) := by
  rw [lexed_eq, input, dropMark_of_unmarked unmarked, dropMark_of_unmarked unmarked]

/-- Writing a forest and reading the text gives the forest back. -/
theorem parse_write {f : Forest} (named : f.Named) (merged : f.Merged) (filled : f.Filled)
    (unmarked : f.write.head? ≠ some '\uFEFF') : parse (String.ofList f.write) = .ok ⟨f⟩ := by
  have whole : lexed (String.ofList f.write) = (Lexer.start.run (Utf8.encodeChars f.write)).finish :=
    lexed_of_unmarked unmarked
  obtain ⟨shown, complete⟩ := Lexer.reads_finish (Lexer.reads_write named Lexer.reads_nothing)
  rw [← whole] at shown complete
  obtain ⟨parts, shows, walked⟩ := shown.shows
  obtain ⟨d, read⟩ :=
    parse_of_lexed complete shown.nests fun _ member => Token.resolves_of_shows shows member
  obtain ⟨-, -, parts', shows', walked'⟩ := lexed_of_parse read
  have unique : Relator.RightUnique Token.Shows := fun _ _ _ first second =>
    Token.shows_unique first second
  have same : parts' = parts := List.right_unique_forall₂' unique shows' shows
  have equal : d.children = f :=
    Forest.walk_injective (merged_of_parse read) (filled_of_parse shown.solid read) merged filled
      (by rw [walked', same, walked, List.nil_append])
  rw [read, ← equal]

/-- A reference is resolved once: what it stands for is not read again. -/
theorem parse_write_reference :
    (Forest.element "a" (.text "&lt;" .nil) .nil).write = "<a>&amp;lt;</a>".toList ∧
      parse "<a>&amp;lt;</a>" = .ok ⟨.element "a" (.text "&lt;" .nil) .nil⟩ := by
  have written : (Forest.element "a" (.text "&lt;" .nil) .nil).write = "<a>&amp;lt;</a>".toList := by
    decide
  have named : (Forest.element "a" (.text "&lt;" .nil) .nil).Named :=
    ⟨⟨'a', [], rfl, by decide, by simp⟩, trivial, trivial⟩
  have read := parse_write named ⟨⟨rfl, trivial⟩, trivial⟩ ⟨⟨by decide, trivial⟩, trivial⟩
    (by rw [written]; decide)
  rw [written, String.ofList_toList] at read
  exact ⟨written, read⟩

end Document

end PomToGradle
