import Mathlib
import PomToGradle.Document
import PomToGradle.Proofs.AssemblySteps
import PomToGradle.Proofs.PlainRuns
import PomToGradle.Proofs.TagNesting
import PomToGradle.Proofs.TokenMarks

/-!
A text is read into the tree that it spells. At every moment the nodes collected so far, those of the
open elements included, are walked through in the order in which the tokens came; the names of the
open elements are the stack of `nest`. The main result is `Document.parse_spells`.
-/
namespace PomToGradle

namespace Assembly

/-- Text is read as UTF-8 throughout. -/
def Textual (a : Assembly) : Prop := a.charset = .utf8 ∧ a.settled = true

theorem textual_start : (start .utf8 true).Textual := ⟨rfl, rfl⟩

/-- The names of the open elements, innermost first. -/
def names (a : Assembly) : List Bytes := a.opened.map OpenElement.name

/-- The walk down to where the next node goes, through all that stands before it. -/
def descent : List OpenElement → List Mark
  | [] => []
  | innermost :: outer =>
    descent outer ++ innermost.before.reverse.walk ++ [.enter (elementName innermost.name)]

def walked (a : Assembly) : List Mark := descent a.opened ++ a.level.reverse.walk

theorem decode_encodeChars {a : Assembly} (textual : a.Textual) (l : List Char) :
    a.decode (Utf8.encodeChars l) = .ok (String.ofList l) := by
  have read := Utf8.decode?_encode (String.ofList l)
  simp only [Utf8.encode, String.toList_ofList] at read
  simp only [decode, textual.1, Charset.decode?, read]

theorem readText_encodeChars {a : Assembly} (textual : a.Textual) {l : List Char}
    (plain : ascii '&' ∉ Utf8.encodeChars l) :
    a.readText (Utf8.encodeChars l) = .ok (String.ofList l) := by
  rw [readText_of_plain a plain, decode_encodeChars textual]

theorem declare_of_textual {a : Assembly} (textual : a.Textual) (content : Bytes) :
    a.declare content = a := by
  simp [declare, textual.2]

/-- What one token does to a tree under way, seen from outside. -/
structure Advances (a : Assembly) (t : Token) (b : Assembly) : Prop where
  textual : b.Textual
  nests : nest a.names t = some b.names
  walks : ∃ marks, t.Shows marks ∧ b.walked = a.walked ++ marks

theorem walked_addText (a : Assembly) (content : String) :
    (a.addText content).walked = a.walked ++ marksOf content.toList := by
  simp [walked, addText, Forest.walk_reverse_pushText]

theorem advances_of_moves {a b : Assembly} {t : Token} (textual : a.Textual) (text : t.IsText)
    (plain : t.IsPlain) (moves : Moves a t b) : Advances a t b := by
  obtain ⟨l, spelled⟩ := text
  cases moves with
  | @text run content read =>
    obtain rfl : Utf8.encodeChars l = run := spelled
    have absent : ascii '&' ∉ Utf8.encodeChars l := (plain rfl).2
    obtain rfl := Except.ok.inj ((readText_encodeChars textual absent).symm.trans read)
    refine ⟨textual, rfl, marksOf l, .text ?_, ?_⟩
    · exact mt (Utf8.ascii_mem_encodeChars (by decide) l).mpr absent
    · rw [walked_addText, String.toList_ofList]
  | @cdata source content read =>
    obtain rfl : Utf8.encodeChars l = source := spelled
    obtain rfl := Except.ok.inj ((decode_encodeChars textual l).symm.trans read)
    refine ⟨textual, rfl, marksOf l, .cdata l, ?_⟩
    rw [walked_addText, String.toList_ofList]
  | @reference name shown content read resolved =>
    obtain rfl : Utf8.encodeChars l = name := spelled
    obtain rfl := Except.ok.inj ((decode_encodeChars textual l).symm.trans read)
    have shows := Token.Shows.reference resolved
    rw [Utf8.encode, String.toList_ofList] at shows
    exact ⟨textual, rfl, _, shows, walked_addText a content⟩
  | startTag content =>
    have inside : Utf8.IsText content := ⟨l, spelled⟩
    obtain ⟨name, named⟩ := isText_tagName inside
    refine ⟨textual, rfl, _, .startTag named, ?_⟩
    rw [← elementName_encodeChars, named]
    simp [walked, openElement, descent, Forest.reverse, Forest.reverseOnto, Forest.walk]
  | emptyTag content =>
    have inside : Utf8.IsText content := ⟨l, spelled⟩
    obtain ⟨name, named⟩ := isText_tagName inside
    refine ⟨textual, rfl, _, .emptyTag named, ?_⟩
    rw [← elementName_encodeChars, named]
    simp [walked, addElement, Forest.walk]
  | @endTag content innermost outer opened same =>
    have inside : Utf8.IsText content := ⟨l, spelled⟩
    obtain ⟨name, named⟩ := isText_endTagName inside
    refine ⟨textual, ?_, _, .endTag named, ?_⟩
    · simp [names, opened, nest, same]
    · rw [← elementName_encodeChars, named]
      simp [walked, opened, descent, same]
  | instruction content =>
    rw [declare_of_textual textual]
    exact ⟨textual, rfl, [], .instruction content, by simp⟩
  | comment content => exact ⟨textual, rfl, [], .comment content, by simp⟩
  | doctype keyword content => exact ⟨textual, rfl, [], .doctype keyword content, by simp⟩

theorem step_advances {a b : Assembly} {t : Token} (textual : a.Textual) (text : t.IsText)
    (plain : t.IsPlain) (done : a.step t = .ok b) : Advances a t b := by
  obtain ⟨next, moves, rfl⟩ := step_eq_ok_iff.mp done
  obtain ⟨kept, nests, walks⟩ := advances_of_moves textual text plain moves
  exact ⟨kept, nests, walks⟩

theorem run_advances {l : List Token} (sound : ∀ t ∈ l, t.IsText ∧ t.IsPlain) {a b : Assembly}
    (textual : a.Textual) (done : a.run l = .ok b) :
    nestAll a.names l = some b.names ∧
      ∃ marks, List.Forall₂ Token.Shows l marks ∧ b.walked = a.walked ++ marks.flatten := by
  induction l generalizing a with
  | nil =>
    obtain rfl := Except.ok.inj done
    exact ⟨rfl, [], .nil, by simp⟩
  | cons t l ih =>
    rw [run_cons] at done
    obtain ⟨next, first, rest⟩ := bind_eq_ok.mp done
    obtain ⟨text, plain⟩ := sound t (by simp)
    obtain ⟨kept, nests, marks, shows, walked⟩ := step_advances textual text plain first
    obtain ⟨nested, more, shown, after⟩ :=
      ih (fun u member => sound u (List.mem_cons_of_mem t member)) kept rest
    refine ⟨?_, marks :: more, .cons shows shown, ?_⟩
    · rw [nestAll_cons, nests]
      exact nested
    · rw [after, walked, List.flatten_cons, List.append_assoc]

/-- A token of a text fails only where it may not stand, or if it is a reference to nothing. -/
theorem step_of_nest {a : Assembly} {t : Token} {names : List Bytes} (textual : a.Textual)
    (text : t.IsText) (plain : t.IsPlain) (nests : nest a.names t = some names)
    (resolves : ∀ name, t = .reference name → Resolves name) : ∃ b, a.step t = .ok b := by
  obtain ⟨l, spelled⟩ := text
  suffices moved : ∃ b, Moves a t b by
    obtain ⟨b, moves⟩ := moved
    exact ⟨_, step_eq_ok_iff.mpr ⟨b, moves, rfl⟩⟩
  cases t with
  | text run =>
    obtain rfl : Utf8.encodeChars l = run := spelled
    exact ⟨_, .text (readText_encodeChars textual (plain rfl).2)⟩
  | cdata content =>
    obtain rfl : Utf8.encodeChars l = content := spelled
    exact ⟨_, .cdata (decode_encodeChars textual l)⟩
  | reference name =>
    obtain ⟨shown, content, rfl, resolved⟩ := resolves name rfl
    have read := decode_encodeChars textual shown.toList
    rw [String.ofList_toList] at read
    exact ⟨_, .reference read resolved⟩
  | startTag content => exact ⟨_, .startTag content⟩
  | emptyTag content => exact ⟨_, .emptyTag content⟩
  | endTag content =>
    cases opened : a.opened with
    | nil => simp [Assembly.names, opened, nest] at nests
    | cons innermost outer =>
      simp only [Assembly.names, opened, List.map_cons, nest] at nests
      split at nests
      next same => exact ⟨_, .endTag opened same⟩
      next => contradiction
  | instruction content => exact ⟨_, .instruction content⟩
  | comment content => exact ⟨_, .comment content⟩
  | doctype keyword content => exact ⟨_, .doctype keyword content⟩

theorem run_of_nestAll {l : List Token} (sound : ∀ t ∈ l, t.IsText ∧ t.IsPlain) {a : Assembly}
    {names : List Bytes} (textual : a.Textual) (nests : nestAll a.names l = some names)
    (resolves : ∀ name, .reference name ∈ l → Resolves name) : ∃ b, a.run l = .ok b := by
  induction l generalizing a with
  | nil => exact ⟨a, rfl⟩
  | cons t l ih =>
    rw [nestAll_cons] at nests
    obtain ⟨middle, first, rest⟩ := Option.bind_eq_some_iff.mp nests
    obtain ⟨text, plain⟩ := sound t (by simp)
    obtain ⟨next, done⟩ := step_of_nest textual text plain first (by
      rintro name rfl
      exact resolves name (by simp))
    have advances := step_advances textual text plain done
    obtain rfl : middle = next.names := Option.some.inj (first.symm.trans advances.nests)
    obtain ⟨b, finished⟩ := ih (fun u member => sound u (List.mem_cons_of_mem t member))
      advances.textual rest (fun name member => resolves name (List.mem_cons_of_mem t member))
    exact ⟨b, by rw [run_cons, done]; exact finished⟩

end Assembly

namespace Document

/-- The characters of a text that are read: up to two marks in front are not. -/
def input (s : String) : List Char := dropMark (String.ofList (dropMark s))

theorem dropUtf8Mark_encodeChars (l : List Char) :
    dropUtf8Mark (Utf8.encodeChars l) = Utf8.encodeChars (dropMark (String.ofList l)) := by
  have mark : utf8Mark = Utf8.encodeChars ['\uFEFF'] := by decide
  unfold dropUtf8Mark dropMark
  rw [String.toList_ofList]
  split
  next starts =>
    obtain ⟨rest, whole⟩ := List.isPrefixOf_iff_prefix.mp starts
    have bytes := whole
    rw [mark] at bytes
    obtain ⟨t, rfl, same⟩ := Utf8.encodeChars_eq_append bytes.symm
    rw [← whole, List.drop_left, ← same]
    rfl
  next other =>
    split
    next t =>
      refine absurd (List.isPrefixOf_iff_prefix.mpr ⟨Utf8.encodeChars t, ?_⟩) other
      rw [mark, ← Utf8.encodeChars_append, List.singleton_append]
    next => rfl

theorem lexed_eq (s : String) : lexed s = Lexed.ofBytes (Utf8.encodeChars (input s)) := by
  rw [lexed, dropUtf8Mark_encodeChars, input]

theorem parse_eq_ok_iff {s : String} {d : Document} :
    parse s = .ok d ↔ (lexed s).fault = none ∧
      ∃ a, (Assembly.start .utf8 true).run (lexed s).tokens = .ok a ∧ a.opened = [] ∧
        d = ⟨a.level.reverse⟩ := by
  rw [parse, map_eq_ok]
  constructor
  · rintro ⟨f, read, rfl⟩
    obtain ⟨a, ran, last⟩ := bind_eq_ok.mp read
    split at last
    next => contradiction
    next sound =>
      unfold Assembly.finish at last
      split at last
      next closed =>
        obtain rfl := Except.ok.inj last
        exact ⟨sound, a, ran, closed, rfl⟩
      next => contradiction
  · rintro ⟨sound, a, ran, closed, rfl⟩
    refine ⟨a.level.reverse, bind_eq_ok.mpr ⟨a, ran, ?_⟩, rfl⟩
    rw [sound]
    simp only [Assembly.finish, closed]

theorem sound_lexed (s : String) : ∀ t ∈ (lexed s).tokens, t.IsText ∧ t.IsPlain := by
  rw [lexed_eq]
  exact Lexed.tokens_of_text (Utf8.isText_encodeChars (input s))

/-- What reading a text takes for granted of its tokens, and what it makes of them. -/
theorem lexed_of_parse {s : String} {d : Document} (read : parse s = .ok d) :
    (lexed s).fault = none ∧ nestAll [] (lexed s).tokens = some [] ∧
      ∃ marks, List.Forall₂ Token.Shows (lexed s).tokens marks ∧ d.children.walk = marks.flatten := by
  obtain ⟨complete, a, ran, closed, rfl⟩ := parse_eq_ok_iff.mp read
  obtain ⟨nested, marks, shows, walked⟩ :=
    Assembly.run_advances (sound_lexed s) Assembly.textual_start ran
  have none : a.names = [] := List.map_eq_nil_iff.mpr closed
  rw [none] at nested
  rw [Assembly.walked, closed] at walked
  exact ⟨complete, nested, marks, shows, walked⟩

theorem parse_of_lexed {s : String} (complete : (lexed s).fault = none)
    (nested : nestAll [] (lexed s).tokens = some [])
    (resolves : ∀ name, .reference name ∈ (lexed s).tokens → Resolves name) :
    ∃ d, parse s = .ok d := by
  have sound := sound_lexed s
  obtain ⟨a, ran⟩ := Assembly.run_of_nestAll sound Assembly.textual_start nested resolves
  obtain ⟨after, -⟩ := Assembly.run_advances sound Assembly.textual_start ran
  have names := Option.some.inj (nested.symm.trans after)
  exact ⟨_, parse_eq_ok_iff.mpr ⟨complete, a, ran, List.map_eq_nil_iff.mp names.symm, rfl⟩⟩

/-- A text is a document if its markup is complete, its tags nest and its references have a meaning.
    The tokens are all that is read of it, and a walk through the tree meets what they show. -/
theorem parse_spells (s : String) :
    ((∃ d, parse s = .ok d) ↔
      (lexed s).fault = none ∧ Balanced (lexed s).tokens ∧
        ∀ name, .reference name ∈ (lexed s).tokens → Resolves name) ∧
    ∀ d, parse s = .ok d →
      Token.spellAll (lexed s).tokens = Utf8.encodeChars (input s) ∧
        ∃ marks, List.Forall₂ Token.Shows (lexed s).tokens marks ∧
          d.children.walk = marks.flatten := by
  refine ⟨⟨?_, ?_⟩, ?_⟩
  · rintro ⟨d, read⟩
    obtain ⟨complete, nested, marks, shows, -⟩ := lexed_of_parse read
    exact ⟨complete, balanced_iff.mpr nested, fun _ member => Token.resolves_of_shows shows member⟩
  · rintro ⟨complete, balanced, resolves⟩
    exact parse_of_lexed complete (balanced_iff.mp balanced) resolves
  · intro d read
    obtain ⟨complete, -, marks, shows, walked⟩ := lexed_of_parse read
    refine ⟨?_, marks, shows, walked⟩
    rw [lexed_eq] at complete ⊢
    exact Lexed.spellAll_tokens complete

theorem parse_spells_nested :
    parse "<a>x&amp;<b/></a>"
        = .ok ⟨.element "a" (.text "x&" (.element "b" .nil .nil)) .nil⟩ ∧
      Balanced (lexed "<a>x&amp;<b/></a>").tokens ∧
      ∃ marks, List.Forall₂ Token.Shows (lexed "<a>x&amp;<b/></a>").tokens marks ∧
        marks.flatten = [.enter "a", .character 'x', .character '&', .enter "b", .leave "b",
          .leave "a"] := by
  have read : parse "<a>x&amp;<b/></a>"
      = .ok ⟨.element "a" (.text "x&" (.element "b" .nil .nil)) .nil⟩ := by cbv
  have spells := parse_spells "<a>x&amp;<b/></a>"
  obtain ⟨-, marks, shows, walked⟩ := spells.2 _ read
  exact ⟨read, (spells.1.mp ⟨_, read⟩).2.1, marks, shows, walked.symm⟩

end Document

end PomToGradle
