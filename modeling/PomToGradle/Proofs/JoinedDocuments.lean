import Mathlib
import PomToGradle.Proofs.ConversionOrder
import PomToGradle.Proofs.PlacedTree
import PomToGradle.Proofs.TokenSeam
import PomToGradle.Proofs.WrittenForest

/-!
Documents put together as texts. Two documents one behind the other are read as the nodes of the first
and then those of the second, and what is extracted is extracted from each in turn. A document inside
an element of its own is read as the nodes of that element.
-/
namespace PomToGradle

namespace Assembly

/-- A tree under way is a place to go on at. -/
def place (a : Assembly) : Place := ⟨a.offset, a.level, a.opened⟩

theorem placed_start {a : Assembly} (textual : a.Textual) :
    (start .utf8 true).placed a.place = a := by
  obtain ⟨offset, charset, settled, level, opened⟩ := a
  obtain ⟨rfl, rfl⟩ := textual
  rfl

/-- Going on with a tree does what would be done from the start. -/
theorem run_of_run_start {a b : Assembly} {l : List Token} (textual : a.Textual)
    (done : (start .utf8 true).run l = .ok b) : a.run l = .ok (b.placed a.place) := by
  have placed := run_placed a.place done
  rwa [placed_start textual] at placed

theorem run_endTag {a : Assembly} {content : Bytes} {innermost : OpenElement}
    {outer : List OpenElement} (opened : a.opened = innermost :: outer)
    (same : innermost.name = endTagName content) :
    a.run [.endTag content] = .ok
      { a with
        offset := a.offset + (Token.endTag content).length
        level := .element (elementName innermost.name) a.level.reverse innermost.before
        opened := outer } := by
  rw [run_cons, step_eq_ok_iff.mpr ⟨_, .endTag opened same, rfl⟩]
  rfl

end Assembly

namespace Document

theorem extract_eq_ok_iff {d : Document} {x : Extraction} :
    d.extract = .ok x ↔
      (d.children.descendants "dependency").mapM Dependency.ofElement = .ok x.dependencies ∧
        x.hasBlock = (d.root.descendant? "dependencies").isSome := by
  cases read : (d.children.descendants "dependency").mapM Dependency.ofElement with
  | error error => simp [extract_eq_error read]
  | ok l =>
    rw [extract_eq_ok read]
    constructor
    · intro same
      obtain rfl := Except.ok.inj same
      exact ⟨rfl, rfl⟩
    · rintro ⟨same, block⟩
      rw [Except.ok.inj same, ← block]

theorem extract_eq_error_iff {d : Document} {error : PomError} :
    d.extract = .error error ↔
      (d.children.descendants "dependency").mapM Dependency.ofElement = .error error := by
  cases read : (d.children.descendants "dependency").mapM Dependency.ofElement with
  | error first => rw [extract_eq_error read, Except.error.injEq, Except.error.injEq]
  | ok l => simp [extract_eq_ok read]

theorem isSome_descendant?_join (f g : Forest) (tag : String) :
    ((mk (f.join g)).root.descendant? tag).isSome
      = (((mk f).root.descendant? tag).isSome || ((mk g).root.descendant? tag).isSome) := by
  simp only [Element.descendant?_eq, root, Forest.descendants_join]
  simp

variable {f g : Forest}

theorem extract_join_of_ok {x y : Extraction} (first : (mk f).extract = .ok x)
    (second : (mk g).extract = .ok y) :
    (mk (f.join g)).extract
      = .ok ⟨x.dependencies ++ y.dependencies, x.hasBlock || y.hasBlock⟩ := by
  obtain ⟨read, block⟩ := extract_eq_ok_iff.mp first
  obtain ⟨read', block'⟩ := extract_eq_ok_iff.mp second
  refine extract_eq_ok_iff.mpr ⟨?_, ?_⟩
  · rw [Forest.descendants_join, List.mapM_append, read, read']
    rfl
  · rw [isSome_descendant?_join, block, block']

theorem extract_join_of_error {error : PomError} (first : (mk f).extract = .error error) :
    (mk (f.join g)).extract = .error error := by
  rw [extract_eq_error_iff] at first ⊢
  rw [Forest.descendants_join, List.mapM_append, first]
  rfl

theorem extract_join_of_error_behind {x : Extraction} {error : PomError}
    (first : (mk f).extract = .ok x) (second : (mk g).extract = .error error) :
    (mk (f.join g)).extract = .error error := by
  obtain ⟨read, -⟩ := extract_eq_ok_iff.mp first
  rw [extract_eq_error_iff] at second ⊢
  rw [Forest.descendants_join, List.mapM_append, read, second]
  rfl

theorem dropMark_append (l : List Char) {r : List Char} (unmarked : r.head? ≠ some '\uFEFF') :
    dropMark (String.ofList (l ++ r)) = dropMark (String.ofList l) ++ r := by
  cases l with
  | nil =>
    rw [List.nil_append, dropMark_of_unmarked unmarked]
    rfl
  | cons c l =>
    by_cases mark : c = '\uFEFF'
    · rw [mark, List.cons_append, dropMark_mark, dropMark_mark]
    · rw [dropMark_of_unmarked (by simpa using mark), dropMark_of_unmarked (by simpa using mark)]

theorem input_append (s : String) {t : String} (unmarked : t.toList.head? ≠ some '\uFEFF') :
    input (s ++ t) = input s ++ t.toList := by
  have whole : s ++ t = String.ofList (s.toList ++ t.toList) := by simp
  rw [input, whole, dropMark_append _ unmarked, dropMark_append _ unmarked, String.ofList_toList]
  rfl

theorem parse_append_join {s t : String} {d e : Document}
    (unmarked : t.toList.head? ≠ some '\uFEFF') (first : parse s = .ok d) (second : parse t = .ok e) :
    parse (s ++ t) = .ok ⟨d.children.join e.children⟩ := by
  obtain ⟨complete, a, ran, closed, rfl⟩ := parse_eq_ok_iff.mp first
  obtain ⟨complete', b, ran', closed', rfl⟩ := parse_eq_ok_iff.mp second
  rw [lexed_eq] at complete complete' ran ran'
  rw [input_of_unmarked unmarked] at complete' ran'
  have seam := Assembly.run_ofBytes_append Assembly.textual_start complete t.toList
  rw [← input_append s unmarked, ← lexed_eq, ran] at seam
  have placed := Assembly.run_of_run_start (Assembly.textual_of_run Assembly.textual_start ran) ran'
  refine parse_eq_ok_iff.mpr ⟨seam.1.trans complete', _, seam.2.trans placed, ?_, ?_⟩
  · simp [Assembly.placed, closed', Place.opened, Assembly.place, closed]
  · simp [Assembly.placed, closed', Place.level, Assembly.place, Forest.reverse_onto]

/-- Two documents one behind the other. -/
theorem parse_append {s t : String} {d e : Document} (unmarked : t.toList.head? ≠ some '\uFEFF')
    (first : parse s = .ok d) (second : parse t = .ok e) :
    ∃ whole : Document, parse (s ++ t) = .ok whole ∧
      d.children.Joined e.children whole.children ∧
      (∀ x y, d.extract = .ok x → e.extract = .ok y →
        whole.extract = .ok ⟨x.dependencies ++ y.dependencies, x.hasBlock || y.hasBlock⟩) ∧
      (∀ error, d.extract = .error error → whole.extract = .error error) ∧
      ∀ x error, d.extract = .ok x → e.extract = .error error → whole.extract = .error error := by
  refine ⟨_, parse_append_join unmarked first second, Forest.joined_join _ _, ?_, ?_, ?_⟩
  · intro x y read read'
    exact extract_join_of_ok read read'
  · intro error failure
    exact extract_join_of_error failure
  · intro x error read failure
    exact extract_join_of_error_behind read failure

theorem parse_append_behind_text :
    ∃ whole : Document, parse ("<dependencies/>x&amp;" ++ "y<dependency/>") = .ok whole ∧
      (Forest.element "dependencies" .nil (.text "x&" .nil)).Joined
        (.text "y" (.element "dependency" .nil .nil)) whole.children ∧
      whole.extract = .error (.missingField "groupId") := by
  have first : parse "<dependencies/>x&amp;" = .ok ⟨.element "dependencies" .nil (.text "x&" .nil)⟩ := by
    cbv
  have second : parse "y<dependency/>" = .ok ⟨.text "y" (.element "dependency" .nil .nil)⟩ := by
    cbv
  obtain ⟨whole, read, joined, -, -, failure⟩ := parse_append (by decide) first second
  exact ⟨whole, read, joined, failure ⟨[], true⟩ _ (by cbv) (by cbv)⟩

theorem extract_eq_of_descendants {d e : Document}
    (same : ∀ tag ∈ ["dependency", "dependencies"],
      d.children.descendants tag = e.children.descendants tag) : d.extract = e.extract := by
  have dependencies : d.descendants "dependency" = e.descendants "dependency" := by
    simp only [descendants, Element.descendants_eq, root, same "dependency" (by simp)]
  have block : d.root.descendant? "dependencies" = e.root.descendant? "dependencies" := by
    simp only [Element.descendant?_eq, root, same "dependencies" (by simp)]
  rw [extract, extract, dependencies, block]

/-- The document inside an element that is named like the one every document hangs off. -/
def enclosed (d : Document) : Document := ⟨.element rootName d.children .nil⟩

theorem extract_enclosed (d : Document) : d.enclosed.extract = d.extract := by
  apply extract_eq_of_descendants
  intro tag member
  have other : rootName ≠ tag := by
    rintro rfl
    revert member
    decide
  simp [enclosed, Forest.descendants, other]

def openingTag : String := "<root>"

def closingTag : String := "</root>"

/-- What stands behind the opening tag is read from here on. -/
def insideRoot : Assembly := ⟨6, .utf8, true, .nil, [⟨Utf8.encode rootName, .nil⟩]⟩

/-- What is read from there on and the closing tag are one element. -/
theorem run_insideRoot {b : Assembly} {l : List Token}
    (ran : (Assembly.start .utf8 true).run l = .ok b) (closed : b.opened = []) :
    ∃ a : Assembly, (insideRoot.run l >>= fun c => c.run [.endTag (Utf8.encode rootName)]) = .ok a ∧
      a.opened = [] ∧ a.level = .element rootName b.level.reverse .nil := by
  have textual : insideRoot.Textual := ⟨rfl, rfl⟩
  have under : (b.placed insideRoot.place).opened = [⟨Utf8.encode rootName, .nil⟩] := by
    simp [Assembly.placed, closed, Place.opened, Assembly.place, insideRoot]
  have level : (b.placed insideRoot.place).level = b.level := by
    simp [Assembly.placed, closed, Place.level, Assembly.place, insideRoot, Forest.onto_nil]
  have matching : Utf8.encode rootName = endTagName (Utf8.encode rootName) := by decide
  have name : elementName (Utf8.encode rootName) = rootName := by decide
  rw [Assembly.run_of_run_start textual ran]
  exact ⟨_, Assembly.run_endTag under matching, rfl, by rw [level, name]⟩

theorem parse_eq_enclosed {s : String} {d : Document} (unmarked : s.toList.head? ≠ some '\uFEFF')
    (read : parse s = .ok d) : parse ("<root>" ++ s ++ "</root>") = .ok d.enclosed := by
  have whole : input ("<root>" ++ s ++ "</root>")
      = openingTag.toList ++ (s.toList ++ closingTag.toList) := by
    rw [input_of_unmarked (by simp), String.toList_append, String.toList_append, List.append_assoc]
    rfl
  have opening : Lexed.ofBytes (Utf8.encodeChars openingTag.toList)
      = ⟨[.startTag (Utf8.encode rootName)], none⟩ := by decide +kernel
  have closing : Lexed.ofBytes (Utf8.encodeChars closingTag.toList)
      = ⟨[.endTag (Utf8.encode rootName)], none⟩ := by decide +kernel
  have opened : (Assembly.start .utf8 true).run [.startTag (Utf8.encode rootName)]
      = .ok insideRoot := by rfl
  have begun : (Lexed.ofBytes (Utf8.encodeChars openingTag.toList)).fault = none := by rw [opening]
  obtain ⟨complete, b, ran, closed, rfl⟩ := parse_eq_ok_iff.mp read
  rw [lexed_eq, input_of_unmarked unmarked] at complete ran
  obtain ⟨a, inside, done, level⟩ := run_insideRoot ran closed
  -- there is a seam behind the opening tag and another one before the closing tag
  obtain ⟨sound, outer⟩ :=
    Assembly.run_ofBytes_append Assembly.textual_start begun (s.toList ++ closingTag.toList)
  obtain ⟨sound', inner⟩ :=
    Assembly.run_ofBytes_append (a := insideRoot) ⟨rfl, rfl⟩ complete closingTag.toList
  rw [← whole, ← lexed_eq, opening, opened] at outer
  rw [closing] at inner
  refine parse_eq_ok_iff.mpr ⟨?_, a, outer.trans (inner.trans inside), done, ?_⟩
  · rw [lexed_eq, whole, sound, sound', closing]
  · rw [level]
    rfl

/-- A document read inside an element `root` is that element, and nothing that is extracted from it or
    made of it changes. -/
theorem parse_in_root {s : String} {d : Document} (unmarked : s.toList.head? ≠ some '\uFEFF')
    (read : parse s = .ok d) :
    ∃ whole : Document, parse ("<root>" ++ s ++ "</root>") = .ok whole ∧
      whole.children = .element "root" d.children .nil ∧ whole.extract = d.extract ∧
      ∀ dialect, whole.convert dialect = d.convert dialect := by
  have extracted := extract_enclosed d
  refine ⟨d.enclosed, parse_eq_enclosed unmarked read, rfl, extracted, ?_⟩
  intro dialect
  exact convert_eq_of_extract extracted dialect

theorem parse_in_root_declared :
    ∃ whole : Document,
      parse ("<root>" ++ "<?xml version='1.0'?>x<a/><dependencies/>&lt;" ++ "</root>") = .ok whole ∧
      whole.children = .element "root"
        (.text "x" (.element "a" .nil (.element "dependencies" .nil (.text "<" .nil)))) .nil ∧
      (whole.convert .kotlin).result = .ok "dependencies \x7b\n    \n\x7d" := by
  have read : parse "<?xml version='1.0'?>x<a/><dependencies/>&lt;"
      = .ok ⟨.text "x" (.element "a" .nil (.element "dependencies" .nil (.text "<" .nil)))⟩ := by
    cbv
  obtain ⟨whole, inside, children, -, converted⟩ := parse_in_root (by decide) read
  refine ⟨whole, inside, children, ?_⟩
  rw [converted]
  cbv

end Document

end PomToGradle
