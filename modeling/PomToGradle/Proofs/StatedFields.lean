import Mathlib.Data.List.Basic
import Mathlib.Data.List.DropRight
import PomToGradle.Proofs.DependencyReading
import PomToGradle.Proofs.Occurrence

/-!
What an element states, and when that makes it a dependency. A field is stated by the first element of
its name below, with the text directly inside that element and without the white space at its ends. The
contract `Dependency.Stated` lists all that has to be stated, in order; reading meets it and nothing
else does.
-/
namespace PomToGradle

/-- The texts at the top of a forest put together in document order, without those inside elements. -/
inductive DirectText : Forest → String → Prop where
  | nil : DirectText .nil ""
  | text {rest : Forest} {s : String} (content : String) (later : DirectText rest s) :
      DirectText (.text content rest) (content ++ s)
  | element {rest : Forest} {s : String} (name : String) (children : Forest)
      (later : DirectText rest s) : DirectText (.element name children rest) s

theorem directText_characters (f : Forest) : DirectText f f.characters := by
  induction f with
  | nil => exact .nil
  | text content rest ih => exact .text content ih
  | element name children rest _ ih => exact .element name children ih

theorem characters_eq_iff {f : Forest} {s : String} : f.characters = s ↔ DirectText f s := by
  constructor
  · rintro rfl
    exact directText_characters f
  · intro direct
    induction direct with
    | nil => rfl
    | text content _ ih => exact congrArg (content ++ ·) ih
    | element name children _ ih => exact ih

/-- The first and the last character of each range of white space in Unicode. -/
def whiteSpaceRanges : List (Nat × Nat) :=
  [(0x0009, 0x000D), (0x0020, 0x0020), (0x0085, 0x0085), (0x00A0, 0x00A0), (0x1680, 0x1680),
   (0x2000, 0x200A), (0x2028, 0x2029), (0x202F, 0x202F), (0x205F, 0x205F), (0x3000, 0x3000)]

def WhiteSpace (c : Char) : Prop :=
  ∃ range ∈ whiteSpaceRanges, range.1 ≤ c.toNat ∧ c.toNat ≤ range.2

theorem isBlank_iff {c : Char} : isBlank c = true ↔ WhiteSpace c := by
  simp [isBlank, WhiteSpace, whiteSpaceRanges]
  omega

/-- The text without the white space at its ends; that between other characters stays. -/
structure Trims (s t : String) : Prop where
  parts : ∃ front back : List Char, s.toList = front ++ t.toList ++ back ∧
    (∀ c ∈ front, WhiteSpace c) ∧ ∀ c ∈ back, WhiteSpace c
  first : ∀ c ∈ t.toList.head?, ¬ WhiteSpace c
  last : ∀ c ∈ t.toList.getLast?, ¬ WhiteSpace c

theorem dropWhile_of_front {front l : List Char} (blank : ∀ c ∈ front, isBlank c)
    (solid : ∀ c ∈ l.head?, isBlank c = false) : (front ++ l).dropWhile isBlank = l := by
  rw [List.dropWhile_append_of_pos blank]
  cases l with
  | nil => rfl
  | cons c l => simp [solid c rfl]

theorem trimChars_append {front l back : List Char} (before : ∀ c ∈ front, isBlank c)
    (after : ∀ c ∈ back, isBlank c) (first : ∀ c ∈ l.head?, isBlank c = false)
    (last : ∀ c ∈ l.getLast?, isBlank c = false) : trimChars (front ++ l ++ back) = l := by
  have reversed : ∀ c ∈ back.reverse, isBlank c := by simpa using after
  have lastFirst : ∀ c ∈ l.reverse.head?, isBlank c = false := by simpa using last
  cases l with
  | nil =>
    have blank : ∀ c ∈ front ++ [] ++ back, isBlank c := by
      simpa [or_imp, forall_and] using And.intro before after
    rw [trimChars, List.dropWhile_eq_nil_iff.mpr blank]
    rfl
  | cons c l =>
    have start : ∀ d ∈ (c :: l ++ back).head?, isBlank d = false := by simpa using first
    rw [trimChars, List.append_assoc, dropWhile_of_front before start, List.reverse_append,
      dropWhile_of_front reversed lastFirst, List.reverse_reverse]

theorem trims_trim (s : String) : Trims s (trim s) := by
  have shown : (trim s).toList = (s.toList.dropWhile isBlank).rdropWhile isBlank :=
    String.toList_ofList
  refine ⟨⟨s.toList.takeWhile isBlank, (s.toList.dropWhile isBlank).rtakeWhile isBlank, ?_, ?_, ?_⟩,
    ?_, ?_⟩
  · rw [shown, List.append_assoc, List.rdropWhile_append_rtakeWhile,
      List.takeWhile_append_dropWhile]
  · exact fun c member => isBlank_iff.mp (List.mem_takeWhile_imp member)
  · exact fun c member => isBlank_iff.mp (List.mem_rtakeWhile_imp member)
  · intro c first
    obtain ⟨rest, whole⟩ := List.rdropWhile_prefix isBlank (s.toList.dropWhile isBlank)
    rw [← shown] at whole
    have leading := List.mem_head?_append_of_mem_head? (t := rest) first
    have solid := List.head?_dropWhile_not isBlank s.toList
    rw [← whole, Option.mem_def.mp leading] at solid
    simpa [← isBlank_iff] using solid
  · intro c last
    rw [shown] at last
    obtain ⟨some, rfl⟩ := List.mem_getLast?_eq_getLast last
    simpa [← isBlank_iff] using List.rdropWhile_last_not isBlank _ some

theorem trim_eq_iff {s t : String} : trim s = t ↔ Trims s t := by
  constructor
  · rintro rfl
    exact trims_trim s
  · rintro ⟨⟨front, back, whole, before, after⟩, first, last⟩
    simp only [← isBlank_iff, Bool.not_eq_true] at before after first last
    rw [trim, whole, trimChars_append before after first last, String.ofList_toList]

namespace Element

/-- The text of a field, if there is an element of the name. -/
def States (e : Element) (tag value : String) : Prop :=
  ∃ first others text, e.children.descendants tag = first :: others ∧
    DirectText first.children text ∧ Trims text value

/-- A field that is there and not blank. -/
structure Gives (e : Element) (tag value : String) : Prop where
  states : e.States tag value
  filled : value ≠ ""

variable {e : Element} {tag value : String}

theorem findText?_eq_some_iff : e.findText? tag = some value ↔ e.States tag value := by
  rw [findText?, descendant?_eq, States]
  cases e.children.descendants tag with
  | nil => simp
  | cons first others => simp [← characters_eq_iff, text, trim_eq_iff]

theorem findText?_eq_none_iff : e.findText? tag = none ↔ ¬ e.children.Holds tag := by
  rw [findText?, descendant?_eq, Forest.holds_iff]
  simp

theorem required_eq_ok_iff : e.required tag = .ok value ↔ e.Gives tag value := by
  constructor
  · intro read
    unfold required at read
    split at read
    next text found =>
      split at read
      next => contradiction
      next some =>
        obtain rfl := Except.ok.inj read
        exact ⟨findText?_eq_some_iff.mp found, by simpa using some⟩
    next => contradiction
  · rintro ⟨states, filled⟩
    rw [required, findText?_eq_some_iff.mpr states]
    simp [filled]

theorem error_of_required {error : PomError} (failure : e.required tag = .error error) :
    error = .missingField tag := by
  unfold required at failure
  split at failure
  next =>
    split at failure
    next => exact (Except.error.inj failure).symm
    next => contradiction
  next => exact (Except.error.inj failure).symm

theorem required_eq_error_iff {error : PomError} :
    e.required tag = .error error ↔ error = .missingField tag ∧ ∀ value, ¬ e.Gives tag value := by
  constructor
  · intro failure
    refine ⟨error_of_required failure, fun value gives => ?_⟩
    rw [required_eq_ok_iff.mpr gives] at failure
    contradiction
  · rintro ⟨rfl, absent⟩
    cases read : e.required tag with
    | ok value => exact absurd (required_eq_ok_iff.mp read) (absent value)
    | error error => rw [error_of_required read]

end Element

theorem Exclusion.ofElement_eq_ok_iff {x : Element} {y : Exclusion} :
    Exclusion.ofElement x = .ok y
      ↔ x.Gives "groupId" y.groupId ∧ x.Gives "artifactId" y.artifactId := by
  rw [← Element.required_eq_ok_iff, ← Element.required_eq_ok_iff]
  constructor
  · intro read
    obtain ⟨groupId, group, read⟩ := bind_eq_ok.mp read
    obtain ⟨artifactId, artifact, read⟩ := bind_eq_ok.mp read
    obtain rfl := Except.ok.inj read
    exact ⟨group, artifact⟩
  · rintro ⟨group, artifact⟩
    rw [Exclusion.ofElement, group, artifact]
    rfl

namespace Scope

def names : List String := ["compile", "test", "runtime", "provided", "system", "import"]

/-- A scope with a name is not kept as another text. -/
def Proper (scope : Scope) : Prop := ∀ text, scope = .other text → text ∉ names

/-- The scope that an element states, even an empty text, or else the default one. -/
inductive Stated (e : Element) : Scope → Prop where
  | given {scope : Scope} (states : e.States "scope" scope.text) (proper : scope.Proper) :
      Stated e scope
  | default (absent : ¬ e.children.Holds "scope") : Stated e .compile

theorem find?_known_eq_none {s : String} :
    (known.find? fun scope => scope.text == s) = none ↔ s ∉ names := by
  have listed : names = known.map text := rfl
  simp [listed]

theorem ofText_eq_iff {s : String} {scope : Scope} :
    ofText s = scope ↔ scope.text = s ∧ scope.Proper := by
  constructor
  · rintro rfl
    refine ⟨text_ofText s, fun text other => ?_⟩
    unfold ofText at other
    cases found : known.find? fun scope => scope.text == s with
    | none =>
      rw [found] at other
      obtain rfl := Scope.other.inj other
      exact find?_known_eq_none.mp found
    | some scope =>
      have member := List.mem_of_find?_eq_some found
      rw [found] at other
      obtain rfl : scope = .other text := other
      simp [known] at member
  · rintro ⟨rfl, proper⟩
    cases scope with
    | other text =>
      have unknown := find?_known_eq_none.mpr (proper text rfl)
      rw [ofText, Scope.text, unknown]
      rfl
    | _ => rfl

theorem ofElement_eq_iff {e : Element} {scope : Scope} :
    ofElement e = scope ↔ Stated e scope := by
  rw [ofElement]
  cases found : e.findText? "scope" with
  | none =>
    have absent := Element.findText?_eq_none_iff.mp found
    constructor
    · rintro rfl
      exact .default absent
    · intro stated
      cases stated with
      | default => rfl
      | given states =>
        rw [Element.findText?_eq_some_iff.mpr states] at found
        contradiction
  | some value =>
    constructor
    · intro same
      obtain ⟨rfl, proper⟩ := ofText_eq_iff.mp same
      exact .given (Element.findText?_eq_some_iff.mp found) proper
    · intro stated
      cases stated with
      | default absent =>
        rw [Element.findText?_eq_none_iff.mpr absent] at found
        contradiction
      | given states proper =>
        rw [Element.findText?_eq_some_iff.mpr states] at found
        exact ofText_eq_iff.mpr ⟨Option.some.inj found, proper⟩

end Scope

namespace Dependency

/-- What reading an element comes to. -/
inductive Stated (e : Element) : Except PomError Dependency → Prop where
  /-- The first requirement that is not met is the error. -/
  | missing {before after : List (Element × String)} {x : Element} {tag : String}
      (order : e.requirements = before ++ (x, tag) :: after)
      (given : ∀ p ∈ before, ∃ value, p.1.Gives p.2 value)
      (absent : ∀ value, ¬ x.Gives tag value) : Stated e (.error (.missingField tag))
  | complete {d : Dependency} (groupId : e.Gives "groupId" d.groupId)
      (artifactId : e.Gives "artifactId" d.artifactId) (version : e.Gives "version" d.version)
      (exclusions : List.Forall₂
        (fun x y => x.Gives "groupId" y.groupId ∧ x.Gives "artifactId" y.artifactId)
        e.excluded d.exclusions)
      (scope : Scope.Stated e d.scope) : Stated e (.ok d)

theorem ofElement_eq_error_iff_stated {e : Element} {error : PomError} :
    ofElement e = .error error ↔ Stated e (.error error) := by
  -- Reading fails as the walk along the requirements does, and that walk stops at the first gap.
  rw [← failure?_eq_some_iff, failure?_ofElement, failure?_eq_some_iff, mapM_eq_iff]
  generalize order : e.requirements = requirements
  constructor
  · intro collected
    cases collected with
    | @first before after p _ sound failure =>
      obtain ⟨rfl, absent⟩ := Element.required_eq_error_iff.mp failure
      refine .missing order (fun q member => ?_) absent
      obtain ⟨value, read⟩ := sound q member
      exact ⟨value, Element.required_eq_ok_iff.mp read⟩
  · intro stated
    cases stated with
    | missing split given absent =>
      rw [← order, split]
      refine .first (fun q member => ?_) (Element.required_eq_error_iff.mpr ⟨rfl, absent⟩)
      obtain ⟨value, gives⟩ := given q member
      exact ⟨value, Element.required_eq_ok_iff.mpr gives⟩

theorem ofElement_eq_ok_iff_stated {e : Element} {d : Dependency} :
    ofElement e = .ok d ↔ Stated e (.ok d) := by
  simp only [ofElement_eq_ok_iff, Element.required_eq_ok_iff, exclusionsOf_eq, mapM_eq_ok_iff,
    Exclusion.ofElement_eq_ok_iff, Scope.ofElement_eq_iff]
  constructor
  · rintro ⟨groupId, artifactId, version, exclusions, scope⟩
    exact .complete groupId artifactId version exclusions scope
  · intro stated
    cases stated with
    | complete groupId artifactId version exclusions scope =>
      exact ⟨groupId, artifactId, version, exclusions, scope⟩

/-- An element is read as it states, and the first thing that it does not state is the error. -/
theorem ofElement_eq_iff_stated (e : Element) (r : Except PomError Dependency) :
    ofElement e = r ↔ Stated e r := by
  cases r with
  | error error => exact ofElement_eq_error_iff_stated
  | ok d => exact ofElement_eq_ok_iff_stated

end Dependency

end PomToGradle
