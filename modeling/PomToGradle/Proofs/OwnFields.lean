import Mathlib
import PomToGradle.Proofs.DependencyReading
import PomToGradle.Proofs.Occurrence

/-!
Where the fields of a dependency come from. A field is the first element of its name at any depth, so
an exclusion that stands in front of the dependency's own field gives its value instead. Without such
an exclusion the fields are those of the dependency with its exclusions taken away. The main result is
`fieldSources`.
-/
namespace PomToGradle

namespace Forest

/-- The forest without the elements of that name at its top. -/
def without (block : String) : Forest → Forest
  | nil => nil
  | text content rest => text content (rest.without block)
  | element name children rest =>
    if name = block then rest.without block else element name children (rest.without block)

/-- The first element called `tag` is a `block` at the top, or stands in one. -/
def Shadowed (block tag : String) (f : Forest) : Prop :=
  ∃ before inside after, f = before ++ element block inside after ∧ ¬ before.Holds tag ∧
    (element block inside nil).Holds tag

variable {block tag : String}

theorem not_holds_text (content : String) : ¬ (text content nil).Holds tag := by
  rw [holds_iff]
  simp [descendants]

theorem not_holds_append {f g : Forest} (left : ¬ f.Holds tag) (right : ¬ g.Holds tag) :
    ¬ (f ++ g).Holds tag := by
  rw [holds_iff, descendants_append, descendants_eq_nil left, descendants_eq_nil right]
  simp

theorem shadowed_append {f g : Forest} (absent : ¬ f.Holds tag) (shadowed : g.Shadowed block tag) :
    (f ++ g).Shadowed block tag := by
  obtain ⟨before, inside, after, rfl, free, holds⟩ := shadowed
  refine ⟨f ++ before, inside, after, ?_, not_holds_append absent free, holds⟩
  rw [append_assoc]

theorem shadowed_of_holds {inside rest : Forest} (holds : (element block inside nil).Holds tag) :
    (element block inside rest).Shadowed block tag :=
  ⟨nil, inside, rest, rfl, by simp [holds_iff, descendants], holds⟩

/-- Nothing that stands in front of the blocks is shadowed. -/
theorem not_shadowed_of_front {f g : Forest} (holds : f.Holds tag)
    (free : ∀ e ∈ f.elements, e.name ≠ block) : ¬ (f ++ g).Shadowed block tag := by
  rintro ⟨before, inside, after, order, absent, -⟩
  induction holds generalizing before with
  | here children rest =>
    cases before with
    | nil =>
      have same := (Forest.element.inj order).1
      exact free ⟨tag, children⟩ (by simp [elements]) same
    | text content behind => contradiction
    | element name children' behind =>
      obtain ⟨rfl, -⟩ := Forest.element.inj order
      exact absent (.here children' behind)
  | @inside children name rest within _ =>
    cases before with
    | nil =>
      have same := (Forest.element.inj order).1
      exact free ⟨name, children⟩ (by simp [elements]) same
    | text content behind => contradiction
    | element name' children' behind =>
      obtain ⟨rfl, rfl, -⟩ := Forest.element.inj order
      exact absent (.inside name behind within)
  | @behind rest name children _ ih =>
    cases before with
    | nil =>
      have same := (Forest.element.inj order).1
      exact free ⟨name, children⟩ (by simp [elements]) same
    | text content behind => contradiction
    | element name' children' behind =>
      obtain ⟨rfl, rfl, tail⟩ := Forest.element.inj order
      refine ih (fun e member => free e (by simp [elements, member])) behind tail ?_
      exact mt (Holds.behind name children) absent
  | @behindText rest content _ ih =>
    cases before with
    | nil => contradiction
    | text content' behind =>
      obtain ⟨rfl, tail⟩ := Forest.text.inj order
      exact ih free behind tail (mt (Holds.behindText content) absent)
    | element name children behind => contradiction

/-- Blocks at the top that do not come first do not count. -/
theorem head?_without {f : Forest} (clear : ¬ f.Shadowed block tag) :
    ((f.without block).descendants tag).head? = (f.descendants tag).head? := by
  induction f with
  | nil => rfl
  | text content rest ih =>
    have behind : ¬ rest.Shadowed block tag := mt (shadowed_append (not_holds_text content)) clear
    exact ih behind
  | element name children rest _ ih =>
    have apart (g : Forest) : element name children g = element name children nil ++ g := rfl
    by_cases first : (element name children nil).Holds tag
    · have other : name ≠ block := by
        rintro rfl
        exact clear (shadowed_of_holds first)
      rw [without, if_neg other, apart, apart rest, head?_descendants_append first,
        head?_descendants_append first]
    · have behind : ¬ rest.Shadowed block tag := by
        rw [apart] at clear
        exact mt (shadowed_append first) clear
      rw [without, apart rest, head?_descendants_behind first, ← ih behind]
      split
      next => rfl
      next => rw [apart, head?_descendants_behind first]

theorem head?_of_shadowed {before inside after : Forest} (other : tag ≠ block)
    (absent : ¬ before.Holds tag) (holds : inside.Holds tag) :
    ((before ++ element block inside after).descendants tag).head?
      = (inside.descendants tag).head? := by
  have same : (element block inside nil).descendants tag = inside.descendants tag := by
    simp [descendants, other.symm]
  have first : (element block inside nil).Holds tag := .inside block nil holds
  have apart : element block inside after = element block inside nil ++ after := rfl
  rw [head?_descendants_behind absent, apart, head?_descendants_append first, same]

end Forest

/-- The element without its own exclusions. Those of elements inside it stay. -/
def Element.own (e : Element) : Element := { e with children := e.children.without "exclusions" }

/-- The first element of that name comes from the exclusions. -/
def Element.Shadowed (e : Element) (tag : String) : Prop := e.children.Shadowed "exclusions" tag

section

variable {e : Element} {tag : String}

theorem descendant?_own (clear : ¬ e.Shadowed tag) : e.own.descendant? tag = e.descendant? tag := by
  rw [Element.descendant?_eq, Element.descendant?_eq]
  exact Forest.head?_without clear

theorem findText?_own (clear : ¬ e.Shadowed tag) : e.own.findText? tag = e.findText? tag := by
  rw [Element.findText?, Element.findText?, descendant?_own clear]

theorem required_own (clear : ¬ e.Shadowed tag) : e.own.required tag = e.required tag := by
  rw [Element.required, Element.required, findText?_own clear]

theorem exclusionsOf_own (clear : ¬ e.Shadowed "exclusions") :
    exclusionsOf e.own = exclusionsOf e := by
  rw [exclusionsOf, exclusionsOf, descendant?_own clear]

theorem scope_own (clear : ¬ e.Shadowed "scope") : Scope.ofElement e.own = Scope.ofElement e := by
  rw [Scope.ofElement, Scope.ofElement, findText?_own clear]

theorem fails_own {looked : List String} {error : PomError}
    (fails : Dependency.Fails e.own looked error) (clear : ∀ t ∈ looked, ¬ e.Shadowed t) :
    Dependency.Fails e looked error := by
  cases fails with
  | @field before after tag error order present missing =>
    refine .field order ?_ ?_
    · intro t member
      rw [← required_own (clear t (List.mem_append_left [tag] member))]
      exact present t member
    · rw [← required_own (clear tag (by simp))]
      exact missing
  | exclusions present broken =>
    refine .exclusions ?_ ?_
    · intro t member
      rw [← required_own (clear t (List.mem_append_left ["exclusions"] member))]
      exact present t member
    · rw [← exclusionsOf_own (clear "exclusions" (by simp))]
      exact broken

theorem eq_of_required_own (clear : ¬ e.Shadowed tag) {text text' : String}
    (whole : e.required tag = .ok text) (own : e.own.required tag = .ok text') : text = text' := by
  rw [required_own clear, whole] at own
  exact Except.ok.inj own

end

/-- How the fields of an element are related to those it has without its own exclusions. -/
structure FieldSources (e : Element) : Prop where
  kept : ∀ tag, ¬ e.Shadowed tag → e.findText? tag = e.own.findText? tag
  /-- The exclusions that come first give the field. -/
  lent : ∀ tag before inside after, tag ≠ "exclusions" →
    e.children = before ++ .element "exclusions" inside after → ¬ before.Holds tag →
    inside.Holds tag → e.findText? tag = Element.findText? ⟨"exclusions", inside⟩ tag
  fails : ∀ error, Dependency.ofElement e.own = .error error →
    ∃ looked, Dependency.Fails e.own looked error ∧
      ((∀ tag ∈ looked, ¬ e.Shadowed tag) → Dependency.ofElement e = .error error)
  agrees : ∀ own whole, Dependency.ofElement e.own = .ok own → Dependency.ofElement e = .ok whole →
    (¬ e.Shadowed "groupId" → whole.groupId = own.groupId) ∧
    (¬ e.Shadowed "artifactId" → whole.artifactId = own.artifactId) ∧
    (¬ e.Shadowed "version" → whole.version = own.version) ∧
    (¬ e.Shadowed "scope" → whole.scope = own.scope)

theorem fieldSources (e : Element) : FieldSources e where
  kept tag clear := (findText?_own clear).symm
  lent tag before inside after other order absent holds := by
    rw [Element.findText?, Element.findText?, Element.descendant?_eq, Element.descendant?_eq, order,
      Forest.head?_of_shadowed other absent holds]
  fails error failure := by
    obtain ⟨looked, fails⟩ := Dependency.ofElement_eq_error_iff.mp failure
    exact ⟨looked, fails, fun clear =>
      Dependency.ofElement_eq_error_iff.mpr ⟨looked, fails_own fails clear⟩⟩
  agrees own whole read read' := by
    obtain ⟨group, artifact, version, -, scope⟩ := Dependency.ofElement_eq_ok_iff.mp read
    obtain ⟨group', artifact', version', -, scope'⟩ := Dependency.ofElement_eq_ok_iff.mp read'
    refine ⟨?_, ?_, ?_, ?_⟩
    · intro clear
      exact eq_of_required_own clear group' group
    · intro clear
      exact eq_of_required_own clear artifact' artifact
    · intro clear
      exact eq_of_required_own clear version' version
    · intro clear
      rw [← scope, ← scope', scope_own clear]

def leaf (name content : String) (rest : Forest) : Forest := .element name (.text content .nil) rest

def oneExclusion (rest : Forest) : Forest :=
  .element "exclusions"
    (.element "exclusion" (leaf "groupId" "x" (leaf "artifactId" "y" .nil)) .nil) rest

def ownLeaves (rest : Forest) : Forest :=
  leaf "groupId" "g" (leaf "artifactId" "a" (leaf "version" "1" rest))

/-- The fields stand in front of the exclusion. -/
def ordered : Element := ⟨"dependency", ownLeaves (oneExclusion .nil)⟩

theorem fieldSources_ordered :
    ∃ own whole, Dependency.ofElement ordered.own = .ok own ∧
      Dependency.ofElement ordered = .ok whole ∧ whole.groupId = own.groupId ∧
      whole.artifactId = own.artifactId ∧ whole.version = own.version := by
  have own : Dependency.ofElement ordered.own = .ok ⟨"g", "a", "1", .compile, []⟩ := by cbv
  have whole : Dependency.ofElement ordered = .ok ⟨"g", "a", "1", .compile, [⟨"x", "y"⟩]⟩ := by cbv
  have clear (tag : String) (holds : (ownLeaves .nil).Holds tag) : ¬ ordered.Shadowed tag :=
    Forest.not_shadowed_of_front holds (by simp [ownLeaves, leaf, Forest.elements])
  obtain ⟨group, artifact, version, -⟩ := (fieldSources ordered).agrees _ _ own whole
  exact ⟨_, _, own, whole, group (clear "groupId" (by decide)),
    artifact (clear "artifactId" (by decide)), version (clear "version" (by decide))⟩

/-- No exclusion gives a field, wherever it stands. -/
structure Isolated (e : Element) : Prop where
  fails : ∀ tag, Dependency.ofElement e.own = .error (.missingField tag) →
    Dependency.ofElement e = .error (.missingField tag)
  agrees : ∀ own whole, Dependency.ofElement e.own = .ok own → Dependency.ofElement e = .ok whole →
    whole.groupId = own.groupId ∧ whole.artifactId = own.artifactId ∧ whole.version = own.version ∧
      whole.scope = own.scope

/-- The exclusion stands in front of the fields. -/
def misplaced : Element := ⟨"dependency", oneExclusion (ownLeaves .nil)⟩

/-- The exclusion has a field that the dependency has not. -/
def incomplete : Element :=
  ⟨"dependency", leaf "artifactId" "a" (leaf "version" "1" (oneExclusion .nil))⟩

theorem not_isolated : ¬ Isolated misplaced ∧ ¬ Isolated incomplete := by
  constructor
  · intro isolated
    have own : Dependency.ofElement misplaced.own = .ok ⟨"g", "a", "1", .compile, []⟩ := by cbv
    have whole : Dependency.ofElement misplaced = .ok ⟨"x", "y", "1", .compile, [⟨"x", "y"⟩]⟩ := by
      cbv
    have same := (isolated.agrees _ _ own whole).1
    exact absurd same (by decide)
  · intro isolated
    have own : Dependency.ofElement incomplete.own = .error (.missingField "groupId") := by cbv
    have whole : Dependency.ofElement incomplete = .ok ⟨"x", "a", "1", .compile, [⟨"x", "y"⟩]⟩ := by
      cbv
    have failure := isolated.fails "groupId" own
    rw [whole] at failure
    contradiction

end PomToGradle
