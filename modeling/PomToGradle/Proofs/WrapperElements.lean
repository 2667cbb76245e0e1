import Mathlib
import PomToGradle.Proofs.ConversionOrder
import PomToGradle.Proofs.Resemblance

/-!
Elements put around others. A run of nodes anywhere in a tree may be put into a new element, as long as
nothing looks for the new element's name and no text leaves a field. What the run holds is found in the
same order as before, so nothing that is extracted from the tree changes.
-/
namespace PomToGradle

namespace Forest

theorem characters_append (f g : Forest) : (f ++ g).characters = f.characters ++ g.characters := by
  induction f with
  | nil => simp [characters]
  | text content rest ih => simp [characters, ih, String.append_assoc]
  | element name children rest _ ih => simp [characters, ih]

/-- The nodes of an element of the name `parent`, before and after a run of nodes among them or below
    is put into a new element. A run of elements may stand anywhere; where text is read, it has to stay
    where it is. -/
inductive Wraps : String → Forest → Forest → Prop where
  | here {parent name : String} (run rest : Forest) (unsought : name ∉ soughtTags)
      (bare : parent ∈ fieldTags → run.characters = "") :
      Wraps parent (run ++ rest) (element name run rest)
  | inside (parent : String) {name : String} {children children' : Forest} (rest : Forest)
      (wraps : Wraps name children children') :
      Wraps parent (element name children rest) (element name children' rest)
  | behind {parent : String} (name : String) (children : Forest) {rest rest' : Forest}
      (wraps : Wraps parent rest rest') :
      Wraps parent (element name children rest) (element name children rest')
  | behindText {parent : String} (content : String) {rest rest' : Forest}
      (wraps : Wraps parent rest rest') : Wraps parent (text content rest) (text content rest')

end Forest

/-- The second element is the first one, or has a wrapper more inside. -/
inductive Element.Wraps : Element → Element → Prop where
  | same (e : Element) : Wraps e e
  | below {name : String} {f g : Forest} (wraps : Forest.Wraps name f g) : Wraps ⟨name, f⟩ ⟨name, g⟩

namespace Forest

variable {parent : String} {f g : Forest}

theorem characters_of_wraps (wraps : Wraps parent f g) (field : parent ∈ fieldTags) :
    f.characters = g.characters := by
  induction wraps with
  | here run rest _ bare => simp [characters_append, characters, bare field]
  | inside => rfl
  | behind name children _ ih => exact ih field
  | behindText content _ ih => simp [characters, ih field]

theorem wraps_same (l : List Element) : List.Forall₂ Element.Wraps l l :=
  List.forall₂_same.mpr fun e _ => .same e

/-- What is found on both sides is the same one by one, but for a wrapper inside one of the elements. -/
theorem descendants_of_wraps (wraps : Wraps parent f g) {tag : String} (sought : tag ∈ soughtTags) :
    List.Forall₂ Element.Wraps (f.descendants tag) (g.descendants tag) := by
  -- The wrapper itself is never found. An element around it may be, and is then related to itself
  -- with the wrapper inside; what is found beside it is the same.
  induction wraps with
  | @here parent name run rest unsought _ =>
    have other : name ≠ tag := fun same => unsought (same ▸ sought)
    rw [descendants_append, descendants, if_neg other]
    exact wraps_same _
  | @inside parent name children children' rest wraps ih =>
    have below := List.rel_append ih (wraps_same (rest.descendants tag))
    simp only [descendants]
    split
    · exact .cons (.below wraps) below
    · exact below
  | @behind parent name children rest rest' _ ih =>
    have below := List.rel_append (wraps_same (children.descendants tag)) ih
    simp only [descendants]
    split
    · exact .cons (.same _) below
    · exact below
  | behindText content _ ih => exact ih

end Forest

theorem resemblance_wraps : Resemblance Element.Wraps where
  descendants := by
    intro e e' related tag sought
    cases related with
    | same => exact Forest.wraps_same _
    | below wraps => exact Forest.descendants_of_wraps wraps sought
  text := by
    intro e e' related field
    cases related with
    | same => rfl
    | below wraps => exact Forest.characters_of_wraps wraps field

namespace Document

theorem extract_of_wraps {f g : Forest} (wraps : Forest.Wraps rootName f g) :
    (mk f).extract = (mk g).extract :=
  resemblance_wraps.extract_eq (Element.Wraps.below wraps)

/-- Any number of wrappers, one put after the other at any depth, also around wrappers. -/
def Wrapped (d e : Document) : Prop :=
  Relation.ReflTransGen (Forest.Wraps rootName) d.children e.children

theorem extract_of_wrapped {d e : Document} (wrapped : d.Wrapped e) : e.extract = d.extract := by
  obtain ⟨f⟩ := d
  obtain ⟨g⟩ := e
  change Relation.ReflTransGen (Forest.Wraps rootName) f g at wrapped
  induction wrapped with
  | refl => rfl
  | tail _ wraps ih => exact (extract_of_wraps wraps).symm.trans ih

/-- Wrapping changes neither what is extracted nor what it is converted to. -/
theorem convert_of_wrapped {d e : Document} (wrapped : d.Wrapped e) :
    e.extract = d.extract ∧ ∀ dialect, e.convert dialect = d.convert dialect := by
  have extracted := extract_of_wrapped wrapped
  exact ⟨extracted, fun dialect => convert_eq_of_extract extracted dialect⟩

/-- Three wrappers: one around the dependency, one around two of its fields with the line feed in front
    of them, one beside the text of a field. -/
theorem convert_of_wrapped_thrice :
    let version : Forest := .element "version" (.text "1" .nil) .nil
    let artifactId : Forest := .element "artifactId" (.text "a" .nil) .nil
    let classifier : Forest := .element "classifier" .nil .nil
    let plain : Document := ⟨.element "dependency"
      (.text "\n" (.element "groupId" (.text "g" classifier) (artifactId ++ version))) .nil⟩
    let wrapped : Document := ⟨.element "profile" (.element "dependency"
      (.element "coordinates"
        (.text "\n" (.element "groupId" (.text "g" (.element "note" classifier .nil)) artifactId))
        version) .nil) .nil⟩
    plain.Wrapped wrapped ∧ wrapped.extract = .ok ⟨[⟨"g", "a", "1", .compile, []⟩], false⟩ := by
  intro version artifactId classifier plain wrapped
  have field : Forest.Wraps "groupId" (.text "g" classifier)
      (.text "g" (.element "note" classifier .nil)) :=
    .behindText "g" (.here classifier .nil (by decide) fun _ => rfl)
  have first := Forest.Wraps.inside rootName .nil
    (.behindText "\n" (.inside "dependency" (artifactId ++ version) field))
  have second : Forest.Wraps rootName (.element "dependency" _ .nil) (.element "dependency" _ .nil) :=
    .inside rootName .nil (.here
      (.text "\n" (.element "groupId" (.text "g" (.element "note" classifier .nil)) artifactId))
      version (by decide : "coordinates" ∉ soughtTags) fun field => absurd field (by decide))
  have third : Forest.Wraps rootName _ wrapped.children :=
    .here (.element "dependency" _ .nil) .nil (by decide) fun field => absurd field (by decide)
  have steps : plain.Wrapped wrapped := ((Relation.ReflTransGen.single first).tail second).tail third
  refine ⟨steps, ?_⟩
  rw [(convert_of_wrapped steps).1]
  cbv

end Document

end PomToGradle
