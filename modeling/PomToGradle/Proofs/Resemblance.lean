import PomToGradle.Proofs.DependencyReading

/-!
Trees that differ and are read alike. A resemblance is a relation between elements that searching keeps:
what is found in related elements is again related, one by one and in the same order, and a field has
the same text in both. Nothing that is read from an element can then tell it from one that resembles it.
-/
namespace PomToGradle

/-- The names that are looked for in a document. -/
def soughtTags : List String :=
  ["dependency", "dependencies", "groupId", "artifactId", "version", "scope", "exclusions", "exclusion"]

/-- The names of the elements whose text is read. -/
def fieldTags : List String := ["groupId", "artifactId", "version", "scope"]

theorem fieldTags_subset : fieldTags ⊆ soughtTags := by simp [fieldTags, soughtTags]

theorem Forest.name_of_mem_descendants {f : Forest} {tag : String} {e : Element}
    (member : e ∈ f.descendants tag) : e.name = tag := by
  induction f with
  | nil => simp [descendants] at member
  | text content rest ih => exact ih member
  | element name children rest inner outer =>
    have below (inside : e ∈ children.descendants tag ++ rest.descendants tag) : e.name = tag := by
      rcases List.mem_append.mp inside with within | behind
      · exact inner within
      · exact outer behind
    simp only [descendants] at member
    split at member
    next same =>
      rcases List.mem_cons.mp member with rfl | later
      · exact same
      · exact below later
    next => exact below member

theorem Element.name_of_descendant? {e found : Element} {tag : String}
    (first : e.descendant? tag = some found) : found.name = tag := by
  rw [descendant?_eq] at first
  exact Forest.name_of_mem_descendants (List.mem_of_head? first)

theorem head?_rel {α β : Type} {R : α → β → Prop} {l : List α} {m : List β}
    (related : List.Forall₂ R l m) : Option.Rel R l.head? m.head? := by
  cases related with
  | nil => exact .none
  | cons first _ => exact .some first

structure Resemblance (R : Element → Element → Prop) : Prop where
  descendants : ∀ {e e' : Element}, R e e' → ∀ tag ∈ soughtTags,
    List.Forall₂ R (e.children.descendants tag) (e'.children.descendants tag)
  text : ∀ {e e' : Element}, R e e' → e.name ∈ fieldTags → e.text = e'.text

namespace Resemblance

variable {R : Element → Element → Prop} {e e' : Element} {tag : String}

theorem descendant?_rel (alike : Resemblance R) (related : R e e') (sought : tag ∈ soughtTags) :
    Option.Rel R (e.descendant? tag) (e'.descendant? tag) := by
  rw [Element.descendant?_eq, Element.descendant?_eq]
  exact head?_rel (alike.descendants related tag sought)

theorem findText?_eq (alike : Resemblance R) (related : R e e') (field : tag ∈ fieldTags) :
    e.findText? tag = e'.findText? tag := by
  have found := alike.descendant?_rel related (fieldTags_subset field)
  have named (first : Element) (first? : e.descendant? tag = some first) : first.name = tag :=
    Element.name_of_descendant? first?
  rw [Element.findText?, Element.findText?]
  generalize e.descendant? tag = first at found named ⊢
  generalize e'.descendant? tag = first' at found ⊢
  cases found with
  | none => rfl
  | some related =>
    -- Only fields are sure to have the same text, so the name of what was found counts.
    have same := alike.text related (named _ rfl ▸ field)
    simp [same]

theorem required_eq (alike : Resemblance R) (related : R e e') (field : tag ∈ fieldTags) :
    e.required tag = e'.required tag := by
  rw [Element.required, Element.required, alike.findText?_eq related field]

theorem ofElement_exclusion_eq (alike : Resemblance R) (related : R e e') :
    Exclusion.ofElement e = Exclusion.ofElement e' := by
  rw [Exclusion.ofElement, Exclusion.ofElement, alike.required_eq related (by simp [fieldTags]),
    alike.required_eq related (by simp [fieldTags])]

theorem excluded_rel (alike : Resemblance R) (related : R e e') :
    List.Forall₂ R e.excluded e'.excluded := by
  have found := alike.descendants related "exclusions" (by simp [soughtTags])
  rw [Element.excluded, Element.excluded]
  generalize e.children.descendants "exclusions" = blocks at found ⊢
  generalize e'.children.descendants "exclusions" = blocks' at found ⊢
  cases found with
  | nil => exact .nil
  | cons first _ => exact alike.descendants first "exclusion" (by simp [soughtTags])

theorem exclusionsOf_eq (alike : Resemblance R) (related : R e e') :
    exclusionsOf e = exclusionsOf e' := by
  rw [PomToGradle.exclusionsOf_eq, PomToGradle.exclusionsOf_eq]
  exact mapM_congr_forall₂
    ((alike.excluded_rel related).imp fun _ _ => alike.ofElement_exclusion_eq)

theorem ofElement_scope_eq (alike : Resemblance R) (related : R e e') :
    Scope.ofElement e = Scope.ofElement e' := by
  rw [Scope.ofElement, Scope.ofElement, alike.findText?_eq related (by simp [fieldTags])]

theorem ofElement_dependency_eq (alike : Resemblance R) (related : R e e') :
    Dependency.ofElement e = Dependency.ofElement e' := by
  have field (tag : String) (member : tag ∈ fieldTags) := alike.required_eq related member
  rw [Dependency.ofElement, Dependency.ofElement, field "groupId" (by simp [fieldTags]),
    field "artifactId" (by simp [fieldTags]), field "version" (by simp [fieldTags]),
    alike.exclusionsOf_eq related, alike.ofElement_scope_eq related]

theorem extract_eq (alike : Resemblance R) {d d' : Document} (related : R d.root d'.root) :
    d.extract = d'.extract := by
  have found := alike.descendants related "dependency" (by simp [soughtTags])
  have read : (d.descendants "dependency").mapM Dependency.ofElement
      = (d'.descendants "dependency").mapM Dependency.ofElement := by
    rw [Document.descendants, Document.descendants, Element.descendants_eq, Element.descendants_eq]
    exact mapM_congr_forall₂ (found.imp fun _ _ => alike.ofElement_dependency_eq)
  have block : (d.root.descendant? "dependencies").isSome
      = (d'.root.descendant? "dependencies").isSome := by
    have first : Option.Rel R (d.root.descendant? "dependencies")
        (d'.root.descendant? "dependencies") := alike.descendant?_rel related (by simp [soughtTags])
    generalize d.root.descendant? "dependencies" = a at first ⊢
    generalize d'.root.descendant? "dependencies" = b at first ⊢
    cases first <;> rfl
  rw [Document.extract, Document.extract, read, block]

end Resemblance

end PomToGradle
