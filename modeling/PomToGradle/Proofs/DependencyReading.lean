import PomToGradle.Dependency.Extract
import PomToGradle.Proofs.OrderedCollection

/-!
What reading one dependency comes to: all fields that it gives if it succeeds, and the first thing
missing if it fails. Of a failure nothing counts but the order of what is required, so reading a
dependency fails as looking for its requirements one by one does.
-/
namespace PomToGradle

/-- The fields a dependency has to have, in the order in which they are looked up. -/
def requiredTags : List String := ["groupId", "artifactId", "version"]

namespace Element

/-- The exclusions in the first `exclusions` below; there is no looking into further ones. -/
def excluded (e : Element) : List Element :=
  match e.children.descendants "exclusions" with
  | [] => []
  | block :: _ => block.children.descendants "exclusion"

/-- All that a dependency has to state, in the order in which it is looked for. -/
def requirements (e : Element) : List (Element × String) :=
  requiredTags.map (fun tag => (e, tag))
    ++ e.excluded.flatMap fun x => [(x, "groupId"), (x, "artifactId")]

end Element

theorem exclusionsOf_eq (e : Element) : exclusionsOf e = e.excluded.mapM Exclusion.ofElement := by
  rw [exclusionsOf, Element.descendant?_eq, Element.excluded]
  cases e.children.descendants "exclusions" with
  | nil => rfl
  | cons block others => simp only [List.head?_cons, Element.descendants_eq]

theorem Exclusion.failure?_ofElement (x : Element) :
    failure? (Exclusion.ofElement x)
      = failure? ([(x, "groupId"), (x, "artifactId")].mapM fun p => p.1.required p.2) := by
  simp only [List.mapM_cons, List.mapM_nil, Exclusion.ofElement]
  refine failure?_bind rfl fun _ _ => ?_
  cases x.required "artifactId" <;> rfl

namespace Dependency

/-- Reading an element fails once these names were looked up in it. -/
inductive Fails (e : Element) : List String → PomError → Prop where
  | field {before after : List String} {tag : String} {error : PomError}
      (order : requiredTags = before ++ tag :: after)
      (present : ∀ t ∈ before, ∃ text, e.required t = .ok text)
      (missing : e.required tag = .error error) : Fails e (before ++ [tag]) error
  | exclusions {error : PomError} (present : ∀ t ∈ requiredTags, ∃ text, e.required t = .ok text)
      (broken : exclusionsOf e = .error error) : Fails e (requiredTags ++ ["exclusions"]) error

variable {e : Element}

theorem ofElement_eq_ok_iff {d : Dependency} :
    ofElement e = .ok d ↔ e.required "groupId" = .ok d.groupId ∧
      e.required "artifactId" = .ok d.artifactId ∧ e.required "version" = .ok d.version ∧
      exclusionsOf e = .ok d.exclusions ∧ Scope.ofElement e = d.scope := by
  constructor
  · intro read
    obtain ⟨groupId, group, read⟩ := bind_eq_ok.mp read
    obtain ⟨artifactId, artifact, read⟩ := bind_eq_ok.mp read
    obtain ⟨version, numbered, read⟩ := bind_eq_ok.mp read
    obtain ⟨exclusions, excluded, read⟩ := bind_eq_ok.mp read
    obtain rfl := Except.ok.inj read
    exact ⟨group, artifact, numbered, excluded, rfl⟩
  · rintro ⟨group, artifact, version, exclusions, scope⟩
    rw [ofElement, group, artifact, version, exclusions, scope]
    rfl

theorem failure?_ofElement (e : Element) :
    failure? (ofElement e) = failure? (e.requirements.mapM fun p => p.1.required p.2) := by
  simp only [Element.requirements, requiredTags, List.map_cons, List.map_nil, List.cons_append,
    List.nil_append, List.mapM_cons, ofElement, exclusionsOf_eq, bind_assoc, pure_bind]
  refine failure?_bind rfl fun _ _ => failure?_bind rfl fun _ _ => failure?_bind rfl fun _ _ => ?_
  exact failure?_bind (failure?_mapM_flatMap Exclusion.failure?_ofElement e.excluded) fun _ _ => rfl

theorem ofElement_of_mapM {error : PomError} (failure : requiredTags.mapM e.required = .error error) :
    ofElement e = .error error := by
  have front : (requiredTags.map fun tag => (e, tag)).mapM (fun p => p.1.required p.2)
      = .error error := by
    rw [List.mapM_map]
    exact failure
  rw [← failure?_eq_some_iff, failure?_ofElement, failure?_eq_some_iff, Element.requirements,
    List.mapM_append, front]
  rfl

theorem ofElement_of_fails {looked : List String} {error : PomError} (fails : Fails e looked error) :
    ofElement e = .error error := by
  cases fails with
  | field order present missing =>
    apply ofElement_of_mapM
    rw [order]
    exact mapM_eq_error present missing
  | exclusions present broken =>
    obtain ⟨groupId, group⟩ := present "groupId" (by simp [requiredTags])
    obtain ⟨artifactId, artifact⟩ := present "artifactId" (by simp [requiredTags])
    obtain ⟨number, version⟩ := present "version" (by simp [requiredTags])
    rw [ofElement, group, artifact, version, broken]
    rfl

theorem fails_of_ofElement {error : PomError} (failure : ofElement e = .error error) :
    ∃ looked, Fails e looked error := by
  suffices fails : ∃ looked first, Fails e looked first by
    obtain ⟨looked, first, fails⟩ := fails
    obtain rfl := Except.error.inj ((ofElement_of_fails fails).symm.trans failure)
    exact ⟨looked, fails⟩
  have contract := collected_mapM e.required requiredTags
  generalize order : requiredTags = tags at contract
  generalize tags.mapM e.required = texts at contract
  cases contract with
  | first sound missing => exact ⟨_, _, .field order sound missing⟩
  | all read =>
    subst order
    have sound : ∀ t ∈ requiredTags, ∃ text, e.required t = .ok text := fun t member =>
      exists_of_forall₂ read member
    cases block : exclusionsOf e with
    | error first => exact ⟨_, _, .exclusions sound block⟩
    | ok exclusions =>
      obtain ⟨groupId, group⟩ := sound "groupId" (by simp [requiredTags])
      obtain ⟨artifactId, artifact⟩ := sound "artifactId" (by simp [requiredTags])
      obtain ⟨version, number⟩ := sound "version" (by simp [requiredTags])
      have success : ofElement e = .ok ⟨groupId, artifactId, version, .ofElement e, exclusions⟩ :=
        ofElement_eq_ok_iff.mpr ⟨group, artifact, number, block, rfl⟩
      rw [success] at failure
      contradiction

theorem ofElement_eq_error_iff {error : PomError} :
    ofElement e = .error error ↔ ∃ looked, Fails e looked error := by
  constructor
  · exact fails_of_ofElement
  · rintro ⟨looked, fails⟩
    exact ofElement_of_fails fails

end Dependency

end PomToGradle
