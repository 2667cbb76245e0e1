import PomToGradle.Dependency.Extract
import PomToGradle.Proofs.Resemblance
import PomToGradle.Proofs.TreeWalk

/-!
How character data is divided into text nodes. The normal form of a tree joins texts that stand next to
each other and has no empty ones; it is the only such tree with the same walk. Nothing that is read from
a tree tells it from its normal form.
-/
namespace PomToGradle

namespace Forest

/-- Text in front joins a text that is the first node; empty text is no node. -/
def behindText (content : String) (f : Forest) : Forest :=
  if content = "" then f
  else
    match f with
    | text first rest => text (content ++ first) rest
    | f => text content f

def normal : Forest → Forest
  | nil => nil
  | text content rest => rest.normal.behindText content
  | element name children rest => element name children.normal rest.normal

/-- The texts of `g` are those of `f`, joined where they stand next to each other, without empty ones. -/
structure Normalizes (f g : Forest) : Prop where
  walk : g.walk = f.walk
  merged : g.Merged
  filled : g.Filled

variable (content : String) (f : Forest)

theorem walk_behindText : (f.behindText content).walk = marksOf content.toList ++ f.walk := by
  unfold behindText
  split
  next empty => simp [empty, marksOf]
  next => cases f <;> simp [walk, marksOf]

theorem merged_behindText {f : Forest} (merged : f.Merged) : (f.behindText content).Merged := by
  unfold behindText
  split
  next => exact merged
  next => cases f with
    | nil => exact ⟨rfl, trivial⟩
    | text first rest => exact merged
    | element name children rest => exact ⟨rfl, merged⟩

theorem filled_behindText {f : Forest} (filled : f.Filled) : (f.behindText content).Filled := by
  unfold behindText
  split
  next => exact filled
  next some =>
    have nonempty : content.toList ≠ [] := by simpa using some
    cases f with
    | nil => exact ⟨nonempty, trivial⟩
    | text first rest => exact ⟨by simp [filled.1], filled.2⟩
    | element name children rest => exact ⟨nonempty, filled⟩

theorem normalizes_normal : f.Normalizes f.normal := by
  induction f with
  | nil => exact ⟨rfl, trivial, trivial⟩
  | text content rest ih =>
    refine ⟨?_, merged_behindText content ih.merged, filled_behindText content ih.filled⟩
    rw [normal, walk_behindText, ih.walk]
    rfl
  | element name children rest inner outer =>
    refine ⟨?_, ⟨inner.merged, outer.merged⟩, ⟨inner.filled, outer.filled⟩⟩
    rw [normal, walk, inner.walk, outer.walk]
    rfl

theorem normalizes_iff {f g : Forest} : f.Normalizes g ↔ g = f.normal := by
  have normal := f.normalizes_normal
  constructor
  · rintro ⟨walk, merged, filled⟩
    exact walk_injective merged filled normal.merged normal.filled (walk.trans normal.walk.symm)
  · rintro rfl
    exact normal

theorem normal_normal : f.normal.normal = f.normal := by
  have normal := f.normalizes_normal
  exact (normalizes_iff.mp ⟨rfl, normal.merged, normal.filled⟩).symm

theorem characters_behindText : (f.behindText content).characters = content ++ f.characters := by
  unfold behindText
  split
  next empty => simp [empty]
  next => cases f <;> simp [characters, String.append_assoc]

theorem descendants_behindText (tag : String) :
    (f.behindText content).descendants tag = f.descendants tag := by
  unfold behindText
  split
  next => rfl
  next => cases f <;> rfl

theorem characters_normal : f.normal.characters = f.characters := by
  induction f with
  | nil => rfl
  | text content rest ih => rw [normal, characters_behindText, ih]; rfl
  | element name children rest _ ih => exact ih

end Forest

def Element.normal (e : Element) : Element := { e with children := e.children.normal }

/-- What is found in the normal form is the normal form of what is found. -/
theorem Forest.descendants_normal (f : Forest) (tag : String) :
    f.normal.descendants tag = (f.descendants tag).map Element.normal := by
  induction f with
  | nil => rfl
  | text content rest ih =>
    rw [normal, descendants_behindText, ih]
    rfl
  | element name children rest inner outer =>
    simp only [normal, descendants, inner, outer]
    split <;> simp [Element.normal]

namespace Element

theorem text_normal (e : Element) : e.normal.text = e.text := e.children.characters_normal

theorem findText?_normal (e : Element) (tag : String) :
    e.normal.findText? tag = e.findText? tag := by
  have found : e.normal.children.descendants tag = (e.children.descendants tag).map normal :=
    e.children.descendants_normal tag
  rw [findText?, findText?, descendant?_eq, descendant?_eq, found]
  cases e.children.descendants tag with
  | nil => rfl
  | cons first others => simp [text_normal]

/-- What can be read from two elements is the same. -/
structure ReadAlike (e e' : Element) : Prop where
  text : e'.text = e.text
  findText? : ∀ tag, e'.findText? tag = e.findText? tag
  descendants : ∀ tag, (e'.descendants tag).map (fun x => (x.name, x.text))
    = (e.descendants tag).map fun x => (x.name, x.text)
  dependency : Dependency.ofElement e' = Dependency.ofElement e
  exclusion : Exclusion.ofElement e' = Exclusion.ofElement e
  extraction : (Document.mk e'.children).extract = (Document.mk e.children).extract

end Element

theorem resemblance_normal : Resemblance fun e e' => e' = e.normal where
  descendants := by
    rintro e _ rfl tag -
    have found : e.normal.children.descendants tag
        = (e.children.descendants tag).map Element.normal := e.children.descendants_normal tag
    rw [found]
    exact List.forall₂_map_right_iff.mpr (List.forall₂_same.mpr fun _ _ => rfl)
  text := by
    rintro e _ rfl -
    exact e.text_normal.symm

namespace Element

theorem readAlike_normal (e : Element) : e.ReadAlike e.normal where
  text := e.text_normal
  findText? := e.findText?_normal
  descendants tag := by
    rw [descendants_eq, descendants_eq]
    change (e.children.normal.descendants tag).map _ = _
    rw [Forest.descendants_normal, List.map_map]
    exact List.map_congr_left fun x _ => Prod.ext rfl x.text_normal
  dependency := (resemblance_normal.ofElement_dependency_eq rfl).symm
  exclusion := (resemblance_normal.ofElement_exclusion_eq rfl).symm
  extraction := by
    have roots : (Document.mk e.normal.children).root = (Document.mk e.children).root.normal := rfl
    exact (resemblance_normal.extract_eq roots).symm

end Element

/-- The normal form is the one tree that has the texts of an element joined and no empty ones. It reads
    like the element and is its own normal form. -/
theorem normal_invisible (e : Element) :
    (∀ f, e.children.Normalizes f ↔ f = e.normal.children) ∧ e.ReadAlike e.normal ∧
      e.normal.normal = e.normal := by
  refine ⟨fun f => Forest.normalizes_iff, e.readAlike_normal, ?_⟩
  rw [Element.normal, Element.normal, Forest.normal_normal]

end PomToGradle
