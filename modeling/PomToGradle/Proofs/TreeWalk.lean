import PomToGradle.Tree.Assembly

/-!
A walk through a tree in document order, character by character. The walk forgets how text is divided
into nodes and nothing else: of the forests that never divide it, no two have the same walk.
-/
namespace PomToGradle

inductive Mark where
  | enter (name : String)
  | character (c : Char)
  | leave (name : String)
deriving DecidableEq, Repr

def marksOf (s : List Char) : List Mark := s.map .character

namespace Forest

def walk : Forest → List Mark
  | nil => []
  | text content rest => marksOf content.toList ++ rest.walk
  | element name children rest => .enter name :: (children.walk ++ .leave name :: rest.walk)

theorem walk_append (f g : Forest) : (f ++ g).walk = f.walk ++ g.walk := by
  induction f with
  | nil => rfl
  | text content rest ih => simp [walk, ih]
  | element name children rest _ ih => simp [walk, ih]

theorem reverseOnto_eq (f g : Forest) : f.reverseOnto g = f.reverse ++ g := by
  induction f generalizing g with
  | nil => rfl
  | text content rest ih =>
    rw [reverse, reverseOnto, reverseOnto, ih, ih (text content nil), append_assoc]
    rfl
  | element name children rest _ ih =>
    rw [reverse, reverseOnto, reverseOnto, ih, ih (element name children nil), append_assoc]
    rfl

theorem reverse_text (content : String) (rest : Forest) :
    (text content rest).reverse = rest.reverse ++ text content nil :=
  reverseOnto_eq rest (text content nil)

theorem reverse_element (name : String) (children rest : Forest) :
    (element name children rest).reverse = rest.reverse ++ element name children nil :=
  reverseOnto_eq rest (element name children nil)

@[simp] theorem walk_reverse_text (content : String) (rest : Forest) :
    (text content rest).reverse.walk = rest.reverse.walk ++ marksOf content.toList := by
  simp [reverse_text, walk_append, walk]

@[simp] theorem walk_reverse_element (name : String) (children rest : Forest) :
    (element name children rest).reverse.walk
      = rest.reverse.walk ++ .enter name :: (children.walk ++ [.leave name]) := by
  simp [reverse_element, walk_append, walk]

/-- Text joins the text in front of it, so that a walk meets only its characters. -/
theorem walk_reverse_pushText (f : Forest) (content : String) :
    (f.pushText content).reverse.walk = f.reverse.walk ++ marksOf content.toList := by
  cases f with
  | text before rest => simp [pushText, marksOf]
  | nil => simp [pushText]
  | element name children rest => simp [pushText]

theorem pushText_pushText (f : Forest) (s t : String) :
    (f.pushText s).pushText t = f.pushText (s ++ t) := by
  cases f <;> simp [pushText, String.append_assoc]

def startsWithText : Forest → Bool
  | text _ _ => true
  | _ => false

/-- No text stands next to another, at any depth. -/
def Merged : Forest → Prop
  | nil => True
  | text _ rest => rest.startsWithText = false ∧ rest.Merged
  | element _ children rest => children.Merged ∧ rest.Merged

/-- No text is empty, at any depth. -/
def Filled : Forest → Prop
  | nil => True
  | text content rest => content.toList ≠ [] ∧ rest.Filled
  | element _ children rest => children.Filled ∧ rest.Filled

theorem merged_reverseOnto (f g : Forest) :
    (f.reverseOnto g).Merged
      ↔ f.Merged ∧ g.Merged ∧ (f.startsWithText && g.startsWithText) = false := by
  induction f generalizing g with
  | nil => simp [reverseOnto, Merged, startsWithText]
  | text content rest ih =>
    simp only [reverseOnto, ih, Merged, startsWithText, Bool.true_and, Bool.and_true]
    constructor
    · rintro ⟨inner, ⟨apart, outer⟩, apart'⟩
      exact ⟨⟨apart', inner⟩, outer, apart⟩
    · rintro ⟨⟨apart', inner⟩, outer, apart⟩
      exact ⟨inner, ⟨apart, outer⟩, apart'⟩
  | element name children rest _ ih =>
    simp only [reverseOnto, ih, Merged, startsWithText, Bool.false_and, Bool.and_false]
    constructor
    · rintro ⟨inner, ⟨below, outer⟩, -⟩
      exact ⟨⟨below, inner⟩, outer, trivial⟩
    · rintro ⟨⟨below, inner⟩, outer, -⟩
      exact ⟨inner, ⟨below, outer⟩, trivial⟩

theorem merged_reverse (f : Forest) : f.reverse.Merged ↔ f.Merged := by
  simp [reverse, merged_reverseOnto, Merged, startsWithText]

theorem filled_reverseOnto (f g : Forest) : (f.reverseOnto g).Filled ↔ f.Filled ∧ g.Filled := by
  induction f generalizing g with
  | nil => simp [reverseOnto, Filled]
  | text content rest ih => simp [reverseOnto, ih, Filled, and_left_comm, and_assoc]
  | element name children rest _ ih => simp [reverseOnto, ih, Filled, and_left_comm, and_assoc]

theorem filled_reverse (f : Forest) : f.reverse.Filled ↔ f.Filled := by
  simp [reverse, filled_reverseOnto, Filled]

theorem merged_pushText {f : Forest} (merged : f.Merged) (content : String) :
    (f.pushText content).Merged := by
  cases f with
  | text before rest => exact merged
  | nil => exact ⟨rfl, merged⟩
  | element name children rest => exact ⟨rfl, merged⟩

theorem filled_pushText {f : Forest} (filled : f.Filled) {content : String}
    (some : content.toList ≠ []) : (f.pushText content).Filled := by
  cases f with
  | text before rest => exact ⟨by simp [filled.1], filled.2⟩
  | nil => exact ⟨some, filled⟩
  | element name children rest => exact ⟨some, filled⟩

/-- What comes next in a walk: a node of one kind or the other, or no further node on this level. -/
inductive Front where
  | closing
  | text
  | element
deriving DecidableEq

def front : List Mark → Front
  | [] | .leave _ :: _ => .closing
  | .character _ :: _ => .text
  | .enter _ :: _ => .element

def kind : Forest → Front
  | nil => .closing
  | text _ _ => .text
  | element _ _ _ => .element

theorem front_walk {f : Forest} {u : List Mark} (filled : f.Filled) (ends : front u = .closing) :
    front (f.walk ++ u) = f.kind := by
  cases f with
  | nil => exact ends
  | text content rest =>
    obtain ⟨c, cs, characters⟩ := List.exists_cons_of_ne_nil filled.1
    simp [walk, marksOf, characters, front, kind]
  | element name children rest => rfl

theorem front_rest_ne_text {content : String} {f : Forest} {u : List Mark}
    (merged : (text content f).Merged) (filled : (text content f).Filled)
    (ends : front u = .closing) : front (f.walk ++ u) ≠ .text := by
  rw [front_walk filled.2 ends]
  cases f with
  | nil => simp [kind]
  | text content rest => simp [Merged, startsWithText] at merged
  | element name children rest => simp [kind]

/-- Characters at the front of a walk end where no character follows. -/
theorem marksOf_append_inj {s t : List Char} {u v : List Mark} (apart : front u ≠ .text)
    (apart' : front v ≠ .text) (same : marksOf s ++ u = marksOf t ++ v) : s = t ∧ u = v := by
  induction s generalizing t with
  | nil =>
    cases t with
    | nil => exact ⟨rfl, same⟩
    | cons c t => exact absurd (congrArg front same) apart
  | cons c s ih =>
    cases t with
    | nil => exact absurd (congrArg front same).symm apart'
    | cons d t =>
      obtain ⟨first, rest⟩ := List.cons.inj same
      obtain ⟨rfl, tail⟩ := ih rest
      exact ⟨by rw [Mark.character.inj first], tail⟩

theorem kind_eq_of_walk {f g : Forest} {u v : List Mark} (filled : f.Filled) (filled' : g.Filled)
    (ends : front u = .closing) (ends' : front v = .closing) (same : f.walk ++ u = g.walk ++ v) :
    f.kind = g.kind := by
  rw [← front_walk filled ends, ← front_walk filled' ends', same]

/-- Induction over the first forest; the second one begins with the same kind of node. -/
theorem walk_append_inj {f g : Forest} {u v : List Mark} (merged : f.Merged) (filled : f.Filled)
    (merged' : g.Merged) (filled' : g.Filled) (ends : front u = .closing) (ends' : front v = .closing)
    (same : f.walk ++ u = g.walk ++ v) : f = g ∧ u = v := by
  induction f generalizing g u v with
  | nil =>
    have alike := kind_eq_of_walk filled filled' ends ends' same
    cases g with
    | nil => exact ⟨rfl, same⟩
    | text content rest => contradiction
    | element name children rest => contradiction
  | text content rest ih =>
    have alike := kind_eq_of_walk filled filled' ends ends' same
    cases g with
    | nil => contradiction
    | element name children rest' => contradiction
    | text content' rest' =>
      simp only [walk, List.append_assoc] at same
      obtain ⟨characters, tail⟩ := marksOf_append_inj (front_rest_ne_text merged filled ends)
        (front_rest_ne_text merged' filled' ends') same
      obtain ⟨rfl, left⟩ := ih merged.2 filled.2 merged'.2 filled'.2 ends ends' tail
      exact ⟨by rw [String.toList_inj.mp characters], left⟩
  | element name children rest inner outer =>
    have alike := kind_eq_of_walk filled filled' ends ends' same
    cases g with
    | nil => contradiction
    | text content rest' => contradiction
    | element name' children' rest' =>
      simp only [walk, List.cons_append, List.append_assoc, List.cons.injEq, Mark.enter.injEq] at same
      obtain ⟨rfl, body⟩ := same
      obtain ⟨rfl, after⟩ := inner merged.1 filled.1 merged'.1 filled'.1 rfl rfl body
      have behind := (List.cons.inj after).2
      obtain ⟨rfl, left⟩ := outer merged.2 filled.2 merged'.2 filled'.2 ends ends' behind
      exact ⟨rfl, left⟩

theorem walk_injective {f g : Forest} (merged : f.Merged) (filled : f.Filled) (merged' : g.Merged)
    (filled' : g.Filled) (same : f.walk = g.walk) : f = g := by
  have closed : f.walk ++ [] = g.walk ++ [] := congrArg (· ++ []) same
  exact (walk_append_inj merged filled merged' filled' rfl rfl closed).1

end Forest

end PomToGradle
