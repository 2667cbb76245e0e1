import PomToGradle.Proofs.AssemblySteps
import PomToGradle.Proofs.TreeWalk

/-!
A tree that is built behind other nodes or inside other elements. What is done to it there is what is
done to it on its own: only the lowest level shows what is in front of it, and a text that the new
nodes begin with joins one that the old ones end with.
-/
namespace PomToGradle

namespace Forest

/-- Text at the end of a forest joins a text that is already the last node. -/
def endWith : Forest → String → Forest
  | nil, content => text content nil
  | text before nil, content => text (before ++ content) nil
  | text before rest, content => text before (rest.endWith content)
  | element name children rest, content => element name children (rest.endWith content)

/-- The nodes of one forest and then those of the other. A text that the first one ends with and a
    text that the second one starts with become one node. -/
def join (f : Forest) : Forest → Forest
  | text content rest => f.endWith content ++ rest
  | g => f ++ g

/-- Nodes under way, behind others that were there before; both are kept last first. -/
def onto : Forest → Forest → Forest
  | nil, below => below
  | text content nil, below => below.pushText content
  | text content rest, below => text content (rest.onto below)
  | element name children rest, below => element name children (rest.onto below)

theorem endWith_append_text (f : Forest) (before content : String) :
    (f ++ text before nil).endWith content = f ++ text (before ++ content) nil := by
  induction f with
  | nil => rfl
  | text first rest ih => cases rest <;> simp_all [endWith]
  | element name children rest _ ih => simp [endWith, ih]

theorem endWith_append_element (f : Forest) (name : String) (children : Forest) (content : String) :
    (f ++ element name children nil).endWith content
      = f ++ element name children (text content nil) := by
  induction f with
  | nil => rfl
  | text first rest ih => cases rest <;> simp_all [endWith]
  | element name children rest _ ih => simp [endWith, ih]

theorem reverse_pushText (f : Forest) (content : String) :
    (f.pushText content).reverse = f.reverse.endWith content := by
  cases f with
  | nil => rfl
  | text before rest => rw [pushText, reverse_text, reverse_text, endWith_append_text]
  | element name children rest =>
    change (text content (element name children rest)).reverse = _
    rw [reverse_text, reverse_element, endWith_append_element, append_assoc]
    rfl

theorem join_append (f : Forest) {g : Forest} (more : g ≠ nil) (h : Forest) :
    f.join (g ++ h) = f.join g ++ h := by
  cases g with
  | nil => contradiction
  | text content rest => simp [join, append_assoc]
  | element name children rest => simp [join, append_assoc]

theorem reverse_ne_nil {f : Forest} (more : f ≠ nil) : f.reverse ≠ nil := by
  have last (g : Forest) {h : Forest} (some : h ≠ nil) : g ++ h ≠ nil := by
    cases g with
    | nil => exact some
    | text content rest => simp
    | element name children rest => simp
  cases f with
  | nil => contradiction
  | text content rest => exact reverse_text content rest ▸ last rest.reverse (by simp)
  | element name children rest => exact reverse_element name children rest ▸ last rest.reverse (by simp)

theorem onto_text (content : String) {rest : Forest} (more : rest ≠ nil) (below : Forest) :
    (text content rest).onto below = text content (rest.onto below) := by
  cases rest with
  | nil => contradiction
  | _ => rfl

theorem reverse_onto (f below : Forest) : (f.onto below).reverse = below.reverse.join f.reverse := by
  induction f with
  | nil => exact (append_nil below.reverse).symm
  | text content rest ih =>
    by_cases last : rest = nil
    · rw [last]
      exact (reverse_pushText below content).trans (append_nil _).symm
    · rw [onto_text content last, reverse_text, ih, reverse_text, join_append _ (reverse_ne_nil last)]
  | element name children rest _ ih =>
    rw [onto, reverse_element, ih, reverse_element]
    by_cases last : rest = nil
    · rw [last]
      exact congrArg (· ++ element name children nil) (append_nil below.reverse)
    · rw [join_append _ (reverse_ne_nil last)]

theorem onto_pushText (f below : Forest) (content : String) :
    (f.pushText content).onto below = (f.onto below).pushText content := by
  cases f with
  | nil => rfl
  | text before rest =>
    by_cases last : rest = nil
    · rw [last]
      exact (pushText_pushText below before content).symm
    · rw [pushText, onto_text _ last, onto_text _ last, pushText]
  | element name children rest => rfl

theorem onto_nil (f : Forest) : f.onto nil = f := by
  induction f with
  | nil => rfl
  | text content rest ih =>
    by_cases last : rest = nil
    · rw [last]
      rfl
    · rw [onto_text content last, ih]
  | element name children rest _ ih => rw [onto, ih]

theorem descendants_endWith (tag : String) (f : Forest) (content : String) :
    (f.endWith content).descendants tag = f.descendants tag := by
  induction f with
  | nil => rfl
  | text before rest ih => cases rest <;> simp_all [endWith, descendants]
  | element name children rest _ ih => simp [endWith, descendants, ih]

/-- Where texts are cut does not matter to a search. -/
theorem descendants_join (tag : String) (f g : Forest) :
    (f.join g).descendants tag = f.descendants tag ++ g.descendants tag := by
  cases g with
  | text content rest => rw [join, descendants_append, descendants_endWith, descendants]
  | nil => exact descendants_append tag f nil
  | element name children rest => exact descendants_append tag f _

def endsWithText : Forest → Bool
  | nil => false
  | text _ nil => true
  | text _ rest => rest.endsWithText
  | element _ _ rest => rest.endsWithText

/-- The nodes of one forest and then those of another, where two texts that meet become one. -/
inductive Joined : Forest → Forest → Forest → Prop where
  | seam (f g : Forest) (before content : String) :
      Joined (f ++ text before nil) (text content g) (f ++ text (before ++ content) g)
  | apart {f g : Forest} (h : f.endsWithText = false ∨ g.startsWithText = false) :
      Joined f g (f ++ g)

theorem exists_of_endsWithText {f : Forest} (h : f.endsWithText = true) :
    ∃ front last, f = front ++ text last nil := by
  induction f with
  | nil => contradiction
  | text content rest ih =>
    by_cases last : rest = nil
    · rw [last]
      exact ⟨nil, content, rfl⟩
    · have behind : (text content rest).endsWithText = rest.endsWithText := by
        cases rest with
        | nil => contradiction
        | _ => rfl
      obtain ⟨front, final, rfl⟩ := ih (behind.symm.trans h)
      exact ⟨text content front, final, rfl⟩
  | element name children rest _ ih =>
    obtain ⟨front, last, rfl⟩ := ih h
    exact ⟨element name children front, last, rfl⟩

theorem endWith_of_not_endsWithText {f : Forest} (h : f.endsWithText = false) (content : String) :
    f.endWith content = f ++ text content nil := by
  induction f with
  | nil => rfl
  | text before rest ih => cases rest <;> simp_all [endWith, endsWithText]
  | element name children rest _ ih => simp_all [endWith, endsWithText]

theorem joined_join (f g : Forest) : Joined f g (f.join g) := by
  cases g with
  | nil => exact .apart (Or.inr rfl)
  | element name children rest => exact .apart (Or.inr rfl)
  | text content rest =>
    cases h : f.endsWithText with
    | false =>
      rw [join, endWith_of_not_endsWithText h, append_assoc]
      exact .apart (Or.inl h)
    | true =>
      obtain ⟨front, last, rfl⟩ := exists_of_endsWithText h
      rw [join, endWith_append_text, append_assoc]
      exact .seam front rest last content

end Forest

/-- Where a tree is built: behind `below` on the lowest level, inside the elements `outer`. -/
structure Place where
  offset : Nat
  below : Forest
  outer : List OpenElement

namespace Place

/-- The nodes of a level that is inside the given elements. -/
def level (p : Place) : List OpenElement → Forest → Forest
  | [], f => f.onto p.below
  | _ :: _, f => f

def opened (p : Place) : List OpenElement → List OpenElement
  | [] => p.outer
  | innermost :: rest => { innermost with before := p.level rest innermost.before } :: p.opened rest

theorem level_pushText (p : Place) (opened : List OpenElement) (f : Forest) (content : String) :
    p.level opened (f.pushText content) = (p.level opened f).pushText content := by
  cases opened with
  | nil => exact Forest.onto_pushText f p.below content
  | cons innermost rest => rfl

theorem level_element (p : Place) (opened : List OpenElement) (name : String)
    (children rest : Forest) :
    p.level opened (.element name children rest) = .element name children (p.level opened rest) := by
  cases opened <;> rfl

end Place

namespace Assembly

def placed (a : Assembly) (p : Place) : Assembly :=
  { a with
    offset := p.offset + a.offset
    level := p.level a.opened a.level
    opened := p.opened a.opened }

theorem declare_placed (a : Assembly) (p : Place) (content : Bytes) :
    (a.declare content).placed p = (a.placed p).declare content := by
  unfold declare
  have settled : (a.placed p).settled = a.settled := rfl
  rw [settled]
  split
  · rfl
  · split <;> rfl

theorem moves_placed {a b : Assembly} {t : Token} (p : Place) (moves : Moves a t b) :
    Moves (a.placed p) t (b.placed p) := by
  have added (content : String) : (a.addText content).placed p = (a.placed p).addText content := by
    simp [placed, addText, Place.level_pushText]
  cases moves with
  | text read => exact added _ ▸ .text read
  | cdata read => exact added _ ▸ .cdata read
  | reference read resolved => exact added _ ▸ .reference read resolved
  | startTag content => exact .startTag content
  | emptyTag content =>
    have whole : (a.addElement (tagName content)).placed p
        = (a.placed p).addElement (tagName content) := by
      simp [placed, addElement, Place.level_element]
    exact whole ▸ .emptyTag content
  -- the level that an end tag goes back to may be the lowest one, with nodes in front
  | @endTag content innermost outer opened same =>
    have inside : (a.placed p).opened
        = { innermost with before := p.level outer innermost.before } :: p.opened outer := by
      simp [placed, opened, Place.opened]
    have level : (a.placed p).level = a.level := by simp [placed, opened, Place.level]
    have closes := Moves.endTag inside same
    rw [level, ← Place.level_element] at closes
    exact closes
  | instruction content => exact declare_placed a p content ▸ .instruction content
  | comment content => exact .comment content
  | doctype keyword content => exact .doctype keyword content

theorem step_placed {a b : Assembly} {t : Token} (p : Place) (done : a.step t = .ok b) :
    (a.placed p).step t = .ok (b.placed p) := by
  obtain ⟨next, moves, rfl⟩ := step_eq_ok_iff.mp done
  refine step_eq_ok_iff.mpr ⟨_, moves_placed p moves, ?_⟩
  simp [placed, Nat.add_assoc]

/-- What is done to a tree on its own is done to it wherever it is built. -/
theorem run_placed {a b : Assembly} {l : List Token} (p : Place) (done : a.run l = .ok b) :
    (a.placed p).run l = .ok (b.placed p) := by
  induction l generalizing a with
  | nil =>
    obtain rfl := Except.ok.inj done
    rfl
  | cons t l ih =>
    rw [run_cons] at done
    obtain ⟨next, first, rest⟩ := bind_eq_ok.mp done
    rw [run_cons, step_placed p first]
    exact ih rest

end Assembly

end PomToGradle
