import PomToGradle.Tree.Forest

/-!
Searching a forest one element at a time. What is still to be searched is a stack of forests, those
of the deepest level first. A search that is run to its end gives the elements in document order, by
`Element.descendants_eq`.
-/
namespace PomToGradle

structure Search where
  tag : String
  pending : List Forest
deriving DecidableEq, Repr

namespace Search

def ofElement (e : Element) (tag : String) : Search := ⟨tag, [e.children]⟩

def weight : Forest → Nat
  | .nil => 1
  | .text _ rest => weight rest + 1
  | .element _ children rest => weight children + weight rest + 1

/-- Falls with every node a search passes, also where the stack grows. -/
def totalWeight : List Forest → Nat
  | [] => 0
  | f :: outer => weight f + totalWeight outer

/-- The next element of the name, and the search for those after it. The elements inside the one
    found come first of all. -/
def next? (tag : String) : List Forest → Option (Element × List Forest)
  | [] => none
  | .nil :: outer => next? tag outer
  | .text _ rest :: outer => next? tag (rest :: outer)
  | .element name children rest :: outer =>
    if name = tag then some (⟨name, children⟩, children :: rest :: outer)
    else next? tag (children :: rest :: outer)
termination_by pending => totalWeight pending
decreasing_by all_goals simp only [totalWeight, weight]; omega

/-- One step; a search that has found everything stays as it is. -/
def advance (s : Search) : Option Element × Search :=
  match next? s.tag s.pending with
  | none => (none, { s with pending := [] })
  | some (e, pending) => (some e, { s with pending })

/-- The answers of that many steps. -/
def take : Nat → Search → List (Option Element)
  | 0, _ => []
  | n + 1, s =>
    let (found, s) := s.advance
    found :: take n s

theorem totalWeight_lt_of_next? {tag : String} {pending rest : List Forest} {e : Element}
    (h : next? tag pending = some (e, rest)) : totalWeight rest < totalWeight pending := by
  fun_induction next? tag pending with
  | case1 => contradiction
  | case2 outer ih =>
    have smaller := ih h
    simp only [totalWeight, weight]
    omega
  | case3 outer content tail ih =>
    have smaller := ih h
    simp only [totalWeight, weight] at smaller ⊢
    omega
  | case4 outer children tail =>
    simp only [Option.some.injEq, Prod.mk.injEq] at h
    obtain ⟨_, rfl⟩ := h
    simp only [totalWeight, weight]
    omega
  | case5 outer name children tail _ ih =>
    have smaller := ih h
    simp only [totalWeight, weight] at smaller ⊢
    omega

/-- Everything still to be found, in the order in which the steps find it. -/
def all (tag : String) (pending : List Forest) : List Element :=
  match (next? tag pending).attach with
  | none => []
  | some ⟨(e, rest), _h⟩ => e :: all tag rest
termination_by totalWeight pending
decreasing_by exact totalWeight_lt_of_next? _h

/-- What a stack stands for. -/
def found (tag : String) (pending : List Forest) : List Element :=
  pending.flatMap (Forest.descendants tag)

theorem found_cons (tag : String) (f : Forest) (outer : List Forest) :
    found tag (f :: outer) = f.descendants tag ++ found tag outer := rfl

/-- A step takes the first element off what the stack stands for. -/
theorem next?_spec (tag : String) (pending : List Forest) :
    (next? tag pending = none ∧ found tag pending = []) ∨
      ∃ e rest, next? tag pending = some (e, rest) ∧ found tag pending = e :: found tag rest := by
  fun_induction next? tag pending with
  | case1 => exact Or.inl ⟨rfl, rfl⟩
  | case2 outer ih => simpa [found_cons, Forest.descendants] using ih
  | case3 outer content tail ih => simpa [found_cons, Forest.descendants] using ih
  | case4 outer children tail =>
    exact Or.inr ⟨_, _, rfl, by simp [found_cons, Forest.descendants]⟩
  | case5 outer name children tail other ih =>
    simpa [found_cons, Forest.descendants, other] using ih

theorem all_eq_found (tag : String) (pending : List Forest) : all tag pending = found tag pending := by
  induction weight : totalWeight pending using Nat.strongRecOn generalizing pending with
  | ind n ih =>
    rw [all]
    rcases next?_spec tag pending with ⟨none, empty⟩ | ⟨e, rest, some, cons⟩
    · split
      · exact empty.symm
      next h => simp [none] at h
    · split
      next h => simp [some] at h
      next e' rest' h _ =>
        obtain ⟨rfl, rfl⟩ := Prod.mk.inj (Option.some.inj (some.symm.trans h))
        rw [cons, ih _ (weight ▸ totalWeight_lt_of_next? some) rest rfl]

end Search

namespace Element

/-- The elements of that name inside; never the element itself. -/
def descendants (e : Element) (tag : String) : List Element := Search.all tag [e.children]

/-- The first of them; the search goes no further. -/
def descendant? (e : Element) (tag : String) : Option Element :=
  (Search.next? tag [e.children]).map Prod.fst

theorem descendants_eq (e : Element) (tag : String) :
    e.descendants tag = e.children.descendants tag := by
  simp [descendants, Search.all_eq_found, Search.found]

theorem descendant?_eq (e : Element) (tag : String) :
    e.descendant? tag = (e.children.descendants tag).head? := by
  rcases Search.next?_spec tag [e.children] with ⟨none, empty⟩ | ⟨found, rest, some, cons⟩
  · simp_all [descendant?, Search.found]
  · simp_all [descendant?, Search.found]

end Element

end PomToGradle
