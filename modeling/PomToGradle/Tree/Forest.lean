/-!
Forests of elements and text, in document order. A forest is a sequence of nodes; an element holds a
forest of its own. Nothing keeps two texts from standing next to each other or a text from being
empty: that is a property of some forests.
-/
namespace PomToGradle

inductive Forest where
  | nil
  | text (content : String) (rest : Forest)
  | element (name : String) (children rest : Forest)
deriving DecidableEq, Repr

structure Element where
  name : String
  children : Forest
deriving DecidableEq, Repr

namespace Forest

def append : Forest → Forest → Forest
  | nil, g => g
  | text content rest, g => text content (rest.append g)
  | element name children rest, g => element name children (rest.append g)

instance : Append Forest := ⟨append⟩

/-- The nodes in front of `g`, in the opposite order; what is inside them stays as it is. -/
def reverseOnto : Forest → Forest → Forest
  | nil, g => g
  | text content rest, g => rest.reverseOnto (text content g)
  | element name children rest, g => rest.reverseOnto (element name children g)

def reverse (f : Forest) : Forest := f.reverseOnto nil

/-- The number of nodes at the top. -/
def length : Forest → Nat
  | nil => 0
  | text _ rest => rest.length + 1
  | element _ _ rest => rest.length + 1

def elements : Forest → List Element
  | nil => []
  | text _ rest => rest.elements
  | element name children rest => ⟨name, children⟩ :: rest.elements

/-- The character data at the top, without that of any element. -/
def characters : Forest → String
  | nil => ""
  | text content rest => content ++ rest.characters
  | element _ _ rest => rest.characters

/-- All elements of that name at any depth, each before those inside it and those after it. -/
def descendants (tag : String) : Forest → List Element
  | nil => []
  | text _ rest => rest.descendants tag
  | element name children rest =>
    let below := children.descendants tag ++ rest.descendants tag
    if name = tag then ⟨name, children⟩ :: below else below

/-- A node of an outline, with its depth. -/
inductive Entry where
  | element (depth : Nat) (name : String)
  | text (depth : Nat) (content : String)
deriving DecidableEq, Repr

/-- Every node in document order, those at the top at the given depth. -/
def outline (depth : Nat) : Forest → List Entry
  | nil => []
  | text content rest => .text depth content :: rest.outline depth
  | element name children rest =>
    .element depth name :: (children.outline (depth + 1) ++ rest.outline depth)

@[simp] theorem nil_append (g : Forest) : nil ++ g = g := rfl

@[simp] theorem text_append (content : String) (f g : Forest) :
    text content f ++ g = text content (f ++ g) := rfl

@[simp] theorem element_append (name : String) (children f g : Forest) :
    element name children f ++ g = element name children (f ++ g) := rfl

@[simp] theorem append_nil (f : Forest) : f ++ nil = f := by
  induction f with
  | nil => rfl
  | text content rest ih => simp [ih]
  | element name children rest _ ih => simp [ih]

theorem append_assoc (f g h : Forest) : f ++ g ++ h = f ++ (g ++ h) := by
  induction f with
  | nil => rfl
  | text content rest ih => simp [ih]
  | element name children rest _ ih => simp [ih]

theorem descendants_append (tag : String) (f g : Forest) :
    (f ++ g).descendants tag = f.descendants tag ++ g.descendants tag := by
  induction f with
  | nil => rfl
  | text content rest ih => simp [descendants, ih]
  | element name children rest _ ih =>
    simp only [element_append, descendants, ih]
    split <;> simp

end Forest

namespace Element

def elements (e : Element) : List Element := e.children.elements

def text (e : Element) : String := e.children.characters

def push (e : Element) (nodes : Forest) : Element := { e with children := e.children ++ nodes }

end Element

end PomToGradle
