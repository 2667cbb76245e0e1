import PomToGradle.Conversion
import PomToGradle.Tree.Search

/-!
Sessions: documents and elements are kept in named slots, looked into, taken apart and compared, one
step after the other. A step that fails leaves every slot as it was.
-/
namespace PomToGradle

inductive Item where
  | document (d : Document)
  | element (e : Element)
deriving DecidableEq, Repr

/-- What is asked of an element is asked of the root of a document. -/
def Item.root : Item → Element
  | document d => d.root
  | element e => e

/-- The slots in use, each once. -/
structure Store where
  items : List (String × Item)
deriving DecidableEq, Repr

namespace Store

def empty : Store := ⟨[]⟩

def get? (s : Store) (slot : String) : Option Item := s.items.lookup slot

def put (s : Store) (slot : String) (item : Item) : Store :=
  ⟨(slot, item) :: s.items.filter fun (known, _) => known != slot⟩

@[simp] theorem get?_put_self (s : Store) (slot : String) (item : Item) :
    (s.put slot item).get? slot = some item := by
  simp [put, get?]

end Store

inductive Step where
  | load (slot : String) (source : Source)
  | element (slot : String) (e : Element)
  | push (slot : String) (node : Forest)
  | take (origin tag : String) (index : Nat) (slot : String)
  | tree (slot : String)
  | text (slot : String)
  | findText (slot tag : String)
  | elements (slot : String)
  | descendants (slot tag : String)
  | iterate (slot tag : String) (steps : Nat)
  | dependency (slot : String)
  | exclusion (slot : String)
  | extract (slot : String)
  | convert (slot : String) (dialect : Dialect)
  | equal (slot other : String)

inductive Answer where
  | topLevel (n : Nat)
  | children (n : Nat)
  | taken (name : Option String)
  | tree (name : String) (outline : List Forest.Entry)
  | text (s : Option String)
  | names (l : List String)
  | texts (l : List (Option String))
  | dependency (d : Dependency)
  | exclusion (e : Exclusion)
  | extraction (e : Extraction)
  | output (s : String)
  | equal (b : Bool)
deriving DecidableEq, Repr

/-- A slot that cannot serve a step. -/
inductive Refusal where
  | noSuchSlot
  | notAnElement
  | notADocument
deriving DecidableEq, Repr

def Refusal.message : Refusal → String
  | noSuchSlot => "no such slot"
  | notAnElement => "not an element"
  | notADocument => "not a document"

inductive Failure where
  | refused (r : Refusal)
  | pom (e : PomError)
  | conversion (e : ConversionError)
deriving DecidableEq, Repr

namespace Store

def refuse {α : Type} (r : Refusal) : Logged Failure α := .ofExcept (.error (.refused r))

/-- The element of a slot. -/
def root (s : Store) (slot : String) : Logged Failure Element :=
  match s.get? slot with
  | some item => pure item.root
  | none => refuse .noSuchSlot

def document (s : Store) (slot : String) : Logged Failure Document :=
  match s.get? slot with
  | some (.document d) => pure d
  | some (.element _) => refuse .notADocument
  | none => refuse .noSuchSlot

/-- The answer to a step, and the slots after it. -/
def perform (s : Store) : Step → Logged Failure (Answer × Store)
  | .load slot source => do
    let d ← source.load.mapError .pom
    return (.topLevel d.topLevel, s.put slot (.document d))
  | .element slot e => pure (.children e.children.length, s.put slot (.element e))
  | .push slot node =>
    match s.get? slot with
    | some (.element e) =>
      let e := e.push node
      pure (.children e.children.length, s.put slot (.element e))
    | _ => refuse .notAnElement
  | .take origin tag index slot => do
    let e ← s.root origin
    match (e.descendants tag)[index]? with
    | some found => return (.taken (some found.name), s.put slot (.element found))
    | none => return (.taken none, s)
  | .tree slot => do
    let e ← s.root slot
    return (.tree e.name (e.children.outline 1), s)
  | .text slot => do
    let e ← s.root slot
    return (.text (some e.text), s)
  | .findText slot tag => do
    let e ← s.root slot
    return (.text (e.findText? tag), s)
  | .elements slot => do
    let e ← s.root slot
    return (.names (e.elements.map Element.name), s)
  | .descendants slot tag => do
    let e ← s.root slot
    return (.texts ((e.descendants tag).map fun found => some found.text), s)
  | .iterate slot tag steps => do
    let e ← s.root slot
    return (.texts (((Search.ofElement e tag).take steps).map (·.map Element.text)), s)
  | .dependency slot => do
    let e ← s.root slot
    let d ← Logged.ofExcept ((Dependency.ofElement e).mapError .pom)
    return (.dependency d, s)
  | .exclusion slot => do
    let e ← s.root slot
    let exclusion ← Logged.ofExcept ((Exclusion.ofElement e).mapError .pom)
    return (.exclusion exclusion, s)
  | .extract slot => do
    let d ← s.document slot
    let extraction ← d.extractReported.mapError .pom
    return (.extraction extraction, s)
  | .convert slot dialect => do
    let d ← s.document slot
    let output ← (d.convert dialect).mapError .conversion
    return (.output output, s)
  | .equal slot other => do
    let e ← s.root slot
    let f ← s.root other
    return (.equal (e == f), s)

/-- The answer to each step, with what it reported. -/
def run (s : Store) : List Step → List (Logged Failure Answer)
  | [] => []
  | step :: rest =>
    let outcome := s.perform step
    match outcome.result with
    | .ok (answer, next) => ⟨outcome.events, .ok answer⟩ :: next.run rest
    | .error e => ⟨outcome.events, .error e⟩ :: s.run rest

end Store

end PomToGradle
