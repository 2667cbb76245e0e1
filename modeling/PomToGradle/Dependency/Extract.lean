import PomToGradle.Dependency.Basic
import PomToGradle.Document
import PomToGradle.PomError
import PomToGradle.Tree.Field

/-!
Reading dependencies out of a tree. Fields may stand at any depth inside their element, and the first
one of a name counts. The first thing missing, in the order in which fields are read, is the error.
-/
namespace PomToGradle

/-- The text of a field that has to be there and not to be blank. -/
def Element.required (e : Element) (tag : String) : Except PomError String :=
  match e.findText? tag with
  | some text => if text.isEmpty then .error (.missingField tag) else .ok text
  | none => .error (.missingField tag)

def Exclusion.ofElement (e : Element) : Except PomError Exclusion := do
  let groupId ← e.required "groupId"
  let artifactId ← e.required "artifactId"
  return { groupId, artifactId }

def exclusionsOf (e : Element) : Except PomError (List Exclusion) :=
  match e.descendant? "exclusions" with
  | some block => (block.descendants "exclusion").mapM Exclusion.ofElement
  | none => .ok []

def Scope.ofElement (e : Element) : Scope :=
  match e.findText? "scope" with
  | some text => .ofText text
  | none => .default

def Dependency.ofElement (e : Element) : Except PomError Dependency := do
  let groupId ← e.required "groupId"
  let artifactId ← e.required "artifactId"
  let version ← e.required "version"
  let exclusions ← exclusionsOf e
  return { groupId, artifactId, version, scope := .ofElement e, exclusions }

structure Extraction where
  dependencies : List Dependency
  /-- Whether the document has a `dependencies` element anywhere. -/
  hasBlock : Bool
deriving DecidableEq, Repr

def Document.extract (d : Document) : Except PomError Extraction := do
  let dependencies ← (d.descendants "dependency").mapM Dependency.ofElement
  return { dependencies, hasBlock := (d.root.descendant? "dependencies").isSome }

end PomToGradle
