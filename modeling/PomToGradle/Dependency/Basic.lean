/-!
Dependencies as a POM declares them.
-/
namespace PomToGradle

/-- The six scopes with a meaning, and any other text. -/
inductive Scope where
  | compile
  | test
  | runtime
  | provided
  | system
  | imported
  | other (text : String)
deriving DecidableEq, Repr

namespace Scope

def text : Scope → String
  | compile => "compile"
  | test => "test"
  | runtime => "runtime"
  | provided => "provided"
  | system => "system"
  | imported => "import"
  | other text => text

def known : List Scope := [compile, test, runtime, provided, system, imported]

/-- The scope spelled exactly so. -/
def ofText (s : String) : Scope := (known.find? fun scope => scope.text == s).getD (other s)

/-- The scope of a dependency that states none. -/
def default : Scope := compile

@[simp] theorem text_ofText (s : String) : (ofText s).text = s := by
  unfold ofText
  cases h : known.find? fun scope => scope.text == s with
  | none => rfl
  | some scope => simpa using List.find?_some h

end Scope

structure Exclusion where
  groupId : String
  artifactId : String
deriving DecidableEq, Repr

structure Dependency where
  groupId : String
  artifactId : String
  version : String
  scope : Scope
  exclusions : List Exclusion
deriving DecidableEq, Repr

def Dependency.coordinate (d : Dependency) : String :=
  s!"{d.groupId}:{d.artifactId}:{d.version}"

end PomToGradle
