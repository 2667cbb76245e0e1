import PomToGradle.Gradle.Dialect
import PomToGradle.Text.Lines

/-!
Statements of a build script. A dependency is one statement, on one line unless it has exclusions;
values stand in it as they are.
-/
namespace PomToGradle

def Configuration.ofDependency (d : Dependency) : Configuration := .ofScope d.scope

namespace Dialect

def quote : Dialect → String
  | groovy => "'"
  | kotlin => "\""

def quoted (dialect : Dialect) (s : String) : String := dialect.quote ++ s ++ dialect.quote

def exclusion : Dialect → Exclusion → String
  | groovy, e =>
    "exclude group: " ++ groovy.quoted e.groupId ++ ", module: " ++ groovy.quoted e.artifactId
  | kotlin, e =>
    "exclude(group = " ++ kotlin.quoted e.groupId ++ ", module = " ++ kotlin.quoted e.artifactId
      ++ ")"

/-- One line for each exclusion, in braces; nothing at all if there is none. -/
def exclusionBlock (dialect : Dialect) (exclusions : List Exclusion) : String :=
  if exclusions.isEmpty then ""
  else
    "\x7b\n"
      ++ String.join (exclusions.map fun e =>
        String.ofList indentation ++ dialect.exclusion e ++ "\n")
      ++ "\x7d"

def call (dialect : Dialect) (d : Dependency) : String :=
  (Configuration.ofDependency d).name ++ "(" ++ dialect.quoted d.coordinate ++ ")"

/-- Without exclusions Groovy needs no parentheses. -/
def statement (dialect : Dialect) (d : Dependency) : String :=
  if d.exclusions.isEmpty then
    match dialect with
    | groovy => (Configuration.ofDependency d).name ++ " " ++ dialect.quoted d.coordinate
    | kotlin => dialect.call d
  else dialect.call d ++ " " ++ dialect.exclusionBlock d.exclusions

def statements (dialect : Dialect) (l : List Dependency) : String :=
  joinLines (l.map dialect.statement)

end Dialect

/-- The block that declares dependencies, with every line in it indented. -/
def dependenciesBlock (statements : String) : String :=
  "dependencies \x7b\n" ++ indent statements ++ "\n\x7d"

end PomToGradle
