import PomToGradle.FileSystem
import PomToGradle.Gradle.Statement

/-!
What the program reports of its work, as data, and the one line in which each event is written.
-/
namespace PomToGradle

inductive Level where
  | error
  | warn
  | info
  | debug
  | trace
deriving DecidableEq, Repr

namespace Level

def name : Level → String
  | error => "ERROR"
  | warn => "WARN"
  | info => "INFO"
  | debug => "DEBUG"
  | trace => "TRACE"

/-- The more verbose, the higher. -/
def rank : Level → Nat
  | error => 1
  | warn => 2
  | info => 3
  | debug => 4
  | trace => 5

end Level

/-- Which events are written: none, or those up to a level. -/
inductive Verbosity where
  | off
  | upTo (level : Level)
deriving DecidableEq, Repr

namespace Verbosity

def rank : Verbosity → Nat
  | off => 0
  | upTo level => level.rank

def shows (v : Verbosity) (level : Level) : Bool := level.rank ≤ v.rank

def standard : Verbosity := .upTo .warn

def ofName? (name : String) : Option Verbosity :=
  if name = "off" then some off
  else if name = "error" then some (upTo .error)
  else if name = "warn" then some (upTo .warn)
  else if name = "info" then some (upTo .info)
  else if name = "debug" then some (upTo .debug)
  else if name = "trace" then some (upTo .trace)
  else none

end Verbosity

inductive FieldValue where
  | number (n : Nat)
  | flag (b : Bool)
  | text (s : String)
deriving DecidableEq, Repr

def FieldValue.shown : FieldValue → String
  | number n => toString n
  | flag b => if b then "true" else "false"
  | text s => s

inductive Event where
  | loadedDocument (topLevel : Nat)
  | extractedDependencies (count : Nat) (hasBlock : Bool)
  | renderedDependency (coordinate : String) (configuration : Configuration) (exclusions : Nat)
  | convertedPom (dialect : Dialect) (dependencies : Nat) (wrapped : Bool)
  | ignoredArgument (path : Path)
  | convertingPom (path : Path) (dialect : Dialect)
deriving DecidableEq, Repr

namespace Event

def level : Event → Level
  | loadedDocument _ => .trace
  | extractedDependencies _ _ => .debug
  | renderedDependency _ _ _ => .trace
  | convertedPom _ _ _ => .debug
  | ignoredArgument _ => .warn
  | convertingPom _ _ => .debug

def target : Event → String
  | loadedDocument _ => "m2g_maven::parser"
  | extractedDependencies _ _ => "m2g_maven::extractor"
  | renderedDependency _ _ _ => "m2g_gradle::formatter"
  | convertedPom _ _ _ => "m2g_gradle::converter"
  | ignoredArgument _ | convertingPom _ _ => "maven2gradle"

def message : Event → String
  | loadedDocument _ => "loaded pom document"
  | extractedDependencies _ _ => "extracted dependencies"
  | renderedDependency _ _ _ => "rendered dependency"
  | convertedPom _ _ _ => "converted pom"
  | ignoredArgument _ => "ignoring argument: not an existing file"
  | convertingPom _ _ => "converting pom"

def fields : Event → List (String × FieldValue)
  | loadedDocument topLevel => [("top_level", .number topLevel)]
  | extractedDependencies count hasBlock =>
    [("count", .number count), ("has_dependencies_block", .flag hasBlock)]
  | renderedDependency coordinate configuration exclusions =>
    [("coordinate", .text coordinate), ("configuration", .text configuration.name),
      ("exclusions", .number exclusions)]
  | convertedPom dialect dependencies wrapped =>
    [("dsl", .text dialect.name), ("dependencies", .number dependencies), ("wrapped", .flag wrapped)]
  | ignoredArgument path => [("path", .text path.shown)]
  | convertingPom path dialect => [("path", .text path.shown), ("dsl", .text dialect.name)]

def line (e : Event) : String :=
  s!"{e.level.name} {e.target}: {e.message}"
    ++ String.join (e.fields.map fun (key, value) => s!" {key}={value.shown}")

end Event

end PomToGradle
