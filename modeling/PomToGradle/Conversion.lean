import PomToGradle.Dependency.Extract
import PomToGradle.Source

/-!
Conversion of a POM to statements of a build script. The statements stand in a block exactly if the
POM had one.
-/
namespace PomToGradle

inductive ConversionError where
  | pom (error : PomError)
  | cannotOpen (path : String) (cause : IoError)
deriving DecidableEq, Repr

namespace ConversionError

def message : ConversionError → String
  | pom e => e.message
  | cannotOpen path cause => s!"Failed to open {path}: {cause.message}"

def cause? : ConversionError → Option IoError
  | pom e => e.cause?
  | cannotOpen _ cause => some cause

def missingTag? : ConversionError → Option String
  | pom e => e.missingTag?
  | cannotOpen _ _ => none

def isParseError : ConversionError → Bool
  | pom (.malformed _) => true
  | _ => false

end ConversionError

namespace Dialect

def renderedEvent (d : Dependency) : Event :=
  .renderedDependency d.coordinate (.ofDependency d) d.exclusions.length

/-- A statement, with a report of it. -/
def render {ε : Type} (dialect : Dialect) (d : Dependency) : Logged ε String :=
  ⟨[renderedEvent d], .ok (dialect.statement d)⟩

/-- All statements, with a report of each. -/
def renderAll {ε : Type} (dialect : Dialect) (l : List Dependency) : Logged ε String :=
  ⟨l.map renderedEvent, .ok (dialect.statements l)⟩

end Dialect

def Document.extractReported (d : Document) : Logged PomError Extraction :=
  .andReport d.extract fun e => .extractedDependencies e.dependencies.length e.hasBlock

def Document.convert (dialect : Dialect) (d : Document) : Logged ConversionError String := do
  let extraction ← d.extractReported.mapError .pom
  let statements ← dialect.renderAll extraction.dependencies
  Logged.report [.convertedPom dialect extraction.dependencies.length extraction.hasBlock]
  return if extraction.hasBlock then dependenciesBlock statements else statements

/-- A file that cannot be opened is told apart from one that cannot be read. -/
def convertFile (dialect : Dialect) (fs : FileSystem) (path : Path) :
    Logged ConversionError String := do
  let stream ← Logged.ofExcept ((fs path).opened.mapError (.cannotOpen path.shown))
  let document ← (Document.loadStream stream).mapError .pom
  document.convert dialect

def Source.convert (dialect : Dialect) : Source → Logged ConversionError String
  | file fs path => convertFile dialect fs path
  | source => do
    let document ← source.load.mapError .pom
    document.convert dialect

end PomToGradle
