import PomToGradle.CommandLine.Usage
import PomToGradle.Conversion

/-!
The program: from arguments and a file system to an exit code and the text of its two outputs.
-/
namespace PomToGradle

def defaultPom : Path := Bytes.ofAscii "./pom.xml"

namespace Invocation

/-- The last path that names a file; the others that name none are not used. -/
def pomPath (i : Invocation) (fs : FileSystem) : Path :=
  (i.paths.reverse.find? fs.isFile).getD defaultPom

def warnings (i : Invocation) (fs : FileSystem) : List Event :=
  (i.paths.filter fun path => !fs.isFile path).map .ignoredArgument

end Invocation

/-- A conversion that failed, with the path it was about. -/
structure RunError where
  path : Path
  error : ConversionError
deriving DecidableEq, Repr

namespace RunError

/-- What failed, why, and what was underneath. -/
def chain (e : RunError) : List String :=
  s!"failed to convert {e.path.shown}" :: e.error.message :: e.error.cause?.toList.map IoError.message

def message (e : RunError) : String := ": ".intercalate e.chain

/-- A text whose further lines begin in the same column as its first. -/
def hang (opening : String) (s : String) : String :=
  opening ++ String.join (s.toList.map fun c =>
    if c = '\n' then "\n" ++ String.ofList (List.replicate opening.length ' ')
    else String.singleton c)

/-- Causes are numbered if there are several. -/
def causes : List String → List String
  | [cause] => [hang "    " cause]
  | l => l.zipIdx.map fun (cause, i) => hang s!"    {i}: " cause

def report (e : RunError) : String :=
  match e.chain with
  | [] => ""
  | first :: rest =>
    s!"Error: {first}\n\nCaused by:\n" ++ joinLines (causes rest) ++ "\n"

def exitCode : Nat := 1

end RunError

def Invocation.run (i : Invocation) (fs : FileSystem) : Logged RunError String := do
  let path := i.pomPath fs
  Logged.report (i.warnings fs)
  Logged.report [.convertingPom path i.dialect]
  (convertFile i.dialect fs path).mapError fun error => { path, error }

/-- What a run of the program leaves: standard error holds the log and, after it, the report of what
    went wrong. -/
structure Outcome where
  exitCode : Nat
  stdout : String
  log : List String
  report : String
deriving DecidableEq, Repr

def Outcome.stderr (o : Outcome) : String := String.join (o.log.map (· ++ "\n")) ++ o.report

/-- The lines of the events that the verbosity shows. -/
def logLines (verbosity : Verbosity) (events : List Event) : List String :=
  (events.filter fun e => verbosity.shows e.level).map Event.line

/-- The arguments come without the program name. -/
def execute (fs : FileSystem) (verbosity : Verbosity) (arguments : List Bytes) : Outcome :=
  match Request.ofCommandLine (Bytes.ofAscii programName :: arguments) with
  | .error e => ⟨UsageError.exitCode, "", [], e.report .stream⟩
  | .ok .help => ⟨0, helpText programName, [], ""⟩
  | .ok .version => ⟨0, versionText, [], ""⟩
  | .ok (.convert invocation) =>
    let run := invocation.run fs
    let log := logLines verbosity run.events
    match run.result with
    | .ok output => ⟨0, output ++ "\n", log, ""⟩
    | .error e => ⟨RunError.exitCode, "", log, e.report⟩

end PomToGradle
