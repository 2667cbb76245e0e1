import PomToGradle.CommandLine.Arguments
import PomToGradle.Text.Likeness
import PomToGradle.Text.Lines
import PomToGradle.Text.Terminal

/-!
What the program says about its own command line.
-/
namespace PomToGradle

def programName : String := "maven2gradle"

def versionText : String := programName ++ " 0.3.0\n"

def operands : String := "[POM]..."

/-- The name by which the program was called, if it is readable, as far as a terminal shows it. -/
def calledAs (arguments : List Bytes) : String :=
  Terminal.shown .text (((arguments.head?.bind Path.fileName?).bind Utf8.decode?).getD programName)

def helpText (program : String) : String :=
  "Convert pom.xml dependencies into Gradle dependency statements\n\n"
    ++ s!"Usage: {program} [OPTIONS] {operands}\n\n"
    ++ "Arguments:\n"
    ++ "  [POM]...  pom.xml to convert; the last one that exists is used (defaults to ./pom.xml)\n\n"
    ++ "Options:\n"
    ++ "      --kts      Emit Kotlin DSL (build.gradle.kts) instead of Groovy; `-kts` is accepted too\n"
    ++ "  -h, --help     Print help\n"
    ++ "  -V, --version  Print version\n"

/-- Bytes in a message: as text, and without what would give orders to the terminal. -/
def displayed (medium : Terminal.Medium) (s : Bytes) : String :=
  Terminal.shown medium (Utf8.decodeLossy s)

/-- Names at least this much alike are taken for each other. -/
def similar : Share := ⟨7, 10⟩

/-- The switch whose name is most like the given one, the last of them if several are. -/
def Switch.suggested? (name : String) : Option Switch :=
  (all.filter fun s => similar.le (likeness name.toList s.name.toList)).foldl
    (fun best s =>
      match best with
      | none => some s
      | some known =>
        if (likeness name.toList known.name.toList).le (likeness name.toList s.name.toList) then some s
        else some known)
    none

/-- The paths and the choice of Kotlin as alternatives. -/
def alternatives : String := "<--kts|POM>"

def usage (words : List String) : String := "Usage: " ++ " ".intercalate (programName :: words)

/-- The usage with these switches, or with any if there is none to name. -/
def usageNaming : List Switch → String
  | [] => usage ["[OPTIONS]", operands]
  | switches => usage (switches.map Switch.text ++ [operands])

/-- The switches that have been given once the dialect is chosen. -/
def Dialect.switches : Dialect → List Switch
  | .groovy => []
  | .kotlin => [.kotlin]

namespace UsageError

def message (medium : Terminal.Medium) : UsageError → String
  | repeated s => s!"the argument '{s.text}' cannot be used multiple times"
  | unexpectedValue s value _ =>
    s!"unexpected value '{displayed medium value}' for '{s.text}' found; no more were expected"
  | unreadable name _ => s!"unexpected argument '--{displayed medium name}' found"
  | emptyPath => s!"a value is required for '{operands}' but none was supplied"

/-- The switch that a name may have been meant for. -/
def suggestion? : UsageError → Option Switch
  | unreadable name _ => Switch.suggested? (Utf8.decodeLossy name)
  | _ => none

/-- What to write instead. -/
def tip? (medium : Terminal.Medium) (e : UsageError) : Option String :=
  match e, e.suggestion? with
  | unreadable _ _, some s => some s!"  tip: a similar argument exists: '{s.text}'"
  | unreadable name _, none =>
    let argument := s!"--{displayed medium name}"
    some s!"  tip: to pass '{argument}' as a value, use '-- {argument}'"
  | _, _ => none

/-- A value too many shows the choice of Kotlin, if it has been made, among the alternatives. An
    unreadable name shows the switches given and the one suggested, each once. -/
def usage? (e : UsageError) : Option String :=
  match e with
  | repeated _ => some (usageNaming [])
  | unexpectedValue s _ .groovy => some (usageNaming [s])
  | unexpectedValue .kotlin _ .kotlin => some (usage [alternatives])
  | unexpectedValue s _ .kotlin => some (usage [s.text, alternatives])
  | unreadable _ dialect =>
    let given := dialect.switches
    some (usageNaming (given ++ e.suggestion?.toList.filter fun s => !given.contains s))
  | emptyPath => none

/-- The parts of a report, a blank line between each two. -/
def report (medium : Terminal.Medium) (e : UsageError) : String :=
  "\n\n".intercalate (s!"error: {e.message medium}"
    :: ((e.tip? medium).toList ++ e.usage?.toList ++ ["For more information, try '--help'."]))
    ++ "\n"

/-- The first line of the report, as a text. -/
def headline (e : UsageError) : String := firstLine (e.report .text)

def exitCode : Nat := 2

end UsageError

end PomToGradle
