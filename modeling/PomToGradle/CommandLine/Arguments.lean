import PomToGradle.FileSystem
import PomToGradle.Gradle.Dialect

/-!
Command-line arguments. Switches are read up to the first argument that is none; from there on every
argument is a path, whatever it looks like. The switch for Kotlin is found anywhere, because arguments
are put in order first.
-/
namespace PomToGradle

inductive Switch where
  | kotlin
  | help
  | version
deriving DecidableEq, Repr

namespace Switch

def name : Switch → String
  | kotlin => "kts"
  | help => "help"
  | version => "version"

def text : Switch → String
  | kotlin => "--kts"
  | help => "--help"
  | version => "--version"

def bytes (s : Switch) : Bytes := Bytes.ofAscii s.text

def all : List Switch := [kotlin, help, version]

def ofBytes? (argument : Bytes) : Option Switch := all.find? fun s => s.bytes == argument

/-- The other spelling of the switch for Kotlin. -/
def kotlinShort : Bytes := Bytes.ofAscii "-kts"

/-- A dash with letters `h` and `V` only: the first letter counts. -/
def ofGroup? : Bytes → Option Switch
  | dash :: first :: rest =>
    if dash == ascii '-' && rest.all fun b => b == ascii 'h' || b == ascii 'V' then
      if first = ascii 'h' then some help
      else if first = ascii 'V' then some version
      else none
    else none
  | _ => none

/-- The value given to a switch with an equals sign, although no switch takes one. -/
def valued? (argument : Bytes) : Option (Switch × Bytes) :=
  all.findSome? fun s =>
    let opening := s.bytes ++ [ascii '=']
    if opening.isPrefixOf argument then some (s, argument.drop opening.length) else none

end Switch

/-- Any spelling of the switch for Kotlin. -/
def asksForKotlin (argument : Bytes) : Bool :=
  argument == Switch.kotlinShort || argument == Switch.kotlin.bytes

/-- The program name, then each switch for Kotlin in its long form, then all the rest in order. -/
def normalizeArguments : List Bytes → List Bytes
  | [] => []
  | program :: rest =>
    program :: ((rest.filter asksForKotlin).map (fun _ => Switch.kotlin.bytes)
      ++ rest.filter fun argument => !asksForKotlin argument)

structure Invocation where
  dialect : Dialect
  paths : List Path
deriving DecidableEq, Repr

/-- What the arguments ask for. -/
inductive Request where
  | convert (invocation : Invocation)
  | help
  | version
deriving DecidableEq, Repr

/-- What is wrong with the arguments, with the dialect chosen so far where the usage depends on it. -/
inductive UsageError where
  | repeated (s : Switch)
  | unexpectedValue (s : Switch) (value : Bytes) (dialect : Dialect)
  /-- The name of a switch that is not even text. -/
  | unreadable (name : Bytes) (dialect : Dialect)
  | emptyPath
deriving DecidableEq, Repr

namespace Request

def separator : Bytes := Bytes.ofAscii "--"

/-- The name in an argument that looks like a switch, up to an equals sign, if it is not text. Such an
    argument cannot be told from a switch, so it is no path either. -/
def unreadableName? (argument : Bytes) : Option Bytes :=
  if separator.isPrefixOf argument then
    let name := (argument.drop separator.length).takeWhile (· != ascii '=')
    if (Utf8.decode? name).isNone then some name else none
  else none

def ofPaths (dialect : Dialect) (paths : List Path) : Except UsageError Request :=
  if paths.any List.isEmpty then .error .emptyPath else .ok (.convert { dialect, paths })

/-- The request of arguments that no path has come before, `dialect` being the one chosen so far. -/
def ofArguments (dialect : Dialect) : List Bytes → Except UsageError Request
  | [] => .ok (.convert { dialect, paths := [] })
  | argument :: rest =>
    if argument = separator then ofPaths dialect rest
    else
      match Switch.ofBytes? argument with
      | some .kotlin =>
        if dialect = .kotlin then .error (.repeated .kotlin) else ofArguments .kotlin rest
      | some .help => .ok .help
      | some .version => .ok .version
      | none =>
        match Switch.ofGroup? argument with
        | some .version => .ok .version
        | some _ => .ok .help
        | none =>
          match Switch.valued? argument with
          | some (s, value) => .error (.unexpectedValue s value dialect)
          | none =>
            match unreadableName? argument with
            | some name => .error (.unreadable name dialect)
            | none => ofPaths dialect (argument :: rest)

/-- The request of a whole command line, the program name in front. -/
def ofCommandLine (arguments : List Bytes) : Except UsageError Request :=
  ofArguments .groovy (normalizeArguments arguments).tail

end Request

end PomToGradle
