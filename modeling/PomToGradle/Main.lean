import PomToGradle.CommandLine.Program

/-!
The command line. The files that the arguments may name are read beforehand, so that all that is
decided is decided by `execute`.
-/
namespace PomToGradle

def systemCode : IO.Error → Nat
  | .alreadyExists _ code _ | .otherError code _ | .resourceBusy code _
  | .resourceVanished code _ | .unsupportedOperation code _ | .hardwareFault code _
  | .unsatisfiedConstraints code _ | .illegalOperation code _ | .protocolError code _
  | .timeExpired code _ | .interrupted _ code _ | .noFileOrDirectory _ code _
  | .invalidArgument _ code _ | .permissionDenied _ code _ | .resourceExhausted _ code _
  | .inappropriateType _ code _ | .noSuchThing _ code _ => code.toNat
  | .unexpectedEof | .userError _ => 0

def ioError (e : IO.Error) : IoError :=
  match SystemError.ofCode? (systemCode e) with
  | some error => .system error
  | none => .described (toString e)

def isRegular (name : String) : IO Bool := do
  try
    let place ← IO.FS.realPath name
    return (← place.metadata).type == .file
  catch _ => return false

def reading (handle : IO.FS.Handle) : IO Delivery := do
  try
    let content ← handle.readBinToEnd
    return .data content.toList
  catch e => return .failed (ioError e)

def opening (name : String) : IO (Except IoError (List Delivery)) := do
  try
    let handle ← IO.FS.Handle.mk name .read
    return .ok [← reading handle]
  catch e => return .error (ioError e)

def snapshot (names : List String) : IO FileSystem := do
  let known ← names.mapM fun name => do
    return (Utf8.encode name, Target.mk (← isRegular name) (← opening name))
  return fun path => (known.lookup path).getD ⟨false, .error (.system .noSuchFile)⟩

def runProgram (arguments : List String) : IO UInt32 := do
  let fs ← snapshot ((Path.shown defaultPom) :: arguments)
  let verbosity := ((← IO.getEnv "RUST_LOG").bind Verbosity.ofName?).getD .standard
  let outcome := execute fs verbosity (arguments.map Utf8.encode)
  IO.eprint outcome.stderr
  IO.print outcome.stdout
  return outcome.exitCode.toUInt32

end PomToGradle

def main (arguments : List String) : IO UInt32 := PomToGradle.runProgram arguments
