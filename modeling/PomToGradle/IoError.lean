/-!
Why bytes could not be had: the operating system refused, or whoever delivers them did.
-/
namespace PomToGradle

inductive SystemError where
  | noSuchFile
  | inputOutput
  | permissionDenied
  | notADirectory
  | isADirectory
  | nameTooLong
deriving DecidableEq, Repr

namespace SystemError

def code : SystemError → Nat
  | noSuchFile => 2
  | inputOutput => 5
  | permissionDenied => 13
  | notADirectory => 20
  | isADirectory => 21
  | nameTooLong => 36

def description : SystemError → String
  | noSuchFile => "No such file or directory"
  | inputOutput => "Input/output error"
  | permissionDenied => "Permission denied"
  | notADirectory => "Not a directory"
  | isADirectory => "Is a directory"
  | nameTooLong => "File name too long"

def all : List SystemError :=
  [noSuchFile, inputOutput, permissionDenied, notADirectory, isADirectory, nameTooLong]

def ofCode? (n : Nat) : Option SystemError := all.find? fun e => e.code == n

theorem ofCode?_code (e : SystemError) : ofCode? e.code = some e := by
  cases e <;> decide

end SystemError

inductive IoError where
  | system (error : SystemError)
  | notFound
  | permissionDenied
  | unexpectedEnd
  | invalidData
  | timedOut
  | nulInName
  /-- A cause that is known by its description only. -/
  | described (description : String)
deriving DecidableEq, Repr

def IoError.message : IoError → String
  | system e => s!"{e.description} (os error {e.code})"
  | notFound => "entity not found"
  | permissionDenied => "permission denied"
  | unexpectedEnd => "unexpected end of file"
  | invalidData => "invalid data"
  | timedOut => "timed out"
  | nulInName => "file name contained an unexpected NUL byte"
  | described description => description

end PomToGradle
