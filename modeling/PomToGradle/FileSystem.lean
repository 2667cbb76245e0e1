import PomToGradle.Stream
import PomToGradle.Text.Utf8

/-!
Paths and files, as far as reading goes.
-/
namespace PomToGradle

abbrev Path := Bytes

namespace Path

def shown (path : Path) : String := Utf8.decodeLossy path

/-- The parts between slashes; a slash at either end leaves an empty part there. -/
def parts (path : Path) : List Path := path.splitOn (ascii '/')

def current : Path := Bytes.ofAscii "."

def parent : Path := Bytes.ofAscii ".."

/-- The last part that names something, unless it leads upwards. -/
def fileName? (path : Path) : Option Path :=
  match (path.parts.filter fun part => !(part.isEmpty || part == current)).getLast? with
  | some part => if part = parent then none else some part
  | none => none

end Path

/-- What a path leads to. Whether it is a regular file can be told without opening it, so one that may
    not be opened is a regular file as well. -/
structure Target where
  isFile : Bool
  /-- A stream, which may fail before its end, if there is anything that can be opened. -/
  opened : Except IoError (List Delivery)

abbrev FileSystem := Path → Target

namespace FileSystem

def read (fs : FileSystem) (path : Path) : Except IoError Bytes := (fs path).opened >>= gather

def isFile (fs : FileSystem) (path : Path) : Bool := (fs path).isFile

end FileSystem

end PomToGradle
