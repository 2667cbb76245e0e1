import PomToGradle.IoError
import PomToGradle.ParseError

/-!
Why a POM gives no dependencies.
-/
namespace PomToGradle

inductive PomError where
  | malformed (error : ParseError)
  /-- A required element is absent, or holds nothing but blanks. -/
  | missingField (tag : String)
  | io (error : IoError)
deriving DecidableEq, Repr

namespace PomError

def message : PomError → String
  | malformed e => e.message
  | missingField tag => s!"Required element '{tag}' not found"
  | io e => s!"I/O error: {e.message}"

def missingTag? : PomError → Option String
  | missingField tag => some tag
  | _ => none

/-- The error underneath, if there is one. -/
def cause? : PomError → Option IoError
  | io e => some e
  | _ => none

end PomError

end PomToGradle
