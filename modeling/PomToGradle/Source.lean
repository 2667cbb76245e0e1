import PomToGradle.Document
import PomToGradle.FileSystem
import PomToGradle.Log.Logged
import PomToGradle.PomError

/-!
Where documents come from: a text, bytes, a stream that delivers bytes in pieces, a file.
-/
namespace PomToGradle

namespace Document

def reported (x : Except PomError Document) : Logged PomError Document :=
  .andReport x fun d => .loadedDocument d.topLevel

def load (s : String) : Logged PomError Document := reported ((parse s).mapError .malformed)

def ofBytes (x : Except IoError Bytes) : Except PomError Document := do
  let bytes ← x.mapError .io
  (parseBytes bytes).mapError .malformed

def loadBytes (bytes : Bytes) : Logged PomError Document := reported (ofBytes (.ok bytes))

/-- Reading comes first: a stream that fails is no document, whatever it delivered before. -/
def loadStream (stream : List Delivery) : Logged PomError Document :=
  reported (ofBytes (gather stream))

def loadFile (fs : FileSystem) (path : Path) : Logged PomError Document :=
  reported (ofBytes (fs.read path))

end Document

inductive Source where
  | text (s : String)
  | bytes (bytes : Bytes)
  | reader (attempts : List Delivery)
  | file (fs : FileSystem) (path : Path)

namespace Source

/-- A reader that has these pieces to deliver. One without bytes is passed over, so it ends nothing. -/
def stream (pieces : List Delivery) : Source := reader (pieces.filter (· ≠ .data []))

def load : Source → Logged PomError Document
  | text s => Document.load s
  | bytes s => Document.loadBytes s
  | reader attempts => Document.loadStream attempts
  | file fs path => Document.loadFile fs path

end Source

end PomToGradle
