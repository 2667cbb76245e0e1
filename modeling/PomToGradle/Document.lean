import PomToGradle.Charset.Signature
import PomToGradle.Tree.Assembly
import PomToGradle.Tree.Search

/-!
Documents: the forest of all that stands at the top of a POM or of a fragment of one. A fragment of
several elements is as good a document as one with a single root.
-/
namespace PomToGradle

structure Document where
  children : Forest
deriving DecidableEq, Repr

namespace Document

/-- Every document hangs off an element of this name. -/
def rootName : String := "root"

def root (d : Document) : Element := ⟨rootName, d.children⟩

def descendants (d : Document) (tag : String) : List Element := d.root.descendants tag

/-- The number of elements at the top. -/
def topLevel (d : Document) : Nat := d.root.elements.length

def dropMark (s : String) : List Char :=
  match s.toList with
  | '\uFEFF' :: rest => rest
  | s => s

/-- A text as tokens. -/
def lexed (s : String) : Lexed := Lexed.ofBytes (dropUtf8Mark (Utf8.encodeChars (dropMark s)))

/-- Text is read as it stands, whatever encoding it declares. -/
def parse (s : String) : Except ParseError Document :=
  ((Assembly.start .utf8 true).ofLexed (lexed s)).map Document.mk

/-- Bytes are read in the encoding that they declare or begin with, and else as UTF-8. -/
def parseBytes (s : Bytes) : Except ParseError Document :=
  let (charset, s) := Charset.ofSignature (dropUtf8Mark s)
  ((Assembly.start charset false).ofLexed (Lexed.ofBytes s)).map Document.mk

end Document

end PomToGradle
