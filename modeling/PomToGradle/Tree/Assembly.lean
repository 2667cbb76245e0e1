import PomToGradle.Charset.Declared
import PomToGradle.Markup.Lexer
import PomToGradle.Markup.Reference
import PomToGradle.ParseError
import PomToGradle.Tree.Forest

/-!
From tokens to a tree. The state is a place in the tree: the nodes so far on the innermost level and,
for each element that is open, its full name and the nodes before it. An end tag has to repeat the
full name of the innermost open element, byte for byte. Nodes are kept last first.
-/
namespace PomToGradle

structure OpenElement where
  name : Bytes
  before : Forest
deriving DecidableEq, Repr

structure Assembly where
  /-- The offset of the next token. -/
  offset : Nat
  charset : Charset
  /-- Whether the encoding is settled, so that no further declaration changes it. -/
  settled : Bool
  level : Forest
  opened : List OpenElement
deriving DecidableEq, Repr

/-- Names are read as UTF-8 whatever the encoding of the document. -/
def elementName (name : Bytes) : String := Utf8.decodeLossy (localPart name)

/-- Character data joins a text that is already the last node. -/
def Forest.pushText (f : Forest) (content : String) : Forest :=
  match f with
  | .text before rest => .text (before ++ content) rest
  | f => .text content f

namespace Assembly

def start (charset : Charset) (settled : Bool) : Assembly := ⟨0, charset, settled, .nil, []⟩

def decode (a : Assembly) (s : Bytes) : Except ParseError String :=
  match a.charset.decode? s with
  | some text => .ok text
  | none => .error (.undecodable a.charset)

/-- A run of text with its escapes replaced. -/
def readText (a : Assembly) (run : Bytes) : Except ParseError String := do
  let raw ← a.decode run
  (unescape raw).mapError .badEscape

/-- A name in a message; one that cannot be read is left out. -/
def shownName (a : Assembly) (name : Bytes) : String := (a.charset.decode? name).getD ""

def addText (a : Assembly) (content : String) : Assembly :=
  { a with level := a.level.pushText content }

def addElement (a : Assembly) (name : Bytes) : Assembly :=
  { a with level := .element (elementName name) .nil a.level }

def openElement (a : Assembly) (name : Bytes) : Assembly :=
  { a with level := .nil, opened := ⟨name, a.level⟩ :: a.opened }

def closeElement (a : Assembly) (name : Bytes) : Except ParseError Assembly :=
  match a.opened with
  | [] => .error (.unmatchedEndTag (a.shownName name) a.offset)
  | innermost :: outer =>
    if innermost.name = name then
      .ok { a with
        level := .element (elementName name) a.level.reverse innermost.before, opened := outer }
    else
      .error (.mismatchedEndTag (a.shownName innermost.name) (a.shownName name) a.offset)

/-- The text that a reference stands for. -/
def resolve (name : String) : Except ParseError String :=
  match name.toList with
  | '#' :: number =>
    match characterReference? number with
    | some c => .ok (String.singleton c)
    | none => .error (.invalidCharacterReference name)
  | _ =>
    match predefinedEntity? name with
    | some c => .ok (String.singleton c)
    | none => .error (.unknownEntity name)

/-- The first declaration of a known encoding settles it for all that follows. -/
def declare (a : Assembly) (content : Bytes) : Assembly :=
  if a.settled then a
  else
    match (declarationBody? content).bind Charset.declared? with
    | some charset => { a with charset, settled := true }
    | none => a

def apply (a : Assembly) : Token → Except ParseError Assembly
  | .text run => (a.readText run).map a.addText
  | .cdata content => (a.decode content).map a.addText
  | .reference name => do
    let name ← a.decode name
    let text ← resolve name
    return a.addText text
  | .startTag content => .ok (a.openElement (tagName content))
  | .emptyTag content => .ok (a.addElement (tagName content))
  | .endTag content => a.closeElement (endTagName content)
  | .instruction content => .ok (a.declare content)
  | .comment _ => .ok a
  | .doctype _ _ => .ok a

def step (a : Assembly) (t : Token) : Except ParseError Assembly :=
  (a.apply t).map fun next => { next with offset := a.offset + t.length }

def run (a : Assembly) (tokens : List Token) : Except ParseError Assembly := tokens.foldlM step a

theorem run_append (a : Assembly) (s t : List Token) :
    a.run (s ++ t) = a.run s >>= fun b => b.run t := by
  simp [run, List.foldlM_append]

/-- The tree is complete when nothing is open. -/
def finish (a : Assembly) : Except ParseError Forest :=
  match a.opened with
  | [] => .ok a.level.reverse
  | innermost :: _ => .error (.unclosedElement (elementName innermost.name))

/-- The forest of a document, or the first thing wrong with it. A fault of the markup comes after
    everything that is wrong with the tokens before it. -/
def ofLexed (a : Assembly) (lexed : Lexed) : Except ParseError Forest := do
  let a ← a.run lexed.tokens
  match lexed.fault with
  | some fault => .error (.fault fault a.offset)
  | none => a.finish

end Assembly

end PomToGradle
