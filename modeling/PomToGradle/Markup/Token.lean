import PomToGradle.Bytes

/-!
The pieces that markup is cut into. Each keeps the exact bytes between its delimiters, so the
spellings of a document's tokens, one after the other, are the document.
-/
namespace PomToGradle

inductive Token where
  | text (run : Bytes)
  | reference (name : Bytes)
  | startTag (content : Bytes)
  | emptyTag (content : Bytes)
  | endTag (content : Bytes)
  | comment (content : Bytes)
  | cdata (content : Bytes)
  | doctype (keyword content : Bytes)
  | instruction (content : Bytes)
deriving DecidableEq, Repr

namespace Token

def cdataKeyword : Bytes := Bytes.ofAscii "[CDATA["

def doctypeKeyword : Bytes := Bytes.ofAscii "doctype"

def spell : Token → Bytes
  | text run => run
  | reference name => ascii '&' :: (name ++ [ascii ';'])
  | startTag content => ascii '<' :: (content ++ [ascii '>'])
  | emptyTag content => ascii '<' :: (content ++ Bytes.ofAscii "/>")
  | endTag content => Bytes.ofAscii "</" ++ content ++ [ascii '>']
  | comment content => Bytes.ofAscii "<!--" ++ content ++ Bytes.ofAscii "-->"
  | cdata content => Bytes.ofAscii "<!" ++ cdataKeyword ++ content ++ Bytes.ofAscii "]]>"
  | doctype keyword content => Bytes.ofAscii "<!" ++ keyword ++ content ++ [ascii '>']
  | instruction content => Bytes.ofAscii "<?" ++ content ++ Bytes.ofAscii "?>"

def length (t : Token) : Nat := t.spell.length

def spellAll (l : List Token) : Bytes := l.flatMap spell

@[simp] theorem spellAll_nil : spellAll [] = [] := rfl

@[simp] theorem spellAll_singleton (t : Token) : spellAll [t] = t.spell := by simp [spellAll]

theorem spellAll_append (l r : List Token) : spellAll (l ++ r) = spellAll l ++ spellAll r := by
  simp [spellAll]

end Token

/-- The name in a start tag ends at the first blank; it may be empty. -/
def tagName (content : Bytes) : Bytes := content.takeWhile fun b => !isBlankByte b

/-- The name in an end tag is all of it but for blanks at the end; one of blanks only is kept. -/
def endTagName (content : Bytes) : Bytes :=
  if content.all isBlankByte then content
  else (content.reverse.dropWhile isBlankByte).reverse

/-- The part of a name after its first colon, or all of it if it has none. -/
def localPart (name : Bytes) : Bytes :=
  match name.dropWhile (· != ascii ':') with
  | [] => name
  | _ :: rest => rest

def declarationKeyword : Bytes := Bytes.ofAscii "xml"

/-- What follows the keyword of a declaration; other instructions have no such part. -/
def declarationBody? (content : Bytes) : Option Bytes :=
  if declarationKeyword.isPrefixOf content then
    let body := content.drop declarationKeyword.length
    if body.head?.all isBlankByte then some body else none
  else none

end PomToGradle
