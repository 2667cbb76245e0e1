import PomToGradle.Bytes

/-!
What can be wrong with markup before any tag is matched with another: a construct without its end, a
construct that is none, a document type without a name.
-/
namespace PomToGradle

inductive Construct where
  | instruction
  | declaration
  | comment
  | doctype
  | cdata
  | tag
  | attributeValue (quote : Quote)
deriving DecidableEq, Repr

inductive Fault where
  | unknownMarkup
  | unclosed (construct : Construct)
  | unclosedReference
  | missingDoctypeName
deriving DecidableEq, Repr

namespace Construct

def noun : Construct → String
  | instruction => "processing instruction"
  | declaration => "XML declaration"
  | comment => "comment"
  | doctype => "DOCTYPE"
  | cdata => "CDATA"
  | tag => "tag"
  | attributeValue _ => "attribute value"

/-- What closes the construct. -/
def terminator : Construct → String
  | instruction | declaration => "?>"
  | comment => "-->"
  | doctype | tag => ">"
  | cdata => "]]>"
  | attributeValue .single => "'"
  | attributeValue .double => "\""

end Construct

namespace Fault

/-- A fault of spelling, or one of the document as a whole. -/
def isSyntax : Fault → Bool
  | unknownMarkup | unclosed _ => true
  | unclosedReference | missingDoctypeName => false

def message : Fault → String
  | unknownMarkup => "unknown or missed symbol in markup"
  | unclosed c =>
    c.noun ++ " not closed: `" ++ c.terminator ++ "` not found before end of input"
  | unclosedReference =>
    "entity or character reference not closed: `;` not found before end of input"
  | missingDoctypeName =>
    "`<!DOCTYPE>` declaration does not contain a name of a document type"

end Fault

end PomToGradle
