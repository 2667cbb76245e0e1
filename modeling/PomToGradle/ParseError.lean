import PomToGradle.Charset.Basic
import PomToGradle.Markup.Fault
import PomToGradle.Markup.Unescape

/-!
Why a document has no tree. Where the cause is one of its tokens, the offset is that of the token's
first byte.
-/
namespace PomToGradle

inductive ParseError where
  | fault (fault : Fault) (offset : Nat)
  | mismatchedEndTag (expected found : String) (offset : Nat)
  | unmatchedEndTag (found : String) (offset : Nat)
  | unclosedElement (name : String)
  | invalidCharacterReference (name : String)
  | unknownEntity (name : String)
  | undecodable (charset : Charset)
  | badEscape (error : EscapeError)
  /-- A cause that is known by its description only. -/
  | described (description : String)
deriving DecidableEq, Repr

namespace ParseError

/-- The offset an error carries, if it is about one token. -/
def offset? : ParseError → Option Nat
  | fault _ offset | mismatchedEndTag _ _ offset | unmatchedEndTag _ offset => some offset
  | _ => none

def syntaxText (detail : String) (offset : Nat) : String :=
  s!"syntax error: {detail} (at byte {offset})"

def structureText (detail : String) (offset : Nat) : String :=
  s!"ill-formed document: {detail} (at byte {offset})"

def detail : ParseError → String
  | fault f offset =>
    if f.isSyntax then syntaxText f.message offset else structureText f.message offset
  | mismatchedEndTag expected found offset =>
    structureText s!"expected `</{expected}>`, but `</{found}>` was found" offset
  | unmatchedEndTag found offset =>
    structureText s!"close tag `</{found}>` does not match any open tag" offset
  | unclosedElement name => s!"unclosed element <{name}>"
  | invalidCharacterReference name => s!"invalid character reference '&{name};'"
  | unknownEntity name => s!"unknown entity reference '&{name};'"
  | undecodable charset => s!"cannot decode input using {charset.name}"
  | badEscape error => error.message
  | described description => description

def message (e : ParseError) : String := s!"Failed to parse pom.xml: {e.detail}"

end ParseError

end PomToGradle
