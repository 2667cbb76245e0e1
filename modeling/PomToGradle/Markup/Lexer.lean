import PomToGradle.Markup.Token
import PomToGradle.Markup.Fault
import PomToGradle.Markup.Doctype

/-!
Cutting a document into tokens, byte by byte. A byte completes at most one token, and every token
that is complete stays, so the tokens of a document do not depend on what follows them; only a run of
text at the end may still grow. Bytes of the token under way are kept last first.
-/
namespace PomToGradle

inductive Mode where
  | text (run : Bytes)
  | reference (name : Bytes)
  /-- After a `<`. -/
  | opened
  | tag (quote : Option Quote) (content : Bytes)
  | endTag (quote : Option Quote) (content : Bytes)
  /-- After `<!`. -/
  | bang
  /-- After `<!-`. -/
  | commentOpening
  | comment (content : Bytes)
  /-- After `<!` and the bytes `seen`, in order, which start the keyword of a CDATA section. -/
  | cdataOpening (seen : Bytes)
  | cdata (content : Bytes)
  /-- After `<!` and the bytes `seen`, in order, which start the keyword of a document type. -/
  | doctypeOpening (seen : Bytes)
  | doctype (keyword : Bytes) (scan : Doctype.Scan) (content : Bytes)
  | instruction (content : Bytes)
  | failed (fault : Fault)
deriving DecidableEq, Repr

namespace Mode

/-- Between two tokens. -/
def start : Mode := .text []

/-- The quote that is open after a byte. -/
def quoteAfter (quote : Option Quote) (b : UInt8) : Option Quote :=
  match quote with
  | none => Quote.ofByte? b
  | some q => if b = q.byte then none else some q

def textToken : Bytes → Option Token
  | [] => none
  | run => some (.text run.reverse)

/-- A tag that ends with a slash is an empty element. -/
def tagToken (content : Bytes) : Token :=
  if content.head? = some (ascii '/') then .emptyTag content.tail.reverse
  else .startTag content.reverse

/-- A document type needs a name; any byte that is not blank will do for one. -/
def endDoctype (keyword content : Bytes) : Mode × Option Token :=
  if content.all isBlankByte then (.failed .missingDoctypeName, none)
  else (start, some (.doctype keyword content.reverse))

/-- Whether `seen` is, starts, or misses the keyword of a CDATA section. -/
def cdataOpeningStep (seen : Bytes) : Mode :=
  if seen = Token.cdataKeyword then .cdata []
  else if seen.isPrefixOf Token.cdataKeyword then .cdataOpening seen
  else .failed (.unclosed .cdata)

/-- The keyword of a document type may be written in any letter case. -/
def doctypeOpeningStep (seen : Bytes) : Mode :=
  if seen.map lowerByte = Token.doctypeKeyword then .doctype seen .outer []
  else if (seen.map lowerByte).isPrefixOf Token.doctypeKeyword then .doctypeOpening seen
  else .failed (.unclosed .doctype)

def step : Mode → UInt8 → Mode × Option Token
  | text run, b =>
    if b = ascii '<' then (.opened, textToken run)
    else if b = ascii '&' then (.reference [], textToken run)
    else (.text (b :: run), none)
  | reference name, b =>
    if b = ascii ';' then (start, some (.reference name.reverse))
    else if b = ascii '&' ∨ b = ascii '<' then (.failed .unclosedReference, none)
    else (.reference (b :: name), none)
  | opened, b =>
    if b = ascii '!' then (.bang, none)
    else if b = ascii '?' then (.instruction [], none)
    else if b = ascii '/' then (.endTag none [], none)
    else if b = ascii '>' then (start, some (tagToken []))
    else (.tag (Quote.ofByte? b) [b], none)
  | tag quote content, b =>
    if quote = none ∧ b = ascii '>' then (start, some (tagToken content))
    else (.tag (quoteAfter quote b) (b :: content), none)
  | endTag quote content, b =>
    if quote = none ∧ b = ascii '>' then (start, some (.endTag content.reverse))
    else (.endTag (quoteAfter quote b) (b :: content), none)
  | bang, b =>
    if b = ascii '[' then (.cdataOpening [b], none)
    else if b = ascii '-' then (.commentOpening, none)
    else if lowerByte b = ascii 'd' then (.doctypeOpening [b], none)
    else (.failed .unknownMarkup, none)
  | commentOpening, b =>
    if b = ascii '-' then (.comment [], none) else (.failed (.unclosed .comment), none)
  | comment content, b =>
    if b = ascii '>' ∧ content.take 2 = Bytes.ofAscii "--" then
      (start, some (.comment (content.drop 2).reverse))
    else (.comment (b :: content), none)
  | cdataOpening seen, b => (cdataOpeningStep (seen ++ [b]), none)
  | cdata content, b =>
    if b = ascii '>' ∧ content.take 2 = Bytes.ofAscii "]]" then
      (start, some (.cdata (content.drop 2).reverse))
    else (.cdata (b :: content), none)
  | doctypeOpening seen, b => (doctypeOpeningStep (seen ++ [b]), none)
  | doctype keyword scan content, b =>
    match scan.step? b with
    | none => endDoctype keyword content
    | some scan => (.doctype keyword scan (b :: content), none)
  | instruction content, b =>
    if b = ascii '>' ∧ content = [] then (.failed (.unclosed .instruction), none)
    else if b = ascii '>' ∧ content.head? = some (ascii '?') then
      (start, some (.instruction content.tail.reverse))
    else (.instruction (b :: content), none)
  | failed fault, _ => (.failed fault, none)

/-- Which construct an instruction without an end was going to be. -/
def instructionConstruct (content : Bytes) : Construct :=
  if declarationKeyword.isPrefixOf content
      && (content.drop declarationKeyword.length).head?.all
        (fun b => isBlankByte b || b == ascii '?') then
    .declaration
  else .instruction

/-- What the end of the document makes of the bytes under way. -/
def close : Mode → Option Token × Option Fault
  | text run => (textToken run, none)
  | reference _ => (none, some .unclosedReference)
  | opened => (none, some (.unclosed .tag))
  | tag none _ | endTag none _ => (none, some (.unclosed .tag))
  | tag (some q) _ | endTag (some q) _ => (none, some (.unclosed (.attributeValue q)))
  | bang => (none, some .unknownMarkup)
  | commentOpening | comment _ => (none, some (.unclosed .comment))
  | cdataOpening _ | cdata _ => (none, some (.unclosed .cdata))
  | doctypeOpening .. | doctype .. => (none, some (.unclosed .doctype))
  | instruction content => (none, some (.unclosed (instructionConstruct content.reverse)))
  | failed fault => (none, some fault)

end Mode

/-- The tokens completed so far, last first, and the token under way. -/
structure Lexer where
  mode : Mode
  tokens : List Token
deriving DecidableEq, Repr

namespace Lexer

def start : Lexer := ⟨Mode.start, []⟩

def step (l : Lexer) (b : UInt8) : Lexer :=
  let (mode, token?) := l.mode.step b
  ⟨mode, token?.toList ++ l.tokens⟩

def run (l : Lexer) (s : Bytes) : Lexer := s.foldl step l

theorem run_append (l : Lexer) (s t : Bytes) : l.run (s ++ t) = (l.run s).run t :=
  List.foldl_append

end Lexer

/-- A document as tokens, up to the fault if there is one. -/
structure Lexed where
  tokens : List Token
  fault : Option Fault
deriving DecidableEq, Repr

def Lexer.finish (l : Lexer) : Lexed :=
  let (token?, fault) := l.mode.close
  ⟨(token?.toList ++ l.tokens).reverse, fault⟩

def Lexed.ofBytes (s : Bytes) : Lexed := (Lexer.start.run s).finish

end PomToGradle
