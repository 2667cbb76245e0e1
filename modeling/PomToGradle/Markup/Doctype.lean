import PomToGradle.Bytes

/-!
Where a document type declaration ends. Outside the internal subset a `>` ends it unless it stands in
quotes. Inside the subset each declaration runs to an end of its own, and only a `]` outside them
closes the subset; after that the next `>` ends the whole.
-/
namespace PomToGradle.Doctype

inductive Scan where
  | outer
  | quoted (quote : Quote)
  | subset
  /-- After a `<` of the subset and the bytes `seen`, which start some keyword. -/
  | keyword (seen : Bytes)
  /-- In a declaration that the next `>` ends. -/
  | simple
  /-- In a declaration in which quotes hide a `>`. -/
  | literal (quote : Option Quote)
  /-- In a comment, after `dashes` dashes in a row; two are as good as more. -/
  | comment (dashes : Nat)
  | instruction (mark : Bool)
  | closing
deriving DecidableEq, Repr

def instructionKeyword : Bytes := Bytes.ofAscii "?"

def commentKeyword : Bytes := Bytes.ofAscii "!--"

def simpleKeywords : List Bytes := [Bytes.ofAscii "!ELEMENT"]

def literalKeywords : List Bytes :=
  [Bytes.ofAscii "!ENTITY", Bytes.ofAscii "!ATTLIST", Bytes.ofAscii "!NOTATION"]

def keywords : List Bytes :=
  instructionKeyword :: commentKeyword :: (simpleKeywords ++ literalKeywords)

/-- A declaration of no known keyword is a simple one. -/
def simpleStep (b : UInt8) : Scan := if b = ascii '>' then .subset else .simple

def keywordStep (seen : Bytes) (b : UInt8) : Scan :=
  let seen := seen ++ [b]
  if seen = instructionKeyword then .instruction false
  else if seen = commentKeyword then .comment 0
  else if seen ∈ simpleKeywords then .simple
  else if seen ∈ literalKeywords then .literal none
  else if keywords.any fun k => seen.isPrefixOf k then .keyword seen
  else simpleStep b

/-- Where the scan goes from a byte in the subset. -/
def subsetStep (b : UInt8) : Scan :=
  if b = ascii ']' then .closing
  else if b = ascii '<' then .keyword []
  else .subset

/-- Nothing comes after the byte that ends the declaration. -/
def Scan.step? : Scan → UInt8 → Option Scan
  | outer, b =>
    if b = ascii '>' then none
    else if b = ascii '[' then some .subset
    else
      match Quote.ofByte? b with
      | some q => some (.quoted q)
      | none => some .outer
  | quoted q, b => some (if b = q.byte then .outer else .quoted q)
  | subset, b => some (subsetStep b)
  | keyword seen, b => some (keywordStep seen b)
  | simple, b => some (simpleStep b)
  | literal none, b => some (if b = ascii '>' then .subset else .literal (Quote.ofByte? b))
  | literal (some q), b => some (.literal (if b = q.byte then none else some q))
  | comment dashes, b =>
    if b = ascii '-' then some (.comment (min (dashes + 1) 2))
    else if b = ascii '>' ∧ dashes = 2 then some .subset
    else some (.comment 0)
  | instruction mark, b =>
    if b = ascii '>' ∧ mark then some .subset else some (.instruction (b == ascii '?'))
  | closing, b => if b = ascii '>' then none else some .closing

theorem eq_of_step?_eq_none {scan : Scan} {b : UInt8} (h : scan.step? b = none) : b = ascii '>' := by
  cases scan with
  | outer =>
    simp only [Scan.step?] at h
    split at h
    next e => exact e
    next =>
      split at h
      · contradiction
      · split at h <;> contradiction
  | closing =>
    simp only [Scan.step?] at h
    split at h
    next e => exact e
    next => contradiction
  | literal quote => cases quote <;> simp [Scan.step?] at h
  | comment dashes =>
    simp only [Scan.step?] at h
    split at h
    · contradiction
    · split at h <;> contradiction
  | instruction mark =>
    simp only [Scan.step?] at h
    split at h <;> contradiction
  | quoted q => simp [Scan.step?] at h
  | subset => simp [Scan.step?] at h
  | keyword seen => simp [Scan.step?] at h
  | simple => simp [Scan.step?] at h

end PomToGradle.Doctype
