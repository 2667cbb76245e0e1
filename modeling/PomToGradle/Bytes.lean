/-!
Byte strings, and the ASCII characters that markup gives a meaning to.
-/
namespace PomToGradle

abbrev Bytes := List UInt8

/-- The code of an ASCII character. -/
def ascii (c : Char) : UInt8 := UInt8.ofNat c.toNat

/-- The two characters that may enclose a literal. -/
inductive Quote where
  | single
  | double
deriving DecidableEq, Repr

def Quote.byte : Quote → UInt8
  | .single => 0x27
  | .double => 0x22

/-- The quote that a byte stands for, if it stands for one. -/
def Quote.ofByte? (b : UInt8) : Option Quote :=
  if b = Quote.single.byte then some .single
  else if b = Quote.double.byte then some .double
  else none

/-- Markup separates names by space, tab, carriage return and line feed only. -/
def isBlankByte (b : UInt8) : Bool :=
  b == 0x20 || b == 0x09 || b == 0x0D || b == 0x0A

/-- The bytes of a text that holds ASCII characters only. -/
def Bytes.ofAscii (s : String) : Bytes := s.toList.map ascii

/-- Capital ASCII letters become small ones; every other byte stays. -/
def lowerByte (b : UInt8) : UInt8 :=
  if 0x41 ≤ b ∧ b ≤ 0x5A then b + 0x20 else b

theorem ofByte?_byte (q : Quote) : Quote.ofByte? q.byte = some q := by
  cases q <;> decide

end PomToGradle
