import PomToGradle.Bytes

/-!
UTF-16 text in either byte order, read strictly: an odd number of bytes or a surrogate without its
partner makes the whole text unreadable.
-/
namespace PomToGradle.Utf16

inductive ByteOrder where
  | littleEndian
  | bigEndian
deriving DecidableEq, Repr

def ByteOrder.unit : ByteOrder → UInt8 → UInt8 → Nat
  | .littleEndian, a, b => a.toNat + 256 * b.toNat
  | .bigEndian, a, b => 256 * a.toNat + b.toNat

def units? (order : ByteOrder) : Bytes → Option (List Nat)
  | [] => some []
  | [_] => none
  | a :: b :: rest => (units? order rest).map (order.unit a b :: ·)

def isHigh (u : Nat) : Bool := 0xD800 ≤ u && u < 0xDC00

def isLow (u : Nat) : Bool := 0xDC00 ≤ u && u < 0xE000

/-- A high surrogate takes the low one after it; no other unit may be a surrogate. -/
def chars? : List Nat → Option (List Char)
  | [] => some []
  | u :: rest =>
    if isHigh u then
      match rest with
      | v :: rest =>
        if isLow v then
          (chars? rest).map (Char.ofNat (0x10000 + (u - 0xD800) * 0x400 + (v - 0xDC00)) :: ·)
        else none
      | [] => none
    else if isLow u then none
    else (chars? rest).map (Char.ofNat u :: ·)

def decode? (order : ByteOrder) (s : Bytes) : Option String :=
  ((units? order s).bind chars?).map String.ofList

end PomToGradle.Utf16
