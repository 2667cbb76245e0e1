/-!
What a reference stands for. Character references give a number, in decimal or after an `x` in
hexadecimal digits; one plus sign may stand before the digits. The other names are the five that
markup itself needs.
-/
namespace PomToGradle

inductive Radix where
  | decimal
  | hexadecimal
deriving DecidableEq, Repr

namespace Radix

def base : Radix → Nat
  | decimal => 10
  | hexadecimal => 16

def digit? (radix : Radix) (c : Char) : Option Nat :=
  let n := c.toNat
  if 0x30 ≤ n ∧ n ≤ 0x39 then some (n - 0x30)
  else
    match radix with
    | decimal => none
    | hexadecimal =>
      if 0x41 ≤ n ∧ n ≤ 0x46 then some (n - 0x41 + 10)
      else if 0x61 ≤ n ∧ n ≤ 0x66 then some (n - 0x61 + 10)
      else none

/-- The number whose digits come after those of `n`. -/
def extend? (radix : Radix) (n : Nat) : List Char → Option Nat
  | [] => some n
  | c :: rest => (radix.digit? c).bind fun d => extend? radix (n * radix.base + d) rest

/-- A number needs a digit. -/
def number? (radix : Radix) (s : List Char) : Option Nat :=
  if s.isEmpty then none else radix.extend? 0 s

end Radix

/-- The character with that number, if the number is a Unicode scalar value. -/
def scalar? (n : Nat) : Option Char :=
  if n < 0xD800 ∨ (0xDFFF < n ∧ n < 0x110000) then some (Char.ofNat n) else none

def unsigned (s : List Char) : List Char :=
  match s with
  | '+' :: digits => digits
  | digits => digits

/-- The character that the text after a number sign names. -/
def characterReference? (s : List Char) : Option Char :=
  match s with
  | 'x' :: digits => (Radix.hexadecimal.number? (unsigned digits)).bind scalar?
  | digits => (Radix.decimal.number? (unsigned digits)).bind scalar?

def predefinedEntity? (name : String) : Option Char :=
  if name = "lt" then some '<'
  else if name = "gt" then some '>'
  else if name = "amp" then some '&'
  else if name = "apos" then some (Char.ofNat 0x27)
  else if name = "quot" then some '"'
  else none

end PomToGradle
