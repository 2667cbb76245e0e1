import PomToGradle.Bytes

/-!
UTF-8 text. The decoder reads bytes one at a time and keeps what the sequence under way still needs.
An ill-formed sequence counts once for each longest start of a well-formed one, which is what the
reading that substitutes U+FFFD shows; the strict reading refuses the whole text.
-/
namespace PomToGradle.Utf8

def encodeChars (s : List Char) : Bytes := s.flatMap String.utf8EncodeChar

def encode (s : String) : Bytes := encodeChars s.toList

theorem encodeChars_append (s t : List Char) :
    encodeChars (s ++ t) = encodeChars s ++ encodeChars t := by
  simp [encodeChars]

/-- Between characters, or inside one whose leading bytes gave `value`: `missing` further bytes
    follow this one, which has to lie between `low` and `high`. -/
inductive Pending where
  | none
  | within (value missing : Nat) (low high : UInt8)
deriving DecidableEq, Repr

/-- What the bytes read so far spell, last first, with nothing in place of an ill-formed sequence. -/
structure Decoder where
  pending : Pending
  output : List (Option Char)
deriving DecidableEq, Repr

/-- The bounds of the second byte rule out overlong forms, surrogates and numbers above U+10FFFF. -/
def lead (output : List (Option Char)) (b : UInt8) : Decoder :=
  let n := b.toNat
  if n < 0x80 then ⟨.none, some (Char.ofNat n) :: output⟩
  else if n < 0xC2 then ⟨.none, none :: output⟩
  else if n < 0xE0 then ⟨.within (n - 0xC0) 0 0x80 0xBF, output⟩
  else if n < 0xF0 then
    ⟨.within (n - 0xE0) 1 (if n = 0xE0 then 0xA0 else 0x80) (if n = 0xED then 0x9F else 0xBF), output⟩
  else if n < 0xF5 then
    ⟨.within (n - 0xF0) 2 (if n = 0xF0 then 0x90 else 0x80) (if n = 0xF4 then 0x8F else 0xBF), output⟩
  else ⟨.none, none :: output⟩

def Decoder.step (d : Decoder) (b : UInt8) : Decoder :=
  match d.pending with
  | .none => lead d.output b
  | .within value missing low high =>
    if low ≤ b ∧ b ≤ high then
      let value := value * 64 + (b.toNat - 0x80)
      match missing with
      | 0 => ⟨.none, some (Char.ofNat value) :: d.output⟩
      | missing + 1 => ⟨.within value missing 0x80 0xBF, d.output⟩
    else lead (none :: d.output) b

def Decoder.finish (d : Decoder) : List (Option Char) :=
  match d.pending with
  | .none => d.output.reverse
  | .within .. => (none :: d.output).reverse

/-- The characters of a byte string, with nothing in place of each ill-formed sequence. -/
def decodeParts (s : Bytes) : List (Option Char) :=
  (s.foldl Decoder.step ⟨.none, []⟩).finish

/-- Strict reading. -/
def decode? (s : Bytes) : Option String := ((decodeParts s).mapM id).map String.ofList

/-- Every ill-formed sequence reads as U+FFFD. -/
def decodeLossy (s : Bytes) : String :=
  String.ofList ((decodeParts s).map (·.getD '\uFFFD'))

end PomToGradle.Utf8
