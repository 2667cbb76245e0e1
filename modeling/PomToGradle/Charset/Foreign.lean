/-!
Characters outside ASCII. Encodings that keep ASCII as it is have no other characters for their further
codes, so that an ASCII character in a text comes from its own byte.
-/
namespace PomToGradle

structure Foreign where
  char : Char
  outside : 0x80 ≤ char.toNat
deriving DecidableEq, Repr

namespace Foreign

def ofChar? (c : Char) : Option Foreign :=
  if outside : 0x80 ≤ c.toNat then some ⟨c, outside⟩ else none

def ofNat? (n : Nat) : Option Foreign := ofChar? (Char.ofNat n)

theorem ofChar?_char (f : Foreign) : ofChar? f.char = some f := dif_pos f.outside

/-- Half-width katakana in the order of their codes. -/
def katakana? (n : Nat) : Option Foreign := if n < 63 then ofNat? (0xFF61 + n) else none

end Foreign

end PomToGradle
