import PomToGradle.Charset.Foreign

/-!
Indexes of the characters that an encoding numbers.
-/
namespace PomToGradle

/-- Characters by number, ninety-four to a row. A number without a character has a full stop in its
    place, or the row ends before it. -/
structure Index where
  rows : Array String

def Index.rowLength : Nat := 94

def Index.char? (index : Index) (n : Nat) : Option Foreign := do
  let row ← index.rows[n / rowLength]?
  let c ← row.toList[n % rowLength]?
  Foreign.ofChar? c

end PomToGradle
