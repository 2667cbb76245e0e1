/-!
How alike two texts are, between zero and one. Equal characters are matched if they stand at about
the same place. The likeness is the mean of three shares: of the first text that is matched, of the
second text that is matched, and of the matches that are not out of order.
-/
namespace PomToGradle

/-- A fraction: so many parts of the whole. -/
structure Share where
  part : Nat
  whole : Nat
deriving DecidableEq, Repr

def Share.le (a b : Share) : Bool := a.part * b.whole ≤ b.part * a.whole

namespace Likeness

/-- Characters of the second text, each with whether it is matched already. -/
abbrev Marks := List (Char × Bool)

/-- Matches `c` with the first character free for it, from the place `low` and before `high`. -/
def mark? (c : Char) : Nat → Nat → Marks → Option Marks
  | _, _, [] => none
  | _, 0, _ :: _ => none
  | 0, high + 1, (d, matched) :: rest =>
    if c = d ∧ !matched then some ((d, true) :: rest)
    else (mark? c 0 high rest).map ((d, matched) :: ·)
  | low + 1, high + 1, m :: rest => (mark? c low high rest).map (m :: ·)

/-- The matched characters of the first text, whose next character is at `place`, and the marks they
    leave on the second. -/
def pair (range place : Nat) : List Char → Marks → List Char × Marks
  | [], marks => ([], marks)
  | c :: rest, marks =>
    match mark? c (place - range) (place + range + 1) marks with
    | some marks =>
      let (matched, marks) := pair range (place + 1) rest marks
      (c :: matched, marks)
    | none => pair range (place + 1) rest marks

/-- How far apart two characters may stand. -/
def range (s t : List Char) : Nat := max s.length t.length / 2 - 1

/-- The matched characters in the order of each text. -/
def matched (s t : List Char) : List Char × List Char :=
  let (inFirst, marks) := pair (range s t) 0 s (t.map (·, false))
  (inFirst, (marks.filter (·.2)).map (·.1))

/-- Characters out of order, two for each exchange. -/
def displaced (matched : List Char × List Char) : Nat :=
  ((matched.1.zip matched.2).filter fun (c, d) => c != d).length

end Likeness

open Likeness in
def likeness (s t : List Char) : Share :=
  let both := matched s t
  let count := both.1.length
  let ordered := count - displaced both / 2
  if count = 0 then ⟨0, 1⟩
  else
    ⟨count * count * (s.length + t.length) + ordered * s.length * t.length,
      3 * (s.length * t.length * count)⟩

end PomToGradle
