/-!
Lines of text. A line feed ends a line and nothing else does, so text after the last one is a line
too, even when it is empty.
-/
namespace PomToGradle

def indentation : List Char := [' ', ' ', ' ', ' ']

/-- Four spaces in front of every line. -/
def indentChars (s : List Char) : List Char :=
  indentation ++ s.flatMap fun c => if c = '\n' then '\n' :: indentation else [c]

def indent (s : String) : String := String.ofList (indentChars s.toList)

/-- The first line; a carriage return in front of its line feed belongs to the line's end. -/
def firstLineChars (s : List Char) : List Char :=
  let line := s.takeWhile (· != '\n')
  if line.getLast? = some '\r' then line.dropLast else line

theorem feed_not_mem_firstLineChars (s : List Char) : '\n' ∉ firstLineChars s := by
  have absent : '\n' ∉ s.takeWhile (· != '\n') := by
    intro member
    have := List.all_eq_true.1 (List.all_takeWhile (p := (· != '\n')) (l := s)) _ member
    simp at this
  intro member
  unfold firstLineChars at member
  dsimp only at member
  split at member
  · exact absent ((List.dropLast_sublist _).subset member)
  · exact absent member

def firstLine (s : String) : String := String.ofList (firstLineChars s.toList)

/-- The texts one below the other, with no line feed at the end. -/
def joinLines (l : List String) : String := "\n".intercalate l

end PomToGradle
