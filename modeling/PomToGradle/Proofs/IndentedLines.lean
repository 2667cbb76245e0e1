import PomToGradle.Gradle.Statement

/-!
Indentation line by line. Text is cut at line feeds and nowhere else, so it has one line more than it
has line feeds. Indenting puts four spaces in front of each of these lines, empty ones included, and
the block around them is one line above and one below. What was enclosed is read off the block again.
-/
namespace PomToGradle

def linesOf (s : String) : List String := (s.toList.splitOn '\n').map String.ofList

def indentedLine (line : String) : String := String.ofList indentation ++ line

/-- The lines of a block that encloses `s`. -/
def enclosedLines (s : String) : List String :=
  "dependencies \x7b" :: ((linesOf s).map indentedLine ++ ["\x7d"])

/-- The parts of a text on both sides of every place where the character stands. -/
def partsAt (c : Char) (s : String) : List String := (s.toList.splitOn c).map String.ofList

theorem linesOf_eq (s : String) : linesOf s = partsAt '\n' s := rfl

theorem partsAt_intercalate {c : Char} {parts : List String} (more : parts ≠ [])
    (absent : ∀ s ∈ parts, c ∉ s.toList) :
    partsAt c ((String.singleton c).intercalate parts) = parts := by
  have inside : ∀ s ∈ parts.map String.toList, c ∉ s := by simpa using absent
  have mark : (String.singleton c).toList = [c] := by simp
  rw [partsAt, String.toList_intercalate, mark, List.splitOn_intercalate c inside (by simpa using more)]
  simp [Function.comp_def]

theorem not_mem_of_mem_splitOn {c : Char} {s part : List Char} (member : part ∈ s.splitOn c) :
    c ∉ part := by
  induction s generalizing part with
  | nil =>
    obtain rfl : part = [] := by simpa using member
    simp
  | cons d s ih =>
    rw [List.splitOn_cons_eq_if_modifyHead] at member
    by_cases same : d = c
    · rw [if_pos (by simpa using same)] at member
      rcases List.mem_cons.mp member with rfl | later
      · simp
      · exact ih later
    · rw [if_neg (by simpa using same)] at member
      obtain ⟨first, others, split⟩ := List.exists_cons_of_ne_nil (List.splitOn_ne_nil c s)
      rw [split] at member ih
      rcases List.mem_cons.mp member with rfl | later
      · simp [Ne.symm same, ih (List.mem_cons_self ..)]
      · exact ih (List.mem_cons_of_mem first later)

theorem not_mem_of_mem_partsAt {c : Char} {s part : String} (member : part ∈ partsAt c s) :
    c ∉ part.toList := by
  obtain ⟨inside, split, rfl⟩ := List.mem_map.mp member
  rw [String.toList_ofList]
  exact not_mem_of_mem_splitOn split

/-- A character inside a line stays behind the indentation of that line. -/
theorem intercalate_indented_modifyHead (c : Char) (lines : List (List Char)) (some : lines ≠ []) :
    ['\n'].intercalate ((lines.modifyHead (List.cons c)).map (indentation ++ ·))
      = indentation ++ c :: (['\n'].intercalate (lines.map (indentation ++ ·))).drop 4 := by
  cases lines with
  | nil => contradiction
  | cons line lines =>
    cases lines with
    | nil => simp [indentation]
    | cons next lines => simp [indentation]

theorem indentChars_eq (s : List Char) :
    indentChars s = ['\n'].intercalate ((s.splitOn '\n').map (indentation ++ ·)) := by
  induction s with
  | nil => simp [indentChars]
  | cons c s ih =>
    rw [List.splitOn_cons_eq_if_modifyHead]
    by_cases feed : c = '\n'
    · have more : ((s.splitOn '\n').map (indentation ++ ·)) ≠ [] := by simp
      have indented : indentChars (c :: s) = indentation ++ ['\n'] ++ indentChars s := by
        simp [indentChars, feed]
      rw [indented, ih]
      simp [feed, List.intercalate_cons_of_ne_nil more]
    · have kept : indentChars (c :: s) = indentation ++ c :: (indentChars s).drop 4 := by
        simp [indentChars, feed, indentation]
      rw [kept, ih, if_neg (by simpa using feed)]
      exact (intercalate_indented_modifyHead c _ (List.splitOn_ne_nil _ _)).symm

theorem indent_eq (s : String) : indent s = "\n".intercalate ((linesOf s).map indentedLine) := by
  have lines : ((linesOf s).map indentedLine).map String.toList
      = (s.toList.splitOn '\n').map (indentation ++ ·) := by
    simp [linesOf, indentedLine, Function.comp_def]
  have feed : "\n".toList = ['\n'] := rfl
  apply String.toList_inj.mp
  rw [String.toList_intercalate, lines, feed, ← indentChars_eq]
  simp [indent]

theorem dependenciesBlock_eq (s : String) :
    dependenciesBlock s = "\n".intercalate (enclosedLines s) := by
  have more : (linesOf s).map indentedLine ≠ [] := by simp [linesOf]
  have opening : "dependencies \x7b\n" = "dependencies \x7b" ++ "\n" := rfl
  have closing : "\n\x7d" = "\n" ++ "\x7d" := rfl
  rw [enclosedLines, String.intercalate_cons_of_ne_nil (by simp),
    String.intercalate_append_of_ne_nil more (by simp), String.intercalate_singleton, ← indent_eq]
  simp only [dependenciesBlock, opening, closing, String.append_assoc]

theorem linesOf_dependenciesBlock (s : String) : linesOf (dependenciesBlock s) = enclosedLines s := by
  rw [dependenciesBlock_eq, linesOf_eq]
  apply partsAt_intercalate (by simp [enclosedLines])
  intro line member
  simp only [enclosedLines, List.mem_cons, List.mem_append, List.mem_map, List.not_mem_nil,
    or_false] at member
  rcases member with rfl | ⟨inner, inside, rfl⟩ | rfl
  · decide
  · have absent := not_mem_of_mem_partsAt inside
    simpa [indentedLine, indentation] using absent
  · decide

theorem intercalate_linesOf (s : String) : "\n".intercalate (linesOf s) = s := by
  have feed : "\n".toList = ['\n'] := rfl
  apply String.toList_inj.mp
  rw [String.toList_intercalate, linesOf, feed, List.map_map]
  simp [Function.comp_def, List.intercalate_splitOn]

theorem linesOf_join (s t : String) : linesOf (s ++ "\n" ++ t) = linesOf s ++ linesOf t := by
  have left : linesOf s ≠ [] := by simp [linesOf]
  have right : linesOf t ≠ [] := by simp [linesOf]
  have joined : s ++ "\n" ++ t = "\n".intercalate (linesOf s ++ linesOf t) := by
    rw [String.intercalate_append_of_ne_nil left right, intercalate_linesOf, intercalate_linesOf]
  rw [joined, linesOf_eq]
  apply partsAt_intercalate (by simp [left])
  intro line member
  rcases List.mem_append.mp member with first | second
  · exact not_mem_of_mem_partsAt first
  · exact not_mem_of_mem_partsAt second

/-- The line behind the width of an indentation. -/
def outdentedLine (line : String) : String := String.ofList (line.toList.drop indentation.length)

/-- The lines between the first and the last one, with their indentation taken off. -/
def blockContent (s : String) : String :=
  "\n".intercalate ((linesOf s).tail.dropLast.map outdentedLine)

theorem outdentedLine_indentedLine (line : String) : outdentedLine (indentedLine line) = line := by
  have behind : (indentedLine line).toList = indentation ++ line.toList := by simp [indentedLine]
  rw [outdentedLine, behind, List.drop_left, String.ofList_toList]

theorem blockContent_dependenciesBlock (s : String) : blockContent (dependenciesBlock s) = s := by
  have inner : (linesOf (dependenciesBlock s)).tail.dropLast = (linesOf s).map indentedLine := by
    rw [linesOf_dependenciesBlock, enclosedLines, List.tail_cons, List.dropLast_concat]
  have kept : outdentedLine ∘ indentedLine = id := funext outdentedLine_indentedLine
  rw [blockContent, inner, List.map_map, kept, List.map_id, intercalate_linesOf]

theorem dependenciesBlock_inj {s t : String} : dependenciesBlock s = dependenciesBlock t ↔ s = t := by
  constructor
  · intro same
    have content := congrArg blockContent same
    rwa [blockContent_dependenciesBlock, blockContent_dependenciesBlock] at content
  · exact congrArg dependenciesBlock

/-- A block is the line that opens it, every line of the text behind four spaces, and the line that
    closes it. The text is read off the block again, and the lines of two texts stand in a block one
    after the other. -/
theorem dependenciesBlock_encloses (s : String) :
    linesOf (dependenciesBlock s)
      = "dependencies \x7b" :: ((linesOf s).map ("    " ++ ·) ++ ["\x7d"]) ∧
    blockContent (dependenciesBlock s) = s ∧
    (∀ t, dependenciesBlock s = dependenciesBlock t ↔ s = t) ∧
    ∀ t, linesOf (dependenciesBlock (s ++ "\n" ++ t))
      = "dependencies \x7b" ::
          ((linesOf s).map ("    " ++ ·) ++ (linesOf t).map ("    " ++ ·) ++ ["\x7d"]) := by
  refine ⟨linesOf_dependenciesBlock s, blockContent_dependenciesBlock s,
    fun t => dependenciesBlock_inj, fun t => ?_⟩
  rw [linesOf_dependenciesBlock, enclosedLines, linesOf_join, List.map_append]
  rfl

example : linesOf (dependenciesBlock "a\n\n\rb\u2028c\n")
    = ["dependencies \x7b", "    a", "    ", "    \rb\u2028c", "    ", "\x7d"] := by
  decide +kernel

end PomToGradle
