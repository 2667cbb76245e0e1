import Mathlib
import PomToGradle.ParseError

/-!
The offset at the end of an error message. A message ends with one offset at most, and it is the one
that the error carries; the message of an error without one ends in another character.
-/
namespace PomToGradle

/-- The message of an escape ends in another character than a bracket. -/
theorem EscapeError.exists_ending (e : EscapeError) : ∃ front behind : String,
    e.message = front ++ behind ∧ behind.toList ≠ [] ∧ behind.toList.getLast? ≠ some ')' := by
  cases e with
  | unknown start stop name => exact ⟨_, "`", rfl, by decide, by decide⟩
  | unclosed start stop => exact ⟨_, ": Cannot find ';' after '&'", rfl, by decide, by decide⟩
  | number error =>
    cases error with
    | notPermitted n =>
      exact ⟨_, " character is not permitted in XML", String.append_assoc.symm, by decide, by decide⟩
    | noCharacter n =>
      exact ⟨_, "` is not a valid codepoint", String.append_assoc.symm, by decide, by decide⟩
    | _ => exact ⟨"invalid character reference: ", _, rfl, by decide, by decide⟩

theorem eq_of_append_cons {c : Char} {x y u v : List Char} (left : c ∉ u) (right : c ∉ v)
    (same : x ++ c :: u = y ++ c :: v) : u = v := by
  have behind {x u : List Char} (absent : c ∉ u) :
      (x ++ c :: u).reverse.takeWhile (· != c) = u.reverse := by
    have all : ∀ d ∈ u.reverse, (d != c) = true := by
      intro d member
      simpa using ne_of_mem_of_not_mem (List.mem_reverse.mp member) absent
    rw [List.reverse_append, List.reverse_cons, List.append_assoc, List.takeWhile_append_of_pos all]
    simp
  have reversed := congrArg (fun l => l.reverse.takeWhile (· != c)) same
  exact List.reverse_injective ((behind left).symm.trans (reversed.trans (behind right)))

namespace ParseError

/-- The message ends with the offset. -/
def EndsAt (e : ParseError) (n : Nat) : Prop := ∃ front, e.message = front ++ s!"(at byte {n})"

theorem message_eq (e : ParseError) : e.message = "Failed to parse pom.xml: " ++ e.detail := rfl

theorem offset_eq (n : Nat) : s!"(at byte {n})" = "(at byte " ++ n.repr ++ ")" := rfl

theorem toList_append_offset (front : String) (n : Nat) : (front ++ s!"(at byte {n})").toList
    = (front.toList ++ "(at byte".toList) ++ ' ' :: (Nat.toDigits 10 n ++ [')']) := by
  rw [offset_eq]
  simp [Nat.repr]

theorem offset_unique {e : ParseError} {n m : Nat} (first : e.EndsAt n) (second : e.EndsAt m) :
    n = m := by
  have digits (n : Nat) : ' ' ∉ Nat.toDigits 10 n ++ [')'] := by
    intro member
    rcases List.mem_append.mp member with inside | last
    · exact absurd (Nat.isDigit_of_mem_toDigits (by decide) (by decide) inside) (by decide)
    · simp at last
  obtain ⟨front, spelled⟩ := first
  obtain ⟨front', spelled'⟩ := second
  have lists := congrArg String.toList (spelled.symm.trans spelled')
  rw [toList_append_offset, toList_append_offset] at lists
  have numbers := List.append_cancel_right (eq_of_append_cons (digits n) (digits m) lists)
  exact Nat.repr_inj.mp (congrArg String.ofList numbers)

theorem getLast?_of_endsAt {e : ParseError} {n : Nat} (ends : e.EndsAt n) :
    e.message.toList.getLast? = some ')' := by
  obtain ⟨front, spelled⟩ := ends
  rw [spelled, toList_append_offset, ← List.cons_append, ← List.append_assoc, List.getLast?_concat]

theorem endsAt_of_detail {e : ParseError} {n : Nat} {front : String}
    (ends : e.detail = front ++ " (at byte " ++ n.repr ++ ")") : e.EndsAt n := by
  have blank : " (at byte " = " " ++ "(at byte " := by decide
  refine ⟨"Failed to parse pom.xml: " ++ front ++ " ", ?_⟩
  rw [message_eq, ends, offset_eq, blank]
  simp only [String.append_assoc]

theorem endsAt_of_offset? {e : ParseError} {n : Nat} (located : e.offset? = some n) : e.EndsAt n := by
  have structural (d : String) :
      structureText d n = "ill-formed document: " ++ d ++ " (at byte " ++ n.repr ++ ")" := rfl
  have syntactic (d : String) :
      syntaxText d n = "syntax error: " ++ d ++ " (at byte " ++ n.repr ++ ")" := rfl
  cases e with
  | fault f offset =>
    obtain rfl := Option.some.inj located
    cases kind : f.isSyntax with
    | true => exact endsAt_of_detail ((if_pos kind).trans (syntactic _))
    | false => exact endsAt_of_detail ((if_neg (by simp [kind])).trans (structural _))
  | mismatchedEndTag expected found offset =>
    obtain rfl := Option.some.inj located
    exact endsAt_of_detail (structural _)
  | unmatchedEndTag found offset =>
    obtain rfl := Option.some.inj located
    exact endsAt_of_detail (structural _)
  | _ => contradiction

theorem getLast?_message {e : ParseError} (front behind : String)
    (detail : e.detail = front ++ behind) (some : behind.toList ≠ []) :
    e.message.toList.getLast? = behind.toList.getLast? := by
  rw [message_eq, detail, String.toList_append, String.toList_append, ← List.append_assoc,
    List.getLast?_append_of_ne_nil _ some]

/-- Any other message that is made here ends in another character. -/
theorem offset?_of_endsAt {e : ParseError} {n : Nat} (ends : e.EndsAt n) :
    e.offset? = some n ∨ ∃ text, e = .described text := by
  cases located : e.offset? with
  | some m => exact Or.inl (congrArg some (offset_unique (endsAt_of_offset? located) ends))
  | none =>
    have last := getLast?_of_endsAt ends
    cases e with
    | fault f offset => contradiction
    | mismatchedEndTag expected found offset => contradiction
    | unmatchedEndTag found offset => contradiction
    | unclosedElement name =>
      rw [getLast?_message ("unclosed element <" ++ name) ">" rfl (by decide)] at last
      exact absurd last (by decide)
    | invalidCharacterReference name =>
      rw [getLast?_message ("invalid character reference '&" ++ name) ";'" rfl (by decide)] at last
      exact absurd last (by decide)
    | unknownEntity name =>
      rw [getLast?_message ("unknown entity reference '&" ++ name) ";'" rfl (by decide)] at last
      exact absurd last (by decide)
    | undecodable charset =>
      have named : charset.name.toList ≠ [] ∧ charset.name.toList.getLast? ≠ some ')' := by
        cases charset with
        | utf16 order => cases order <;> decide
        | singleByte page => cases page <;> decide
        | _ => decide
      rw [getLast?_message "cannot decode input using " charset.name rfl named.1] at last
      exact absurd last named.2
    | badEscape error =>
      obtain ⟨front, behind, spelled, some, other⟩ := error.exists_ending
      rw [getLast?_message (e := .badEscape error) front behind spelled some] at last
      exact absurd last other
    | described text => exact Or.inr ⟨text, rfl⟩

end ParseError

end PomToGradle
