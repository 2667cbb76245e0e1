import PomToGradle.Proofs.OrderedCollection
import PomToGradle.Stream

/-!
What a stream comes to. It delivers pieces until it is at its end or fails, and exactly one of the two
decides what is read from it, by `gather_eq_ok_iff` and `gather_eq_error_iff`.
-/
namespace PomToGradle

/-- Attempts that neither end a stream nor fail, and all the bytes they give. A piece is never empty. -/
inductive Delivers : List Delivery → Bytes → Prop where
  | nothing : Delivers [] []
  | data {rest : List Delivery} {s piece : Bytes} (solid : piece ≠ []) (later : Delivers rest s) :
      Delivers (.data piece :: rest) (piece ++ s)
  | interrupted {rest : List Delivery} {s : Bytes} (later : Delivers rest s) :
      Delivers (.interrupted :: rest) s

/-- The stream is at its end. What stands behind an attempt that gave nothing is never asked for. -/
inductive Ended : List Delivery → Prop where
  | exhausted : Ended []
  | empty (unasked : List Delivery) : Ended (.data [] :: unasked)

/-- The stream is read to its end, and these are its bytes. -/
inductive Completes : List Delivery → Bytes → Prop where
  | behind {pieces rest : List Delivery} {s : Bytes} (delivers : Delivers pieces s)
      (ended : Ended rest) : Completes (pieces ++ rest) s

/-- The stream fails before its end, whatever it gave until then. -/
inductive Fails : List Delivery → IoError → Prop where
  | behind {pieces : List Delivery} {s : Bytes} (delivers : Delivers pieces s) (error : IoError)
      (unasked : List Delivery) : Fails (pieces ++ .failed error :: unasked) error

theorem gather_data {piece : Bytes} (solid : piece ≠ []) (rest : List Delivery) :
    gather (.data piece :: rest) = (gather rest).map (piece ++ ·) := by
  obtain ⟨b, bytes, rfl⟩ := List.exists_cons_of_ne_nil solid
  rw [gather]

/-- What comes before is put in front of what comes after, and a failure is not touched by it. -/
theorem gather_append {pieces : List Delivery} {s : Bytes} (delivers : Delivers pieces s)
    (rest : List Delivery) : gather (pieces ++ rest) = (gather rest).map (s ++ ·) := by
  induction delivers with
  | nothing =>
    rw [List.nil_append]
    cases gather rest <;> rfl
  | @data more s piece solid _ ih =>
    rw [List.cons_append, gather_data solid, ih]
    cases gather rest <;> simp [Except.map]
  | interrupted _ ih => exact ih

theorem gather_of_ended {rest : List Delivery} (ended : Ended rest) : gather rest = .ok [] := by
  cases ended with
  | exhausted => rfl
  | empty unasked => rfl

theorem gather_of_completes {stream : List Delivery} {s : Bytes} (completes : Completes stream s) :
    gather stream = .ok s := by
  cases completes with
  | behind delivers ended =>
    rw [gather_append delivers, gather_of_ended ended]
    simp [Except.map]

theorem gather_of_fails {stream : List Delivery} {error : IoError} (fails : Fails stream error) :
    gather stream = .error error := by
  cases fails with
  | behind delivers error unasked =>
    rw [gather_append delivers, gather]
    rfl

theorem completes_or_fails (stream : List Delivery) :
    (∃ s, Completes stream s) ∨ ∃ error, Fails stream error := by
  induction stream with
  | nil => exact Or.inl ⟨_, .behind .nothing .exhausted⟩
  | cons delivery rest ih =>
    cases delivery with
    | failed error => exact Or.inr ⟨error, .behind .nothing error rest⟩
    | interrupted =>
      rcases ih with ⟨s, delivers, ended⟩ | ⟨error, delivers, _, unasked⟩
      · exact Or.inl ⟨s, .behind (.interrupted delivers) ended⟩
      · exact Or.inr ⟨error, .behind (.interrupted delivers) error unasked⟩
    | data piece =>
      by_cases empty : piece = []
      · subst empty
        exact Or.inl ⟨_, .behind .nothing (.empty rest)⟩
      rcases ih with ⟨s, delivers, ended⟩ | ⟨error, delivers, _, unasked⟩
      · exact Or.inl ⟨piece ++ s, .behind (.data empty delivers) ended⟩
      · exact Or.inr ⟨error, .behind (.data empty delivers) error unasked⟩

theorem gather_eq_ok_iff {stream : List Delivery} {s : Bytes} :
    gather stream = .ok s ↔ Completes stream s := by
  refine ⟨fun read => ?_, gather_of_completes⟩
  rcases completes_or_fails stream with ⟨t, completes⟩ | ⟨error, fails⟩
  · obtain rfl := Except.ok.inj ((gather_of_completes completes).symm.trans read)
    exact completes
  · rw [gather_of_fails fails] at read
    contradiction

theorem gather_eq_error_iff {stream : List Delivery} {error : IoError} :
    gather stream = .error error ↔ Fails stream error := by
  refine ⟨fun read => ?_, gather_of_fails⟩
  rcases completes_or_fails stream with ⟨s, completes⟩ | ⟨error', fails⟩
  · rw [gather_of_completes completes] at read
    contradiction
  · obtain rfl := Except.error.inj ((gather_of_fails fails).symm.trans read)
    exact fails

end PomToGradle
