import Mathlib.Data.List.Count
import PomToGradle.CommandLine.Arguments

/-!
The normal form of a command line. The arguments behind the program name are a number of switches for
Kotlin and some others, interleaved; the normal form has the switches in one spelling and then the
others as they came. It keeps that number and these others and nothing else, so it is its own normal
form, and command lines differ in it only if they differ in one of them.
-/
namespace PomToGradle

def IsKotlinSwitch (argument : Bytes) : Prop :=
  argument = Bytes.ofAscii "-kts" ∨ argument = Bytes.ofAscii "--kts"

/-- The arguments are so many switches for Kotlin, in either spelling, among the others in order. -/
inductive Interleaves : (switches : Nat) → (others arguments : List Bytes) → Prop where
  | nothing : Interleaves 0 [] []
  | switch {n : Nat} {others l : List Bytes} {argument : Bytes} (spelled : IsKotlinSwitch argument)
      (rest : Interleaves n others l) : Interleaves (n + 1) others (argument :: l)
  | other {n : Nat} {others l : List Bytes} {argument : Bytes} (plain : ¬ IsKotlinSwitch argument)
      (rest : Interleaves n others l) : Interleaves n (argument :: others) (argument :: l)

variable {n m : Nat} {others others' l : List Bytes}

theorem asksForKotlin_iff (argument : Bytes) :
    asksForKotlin argument = true ↔ IsKotlinSwitch argument := by
  rw [asksForKotlin, Bool.or_eq_true, beq_iff_eq, beq_iff_eq]
  rfl

theorem exists_interleaves (l : List Bytes) : ∃ n others, Interleaves n others l := by
  induction l with
  | nil => exact ⟨0, [], .nothing⟩
  | cons argument l ih =>
    obtain ⟨n, others, rest⟩ := ih
    by_cases spelled : IsKotlinSwitch argument
    · exact ⟨n + 1, others, .switch spelled rest⟩
    · exact ⟨n, argument :: others, .other spelled rest⟩

/-- Each argument is of one kind only, so there is one way to take the arguments apart. -/
theorem interleaves_unique (first : Interleaves n others l) (second : Interleaves m others' l) :
    n = m ∧ others = others' := by
  induction first generalizing m others' with
  | nothing =>
    cases second with
    | nothing => exact ⟨rfl, rfl⟩
  | switch spelled _ ih =>
    cases second with
    | switch _ rest =>
      obtain ⟨rfl, rfl⟩ := ih rest
      exact ⟨rfl, rfl⟩
    | other plain _ => exact absurd spelled plain
  | other plain _ ih =>
    cases second with
    | switch spelled _ => exact absurd spelled plain
    | other _ rest =>
      obtain ⟨rfl, rfl⟩ := ih rest
      exact ⟨rfl, rfl⟩

theorem count_of_interleaves (interleaves : Interleaves n others l) :
    n = l.count (Bytes.ofAscii "-kts") + l.count (Bytes.ofAscii "--kts") := by
  have distinct : Bytes.ofAscii "-kts" ≠ Bytes.ofAscii "--kts" := by decide
  induction interleaves with
  | nothing => rfl
  | switch spelled _ ih =>
    rcases spelled with rfl | rfl
    · rw [List.count_cons_self, List.count_cons_of_ne distinct, ih]
      omega
    · rw [List.count_cons_self, List.count_cons_of_ne distinct.symm, ih]
      omega
  | other plain _ ih =>
    obtain ⟨short, long⟩ := not_or.mp plain
    rw [List.count_cons_of_ne short, List.count_cons_of_ne long, ih]

/-- The others are among themselves, and behind any number of switches, in the same order. -/
theorem interleaves_replicate (interleaves : Interleaves n others l) (m : Nat) :
    Interleaves m others (List.replicate m (Bytes.ofAscii "--kts") ++ others) := by
  induction m with
  | zero =>
    induction interleaves with
    | nothing => exact .nothing
    | switch _ _ ih => exact ih
    | other plain _ ih => exact .other plain ih
  | succ m ih => exact .switch (Or.inr rfl) ih

theorem normalizeArguments_of_interleaves (program : Bytes) (interleaves : Interleaves n others l) :
    normalizeArguments (program :: l)
      = program :: (List.replicate n (Bytes.ofAscii "--kts") ++ others) := by
  suffices parts : (l.filter asksForKotlin).length = n ∧
      l.filter (fun argument => !asksForKotlin argument) = others by
    rw [normalizeArguments, List.map_const', parts.1, parts.2]
    rfl
  induction interleaves with
  | nothing => exact ⟨rfl, rfl⟩
  | @switch _ _ _ argument spelled _ ih =>
    have asked := (asksForKotlin_iff argument).mpr spelled
    simpa [asked] using ih
  | @other _ _ _ argument plain _ ih =>
    have absent : asksForKotlin argument = false :=
      Bool.eq_false_iff.mpr (mt (asksForKotlin_iff argument).mp plain)
    simpa [absent] using ih

theorem normalizeArguments_idem (arguments : List Bytes) :
    normalizeArguments (normalizeArguments arguments) = normalizeArguments arguments := by
  cases arguments with
  | nil => rfl
  | cons program l =>
    obtain ⟨n, others, interleaves⟩ := exists_interleaves l
    rw [normalizeArguments_of_interleaves program interleaves,
      normalizeArguments_of_interleaves program (interleaves_replicate interleaves n)]

/-- The normal form can be taken apart again in one way only. -/
theorem normalizeArguments_eq_iff {program program' : Bytes} {l l' : List Bytes} :
    normalizeArguments (program :: l) = normalizeArguments (program' :: l') ↔
      program = program' ∧
        ∃ switches others, Interleaves switches others l ∧ Interleaves switches others l' := by
  constructor
  · intro same
    obtain ⟨n, others, first⟩ := exists_interleaves l
    obtain ⟨n', others', second⟩ := exists_interleaves l'
    rw [normalizeArguments_of_interleaves program first,
      normalizeArguments_of_interleaves program' second] at same
    obtain ⟨rfl, arranged⟩ := List.cons.inj same
    have again := interleaves_replicate first n
    rw [arranged] at again
    obtain ⟨rfl, rfl⟩ := interleaves_unique again (interleaves_replicate second n')
    exact ⟨rfl, n, others, first, second⟩
  · rintro ⟨rfl, n, others, first, second⟩
    rw [normalizeArguments_of_interleaves program first,
      normalizeArguments_of_interleaves program second]

/-- The program name stays in front, whatever it is. Of the other arguments only the number of
    switches and the order of the rest are kept, and both are kept again. -/
theorem normalizeArguments_arranges :
    normalizeArguments [] = [] ∧
    (∀ program l, ∃ switches others, Interleaves switches others l ∧
      switches = l.count (Bytes.ofAscii "-kts") + l.count (Bytes.ofAscii "--kts") ∧
      normalizeArguments (program :: l)
        = program :: (List.replicate switches (Bytes.ofAscii "--kts") ++ others)) ∧
    (∀ arguments,
      normalizeArguments (normalizeArguments arguments) = normalizeArguments arguments) ∧
    ∀ program l program' l',
      normalizeArguments (program :: l) = normalizeArguments (program' :: l') ↔
        program = program' ∧
          ∃ switches others, Interleaves switches others l ∧ Interleaves switches others l' := by
  refine ⟨rfl, fun program l => ?_, normalizeArguments_idem, fun _ _ _ _ =>
    normalizeArguments_eq_iff⟩
  obtain ⟨n, others, interleaves⟩ := exists_interleaves l
  exact ⟨n, others, interleaves, count_of_interleaves interleaves,
    normalizeArguments_of_interleaves program interleaves⟩

example : normalizeArguments (["-kts", "a", "-kts", "--kts", "-old.xml", "a"].map Bytes.ofAscii)
    = ["-kts", "--kts", "--kts", "a", "-old.xml", "a"].map Bytes.ofAscii := by decide

end PomToGradle
