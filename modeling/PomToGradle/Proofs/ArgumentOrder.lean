import PomToGradle.Proofs.ProgramOutcome

/-!
The position of the switch for Kotlin. It is put in front of all other arguments before they are read,
and they are read in the same way whether it was there or not: `Operands` says which of them are paths
and does not mention a dialect.
-/
namespace PomToGradle

section Normalization

variable {program switch : Bytes} {before after l : List Bytes}

theorem normalizeArguments_insert (asked : asksForKotlin switch = true) :
    normalizeArguments (program :: (before ++ switch :: after))
      = program :: Switch.kotlin.bytes :: (normalizeArguments (program :: (before ++ after))).tail := by
  have switches : ((before ++ switch :: after).filter asksForKotlin).length
      = ((before ++ after).filter asksForKotlin).length + 1 := by
    simp [asked, Nat.add_assoc]
  have others : (before ++ switch :: after).filter (fun a => !asksForKotlin a)
      = (before ++ after).filter fun a => !asksForKotlin a := by
    simp [asked]
  rw [normalizeArguments, normalizeArguments, List.map_const', List.map_const', switches, others]
  rfl

theorem normalizeArguments_of_absent (absent : ∀ a ∈ l, asksForKotlin a = false) :
    normalizeArguments (program :: l) = program :: l := by
  have none : l.filter asksForKotlin = [] := List.filter_eq_nil_iff.mpr fun a member => by
    simp [absent a member]
  have all : l.filter (fun a => !asksForKotlin a) = l := List.filter_eq_self.mpr fun a member => by
    simp [absent a member]
  rw [normalizeArguments, none, all]
  rfl

end Normalization

namespace Request

/-- An argument that is taken for a path even if no path has come before it. -/
structure IsOperand (argument : Bytes) : Prop where
  solid : argument ≠ separator
  unnamed : Switch.ofBytes? argument = none
  ungrouped : Switch.ofGroup? argument = none
  unvalued : Switch.valued? argument = none
  readable : unreadableName? argument = none

/-- The paths among arguments: all that follows the separator, or all from the first operand on. -/
inductive Operands : List Bytes → List Path → Prop where
  | none : Operands [] []
  | separated (paths : List Path) : Operands (separator :: paths) paths
  | begun {first : Path} (operand : IsOperand first) (rest : List Path) :
      Operands (first :: rest) (first :: rest)

variable {dialect : Dialect} {i : Invocation} {l : List Bytes}

theorem ofPaths_eq_convert_iff {paths : List Path} :
    ofPaths dialect paths = .ok (.convert i) ↔
      i.dialect = dialect ∧ i.paths = paths ∧ [] ∉ paths := by
  have empty : paths.any List.isEmpty = true ↔ [] ∈ paths := by simp
  constructor
  · intro accepted
    rw [ofPaths] at accepted
    split at accepted
    · contradiction
    · next named =>
      obtain rfl := Request.convert.inj (Except.ok.inj accepted)
      exact ⟨rfl, rfl, mt empty.mpr named⟩
  · rintro ⟨rfl, rfl, named⟩
    rw [ofPaths, if_neg (mt empty.mp named)]

theorem ofArguments_operand {first : Path} (operand : IsOperand first) (rest : List Path) :
    ofArguments dialect (first :: rest) = ofPaths dialect (first :: rest) := by
  simp only [ofArguments, if_neg operand.solid, operand.unnamed, operand.ungrouped,
    operand.unvalued, operand.readable]

theorem ofBytes?_ne_kotlin {argument : Bytes} (absent : asksForKotlin argument = false) :
    Switch.ofBytes? argument ≠ some .kotlin := by
  intro found
  have spelled := List.find?_some found
  simp only [beq_iff_eq] at spelled
  simp [asksForKotlin, ← spelled] at absent

theorem isOperand_of_accepted {first : Bytes} {rest : List Bytes}
    (absent : asksForKotlin first = false) (solid : first ≠ separator)
    (accepted : ofArguments dialect (first :: rest) = .ok (.convert i)) : IsOperand first := by
  rw [ofArguments, if_neg solid] at accepted
  cases named : Switch.ofBytes? first with
  | some switch =>
    rw [named] at accepted
    cases switch with
    | kotlin => exact absurd named (ofBytes?_ne_kotlin absent)
    | help | version => cases accepted
  | none =>
    rw [named] at accepted
    cases grouped : Switch.ofGroup? first with
    | some switch =>
      rw [grouped] at accepted
      cases switch <;> cases accepted
    | none =>
      rw [grouped] at accepted
      cases valued : Switch.valued? first with
      | some found =>
        rw [valued] at accepted
        cases accepted
      | none =>
        rw [valued] at accepted
        cases unread : unreadableName? first with
        | some name =>
          rw [unread] at accepted
          cases accepted
        | none => exact ⟨solid, named, grouped, valued, unread⟩

/-- Arguments without a switch for Kotlin are read alike whatever the dialect. -/
theorem ofArguments_eq_convert_iff (absent : ∀ a ∈ l, asksForKotlin a = false) :
    ofArguments dialect l = .ok (.convert i) ↔
      i.dialect = dialect ∧ Operands l i.paths ∧ [] ∉ i.paths := by
  constructor
  · intro accepted
    cases l with
    | nil =>
      obtain rfl := Request.convert.inj (Except.ok.inj accepted)
      exact ⟨rfl, .none, List.not_mem_nil⟩
    | cons first rest =>
      by_cases separated : first = separator
      · subst separated
        rw [ofArguments, if_pos rfl, ofPaths_eq_convert_iff] at accepted
        obtain ⟨chosen, rfl, named⟩ := accepted
        exact ⟨chosen, .separated _, named⟩
      · have operand := isOperand_of_accepted (absent first List.mem_cons_self) separated accepted
        rw [ofArguments_operand operand, ofPaths_eq_convert_iff] at accepted
        obtain ⟨chosen, paths, named⟩ := accepted
        rw [paths]
        exact ⟨chosen, .begun operand rest, named⟩
  · obtain ⟨_, paths⟩ := i
    rintro ⟨rfl, operands, named⟩
    cases operands with
    | none => rfl
    | separated =>
      rw [ofArguments, if_pos rfl]
      exact ofPaths_eq_convert_iff.mpr ⟨rfl, rfl, named⟩
    | begun operand rest =>
      rw [ofArguments_operand operand]
      exact ofPaths_eq_convert_iff.mpr ⟨rfl, rfl, named⟩

/-- Arguments that ask for a conversion and not for Kotlin ask for the same paths and for Kotlin with
    a switch for it anywhere among them. So the same file is selected, and converted to the other
    dialect. -/
theorem ofCommandLine_insert {program switch : Bytes} {before after : List Bytes}
    (absent : ∀ a ∈ before ++ after, asksForKotlin a = false)
    (accepted : ofCommandLine (program :: (before ++ after)) = .ok (.convert i))
    (asked : asksForKotlin switch = true) :
    i.dialect = .groovy ∧
    ofCommandLine (program :: (before ++ switch :: after)) = .ok (.convert ⟨.kotlin, i.paths⟩) ∧
    ∀ fs, (Invocation.mk .kotlin i.paths).pomPath fs = i.pomPath fs ∧
      (i.run fs).result
        = (convertFile .groovy fs (i.pomPath fs)).result.mapError (RunError.mk (i.pomPath fs)) ∧
      ((Invocation.mk .kotlin i.paths).run fs).result
        = (convertFile .kotlin fs (i.pomPath fs)).result.mapError (RunError.mk (i.pomPath fs)) := by
  rw [ofCommandLine, normalizeArguments_of_absent absent, List.tail_cons,
    ofArguments_eq_convert_iff absent] at accepted
  obtain ⟨groovy, operands, named⟩ := accepted
  have again : ofArguments .kotlin (before ++ after) = .ok (.convert ⟨.kotlin, i.paths⟩) :=
    (ofArguments_eq_convert_iff absent).mpr ⟨rfl, operands, named⟩
  refine ⟨groovy, ?_, fun fs => ⟨rfl, ?_, rfl⟩⟩
  · rw [ofCommandLine, normalizeArguments_insert asked, normalizeArguments_of_absent absent]
    exact again
  · rw [Invocation.result_run, groovy]

/-- The switch stands between a path that looks like a switch and a separator that is a path. -/
theorem ofCommandLine_insert_between :
    ofCommandLine (["m2g", "-old.xml", "--", "--new.xml"].map Bytes.ofAscii)
      = .ok (.convert ⟨.groovy, ["-old.xml", "--", "--new.xml"].map Bytes.ofAscii⟩) ∧
    ofCommandLine (["m2g", "-old.xml", "-kts", "--", "--new.xml"].map Bytes.ofAscii)
      = .ok (.convert ⟨.kotlin, ["-old.xml", "--", "--new.xml"].map Bytes.ofAscii⟩) := by
  have accepted : ofCommandLine (["m2g", "-old.xml", "--", "--new.xml"].map Bytes.ofAscii)
      = .ok (.convert ⟨.groovy, ["-old.xml", "--", "--new.xml"].map Bytes.ofAscii⟩) := by
    decide +kernel
  have inserted := @ofCommandLine_insert _ (Bytes.ofAscii "m2g") (Bytes.ofAscii "-kts")
    [Bytes.ofAscii "-old.xml"] (["--", "--new.xml"].map Bytes.ofAscii) (by decide) accepted (by decide)
  exact ⟨accepted, inserted.2.1⟩

end Request

end PomToGradle
