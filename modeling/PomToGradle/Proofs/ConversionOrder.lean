import PomToGradle.Conversion
import PomToGradle.Proofs.IndentedLines
import PomToGradle.Proofs.Occurrence
import PomToGradle.Proofs.OrderedCollection

/-!
What conversion makes of a tree, said on the tree alone: which elements count, in which order they are
read, which failure is reported, how the statements are laid out. The contract does not mention a
search, a stack or a loop.
-/
namespace PomToGradle

/-- The statements of a script, with its block around them if there is one. -/
def laidOut (block : Bool) (statements : String) : String :=
  if block then dependenciesBlock statements else statements

/-- What is reported of a conversion, and what it comes to. -/
theorem Document.convert_of_extract {dialect : Dialect} {d : Document} {e : Extraction}
    (extracted : d.extract = .ok e) :
    d.convert dialect =
      ⟨.extractedDependencies e.dependencies.length e.hasBlock ::
          (e.dependencies.map Dialect.renderedEvent
            ++ [.convertedPom dialect e.dependencies.length e.hasBlock]),
        .ok (laidOut e.hasBlock (dialect.statements e.dependencies))⟩ := by
  simp only [convert, extractReported, extracted]
  rfl

theorem Document.convert_of_failure {dialect : Dialect} {d : Document} {error : PomError}
    (failure : d.extract = .error error) : d.convert dialect = ⟨[], .error (.pom error)⟩ := by
  simp only [convert, extractReported, failure]
  rfl

theorem Document.convert_eq_of_extract {d e : Document} (same : d.extract = e.extract)
    (dialect : Dialect) : d.convert dialect = e.convert dialect := by
  rw [convert, convert, extractReported, extractReported, same]

theorem extract_eq_ok {d : Document} {l : List Dependency}
    (read : (d.children.descendants "dependency").mapM Dependency.ofElement = .ok l) :
    d.extract = .ok ⟨l, (d.root.descendant? "dependencies").isSome⟩ := by
  have order : d.descendants "dependency" = d.children.descendants "dependency" :=
    Element.descendants_eq d.root "dependency"
  rw [Document.extract, order, read]
  rfl

theorem extract_eq_error {d : Document} {error : PomError}
    (failure : (d.children.descendants "dependency").mapM Dependency.ofElement = .error error) :
    d.extract = .error error := by
  have order : d.descendants "dependency" = d.children.descendants "dependency" :=
    Element.descendants_eq d.root "dependency"
  rw [Document.extract, order, failure]
  rfl

theorem laidOut_block {d : Document} (block : d.children.Holds "dependencies") (statements : String) :
    laidOut (d.root.descendant? "dependencies").isSome statements
      = "\n".intercalate (enclosedLines statements) := by
  have found := (isSome_descendant? d.root "dependencies").mpr block
  rw [found, laidOut, if_pos rfl, dependenciesBlock_eq]

theorem laidOut_bare {d : Document} (absent : ¬ d.children.Holds "dependencies")
    (statements : String) :
    laidOut (d.root.descendant? "dependencies").isSome statements = statements := by
  have none := mt (isSome_descendant? d.root "dependencies").mp absent
  rw [laidOut, if_neg none]

/-- What a forest is converted to. The dependency elements are taken in document order, each before
    those inside it. -/
inductive Converts (dialect : Dialect) (f : Forest) : Except ConversionError String → Prop where
  /-- Nothing is written if an element cannot be read; the first such one gives the error. -/
  | failed {before after : List Element} {e : Element} {error : PomError}
      (order : f.descendants "dependency" = before ++ e :: after)
      (sound : ∀ b ∈ before, ∃ dependency, Dependency.ofElement b = .ok dependency)
      (failure : Dependency.ofElement e = .error error) : Converts dialect f (.error (.pom error))
  | bare {l : List Dependency}
      (read : List.Forall₂ (fun e dependency => Dependency.ofElement e = .ok dependency)
        (f.descendants "dependency") l)
      (absent : ¬ f.Holds "dependencies") :
      Converts dialect f (.ok ("\n".intercalate (l.map dialect.statement)))
  | enclosed {l : List Dependency}
      (read : List.Forall₂ (fun e dependency => Dependency.ofElement e = .ok dependency)
        (f.descendants "dependency") l)
      (block : f.Holds "dependencies") :
      Converts dialect f
        (.ok ("\n".intercalate (enclosedLines ("\n".intercalate (l.map dialect.statement)))))

theorem convert_converts (dialect : Dialect) (d : Document) :
    Converts dialect d.children (d.convert dialect).result := by
  generalize collected : (d.children.descendants "dependency").mapM Dependency.ofElement = r
  have contract := mapM_eq_iff.mp collected
  generalize order : d.children.descendants "dependency" = elements at contract
  cases contract with
  | first sound failure =>
    rw [Document.convert_of_failure (extract_eq_error collected)]
    exact .failed order sound failure
  | all read =>
    subst order
    rw [Document.convert_of_extract (extract_eq_ok collected)]
    by_cases block : d.children.Holds "dependencies"
    · rw [laidOut_block block]
      exact .enclosed read block
    · rw [laidOut_bare block]
      exact .bare read block

theorem result_convert_of_converts {dialect : Dialect} {d : Document}
    {r : Except ConversionError String} (contract : Converts dialect d.children r) :
    (d.convert dialect).result = r := by
  cases contract with
  | failed order sound failure =>
    rw [Document.convert_of_failure (extract_eq_error (order ▸ mapM_eq_error sound failure))]
  | bare read absent =>
    rw [Document.convert_of_extract (extract_eq_ok (mapM_eq_ok read)), laidOut_bare absent]
    rfl
  | enclosed read block =>
    rw [Document.convert_of_extract (extract_eq_ok (mapM_eq_ok read)), laidOut_block block]
    rfl

/-- Conversion meets the contract, and nothing else does. -/
theorem result_convert_eq_iff (dialect : Dialect) (d : Document) (r : Except ConversionError String) :
    (d.convert dialect).result = r ↔ Converts dialect d.children r := by
  constructor
  · intro same
    exact same ▸ convert_converts dialect d
  · exact result_convert_of_converts

end PomToGradle
