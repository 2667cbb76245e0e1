import PomToGradle.Proofs.ConversionOrder
import PomToGradle.Proofs.ScriptReading
import PomToGradle.Proofs.SourceAgreement
import PomToGradle.Proofs.StatedFields

/-!
What a conversion reports beside its result. The events follow the stages that were completed: none if
the source gives no document, the document alone if a dependency in it lacks a field, and otherwise one
for each statement of the script between the count of what was read and that of what was written. The
contract `Traced` binds the events to the result they are reported with.
-/
namespace PomToGradle

/-- The document that a source gives, or why it gives none. -/
inductive Source.Yields : Source → Except ConversionError Document → Prop where
  | text {s : String} {d : Document} (parsed : Document.parse s = .ok d) : Yields (.text s) (.ok d)
  | malformedText {s : String} {error : ParseError} (failure : Document.parse s = .error error) :
      Yields (.text s) (.error (.pom (.malformed error)))
  | bytes {source : Source} {s : Bytes} {d : Document} (carries : source.Carries s)
      (parsed : Document.parseBytes s = .ok d) : Yields source (.ok d)
  | malformedBytes {source : Source} {s : Bytes} {error : ParseError} (carries : source.Carries s)
      (failure : Document.parseBytes s = .error error) :
      Yields source (.error (.pom (.malformed error)))
  | broken {source : Source} {error : IoError} (breaks : source.Breaks error) :
      Yields source (.error (.pom (.io error)))
  | shut {fs : FileSystem} {path : Path} {cause : IoError} (shut : (fs path).opened = .error cause) :
      Yields (.file fs path) (.error (.cannotOpen path.shown cause))

/-- An event and the statement that it reports: the coordinate, the configuration and the number of
    exclusions of the one stand in the other. -/
inductive Dialect.Reported (dialect : Dialect) (d : Dependency) : Event → String → Prop where
  | bare (none : d.exclusions = []) :
      Reported dialect d (.renderedDependency d.coordinate (.ofScope d.scope) 0)
        ((Configuration.ofScope d.scope).name ++ dialect.enclosure.1 ++ dialect.quoted d.coordinate
          ++ dialect.enclosure.2)
  | excluding (some : d.exclusions ≠ []) :
      Reported dialect d
        (.renderedDependency d.coordinate (.ofScope d.scope) d.exclusions.length)
        ("\n".intercalate
          (((Configuration.ofScope d.scope).name ++ "(" ++ dialect.quoted d.coordinate ++ ")" ++ " \x7b")
            :: (d.exclusions.map fun e => indentedLine (dialect.exclusion e)) ++ ["\x7d"]))

/-- What is reported of a conversion and what it comes to, by what the source gives. -/
inductive Traced (dialect : Dialect) : Except ConversionError Document → List Event →
    Except ConversionError String → Prop where
  | unloaded (error : ConversionError) : Traced dialect (.error error) [] (.error error)
  | incomplete {d : Document} {before after : List Element} {e : Element} {tag : String}
      (order : d.children.descendants "dependency" = before ++ e :: after)
      (sound : ∀ b ∈ before, ∃ dependency, Dependency.ofElement b = .ok dependency)
      (missing : Dependency.ofElement e = .error (.missingField tag)) :
      Traced dialect (.ok d) [.loadedDocument d.children.elements.length]
        (.error (.pom (.missingField tag)))
  | complete {d : Document} {reports : List (Event × String)} {block : Bool} {output : String}
      (reported : List.Forall₂
        (fun e (report : Event × String) => ∃ dependency, Dependency.ofElement e = .ok dependency ∧
          dialect.Reported dependency report.1 report.2)
        (d.children.descendants "dependency") reports)
      (marked : block = true ↔ d.children.Holds "dependencies")
      (laid : output = laidOut block ("\n".intercalate (reports.map Prod.snd)))
      (wrapped : block = true ↔ ∃ inner, output = dependenciesBlock inner) :
      Traced dialect (.ok d)
        (.loadedDocument d.children.elements.length
          :: .extractedDependencies reports.length block
          :: (reports.map Prod.fst ++ [.convertedPom dialect reports.length block]))
        (.ok output)

namespace Dialect

variable {dialect : Dialect}

/-- The events and the statements of dependencies, side by side. -/
def reports (dialect : Dialect) (l : List Dependency) : List (Event × String) :=
  l.map fun d => (renderedEvent d, dialect.statement d)

theorem length_reports (dialect : Dialect) (l : List Dependency) :
    (dialect.reports l).length = l.length := by
  simp [reports]

theorem map_fst_reports (dialect : Dialect) (l : List Dependency) :
    (dialect.reports l).map Prod.fst = l.map renderedEvent := by
  simp [reports, Function.comp_def]

theorem intercalate_reports (dialect : Dialect) (l : List Dependency) :
    "\n".intercalate ((dialect.reports l).map Prod.snd) = dialect.statements l := by
  simp [reports, statements, joinLines, Function.comp_def]

theorem reported_iff {d : Dependency} {event : Event} {statement : String} :
    dialect.Reported d event statement
      ↔ event = renderedEvent d ∧ statement = dialect.statement d := by
  constructor
  · intro reported
    cases reported with
    | bare none => exact ⟨by rw [renderedEvent, none]; rfl, (statement_bare dialect none).symm⟩
    | excluding some => exact ⟨rfl, (statement_excluding dialect some).symm⟩
  · rintro ⟨rfl, rfl⟩
    by_cases none : d.exclusions = []
    · rw [renderedEvent, statement_bare dialect none, none]
      exact .bare none
    · rw [renderedEvent, statement_excluding dialect none]
      exact .excluding none

theorem exists_statement_tail (dialect : Dialect) (d : Dependency) :
    ∃ tail, dialect.statement d = (Configuration.ofDependency d).name ++ tail := by
  by_cases none : d.exclusions = []
  · rw [statement_bare dialect none, String.append_assoc, String.append_assoc]
    exact ⟨_, rfl⟩
  · rw [statement_excluding dialect none, List.cons_append,
      String.intercalate_cons_of_ne_nil (by simp), call]
    simp only [String.append_assoc]
    exact ⟨_, rfl⟩

/-- Statements begin with the name of a configuration, so they are never a block themselves. -/
theorem statements_ne_dependenciesBlock (dialect : Dialect) (l : List Dependency) (inner : String) :
    dialect.statements l ≠ dependenciesBlock inner := by
  -- The block begins with a letter that begins no configuration.
  intro same
  have block : (dependenciesBlock inner).toList.head? = some 'd' := by simp [dependenciesBlock]
  rw [← same] at block
  cases l with
  | nil => simp [statements, joinLines] at block
  | cons d l =>
    obtain ⟨tail, begins⟩ := exists_statement_tail dialect d
    have front : ∃ rest,
        dialect.statements (d :: l) = (Configuration.ofDependency d).name ++ rest := by
      by_cases last : l = []
      · exact ⟨tail, by simp [statements, joinLines, last, begins]⟩
      · have more : l.map dialect.statement ≠ [] := by simpa using last
        rw [statements, joinLines, List.map_cons, String.intercalate_cons_of_ne_nil more, begins,
          String.append_assoc, String.append_assoc]
        exact ⟨_, rfl⟩
    obtain ⟨rest, front⟩ := front
    obtain ⟨first, others, starts, letter⟩ := exists_name_append (Configuration.ofDependency d) rest
    rw [front, starts] at block
    obtain rfl := Option.some.inj block
    simp at letter

theorem laidOut_eq_block_iff (dialect : Dialect) (l : List Dependency) (block : Bool) :
    block = true ↔ ∃ inner, laidOut block (dialect.statements l) = dependenciesBlock inner := by
  cases block with
  | true => simp [laidOut]
  | false => simp [laidOut, statements_ne_dependenciesBlock]

end Dialect

section

variable {dialect : Dialect} {d : Document}

/-- The events and statements of a document are those of the dependencies that are read from it. -/
theorem forall₂_reported_iff {elements : List Element} {reports : List (Event × String)} :
    List.Forall₂
      (fun e (report : Event × String) => ∃ dependency, Dependency.ofElement e = .ok dependency ∧
        dialect.Reported dependency report.1 report.2) elements reports
      ↔ ∃ l, elements.mapM Dependency.ofElement = .ok l ∧ reports = dialect.reports l := by
  simp only [Dialect.reported_iff, mapM_eq_ok_iff]
  constructor
  · intro reported
    induction reported with
    | nil => exact ⟨[], .nil, rfl⟩
    | @cons e report elements reports head _ ih =>
      obtain ⟨dependency, read, event, statement⟩ := head
      obtain ⟨l, later, rfl⟩ := ih
      exact ⟨dependency :: l, .cons read later, congrArg (· :: _) (Prod.ext event statement)⟩
  · rintro ⟨l, read, rfl⟩
    exact List.forall₂_map_right_iff.mpr
      (read.imp fun e dependency read => ⟨dependency, read, rfl, rfl⟩)

theorem exists_missingField {e : Element} {error : PomError}
    (failure : Dependency.ofElement e = .error error) : ∃ tag, error = .missingField tag := by
  cases Dependency.ofElement_eq_error_iff_stated.mp failure with
  | missing => exact ⟨_, rfl⟩

theorem traced_document_iff {events : List Event} {result : Except ConversionError String} :
    Traced dialect (.ok d) events result
      ↔ events = .loadedDocument d.topLevel :: (d.convert dialect).events ∧
        result = (d.convert dialect).result := by
  constructor
  · intro traced
    cases traced with
    | incomplete order sound missing =>
      rw [Document.convert_of_failure (extract_eq_error (order ▸ mapM_eq_error sound missing))]
      exact ⟨rfl, rfl⟩
    | complete reported marked laid =>
      obtain ⟨l, read, rfl⟩ := forall₂_reported_iff.mp reported
      obtain rfl := Bool.eq_iff_iff.mpr (marked.trans (isSome_descendant? d.root "dependencies").symm)
      rw [Document.convert_of_extract (extract_eq_ok read), laid]
      rw [dialect.length_reports, dialect.map_fst_reports, dialect.intercalate_reports]
      exact ⟨rfl, rfl⟩
  · rintro ⟨rfl, rfl⟩
    -- The document settles which of the two it is: what is collected from it fails or does not.
    cases read : (d.children.descendants "dependency").mapM Dependency.ofElement with
    | error error =>
      rw [Document.convert_of_failure (extract_eq_error read)]
      generalize order : d.children.descendants "dependency" = elements at read
      cases mapM_eq_iff.mp read with
      | first sound failure =>
        obtain ⟨tag, rfl⟩ := exists_missingField failure
        exact .incomplete order sound failure
    | ok l =>
      rw [Document.convert_of_extract (extract_eq_ok read)]
      have block := dialect.laidOut_eq_block_iff l (d.root.descendant? "dependencies").isSome
      rw [← dialect.intercalate_reports] at block ⊢
      rw [← dialect.map_fst_reports, ← dialect.length_reports]
      exact .complete (forall₂_reported_iff.mpr ⟨l, read, rfl⟩)
        (isSome_descendant? d.root "dependencies") rfl block

theorem traced_iff {loaded : Except ConversionError Document} {events : List Event}
    {result : Except ConversionError String} :
    Traced dialect loaded events result
      ↔ (Logged.andReport loaded fun d => .loadedDocument d.topLevel) >>= Document.convert dialect
        = ⟨events, result⟩ := by
  cases loaded with
  | error error =>
    constructor
    · intro traced
      cases traced
      rfl
    · intro same
      cases same
      exact .unloaded error
  | ok d =>
    rw [traced_document_iff]
    constructor
    · rintro ⟨rfl, rfl⟩
      rfl
    · intro same
      cases same
      exact ⟨rfl, rfl⟩

end

namespace Source

variable {source : Source} {loaded : Except ConversionError Document}

theorem convert_of_yields (yields : source.Yields loaded) (dialect : Dialect) :
    source.convert dialect
      = Logged.andReport loaded (fun d => .loadedDocument d.topLevel) >>= Document.convert dialect := by
  cases yields with
  | text parsed =>
    simp only [convert, load, Document.load, parsed]
    rfl
  | malformedText failure =>
    simp only [convert, load, Document.load, failure]
    rfl
  | bytes carries parsed =>
    rw [convert_of_carries carries, load_of_carries carries, Document.loadBytes, Document.ofBytes_ok,
      parsed]
    rfl
  | malformedBytes carries failure =>
    rw [convert_of_carries carries, load_of_carries carries, Document.loadBytes, Document.ofBytes_ok,
      failure]
    rfl
  | broken breaks =>
    rw [convert_of_breaks breaks]
    rfl
  | shut shut =>
    rw [convert, convertFile, shut]
    rfl

theorem exists_yields_of_carries {s : Bytes} (carries : source.Carries s) :
    ∃ loaded, source.Yields loaded := by
  cases parsed : Document.parseBytes s with
  | ok d => exact ⟨_, .bytes carries parsed⟩
  | error error => exact ⟨_, .malformedBytes carries parsed⟩

theorem exists_yields (source : Source) : ∃ loaded, source.Yields loaded := by
  cases source with
  | text s =>
    cases parsed : Document.parse s with
    | ok d => exact ⟨_, .text parsed⟩
    | error error => exact ⟨_, .malformedText parsed⟩
  | bytes s => exact exists_yields_of_carries .bytes
  | reader attempts =>
    rcases completes_or_fails attempts with ⟨s, completes⟩ | ⟨error, fails⟩
    · exact exists_yields_of_carries (.reader completes)
    · exact ⟨_, .broken (.reader fails)⟩
  | file fs path =>
    cases opened : (fs path).opened with
    | error cause => exact ⟨_, .shut opened⟩
    | ok attempts =>
      rcases completes_or_fails attempts with ⟨s, completes⟩ | ⟨error, fails⟩
      · exact exists_yields_of_carries (.file opened completes)
      · exact ⟨_, .broken (.file opened fails)⟩

end Source

end PomToGradle
