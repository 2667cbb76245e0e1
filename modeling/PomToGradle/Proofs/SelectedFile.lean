import Mathlib.Logic.Relation
import PomToGradle.Proofs.ConversionTrace
import PomToGradle.Proofs.ProgramOutcome

/-!
Which file a run converts. It is the last path that names a regular file, even one that may not be opened;
a path that names none is reported and has no other effect. Two lists of paths that have the same files
in the same order make the same run, by `sameRun_of_edits`, and so do two file systems that differ in
other files only.
-/
namespace PomToGradle

namespace FileSystem

variable {fs : FileSystem} {path : Path}

/-- There is a regular file of that path, whether or not it can be opened and read. A directory is
    none. -/
def Regular (fs : FileSystem) (path : Path) : Prop := (fs path).isFile = true

theorem isFile_iff : fs.isFile path = true ↔ fs.Regular path := Iff.rfl

theorem isFile_eq_false_iff : fs.isFile path = false ↔ ¬ fs.Regular path := by
  rw [← isFile_iff, Bool.not_eq_true]

theorem isFile_congr {fs' : FileSystem} (same : ∀ path, fs'.Regular path ↔ fs.Regular path) :
    fs'.isFile = fs.isFile := by
  funext path
  rw [Bool.eq_iff_iff, isFile_iff, isFile_iff]
  exact same path

end FileSystem

/-- The path that a list selects. -/
inductive Selects (fs : FileSystem) : List Path → Path → Prop where
  | last (before : List Path) {path : Path} {after : List Path} (file : fs.Regular path)
      (strays : ∀ stray ∈ after, ¬ fs.Regular stray) : Selects fs (before ++ path :: after) path
  | standard {paths : List Path} (strays : ∀ stray ∈ paths, ¬ fs.Regular stray) :
      Selects fs paths (Bytes.ofAscii "./pom.xml")

/-- A path that names no file is put in, taken out, or put in another place. -/
inductive Edits (fs : FileSystem) : List Path → List Path → Prop where
  | inserted (before after : List Path) {stray : Path} (absent : ¬ fs.Regular stray) :
      Edits fs (before ++ after) (before ++ stray :: after)
  | deleted (before after : List Path) {stray : Path} (absent : ¬ fs.Regular stray) :
      Edits fs (before ++ stray :: after) (before ++ after)
  | moved (before after before' after' : List Path) {stray : Path} (absent : ¬ fs.Regular stray)
      (rest : before ++ after = before' ++ after') :
      Edits fs (before ++ stray :: after) (before' ++ stray :: after')

/-- The warnings about a list of paths: one wherever a path that names no file stands. -/
inductive Warned (fs : FileSystem) : List Path → List Event → Prop where
  | nothing : Warned fs [] []
  | stray {path : Path} {paths : List Path} {events : List Event} (absent : ¬ fs.Regular path)
      (rest : Warned fs paths events) : Warned fs (path :: paths) (.ignoredArgument path :: events)
  | file {path : Path} {paths : List Path} {events : List Event} (file : fs.Regular path)
      (rest : Warned fs paths events) : Warned fs (path :: paths) events

section Selection

variable {fs : FileSystem} {l l' : List Path} {path : Path}

theorem filter_isFile_of_strays (strays : ∀ stray ∈ l, ¬ fs.Regular stray) :
    l.filter fs.isFile = [] := by
  refine List.filter_eq_nil_iff.mpr fun stray member => ?_
  rw [FileSystem.isFile_iff]
  exact strays stray member

/-- Edits leave the files as they are, each as often and in the same place among the others. -/
theorem filter_isFile_of_edits (edits : Edits fs l l') : l'.filter fs.isFile = l.filter fs.isFile := by
  have dropped {stray : Path} (before after : List Path) (absent : ¬ fs.Regular stray) :
      (before ++ stray :: after).filter fs.isFile = (before ++ after).filter fs.isFile := by
    simp [FileSystem.isFile_eq_false_iff.mpr absent]
  cases edits with
  | inserted before after absent => exact dropped before after absent
  | deleted before after absent => exact (dropped before after absent).symm
  | moved before after before' after' absent rest => rw [dropped _ _ absent, dropped _ _ absent, rest]

theorem filter_isFile_of_reflTransGen (edits : Relation.ReflTransGen (Edits fs) l l') :
    l'.filter fs.isFile = l.filter fs.isFile := by
  induction edits with
  | refl => rfl
  | tail _ edit ih => exact (filter_isFile_of_edits edit).trans ih

end Selection

namespace Invocation

variable {i : Invocation} {fs fs' : FileSystem} {path : Path}

theorem pomPath_eq (i : Invocation) (fs : FileSystem) :
    i.pomPath fs = ((i.paths.filter fs.isFile).getLast?).getD defaultPom := by
  rw [pomPath, ← List.head?_filter, List.filter_reverse, List.head?_reverse]

theorem pomPath_of_selects (selects : Selects fs i.paths path) : i.pomPath fs = path := by
  rw [pomPath_eq]
  generalize i.paths = paths at selects
  cases selects with
  | last before file strays =>
    rw [List.filter_append, List.filter_cons_of_pos (FileSystem.isFile_iff.mpr file),
      filter_isFile_of_strays strays]
    simp
  | standard strays =>
    rw [filter_isFile_of_strays strays]
    rfl

theorem selects_pomPath (i : Invocation) (fs : FileSystem) : Selects fs i.paths (i.pomPath fs) := by
  rw [pomPath]
  cases found : i.paths.reverse.find? fs.isFile with
  | none =>
    refine .standard fun stray member => ?_
    rw [← FileSystem.isFile_iff]
    exact List.find?_eq_none.mp found stray (List.mem_reverse.mpr member)
  | some path =>
    obtain ⟨file, after, before, whole, strays⟩ := List.find?_eq_some_iff_append.mp found
    have order : i.paths = before.reverse ++ path :: after.reverse := by
      simpa using congrArg List.reverse whole
    rw [order]
    refine .last before.reverse (FileSystem.isFile_iff.mp file) fun stray member => ?_
    exact FileSystem.isFile_eq_false_iff.mp (by simpa using strays stray (List.mem_reverse.mp member))

theorem pomPath_eq_iff : i.pomPath fs = path ↔ Selects fs i.paths path := by
  constructor
  · rintro rfl
    exact i.selects_pomPath fs
  · exact pomPath_of_selects

/-- The second run selects the file of the first one and comes to the same. -/
structure SameRun (i : Invocation) (fs : FileSystem) (i' : Invocation) (fs' : FileSystem) : Prop where
  selected : i'.pomPath fs' = i.pomPath fs
  result : (i'.run fs').result = (i.run fs).result

theorem pomPath_congr {i' : Invocation}
    (files : i'.paths.filter fs'.isFile = i.paths.filter fs.isFile) :
    i'.pomPath fs' = i.pomPath fs := by
  rw [pomPath_eq, pomPath_eq, files]

/-- All that a run comes to depends on the dialect, on the path that is selected and on what is there. -/
theorem sameRun_of_files {i' : Invocation} (dialect : i'.dialect = i.dialect)
    (files : i'.paths.filter fs'.isFile = i.paths.filter fs.isFile)
    (content : fs' (i.pomPath fs) = fs (i.pomPath fs)) : SameRun i fs i' fs' := by
  have selected := pomPath_congr files
  refine ⟨selected, ?_⟩
  simp only [result_run, selected, dialect, convertFile, content]

theorem sameRun_of_edits {paths : List Path}
    (edits : Relation.ReflTransGen (Edits fs) i.paths paths) : SameRun i fs ⟨i.dialect, paths⟩ fs :=
  sameRun_of_files rfl (filter_isFile_of_reflTransGen edits) rfl

theorem warnings_eq_iff {events : List Event} :
    i.warnings fs = events ↔ Warned fs i.paths events := by
  rw [warnings]
  generalize i.paths = paths
  constructor
  · rintro rfl
    induction paths with
    | nil => exact .nothing
    | cons path paths ih =>
      by_cases file : fs.isFile path = true
      · simpa [file] using Warned.file (FileSystem.isFile_iff.mp file) ih
      · simpa [file] using Warned.stray (mt FileSystem.isFile_iff.mpr file) ih
  · intro warned
    induction warned with
    | nothing => rfl
    | stray absent _ ih => simp [FileSystem.isFile_eq_false_iff.mpr absent, ih]
    | file file _ ih => simp [FileSystem.isFile_iff.mpr file, ih]

/-- No conversion warns of a path. -/
theorem ignoredArgument_not_mem_of_traced {dialect : Dialect}
    {loaded : Except ConversionError Document} {events : List Event}
    {result : Except ConversionError String} (traced : Traced dialect loaded events result)
    (path : Path) : .ignoredArgument path ∉ events := by
  cases traced with
  | unloaded error => simp
  | incomplete order sound missing => simp
  | complete reported marked laid wrapped =>
    obtain ⟨l, -, rfl⟩ := forall₂_reported_iff.mp reported
    simp [Dialect.map_fst_reports, Dialect.renderedEvent]

theorem exists_events_run (i : Invocation) (fs : FileSystem) :
    ∃ later, (i.run fs).events = i.warnings fs ++ later ∧ ∀ path, .ignoredArgument path ∉ later := by
  obtain ⟨loaded, yields⟩ := (Source.file fs (i.pomPath fs)).exists_yields
  have traced := traced_iff.mpr (Source.convert_of_yields yields i.dialect).symm
  refine ⟨.convertingPom (i.pomPath fs) i.dialect :: (convertFile i.dialect fs (i.pomPath fs)).events,
    rfl, fun path member => ?_⟩
  rcases List.mem_cons.mp member with other | later
  · contradiction
  · exact ignoredArgument_not_mem_of_traced traced path later

/-- A run converts the last of its paths that names a file, or the standard one if none does. Paths that
    name none may stand anywhere among the others, in any number, and other files may hold anything:
    the run comes to the same. It warns once of each such path and of nothing else. -/
theorem run_ignores_strays (i : Invocation) (fs : FileSystem) :
    (∀ path, i.pomPath fs = path ↔ Selects fs i.paths path) ∧
    (∀ paths, Relation.ReflTransGen (Edits fs) i.paths paths → SameRun i fs ⟨i.dialect, paths⟩ fs) ∧
    (∀ fs' : FileSystem, (∀ path, fs'.Regular path ↔ fs.Regular path) →
      fs' (i.pomPath fs) = fs (i.pomPath fs) → SameRun i fs i fs') ∧
    (∀ events, i.warnings fs = events ↔ Warned fs i.paths events) ∧
    ∃ later, (i.run fs).events = i.warnings fs ++ later ∧
      ∀ path, .ignoredArgument path ∉ later := by
  refine ⟨fun path => pomPath_eq_iff, fun paths => sameRun_of_edits, fun fs' regular content => ?_,
    fun events => warnings_eq_iff, i.exists_events_run fs⟩
  exact sameRun_of_files rfl (by rw [FileSystem.isFile_congr regular]) content

/-- Two files, the second of which may not be opened, a directory, and the standard file. -/
def twoFiles (content : Bytes) : FileSystem := fun path =>
  if path = Bytes.ofAscii "a.xml" then ⟨true, .ok [.data content]⟩
  else if path = Bytes.ofAscii "locked.xml" then ⟨true, .error (.system .permissionDenied)⟩
  else if path = Bytes.ofAscii "d" then ⟨false, .ok [.failed (.system .isADirectory)]⟩
  else if path = defaultPom then ⟨true, .ok []⟩
  else ⟨false, .error (.system .noSuchFile)⟩

def strayPaths : Invocation :=
  ⟨.groovy, ["d", "a.xml", "locked.xml", "--bogus", "--bogus"].map Bytes.ofAscii⟩

/-- The last file is selected though it may not be opened, so the run fails. The directory is put last
    and one of the unknown switches is taken out; then the file that is not selected changes. -/
theorem run_ignores_strays_around :
    strayPaths.pomPath (twoFiles []) = Bytes.ofAscii "locked.xml" ∧
    (strayPaths.run (twoFiles [])).result = .error ⟨Bytes.ofAscii "locked.xml",
      .cannotOpen "locked.xml" (.system .permissionDenied)⟩ ∧
    SameRun strayPaths (twoFiles [])
      ⟨.groovy, ["a.xml", "locked.xml", "--bogus", "d"].map Bytes.ofAscii⟩ (twoFiles []) ∧
    SameRun strayPaths (twoFiles []) strayPaths (twoFiles [0x20]) ∧
    strayPaths.warnings (twoFiles [])
      = ["d", "--bogus", "--bogus"].map fun path => .ignoredArgument (Bytes.ofAscii path) := by
  have directory : ¬ (twoFiles []).Regular (Bytes.ofAscii "d") := by
    rw [← FileSystem.isFile_iff]
    decide
  have switch : ¬ (twoFiles []).Regular (Bytes.ofAscii "--bogus") := by
    rw [← FileSystem.isFile_iff]
    decide
  obtain ⟨selects, edited, changed, warned, -⟩ := run_ignores_strays strayPaths (twoFiles [])
  have selected : strayPaths.pomPath (twoFiles []) = Bytes.ofAscii "locked.xml" := by
    have strays : ∀ stray ∈ [Bytes.ofAscii "--bogus", Bytes.ofAscii "--bogus"],
        ¬ (twoFiles []).Regular stray := by
      simp [switch]
    exact (selects _).mpr (.last (["d", "a.xml"].map Bytes.ofAscii) rfl strays)
  refine ⟨selected, ?_, ?_, ?_, ?_⟩
  · rw [result_run, selected]
    decide +kernel
  · have last : Edits (twoFiles []) strayPaths.paths
        (["a.xml", "locked.xml", "--bogus", "--bogus"].map Bytes.ofAscii ++ [Bytes.ofAscii "d"]) :=
      .moved [] (["a.xml", "locked.xml", "--bogus", "--bogus"].map Bytes.ofAscii) _ [] directory
        (List.append_nil _).symm
    have once : Edits (twoFiles [])
        (["a.xml", "locked.xml", "--bogus", "--bogus"].map Bytes.ofAscii ++ [Bytes.ofAscii "d"])
        (["a.xml", "locked.xml", "--bogus", "d"].map Bytes.ofAscii) :=
      .deleted (["a.xml", "locked.xml", "--bogus"].map Bytes.ofAscii) [Bytes.ofAscii "d"] switch
    exact edited _ (.tail (.single last) once)
  · refine changed _ (fun path => ?_) ?_
    · simp only [FileSystem.Regular, twoFiles]
      split <;> rfl
    · rw [selected]
      rfl
  · exact (warned _).mpr (.stray directory (.file rfl (.file rfl
      (.stray switch (.stray switch .nothing)))))

end Invocation

end PomToGradle
