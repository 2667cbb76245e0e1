import Mathlib.Data.List.Basic
import PomToGradle.CommandLine.Program
import PomToGradle.Proofs.ConversionOrder
import PomToGradle.Proofs.SourceAgreement

/-!
What a run of the program leaves. Standard output is written once, when all the work is done, so it
holds the whole script or nothing: each stage that can fail is one case of `Ends`, and no case leaves a
part. Events are reported on the way, but no result depends on them.
-/
namespace PomToGradle

namespace Logged

variable {ε α β : Type}

/-- What was reported does not matter to what comes next. -/
theorem result_bind (x : Logged ε α) (f : α → Logged ε β) :
    (x >>= f).result = x.result >>= fun a => (f a).result := by
  change (Logged.bind x f).result = _
  rw [Logged.bind]
  cases x.result <;> rfl

end Logged

/-- What conversion of the file at a path comes to, by the stage that decides it. -/
inductive FileConverts (dialect : Dialect) (fs : FileSystem) (path : Path) :
    Except ConversionError String → Prop where
  | opening {cause : IoError} (shut : (fs path).opened = .error cause) :
      FileConverts dialect fs path (.error (.cannotOpen path.shown cause))
  | reading {cause : IoError} (breaks : (Source.file fs path).Breaks cause) :
      FileConverts dialect fs path (.error (.pom (.io cause)))
  | parsing {content : Bytes} {error : ParseError} (carries : (Source.file fs path).Carries content)
      (malformed : Document.parseBytes content = .error error) :
      FileConverts dialect fs path (.error (.pom (.malformed error)))
  | converting {content : Bytes} {d : Document} {r : Except ConversionError String}
      (carries : (Source.file fs path).Carries content) (parsed : Document.parseBytes content = .ok d)
      (converts : Converts dialect d.children r) : FileConverts dialect fs path r

variable {dialect : Dialect} {fs : FileSystem} {path : Path} {r : Except ConversionError String}

theorem result_convertFile_of_fileConverts (contract : FileConverts dialect fs path r) :
    (convertFile dialect fs path).result = r := by
  change ((Source.file fs path).convert dialect).result = r
  cases contract with
  | opening shut =>
    rw [Source.convert, convertFile, shut]
    rfl
  | reading breaks => rw [Source.convert_of_breaks breaks]
  | parsing carries malformed =>
    rw [Source.convert_of_carries carries, Source.load_of_carries carries, Document.loadBytes,
      Document.ofBytes_ok, malformed]
    rfl
  | converting carries parsed converts =>
    rw [Source.convert_of_carries carries, Source.load_of_carries carries, Document.loadBytes,
      Document.ofBytes_ok, parsed, Logged.result_bind]
    exact result_convert_of_converts converts

theorem exists_fileConverts_of_carries {content : Bytes}
    (carries : (Source.file fs path).Carries content) : ∃ r, FileConverts dialect fs path r := by
  cases parsed : Document.parseBytes content with
  | error error => exact ⟨_, .parsing carries parsed⟩
  | ok d => exact ⟨_, .converting carries parsed (convert_converts dialect d)⟩

theorem exists_fileConverts (dialect : Dialect) (fs : FileSystem) (path : Path) :
    ∃ r, FileConverts dialect fs path r := by
  cases opened : (fs path).opened with
  | error cause => exact ⟨_, .opening opened⟩
  | ok attempts =>
    rcases completes_or_fails attempts with ⟨content, completes⟩ | ⟨cause, fails⟩
    · exact exists_fileConverts_of_carries (.file opened completes)
    · exact ⟨_, .reading (.file opened fails)⟩

theorem result_convertFile_eq_iff :
    (convertFile dialect fs path).result = r ↔ FileConverts dialect fs path r := by
  constructor
  · rintro rfl
    obtain ⟨r, contract⟩ := exists_fileConverts dialect fs path
    exact result_convertFile_of_fileConverts contract ▸ contract
  · exact result_convertFile_of_fileConverts

/-- What a run ends with, the exit code and the standard output: a conversion that succeeds and a line
    feed, or an answer to a question about the program, or a failure and no output. -/
inductive Ends (fs : FileSystem) : Except UsageError Request → Nat → String → Prop where
  | converted {i : Invocation} {output : String}
      (converts : FileConverts i.dialect fs (i.pomPath fs) (.ok output)) :
      Ends fs (.ok (.convert i)) 0 (output ++ "\n")
  | failed {i : Invocation} {error : ConversionError}
      (converts : FileConverts i.dialect fs (i.pomPath fs) (.error error)) :
      Ends fs (.ok (.convert i)) 1 ""
  | help : Ends fs (.ok .help) 0 (helpText programName)
  | version : Ends fs (.ok .version) 0 versionText
  | misused (error : UsageError) : Ends fs (.error error) 2 ""

/-- What the arguments ask for, the program name in front of them. -/
def requested (arguments : List Bytes) : Except UsageError Request :=
  Request.ofCommandLine (Bytes.ofAscii programName :: arguments)

theorem Invocation.result_run (i : Invocation) (fs : FileSystem) :
    (i.run fs).result
      = (convertFile i.dialect fs (i.pomPath fs)).result.mapError (RunError.mk (i.pomPath fs)) := rfl

variable {arguments : List Bytes}

theorem execute_of_ends {code : Nat} {stdout : String}
    (ends : Ends fs (requested arguments) code stdout) (verbosity : Verbosity) :
    (execute fs verbosity arguments).exitCode = code ∧
      (execute fs verbosity arguments).stdout = stdout := by
  rw [execute, ← requested]
  generalize requested arguments = request at ends
  cases ends with
  | converted converts =>
    have result := result_convertFile_of_fileConverts converts
    simp [Invocation.result_run, result, Except.mapError]
  | failed converts =>
    have result := result_convertFile_of_fileConverts converts
    simp [Invocation.result_run, result, Except.mapError, RunError.exitCode]
  | help => exact ⟨rfl, rfl⟩
  | version => exact ⟨rfl, rfl⟩
  | misused error => exact ⟨rfl, rfl⟩

theorem exists_ends (fs : FileSystem) (request : Except UsageError Request) :
    ∃ code stdout, Ends fs request code stdout := by
  cases request with
  | error error => exact ⟨_, _, .misused error⟩
  | ok request =>
    cases request with
    | help => exact ⟨_, _, .help⟩
    | version => exact ⟨_, _, .version⟩
    | convert i =>
      obtain ⟨r, converts⟩ := exists_fileConverts i.dialect fs (i.pomPath fs)
      cases r with
      | error error => exact ⟨_, _, .failed converts⟩
      | ok output => exact ⟨_, _, .converted converts⟩

theorem execute_iff_ends {verbosity : Verbosity} {code : Nat} {stdout : String} :
    (execute fs verbosity arguments).exitCode = code ∧
        (execute fs verbosity arguments).stdout = stdout
      ↔ Ends fs (requested arguments) code stdout := by
  constructor
  · rintro ⟨rfl, rfl⟩
    obtain ⟨code, stdout, ends⟩ := exists_ends fs (requested arguments)
    obtain ⟨rfl, rfl⟩ := execute_of_ends ends verbosity
    exact ends
  · intro ends
    exact execute_of_ends ends verbosity

theorem logLines_sublist {v w : Verbosity} (more : v.rank ≤ w.rank) (events : List Event) :
    (logLines v events).Sublist (logLines w events) := by
  refine List.Sublist.map Event.line (List.monotone_filter_right events fun e shown => ?_)
  have low : e.level.rank ≤ v.rank := of_decide_eq_true shown
  exact decide_eq_true (Nat.le_trans low more)

/-- Which events there are does not depend on how many of them are shown. -/
theorem exists_events (fs : FileSystem) (arguments : List Bytes) :
    ∃ events, ∀ verbosity, (execute fs verbosity arguments).log = logLines verbosity events := by
  unfold execute
  rw [← requested]
  cases requested arguments with
  | error error => exact ⟨[], fun _ => rfl⟩
  | ok request =>
    cases request with
    | help => exact ⟨[], fun _ => rfl⟩
    | version => exact ⟨[], fun _ => rfl⟩
    | convert i =>
      refine ⟨(i.run fs).events, fun verbosity => ?_⟩
      dsimp only
      cases (i.run fs).result <;> rfl

/-- A run ends as `Ends` says, and in no other way, however much of it is logged. The lines logged at
    one verbosity are among those logged at a greater one, in the same order. -/
theorem execute_all_or_nothing (fs : FileSystem) (arguments : List Bytes) :
    (∀ verbosity code stdout,
      (execute fs verbosity arguments).exitCode = code ∧
          (execute fs verbosity arguments).stdout = stdout
        ↔ Ends fs (requested arguments) code stdout) ∧
    ∀ v w, (execute fs v arguments).exitCode = (execute fs w arguments).exitCode ∧
      (execute fs v arguments).stdout = (execute fs w arguments).stdout ∧
      (v.rank ≤ w.rank → (execute fs v arguments).log.Sublist (execute fs w arguments).log) := by
  obtain ⟨code, stdout, ends⟩ := exists_ends fs (requested arguments)
  obtain ⟨events, logged⟩ := exists_events fs arguments
  refine ⟨fun _ _ _ => execute_iff_ends, fun v w => ?_⟩
  obtain ⟨code, stdout⟩ := execute_of_ends ends v
  obtain ⟨code', stdout'⟩ := execute_of_ends ends w
  refine ⟨code.trans code'.symm, stdout.trans stdout'.symm, fun more => ?_⟩
  rw [logged, logged]
  exact logLines_sublist more events

/-- A file whose second dependency is empty, one that may not be opened, and one that fails behind a
    whole dependency. -/
def troubledFiles : FileSystem := fun path =>
  let dependency :=
    "<dependency><groupId>g</groupId><artifactId>a</artifactId><version>1</version></dependency>"
  if path = Bytes.ofAscii "a.xml" then ⟨true, .ok [.data (Bytes.ofAscii (dependency ++ "<dependency/>"))]⟩
  else if path = Bytes.ofAscii "locked.xml" then ⟨true, .error (.system .permissionDenied)⟩
  else if path = Bytes.ofAscii "torn.xml" then
    ⟨true, .ok [.data (Bytes.ofAscii dependency), .failed (.system .inputOutput)]⟩
  else if path = defaultPom then ⟨true, .ok [.data (Bytes.ofAscii dependency)]⟩
  else ⟨false, .error (.system .noSuchFile)⟩

/-- Nothing is written of a file that cannot be converted whole, and nothing of the standard one in its
    place; that an argument names no file is logged all the same. -/
theorem execute_all_or_nothing_second_empty :
    (∀ name ∈ ["a.xml", "locked.xml", "torn.xml"],
      Ends troubledFiles (requested [Bytes.ofAscii name, Bytes.ofAscii "b.xml"]) 1 "") ∧
    Ends troubledFiles (requested [Bytes.ofAscii "b.xml"]) 0 "implementation 'g:a:1'\n" ∧
    (execute troubledFiles .standard [Bytes.ofAscii "a.xml", Bytes.ofAscii "b.xml"]).log
      = ["WARN maven2gradle: ignoring argument: not an existing file path=b.xml"] ∧
    (execute troubledFiles .standard [Bytes.ofAscii "a.xml", Bytes.ofAscii "b.xml"]).log.Sublist
      (execute troubledFiles (.upTo .debug) [Bytes.ofAscii "a.xml", Bytes.ofAscii "b.xml"]).log := by
  refine ⟨fun name member => ?_, ?_, ?_, ?_⟩
  · have ran : ∀ name ∈ ["a.xml", "locked.xml", "torn.xml"],
        (execute troubledFiles .standard [Bytes.ofAscii name, Bytes.ofAscii "b.xml"]).exitCode = 1 ∧
        (execute troubledFiles .standard [Bytes.ofAscii name, Bytes.ofAscii "b.xml"]).stdout = "" := by
      decide +kernel
    exact ((execute_all_or_nothing _ _).1 .standard _ _).mp (ran name member)
  · exact ((execute_all_or_nothing _ _).1 .standard _ _).mp ⟨by decide +kernel, by decide +kernel⟩
  · decide +kernel
  · exact ((execute_all_or_nothing _ _).2 .standard (.upTo .debug)).2.2 (by decide)

end PomToGradle
