import PomToGradle.Proofs.IndentedLines

/-!
A script read back. The lines of a statement are cut at line feeds, a line at the quotes of the dialect
and a coordinate at its colons, so a value in which none of the three stands is found where it was
written. Indentation is passed over: a script reads the same inside a block and outside it.
-/
namespace PomToGradle

/-- What a statement declares. -/
structure Declaration where
  configuration : Configuration
  groupId : String
  artifactId : String
  version : String
  exclusions : List Exclusion
deriving DecidableEq, Repr

def Declaration.ofDependency (d : Dependency) : Declaration :=
  ⟨.ofDependency d, d.groupId, d.artifactId, d.version, d.exclusions⟩

def declared (l : List Dependency) : List Declaration := l.map Declaration.ofDependency

namespace Configuration

def all : List Configuration := [implementation, testImplementation, compileOnly]

/-- The configuration whose name stands in front of `sign`. -/
def before? (sign s : String) : Option Configuration := all.find? fun c => c.name ++ sign == s

end Configuration

inductive ScriptLine where
  | blank
  | block
  | closing
  /-- A statement that ends on its line. -/
  | whole (d : Declaration)
  /-- A statement with exclusions below it. -/
  | opening (d : Declaration)
  | exclusion (e : Exclusion)
deriving DecidableEq, Repr

def coordinate? (configuration : Configuration) (s : String) : Option Declaration :=
  match partsAt ':' s with
  | [groupId, artifactId, version] => some ⟨configuration, groupId, artifactId, version, []⟩
  | _ => none

def head? (sign front coordinate : String) : Option Declaration :=
  (Configuration.before? sign front).bind fun c => coordinate? c coordinate

namespace Dialect

def mark : Dialect → Char
  | groovy => Char.ofNat 0x27
  | kotlin => '"'

/-- What stands before and after the coordinate of a statement without exclusions. -/
def enclosure : Dialect → String × String
  | groovy => (" ", "")
  | kotlin => ("(", ")")

/-- What stands before, between and after the two values of an exclusion. -/
def exclusionFrame : Dialect → String × String × String
  | groovy => ("exclude group: ", ", module: ", "")
  | kotlin => ("exclude(group = ", ", module = ", ")")

def readParts? (dialect : Dialect) : List String → Option ScriptLine
  | [only] =>
    if only = "" then some .blank
    else if only = "dependencies \x7b" then some .block
    else if only = "\x7d" then some .closing
    else none
  | [front, coordinate, behind] =>
    if behind = ") \x7b" then (head? "(" front coordinate).map .opening
    else if behind = dialect.enclosure.2 then
      (head? dialect.enclosure.1 front coordinate).map .whole
    else none
  | [before, groupId, between, artifactId, behind] =>
    if (before, between, behind) = dialect.exclusionFrame then some (.exclusion ⟨groupId, artifactId⟩)
    else none
  | _ => none

def readLine? (dialect : Dialect) (line : String) : Option ScriptLine :=
  dialect.readParts? (partsAt dialect.mark (String.ofList (line.toList.dropWhile (· == ' '))))

/-- What a line makes of the statement under way, if there is one: the statements that it completes, and
    the one that is under way after it. -/
def advance? : Option Declaration → ScriptLine → Option (List Declaration × Option Declaration)
  | none, .blank | none, .block | none, .closing => some ([], none)
  | none, .whole d => some ([d], none)
  | none, .opening d => some ([], some d)
  | some d, .exclusion e => some ([], some { d with exclusions := d.exclusions ++ [e] })
  | some d, .closing => some ([d], none)
  | _, _ => none

/-- The statements on the lines, of which the first may be under way. -/
def readLines? (dialect : Dialect) : Option Declaration → List String → Option (List Declaration)
  | under, [] => if under.isSome then none else some []
  | under, line :: rest =>
    ((dialect.readLine? line).bind (advance? under)).bind fun (complete, under) =>
      (dialect.readLines? under rest).map (complete ++ ·)

def read? (dialect : Dialect) (script : String) : Option (List Declaration) :=
  dialect.readLines? none (linesOf script)

/-- None of the three delimiters stands in the value. -/
structure Plain (dialect : Dialect) (value : String) : Prop where
  feed : '\n' ∉ value.toList
  colon : ':' ∉ value.toList
  quote : dialect.mark ∉ value.toList

structure Accepts (dialect : Dialect) (d : Dependency) : Prop where
  groupId : dialect.Plain d.groupId
  artifactId : dialect.Plain d.artifactId
  version : dialect.Plain d.version
  exclusions : ∀ e ∈ d.exclusions, dialect.Plain e.groupId ∧ dialect.Plain e.artifactId

instance (dialect : Dialect) (value : String) : Decidable (dialect.Plain value) :=
  decidable_of_iff ('\n' ∉ value.toList ∧ ':' ∉ value.toList ∧ dialect.mark ∉ value.toList)
    ⟨fun ⟨feed, colon, quote⟩ => ⟨feed, colon, quote⟩, fun h => ⟨h.feed, h.colon, h.quote⟩⟩

instance (dialect : Dialect) (d : Dependency) : Decidable (dialect.Accepts d) :=
  decidable_of_iff
    (dialect.Plain d.groupId ∧ dialect.Plain d.artifactId ∧ dialect.Plain d.version ∧
      ∀ e ∈ d.exclusions, dialect.Plain e.groupId ∧ dialect.Plain e.artifactId)
    ⟨fun ⟨groupId, artifactId, version, exclusions⟩ => ⟨groupId, artifactId, version, exclusions⟩,
      fun h => ⟨h.groupId, h.artifactId, h.version, h.exclusions⟩⟩

theorem quote_eq (dialect : Dialect) : dialect.quote = String.singleton dialect.mark := by
  cases dialect <;> rfl

end Dialect

theorem Dependency.coordinate_eq (d : Dependency) :
    d.coordinate = (String.singleton ':').intercalate [d.groupId, d.artifactId, d.version] := by
  have colon : String.singleton ':' = ":" := rfl
  rw [coordinate, String.intercalate_cons_of_ne_nil (by simp),
    String.intercalate_cons_of_ne_nil (by simp), String.intercalate_singleton, colon]
  simp only [toString, String.append_assoc]

theorem Configuration.before?_name (sign : String) (c : Configuration) :
    Configuration.before? sign (c.name ++ sign) = some c := by
  cases c <;> simp [before?, all, name]

namespace Dialect

variable {dialect : Dialect} {d : Dependency}

theorem not_mem_coordinate (accepts : dialect.Accepts d) :
    '\n' ∉ d.coordinate.toList ∧ dialect.mark ∉ d.coordinate.toList := by
  have mark : dialect.mark ≠ ':' := by cases dialect <;> decide
  rw [d.coordinate_eq]
  simp [accepts.groupId.feed, accepts.artifactId.feed, accepts.version.feed,
    accepts.groupId.quote, accepts.artifactId.quote, accepts.version.quote, mark]

theorem coordinate?_coordinate (accepts : dialect.Accepts d) (c : Configuration) :
    coordinate? c d.coordinate = some ⟨c, d.groupId, d.artifactId, d.version, []⟩ := by
  have absent : ∀ s ∈ [d.groupId, d.artifactId, d.version], ':' ∉ s.toList := by
    simp [accepts.groupId.colon, accepts.artifactId.colon, accepts.version.colon]
  rw [coordinate?, d.coordinate_eq, partsAt_intercalate (by simp) absent]

theorem readLine?_indented (dialect : Dialect) (line : String) :
    dialect.readLine? (indentedLine line) = dialect.readLine? line := by
  simp [readLine?, indentedLine, indentation]

/-- A line that starts with no blank is read as its parts. -/
theorem readLine?_joined {first : String} {others : List String}
    (absent : ∀ s ∈ first :: others, dialect.mark ∉ s.toList) {c : Char} {rest : List Char}
    (starts : first.toList = c :: rest) (solid : c ≠ ' ') :
    dialect.readLine? (dialect.quote.intercalate (first :: others))
      = dialect.readParts? (first :: others) := by
  have front : ∃ tail, (dialect.quote.intercalate (first :: others)).toList = c :: tail := by
    cases others <;> simp [String.intercalate_cons_of_ne_nil, starts]
  obtain ⟨tail, front⟩ := front
  have kept : (c :: tail).dropWhile (· == ' ') = c :: tail := by simp [solid]
  rw [readLine?, front, kept, ← front, String.ofList_toList, quote_eq,
    partsAt_intercalate (by simp) absent]

theorem exists_name_append (c : Configuration) (sign : String) :
    ∃ first rest, (c.name ++ sign).toList = first :: rest ∧ first ∈ ['i', 't', 'c'] := by
  cases c
  · exact ⟨'i', "mplementation".toList ++ sign.toList, by simp [Configuration.name], by decide⟩
  · exact ⟨'t', "estImplementation".toList ++ sign.toList, by simp [Configuration.name], by decide⟩
  · exact ⟨'c', "ompileOnly".toList ++ sign.toList, by simp [Configuration.name], by decide⟩

/-- The declaration of a statement before its exclusions are read. -/
def bare (d : Dependency) : Declaration := { Declaration.ofDependency d with exclusions := [] }

theorem head?_bare (accepts : dialect.Accepts d) (sign : String) :
    head? sign ((Configuration.ofDependency d).name ++ sign) d.coordinate = some (bare d) := by
  rw [head?, Configuration.before?_name, Option.bind_some, coordinate?_coordinate accepts]
  rfl

/-- A line that gives a configuration and a coordinate is cut into what stands around the coordinate. -/
theorem readLine?_head (accepts : dialect.Accepts d) {sign behind : String}
    (absent : dialect.mark ∉ ((Configuration.ofDependency d).name ++ sign).toList ∧
      dialect.mark ∉ behind.toList) :
    dialect.readLine? ((Configuration.ofDependency d).name ++ sign ++ dialect.quoted d.coordinate
        ++ behind)
      = dialect.readParts? [(Configuration.ofDependency d).name ++ sign, d.coordinate, behind] := by
  obtain ⟨first, rest, starts, letter⟩ := exists_name_append (Configuration.ofDependency d) sign
  have solid : first ≠ ' ' := by
    rintro rfl
    simp at letter
  have parts : ∀ s ∈ [(Configuration.ofDependency d).name ++ sign, d.coordinate, behind],
      dialect.mark ∉ s.toList := by
    simp only [List.forall_mem_cons, List.not_mem_nil, false_imp_iff, implies_true, and_true]
    exact ⟨absent.1, (not_mem_coordinate accepts).2, absent.2⟩
  rw [← readLine?_joined parts starts solid]
  simp [String.intercalate_cons_of_ne_nil, quoted, String.append_assoc]

theorem mark_not_mem_name (dialect : Dialect) (c : Configuration) : dialect.mark ∉ c.name.toList := by
  cases dialect <;> cases c <;> decide

theorem statement_bare (dialect : Dialect) (none : d.exclusions = []) :
    dialect.statement d = (Configuration.ofDependency d).name ++ dialect.enclosure.1
      ++ dialect.quoted d.coordinate ++ dialect.enclosure.2 := by
  cases dialect <;> simp [statement, call, enclosure, none]

theorem readLine?_whole (accepts : dialect.Accepts d) (none : d.exclusions = []) :
    dialect.readLine? (dialect.statement d) = some (.whole (bare d)) := by
  have absent : dialect.mark ∉ ((Configuration.ofDependency d).name ++ dialect.enclosure.1).toList ∧
      dialect.mark ∉ dialect.enclosure.2.toList := by
    have name := mark_not_mem_name dialect (Configuration.ofDependency d)
    constructor
    · cases dialect <;> simpa [enclosure, mark] using name
    · cases dialect <;> decide
  have apart : dialect.enclosure.2 ≠ ") \x7b" := by cases dialect <;> decide
  rw [statement_bare dialect none, readLine?_head accepts absent, readParts?, if_neg apart,
    if_pos rfl, head?_bare accepts]
  rfl

theorem readLine?_opening (accepts : dialect.Accepts d) :
    dialect.readLine? (dialect.call d ++ " \x7b") = some (.opening (bare d)) := by
  have line : dialect.call d ++ " \x7b" = (Configuration.ofDependency d).name ++ "("
      ++ dialect.quoted d.coordinate ++ ") \x7b" := by
    have behind : ") \x7b" = ")" ++ " \x7b" := rfl
    simp only [call, behind, String.append_assoc]
  have absent : dialect.mark ∉ ((Configuration.ofDependency d).name ++ "(").toList ∧
      dialect.mark ∉ ") \x7b".toList := by
    have name := mark_not_mem_name dialect (Configuration.ofDependency d)
    constructor
    · cases dialect <;> simpa [mark] using name
    · cases dialect <;> decide
  rw [line, readLine?_head accepts absent, readParts?, if_pos rfl, head?_bare accepts]
  rfl

theorem exclusion_eq (dialect : Dialect) (e : Exclusion) :
    dialect.exclusion e = dialect.exclusionFrame.1 ++ dialect.quoted e.groupId
      ++ dialect.exclusionFrame.2.1 ++ dialect.quoted e.artifactId
      ++ dialect.exclusionFrame.2.2 := by
  cases dialect
  · exact String.append_empty.symm
  · rfl

theorem readLine?_exclusion {e : Exclusion}
    (plain : dialect.Plain e.groupId ∧ dialect.Plain e.artifactId) :
    dialect.readLine? (dialect.exclusion e) = some (.exclusion e) := by
  have joined (before between behind : String) :
      before ++ dialect.quoted e.groupId ++ between ++ dialect.quoted e.artifactId ++ behind
        = dialect.quote.intercalate [before, e.groupId, between, e.artifactId, behind] := by
    simp [quoted, String.intercalate_cons_of_ne_nil, String.append_assoc]
  have absent : ∀ s ∈ [dialect.exclusionFrame.1, e.groupId, dialect.exclusionFrame.2.1, e.artifactId,
      dialect.exclusionFrame.2.2], dialect.mark ∉ s.toList := by
    simp only [List.forall_mem_cons, List.not_mem_nil, false_imp_iff, implies_true, and_true]
    refine ⟨?_, plain.1.quote, ?_, plain.2.quote, ?_⟩
    all_goals cases dialect <;> decide
  have starts : ∃ rest, dialect.exclusionFrame.1.toList = 'e' :: rest := by
    cases dialect <;> exact ⟨_, rfl⟩
  obtain ⟨rest, starts⟩ := starts
  rw [exclusion_eq, joined, readLine?_joined absent starts (by decide), readParts?, if_pos rfl]

/-- The lines that a statement is laid out on. -/
def statementLines (dialect : Dialect) (d : Dependency) : List String :=
  if d.exclusions.isEmpty then [dialect.statement d]
  else
    (dialect.call d ++ " \x7b")
      :: (d.exclusions.map fun e => indentedLine (dialect.exclusion e)) ++ ["\x7d"]

theorem statementLines_ne_nil (dialect : Dialect) (d : Dependency) : dialect.statementLines d ≠ [] := by
  unfold statementLines
  split <;> simp

theorem intercalate_ended (lines : List String) (last : String) :
    String.join (lines.map (· ++ "\n")) ++ last = "\n".intercalate (lines ++ [last]) := by
  induction lines with
  | nil => simp
  | cons line lines ih =>
    have more : lines ++ [last] ≠ [] := by simp
    rw [List.map_cons, String.join_cons, List.cons_append, String.intercalate_cons_of_ne_nil more,
      String.append_assoc, ih]

theorem statement_eq (dialect : Dialect) (d : Dependency) :
    dialect.statement d = "\n".intercalate (dialect.statementLines d) := by
  by_cases none : d.exclusions.isEmpty = true
  · rw [statementLines, if_pos none, String.intercalate_singleton]
  · have inside : (d.exclusions.map fun e =>
        String.ofList indentation ++ dialect.exclusion e ++ "\n")
        = (d.exclusions.map fun e => indentedLine (dialect.exclusion e)).map (· ++ "\n") := by
      simp [indentedLine, Function.comp_def]
    have brace : "\x7b\n" = "\x7b" ++ "\n" := rfl
    have space : " \x7b" = " " ++ "\x7b" := rfl
    have whole : dialect.statement d = dialect.call d ++ " " ++ dialect.exclusionBlock d.exclusions := by
      simp only [statement, none]
      rfl
    rw [whole, statementLines, if_neg none, exclusionBlock, if_neg none, inside,
      List.cons_append, String.intercalate_cons_of_ne_nil (by simp), ← intercalate_ended]
    simp only [brace, space, String.append_assoc]

theorem statement_excluding (dialect : Dialect) (some : d.exclusions ≠ []) :
    dialect.statement d = "\n".intercalate
      ((dialect.call d ++ " \x7b")
        :: (d.exclusions.map fun e => indentedLine (dialect.exclusion e)) ++ ["\x7d"]) := by
  have lines : d.exclusions.isEmpty ≠ true := by simpa using some
  rw [statement_eq, statementLines, if_neg lines]

theorem statements_eq (dialect : Dialect) (l : List Dependency) :
    dialect.statements l = "\n".intercalate (l.flatMap dialect.statementLines) := by
  rw [statements, joinLines]
  induction l with
  | nil => rfl
  | cons d l ih =>
    by_cases last : l = []
    · simp [last, statement_eq]
    · have more : l.flatMap dialect.statementLines ≠ [] := by
        obtain ⟨next, rest, rfl⟩ := List.exists_cons_of_ne_nil last
        simp [statementLines_ne_nil]
      rw [List.map_cons, String.intercalate_cons_of_ne_nil (by simpa using last), ih,
        List.flatMap_cons, String.intercalate_append_of_ne_nil (statementLines_ne_nil dialect d) more,
        statement_eq]

theorem feed_not_mem_quoted (dialect : Dialect) {s : String} (absent : '\n' ∉ s.toList) :
    '\n' ∉ (dialect.quoted s).toList := by
  have quote : '\n' ∉ dialect.quote.toList := by cases dialect <;> decide
  simp [quoted, quote, absent]

theorem feed_not_mem_statementLines (accepts : dialect.Accepts d) :
    ∀ line ∈ dialect.statementLines d, '\n' ∉ line.toList := by
  have name : '\n' ∉ (Configuration.ofDependency d).name.toList := by
    cases Configuration.ofDependency d <;> decide
  have coordinate := feed_not_mem_quoted dialect (not_mem_coordinate accepts).1
  intro line member
  unfold statementLines at member
  split at member
  next none =>
    obtain rfl := List.mem_singleton.mp member
    cases dialect <;> simp [statement, none, call, name, coordinate]
  next =>
    rcases List.mem_append.mp member with inside | last
    · rcases List.mem_cons.mp inside with rfl | among
      · simp [call, name, coordinate]
      · obtain ⟨e, excluded, rfl⟩ := List.mem_map.mp among
        obtain ⟨groupId, artifactId⟩ := accepts.exclusions e excluded
        have first := feed_not_mem_quoted dialect groupId.feed
        have second := feed_not_mem_quoted dialect artifactId.feed
        have frame : '\n' ∉ dialect.exclusionFrame.1.toList ∧ '\n' ∉ dialect.exclusionFrame.2.1.toList ∧
            '\n' ∉ dialect.exclusionFrame.2.2.toList := by cases dialect <;> decide
        simp [indentedLine, indentation, exclusion_eq, first, second, frame]
    · obtain rfl := List.mem_singleton.mp last
      decide

theorem readLines?_cons {line : String} {read : ScriptLine} (shown : dialect.readLine? line = some read)
    {under after : Option Declaration} {complete : List Declaration}
    (advanced : advance? under read = some (complete, after)) (rest : List String) :
    dialect.readLines? under (line :: rest)
      = (dialect.readLines? after rest).map (complete ++ ·) := by
  rw [readLines?, shown, Option.bind_some, advanced]
  rfl

theorem readLine?_closing (dialect : Dialect) : dialect.readLine? "\x7d" = some .closing := by
  cases dialect <;> decide

theorem readLines?_exclusions {exclusions : List Exclusion}
    (plain : ∀ e ∈ exclusions, dialect.Plain e.groupId ∧ dialect.Plain e.artifactId)
    (under : Declaration) (rest : List String) :
    dialect.readLines? (some under)
        (exclusions.map (fun e => indentedLine (dialect.exclusion e)) ++ "\x7d" :: rest)
      = (dialect.readLines? none rest).map
        ({ under with exclusions := under.exclusions ++ exclusions } :: ·) := by
  induction exclusions generalizing under with
  | nil =>
    rw [List.map_nil, List.nil_append, readLines?_cons (readLine?_closing dialect) rfl,
      List.append_nil]
    rfl
  | cons e exclusions ih =>
    have line : dialect.readLine? (indentedLine (dialect.exclusion e)) = some (.exclusion e) := by
      rw [readLine?_indented, readLine?_exclusion (plain e (by simp))]
    have later := ih fun x member => plain x (List.mem_cons_of_mem e member)
    rw [List.map_cons, List.cons_append, readLines?_cons line rfl, later]
    simp [Function.comp_def]

theorem readLines?_statement (accepts : dialect.Accepts d) (rest : List String) :
    dialect.readLines? none (dialect.statementLines d ++ rest)
      = (dialect.readLines? none rest).map (Declaration.ofDependency d :: ·) := by
  -- without exclusions the statement is one line, and nothing is left under way behind it
  by_cases none : d.exclusions = []
  · have whole : bare d = Declaration.ofDependency d := by simp [bare, Declaration.ofDependency, none]
    have lines : dialect.statementLines d = [dialect.statement d] := by simp [statementLines, none]
    rw [lines, List.cons_append, readLines?_cons (readLine?_whole accepts none) rfl, whole]
    rfl
  · have whole : { bare d with exclusions := (bare d).exclusions ++ d.exclusions }
        = Declaration.ofDependency d := by
      simp [bare, Declaration.ofDependency]
    have lines : dialect.statementLines d ++ rest = (dialect.call d ++ " \x7b") ::
        (d.exclusions.map (fun e => indentedLine (dialect.exclusion e)) ++ "\x7d" :: rest) := by
      simp [statementLines, none]
    rw [lines, readLines?_cons (readLine?_opening accepts) rfl,
      readLines?_exclusions accepts.exclusions, whole]
    simp [Function.comp_def]

theorem readLines?_statements {l : List Dependency} (accepts : ∀ d ∈ l, dialect.Accepts d)
    (rest : List String) :
    dialect.readLines? none (l.flatMap dialect.statementLines ++ rest)
      = (dialect.readLines? none rest).map (declared l ++ ·) := by
  induction l with
  | nil => simp [declared]
  | cons d l ih =>
    have later := ih fun x member => accepts x (List.mem_cons_of_mem d member)
    rw [List.flatMap_cons, List.append_assoc, readLines?_statement (accepts d (by simp)), later]
    simp [declared, Function.comp_def]

/-- The lines of a script without its block; an empty script has an empty line. -/
theorem readLines?_linesOf {l : List Dependency} (accepts : ∀ d ∈ l, dialect.Accepts d)
    (rest : List String) :
    dialect.readLines? none (linesOf (dialect.statements l) ++ rest)
      = (dialect.readLines? none rest).map (declared l ++ ·) := by
  cases l with
  | nil =>
    have blank : dialect.readLine? "" = some .blank := by cases dialect <;> decide
    have line : linesOf (dialect.statements []) = [""] := rfl
    rw [line, List.cons_append, readLines?_cons blank rfl]
    rfl
  | cons d l =>
    have lines : linesOf (dialect.statements (d :: l)) = (d :: l).flatMap dialect.statementLines := by
      rw [statements_eq, linesOf_eq]
      apply partsAt_intercalate
      · simp [statementLines_ne_nil]
      · intro line member
        obtain ⟨x, among, inside⟩ := List.mem_flatMap.mp member
        exact feed_not_mem_statementLines (accepts x among) line inside
    rw [lines, readLines?_statements accepts]

theorem readLines?_indented (dialect : Dialect) (under : Option Declaration)
    (lines rest : List String) :
    dialect.readLines? under (lines.map indentedLine ++ rest)
      = dialect.readLines? under (lines ++ rest) := by
  induction lines generalizing under with
  | nil => rfl
  | cons line lines ih =>
    rw [List.map_cons, List.cons_append, List.cons_append, readLines?, readLines?,
      readLine?_indented]
    simp only [ih]

theorem read?_statements {l : List Dependency} (accepts : ∀ d ∈ l, dialect.Accepts d) :
    dialect.read? (dialect.statements l) = some (declared l) := by
  have read := readLines?_linesOf accepts []
  rw [List.append_nil] at read
  simp [read?, read, readLines?]

theorem read?_dependenciesBlock {l : List Dependency} (accepts : ∀ d ∈ l, dialect.Accepts d) :
    dialect.read? (dependenciesBlock (dialect.statements l)) = some (declared l) := by
  have block : dialect.readLine? "dependencies \x7b" = some .block := by
    cases dialect <;> decide
  rw [read?, linesOf_dependenciesBlock, enclosedLines, readLines?_cons block rfl, readLines?_indented,
    readLines?_linesOf accepts, readLines?_cons (readLine?_closing dialect) rfl]
  simp [readLines?]

/-- A script without the delimiters in its values says all that it was made from, alone and inside a
    block, so lists that declare different things never have the same script. Both dialects say the
    same. -/
theorem read?_script {dialect : Dialect} {l : List Dependency}
    (accepts : ∀ d ∈ l, dialect.Accepts d) :
    dialect.read? (dialect.statements l) = some (declared l) ∧
    dialect.read? (dependenciesBlock (dialect.statements l)) = some (declared l) ∧
    (∀ other : List Dependency, (∀ d ∈ other, dialect.Accepts d) → declared l ≠ declared other →
      dialect.statements l ≠ dialect.statements other ∧
      dependenciesBlock (dialect.statements l) ≠ dependenciesBlock (dialect.statements other)) ∧
    ∀ second : Dialect, (∀ d ∈ l, second.Accepts d) →
      second.read? (second.statements l) = dialect.read? (dialect.statements l) ∧
      second.read? (dependenciesBlock (second.statements l))
        = dialect.read? (dependenciesBlock (dialect.statements l)) := by
  have plain := read?_statements accepts
  have block := read?_dependenciesBlock accepts
  refine ⟨plain, block, ?_, ?_⟩
  · intro other accepted differ
    constructor
    · intro same
      rw [same, read?_statements accepted] at plain
      exact differ (Option.some.inj plain).symm
    · intro same
      rw [same, read?_dependenciesBlock accepted] at block
      exact differ (Option.some.inj block).symm
  · intro second accepted
    exact ⟨(read?_statements accepted).trans plain.symm,
      (read?_dependenciesBlock accepted).trans block.symm⟩

/-- Braces and parentheses in values do no harm, and it shows which statement an exclusion is in. -/
theorem read?_script_exclusions :
    let l : List Dependency :=
      [⟨"g \x7b", "a", "1)", .provided, [⟨"x", "\x7d y"⟩]⟩, ⟨"g", "b", "2", .test, []⟩]
    let moved : List Dependency :=
      [⟨"g \x7b", "a", "1)", .provided, []⟩, ⟨"g", "b", "2", .test, [⟨"x", "\x7d y"⟩]⟩]
    groovy.read? (groovy.statements l)
      = some [⟨.compileOnly, "g \x7b", "a", "1)", [⟨"x", "\x7d y"⟩]⟩,
          ⟨.testImplementation, "g", "b", "2", []⟩] ∧
    groovy.statements l ≠ groovy.statements moved ∧
    kotlin.read? (kotlin.statements l) = groovy.read? (groovy.statements l) := by
  intro l moved
  have accepts : ∀ dialect : Dialect, ∀ d ∈ l, dialect.Accepts d := by
    intro dialect
    cases dialect <;> decide
  have script := read?_script (accepts groovy)
  exact ⟨script.1, (script.2.2.1 moved (by decide) (by decide)).1,
    (script.2.2.2 kotlin (accepts kotlin)).1⟩

end Dialect

end PomToGradle
