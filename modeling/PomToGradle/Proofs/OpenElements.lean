import Mathlib
import PomToGradle.Document
import PomToGradle.Proofs.AssemblySteps
import PomToGradle.Proofs.TagNesting
import PomToGradle.Proofs.TokenEffects

/-!
The open elements, kept twice. A reader of tags keeps their full names and refuses end tags that do not
match; a builder of the tree keeps what is in them so far, by local names, and believes every end tag.
Neither sees the stack of the other, and the two stay in step (`Construction.inStep_of_run`): the builder
is never asked to close what it has not opened. Together they do what `Assembly` does in one state, by
`Construction.load_eq`.
-/
namespace PomToGradle

structure TagReader where
  offset : Nat
  charset : Charset
  settled : Bool
  /-- The full names of the open elements, innermost first. -/
  names : List Bytes
deriving DecidableEq, Repr

/-- An element whose end tag has not come yet: its local name, and its nodes so far, last first. -/
structure Unfinished where
  name : String
  nodes : Forest
deriving DecidableEq, Repr

structure TreeBuilder where
  /-- The nodes at the top, last first. -/
  top : Forest
  /-- The open elements, innermost first. -/
  unfinished : List Unfinished
deriving DecidableEq, Repr

inductive BuildError where
  | refused (error : ParseError)
  /-- An end tag while the builder has no open element. -/
  | unexpectedEndTag (name : String) (offset : Nat)
deriving DecidableEq, Repr

namespace TagReader

/-- All that the reader knows but the names, as a tree under way that has nothing in it. -/
def bare (r : TagReader) : Assembly := ⟨r.offset, r.charset, r.settled, .nil, []⟩

/-- The reader after a token, without its offset. -/
def accept (r : TagReader) : Token → Except ParseError TagReader
  | .startTag content => .ok { r with names := tagName content :: r.names }
  | .endTag content =>
    match r.names with
    | [] => .error (.unmatchedEndTag (r.bare.shownName (endTagName content)) r.offset)
    | innermost :: outer =>
      if innermost = endTagName content then .ok { r with names := outer }
      else
        .error (.mismatchedEndTag (r.bare.shownName innermost)
          (r.bare.shownName (endTagName content)) r.offset)
  | .instruction content =>
    .ok { r with
      charset := (r.bare.declare content).charset
      settled := (r.bare.declare content).settled }
  | _ => .ok r

def step (r : TagReader) (t : Token) : Except ParseError TagReader :=
  (r.accept t).map fun next => { next with offset := r.offset + t.length }

end TagReader

namespace TreeBuilder

def start : TreeBuilder := ⟨.nil, []⟩

/-- Changes the nodes of the innermost open element, or those at the top if none is open. -/
def onCurrent (b : TreeBuilder) (f : Forest → Forest) : TreeBuilder :=
  match b.unfinished with
  | [] => { b with top := f b.top }
  | innermost :: outer =>
    { b with unfinished := { innermost with nodes := f innermost.nodes } :: outer }

def addText (b : TreeBuilder) (content : String) : TreeBuilder :=
  b.onCurrent fun nodes => nodes.pushText content

/-- An end tag closes the innermost open element, whatever its name. -/
def closeElement (b : TreeBuilder) (name : Bytes) (offset : Nat) : Except BuildError TreeBuilder :=
  match b.unfinished with
  | [] => .error (.unexpectedEndTag (elementName name) offset)
  | innermost :: outer =>
    .ok (onCurrent { b with unfinished := outer } fun nodes =>
      .element innermost.name innermost.nodes.reverse nodes)

/-- The builder after a token; the encoding and the offset are those of `source`. -/
def step (b : TreeBuilder) (source : Assembly) : Token → Except BuildError TreeBuilder
  | .text run => ((source.readText run).mapError .refused).map b.addText
  | .cdata content => ((source.decode content).mapError .refused).map b.addText
  | .reference name => ((source.decode name >>= Assembly.resolve).mapError .refused).map b.addText
  | .startTag content =>
    .ok { b with unfinished := ⟨elementName (tagName content), .nil⟩ :: b.unfinished }
  | .emptyTag content =>
    .ok (b.onCurrent fun nodes => .element (elementName (tagName content)) .nil nodes)
  | .endTag content => b.closeElement (endTagName content) source.offset
  | .instruction _ | .comment _ | .doctype _ _ => .ok b

end TreeBuilder

/-- The two at work: a token reaches the builder when the reader has accepted it. -/
structure Construction where
  reader : TagReader
  builder : TreeBuilder
deriving DecidableEq, Repr

namespace Construction

def start (charset : Charset) (settled : Bool) : Construction :=
  ⟨⟨0, charset, settled, []⟩, .start⟩

def step (c : Construction) (t : Token) : Except BuildError Construction := do
  let reader ← (c.reader.step t).mapError .refused
  let builder ← c.builder.step c.reader.bare t
  return ⟨reader, builder⟩

def run (c : Construction) (tokens : List Token) : Except BuildError Construction :=
  tokens.foldlM step c

/-- At the end of the document every element has to be closed. -/
def finish (c : Construction) : Except BuildError Forest :=
  match c.builder.unfinished with
  | [] => .ok c.builder.top.reverse
  | innermost :: _ => .error (.refused (.unclosedElement innermost.name))

def load (charset : Charset) (settled : Bool) (lexed : Lexed) : Except BuildError Forest := do
  let c ← (start charset settled).run lexed.tokens
  match lexed.fault with
  | some fault => .error (.refused (.fault fault c.reader.offset))
  | none => c.finish

end Construction

theorem mapError_ne_unexpectedEndTag {α : Type} {x : Except ParseError α} {name : String}
    {offset : Nat} : x.mapError BuildError.refused ≠ .error (.unexpectedEndTag name offset) := by
  cases x <;> simp [Except.mapError]

theorem TagReader.nest_of_step {r r' : TagReader} {t : Token} (done : r.step t = .ok r') :
    nest r.names t = some r'.names := by
  obtain ⟨next, accepted, rfl⟩ := map_eq_ok.mp done
  cases t with
  | endTag content =>
    simp only [accept] at accepted
    split at accepted
    next => contradiction
    next innermost outer opened =>
      split at accepted
      next same =>
        obtain rfl := Except.ok.inj accepted
        simp [nest, opened, same]
      next => contradiction
  | _ =>
    obtain rfl := Except.ok.inj accepted
    rfl

namespace TreeBuilder

/-- The local names of the open elements, innermost first. -/
def names (b : TreeBuilder) : List String := b.unfinished.map Unfinished.name

@[simp] theorem names_onCurrent (b : TreeBuilder) (f : Forest → Forest) :
    (b.onCurrent f).names = b.names := by
  obtain ⟨top, unfinished⟩ := b
  cases unfinished <;> rfl

/-- The builder's stack follows the reader's, by what the token does to the reader's. -/
theorem names_of_step {b b' : TreeBuilder} {source : Assembly} {t : Token} {names names' : List Bytes}
    (same : b.names = names.map elementName) (nests : nest names t = some names')
    (built : b.step source t = .ok b') : b'.names = names'.map elementName := by
  cases t with
  | text run | cdata run | reference run =>
    obtain ⟨content, -, rfl⟩ := map_eq_ok.mp built
    obtain rfl := Option.some.inj nests
    exact (names_onCurrent b _).trans same
  | startTag content =>
    obtain rfl := Except.ok.inj built
    obtain rfl := Option.some.inj nests
    exact congrArg (elementName (tagName content) :: ·) same
  | emptyTag content =>
    obtain rfl := Except.ok.inj built
    obtain rfl := Option.some.inj nests
    exact (names_onCurrent b _).trans same
  | endTag content =>
    simp only [step, closeElement] at built
    split at built
    next => contradiction
    next innermost outer opened =>
      obtain rfl := Except.ok.inj built
      rw [names_onCurrent]
      cases names with
      | nil => contradiction
      | cons name rest =>
        simp only [nest] at nests
        split at nests
        next =>
          obtain rfl := Option.some.inj nests
          rw [TreeBuilder.names, opened] at same
          exact (List.cons.inj same).2
        next => contradiction
  | instruction content | comment content | doctype keyword content =>
    obtain rfl := Except.ok.inj built
    obtain rfl := Option.some.inj nests
    exact same

end TreeBuilder

namespace Construction

/-- The two stacks hold the same elements. -/
def InStep (c : Construction) : Prop := c.builder.names = c.reader.names.map elementName

theorem inStep_start (charset : Charset) (settled : Bool) : (start charset settled).InStep := rfl

theorem step_eq_ok_iff {c c' : Construction} {t : Token} :
    c.step t = .ok c' ↔
      c.reader.step t = .ok c'.reader ∧ c.builder.step c.reader.bare t = .ok c'.builder := by
  constructor
  · intro done
    obtain ⟨reader, accepted, rest⟩ := bind_eq_ok.mp done
    obtain ⟨builder, built, last⟩ := bind_eq_ok.mp rest
    obtain rfl := Except.ok.inj last
    exact ⟨mapError_eq_ok.mp accepted, built⟩
  · rintro ⟨accepted, built⟩
    exact bind_eq_ok.mpr ⟨_, mapError_eq_ok.mpr accepted, bind_eq_ok.mpr ⟨_, built, rfl⟩⟩

theorem inStep_step {c c' : Construction} {t : Token} (inStep : c.InStep) (done : c.step t = .ok c') :
    c'.InStep := by
  obtain ⟨accepted, built⟩ := step_eq_ok_iff.mp done
  exact TreeBuilder.names_of_step inStep (TagReader.nest_of_step accepted) built

/-- After each token the stacks are in step, and the reader's holds the start tags without an end tag. -/
theorem inStep_of_run {c c' : Construction} {l : List Token} (inStep : c.InStep)
    (done : c.run l = .ok c') : c'.InStep ∧ nestAll c.reader.names l = some c'.reader.names := by
  induction l generalizing c with
  | nil =>
    obtain rfl := Except.ok.inj done
    exact ⟨inStep, rfl⟩
  | cons t l ih =>
    obtain ⟨next, first, rest⟩ := bind_eq_ok.mp done
    obtain ⟨kept, nested⟩ := ih (inStep_step inStep first) rest
    refine ⟨kept, ?_⟩
    rw [nestAll_cons, TagReader.nest_of_step (step_eq_ok_iff.mp first).1]
    exact nested

/-- What the reader accepts is no end tag without an element for the builder. -/
theorem step_ne_unexpectedEndTag {c : Construction} (inStep : c.InStep) (t : Token) (name : String)
    (offset : Nat) : c.step t ≠ .error (.unexpectedEndTag name offset) := by
  intro failed
  rcases bind_eq_error.mp failed with refused | ⟨reader, accepted, rest⟩
  · exact mapError_ne_unexpectedEndTag refused
  · rcases bind_eq_error.mp rest with unbuilt | ⟨builder, -, last⟩
    · have nests := TagReader.nest_of_step (mapError_eq_ok.mp accepted)
      cases t with
      | text run | cdata run | reference run =>
        exact mapError_ne_unexpectedEndTag (map_eq_error.mp unbuilt)
      | endTag content =>
        simp only [TreeBuilder.step, TreeBuilder.closeElement] at unbuilt
        split at unbuilt
        next none =>
          -- then nothing is open for the reader either, and it accepts no end tag
          have empty : c.reader.names = [] := by
            rw [InStep, TreeBuilder.names, none] at inStep
            exact List.map_eq_nil_iff.mp inStep.symm
          rw [empty] at nests
          contradiction
        next => contradiction
      | _ => contradiction
    · contradiction

/-- The builder at a place in a tree: what is in front of an open element belongs to the next one
    outwards. -/
def builderAt (level : Forest) : List OpenElement → TreeBuilder
  | [] => ⟨level, []⟩
  | innermost :: outer =>
    { builderAt innermost.before outer with
      unfinished := ⟨elementName innermost.name, level⟩ :: (builderAt innermost.before outer).unfinished }

def ofAssembly (a : Assembly) : Construction :=
  ⟨⟨a.offset, a.charset, a.settled, a.opened.map OpenElement.name⟩, builderAt a.level a.opened⟩

theorem onCurrent_builderAt (level : Forest) (opened : List OpenElement) (f : Forest → Forest) :
    (builderAt level opened).onCurrent f = builderAt (f level) opened := by
  cases opened <;> rfl

/-- Tokens that add a text do the same on both sides, whether the text can be read or not. -/
theorem step_ofAssembly_of_text {a : Assembly} {t : Token} (read : Except ParseError String)
    (accepted : ∀ r : TagReader, r.accept t = .ok r) (applied : a.apply t = read.map a.addText)
    (built : (ofAssembly a).builder.step (ofAssembly a).reader.bare t
      = (read.mapError .refused).map (ofAssembly a).builder.addText) :
    (ofAssembly a).step t = ((a.step t).mapError .refused).map ofAssembly := by
  rw [step, TagReader.step, accepted, built, Assembly.step, applied]
  cases read with
  | error e => rfl
  | ok content =>
    have added : (ofAssembly a).builder.addText content = (ofAssembly (a.addText content)).builder :=
      onCurrent_builderAt a.level a.opened _
    simp only [Except.mapError, Except.map, bind, Except.bind, added]
    rfl

theorem step_ofAssembly_endTag (a : Assembly) (content : Bytes) :
    (ofAssembly a).step (.endTag content)
      = ((a.step (.endTag content)).mapError .refused).map ofAssembly := by
  obtain ⟨offset, charset, settled, level, opened⟩ := a
  cases opened with
  | nil => rfl
  | cons innermost outer =>
    by_cases same : innermost.name = endTagName content
    · have closed := onCurrent_builderAt innermost.before outer
        (.element (elementName innermost.name) level.reverse)
      simp only [Assembly.step, Assembly.apply, Assembly.closeElement, if_pos same]
      refine step_eq_ok_iff.mpr ⟨?_, ?_⟩
      · simp only [TagReader.step, TagReader.accept, ofAssembly, List.map_cons, if_pos same]
        rfl
      · rw [← same]
        exact congrArg Except.ok closed
    · simp only [Assembly.step, Assembly.apply, Assembly.closeElement, if_neg same]
      simp only [step, TagReader.step, TagReader.accept, ofAssembly, List.map_cons, if_neg same]
      rfl

theorem declare_bare (a : Assembly) (content : Bytes) :
    (ofAssembly a).reader.bare.declare content
      = { a.declare content with level := .nil, opened := [] } := by
  have settled : (ofAssembly a).reader.bare.settled = a.settled := rfl
  unfold Assembly.declare
  rw [settled]
  split
  · rfl
  · split <;> rfl

theorem step_ofAssembly_instruction (a : Assembly) (content : Bytes) :
    (ofAssembly a).step (.instruction content)
      = ((a.step (.instruction content)).mapError .refused).map ofAssembly := by
  obtain ⟨level, opened⟩ := Site.mk.inj (a.site_declare content)
  refine step_eq_ok_iff.mpr ⟨?_, ?_⟩
  · simp only [TagReader.step, TagReader.accept, declare_bare]
    rw [ofAssembly, opened]
    rfl
  · change Except.ok (builderAt a.level a.opened)
      = Except.ok (builderAt (a.declare content).level (a.declare content).opened)
    rw [level, opened]

theorem step_ofAssembly (a : Assembly) (t : Token) :
    (ofAssembly a).step t = ((a.step t).mapError .refused).map ofAssembly := by
  cases t with
  | text run => exact step_ofAssembly_of_text (a.readText run) (fun _ => rfl) rfl rfl
  | cdata content => exact step_ofAssembly_of_text (a.decode content) (fun _ => rfl) rfl rfl
  | reference name =>
    refine step_ofAssembly_of_text (a.decode name >>= Assembly.resolve) (fun _ => rfl) ?_ rfl
    rw [Assembly.apply]
    cases a.decode name with
    | error e => rfl
    | ok shown =>
      simp only [bind, Except.bind]
      cases Assembly.resolve shown <;> rfl
  | emptyTag content =>
    have added := onCurrent_builderAt a.level a.opened (.element (elementName (tagName content)) .nil)
    exact step_eq_ok_iff.mpr ⟨rfl, congrArg Except.ok added⟩
  | endTag content => exact step_ofAssembly_endTag a content
  | instruction content => exact step_ofAssembly_instruction a content
  | startTag content | comment content | doctype keyword content => rfl

theorem run_ofAssembly (a : Assembly) (l : List Token) :
    (ofAssembly a).run l = ((a.run l).mapError .refused).map ofAssembly := by
  induction l generalizing a with
  | nil => rfl
  | cons t l ih =>
    have first : (ofAssembly a).run (t :: l) = (ofAssembly a).step t >>= fun c => c.run l := rfl
    rw [first, step_ofAssembly, Assembly.run_cons]
    cases a.step t with
    | error e => rfl
    | ok b => exact ih b

theorem finish_ofAssembly (a : Assembly) :
    (ofAssembly a).finish = a.finish.mapError .refused := by
  obtain ⟨offset, charset, settled, level, opened⟩ := a
  cases opened <;> rfl

/-- The reader and the builder together are `Assembly`, errors and offsets included. -/
theorem load_eq (charset : Charset) (settled : Bool) (lexed : Lexed) :
    load charset settled lexed = ((Assembly.start charset settled).ofLexed lexed).mapError .refused := by
  have initial : start charset settled = ofAssembly (Assembly.start charset settled) := rfl
  rw [load, Assembly.ofLexed, initial, run_ofAssembly]
  cases (Assembly.start charset settled).run lexed.tokens with
  | error e => rfl
  | ok a =>
    simp only [Except.mapError, Except.map, bind, Except.bind]
    cases lexed.fault with
    | some fault => rfl
    | none => exact finish_ofAssembly a

theorem parse_eq_load (s : String) :
    (Document.parse s).mapError .refused
      = (load .utf8 true (Document.lexed s)).map Document.mk := by
  rw [load_eq, Document.parse]
  cases (Assembly.start .utf8 true).ofLexed (Document.lexed s) <;> rfl

theorem parseBytes_eq_load (s : Bytes) :
    (Document.parseBytes s).mapError .refused
      = (load (Charset.ofSignature (dropUtf8Mark s)).1 false (Document.lexedBytes s)).map
          Document.mk := by
  rw [load_eq, Document.parseBytes, Document.lexedBytes]
  generalize Charset.ofSignature (dropUtf8Mark s) = found
  obtain ⟨charset, rest⟩ := found
  simp only
  cases (Assembly.start charset false).ofLexed (Lexed.ofBytes rest) <;> rfl

theorem openTags_of_run {charset : Charset} {settled : Bool} {l : List Token} {c : Construction}
    (done : (start charset settled).run l = .ok c) : OpenTags l c.reader.names :=
  openTags_iff.mpr (inStep_of_run (inStep_start charset settled) done).2

theorem load_ne_unexpectedEndTag (charset : Charset) (settled : Bool) (lexed : Lexed) (name : String)
    (offset : Nat) : load charset settled lexed ≠ .error (.unexpectedEndTag name offset) := by
  rw [load_eq]
  exact mapError_ne_unexpectedEndTag

theorem exists_run_of_load {charset : Charset} {settled : Bool} {lexed : Lexed} {f : Forest}
    (loaded : load charset settled lexed = .ok f) :
    ∃ c, (start charset settled).run lexed.tokens = .ok c ∧ c.builder.unfinished = [] := by
  obtain ⟨c, done, rest⟩ := bind_eq_ok.mp loaded
  refine ⟨c, done, ?_⟩
  cases fault : lexed.fault with
  | some found =>
    rw [fault] at rest
    contradiction
  | none =>
    rw [fault] at rest
    simp only [finish] at rest
    split at rest
    next none => exact none
    next => contradiction

theorem load_of_openTags {charset : Charset} {settled : Bool} {lexed : Lexed} {c : Construction}
    {innermost : Bytes} {outer : List Bytes} (whole : lexed.fault = none)
    (done : (start charset settled).run lexed.tokens = .ok c)
    (opened : OpenTags lexed.tokens (innermost :: outer)) :
    load charset settled lexed = .error (.refused (.unclosedElement (elementName innermost))) := by
  obtain ⟨inStep, nested⟩ := inStep_of_run (inStep_start charset settled) done
  have names : c.reader.names = innermost :: outer :=
    Option.some.inj (nested.symm.trans (openTags_iff.mp opened))
  rw [InStep, names, TreeBuilder.names, List.map_cons] at inStep
  rw [load, done]
  simp only [bind, Except.bind, whole, finish]
  split
  next none =>
    rw [none] at inStep
    contradiction
  next first rest unfinished =>
    rw [unfinished, List.map_cons] at inStep
    rw [(List.cons.inj inStep).1]

/-- Documents are what the reader and the builder make together, and after every token the builder has
    open what the start tags without an end tag have opened. So it is never asked to close nothing; a
    document is accepted with nothing open, and an input that ends with elements open is refused with
    the name of the innermost one. -/
theorem stacks_in_step :
    (∀ s : String, (Document.parse s).mapError .refused
      = (load .utf8 true (Document.lexed s)).map Document.mk) ∧
    (∀ s : Bytes, (Document.parseBytes s).mapError .refused
      = (load (Charset.ofSignature (dropUtf8Mark s)).1 false (Document.lexedBytes s)).map
          Document.mk) ∧
    ∀ (charset : Charset) (settled : Bool),
      (∀ (l : List Token) (c : Construction), (start charset settled).run l = .ok c →
        OpenTags l c.reader.names ∧ c.builder.names = c.reader.names.map elementName ∧
        ∀ (t : Token) (name : String) (offset : Nat),
          c.step t ≠ .error (.unexpectedEndTag name offset)) ∧
      ∀ lexed : Lexed,
        (∀ (name : String) (offset : Nat),
          load charset settled lexed ≠ .error (.unexpectedEndTag name offset)) ∧
        (∀ f : Forest, load charset settled lexed = .ok f →
          ∃ c, (start charset settled).run lexed.tokens = .ok c ∧ c.builder.unfinished = [] ∧
            OpenTags lexed.tokens []) ∧
        ∀ (c : Construction) (innermost : Bytes) (outer : List Bytes), lexed.fault = none →
          (start charset settled).run lexed.tokens = .ok c →
          OpenTags lexed.tokens (innermost :: outer) →
          load charset settled lexed
            = .error (.refused (.unclosedElement (elementName innermost))) := by
  refine ⟨parse_eq_load, parseBytes_eq_load, fun charset settled => ⟨fun l c done => ?_, ?_⟩⟩
  · have inStep := (inStep_of_run (inStep_start charset settled) done).1
    exact ⟨openTags_of_run done, inStep, step_ne_unexpectedEndTag inStep⟩
  · intro lexed
    refine ⟨load_ne_unexpectedEndTag charset settled lexed, ?_, ?_⟩
    · intro f loaded
      obtain ⟨c, done, closed⟩ := exists_run_of_load loaded
      have inStep := (inStep_of_run (inStep_start charset settled) done).1
      have opened := openTags_of_run done
      rw [InStep, TreeBuilder.names, closed] at inStep
      rw [List.map_eq_nil_iff.mp inStep.symm] at opened
      exact ⟨c, done, closed, opened⟩
    · intro c innermost outer whole done opened
      exact load_of_openTags whole done opened

/-- Two elements without an end tag, the outer one with a prefix. -/
def unclosedSample : Lexed := Document.lexed "<m:a><b/><c>x</c><d>"

/-- What the two know at the end of `unclosedSample`. -/
def unclosedEnd : Construction :=
  ⟨⟨20, .utf8, true, [.ofAscii "d", .ofAscii "m:a"]⟩,
    ⟨.nil, [⟨"d", .nil⟩, ⟨"a", .element "c" (.text "x" .nil) (.element "b" .nil .nil)⟩]⟩⟩

theorem stacks_in_step_unclosed :
    OpenTags unclosedSample.tokens [.ofAscii "d", .ofAscii "m:a"] ∧
    unclosedEnd.builder.names = [.ofAscii "d", .ofAscii "m:a"].map elementName ∧
    unclosedEnd.step (.endTag (.ofAscii "x")) ≠ .error (.unexpectedEndTag "x" 20) ∧
    load .utf8 true unclosedSample = .error (.refused (.unclosedElement "d")) ∧
    OpenTags (Document.lexed "<m:a><b/></m:a>").tokens [] := by
  have holds := stacks_in_step.2.2 .utf8 true
  have done : (start .utf8 true).run unclosedSample.tokens = .ok unclosedEnd := by cbv
  obtain ⟨opened, names, step⟩ := holds.1 unclosedSample.tokens unclosedEnd done
  have refused := (holds.2 unclosedSample).2.2 unclosedEnd _ _ (by cbv) done opened
  have accepted : load .utf8 true (Document.lexed "<m:a><b/></m:a>")
      = .ok (.element "a" (.element "b" .nil .nil) .nil) := by cbv
  obtain ⟨c, -, -, closed⟩ := (holds.2 _).2.1 _ accepted
  have name : elementName (.ofAscii "d") = "d" := by cbv
  rw [name] at refused
  exact ⟨opened, names, step _ _ _, refused, closed⟩

end Construction

end PomToGradle
