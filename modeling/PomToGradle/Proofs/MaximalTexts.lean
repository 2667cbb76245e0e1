import PomToGradle.Proofs.EmptyReadings
import PomToGradle.Proofs.SearchOrder
import PomToGradle.Proofs.SourceInputs
import PomToGradle.Proofs.TextNodes

/-!
Texts in a document are as long as they can be: no two stand next to each other, however the input was
cut into tokens. So elements and characters determine the tree, but for empty texts. An empty text is left
by tokens that read as nothing, and goes away with them (`Site.follow_withoutEmpty`).
-/
namespace PomToGradle

namespace Forest

/-- The forest without its empty texts, at every depth. -/
def dropEmpty : Forest → Forest
  | nil => nil
  | text content rest => if content = "" then rest.dropEmpty else text content rest.dropEmpty
  | element name children rest => element name children.dropEmpty rest.dropEmpty

theorem walk_dropEmpty (f : Forest) : f.dropEmpty.walk = f.walk := by
  induction f with
  | nil => rfl
  | text content rest ih =>
    rw [dropEmpty]
    split
    next empty =>
      rw [ih, walk, empty]
      rfl
    next => rw [walk, walk, ih]
  | element name children rest inner outer => rw [dropEmpty, walk, walk, inner, outer]

theorem filled_dropEmpty (f : Forest) : f.dropEmpty.Filled := by
  induction f with
  | nil => trivial
  | text content rest ih =>
    rw [dropEmpty]
    split
    next => exact ih
    next some => exact ⟨mt String.toList_eq_nil_iff.mp some, ih⟩
  | element name children rest inner outer => exact ⟨inner, outer⟩

theorem startsWithText_dropEmpty {f : Forest} (apart : f.startsWithText = false) :
    f.dropEmpty.startsWithText = false := by
  cases f with
  | text content rest => contradiction
  | _ => rfl

theorem merged_dropEmpty {f : Forest} (merged : f.Merged) : f.dropEmpty.Merged := by
  induction f with
  | nil => trivial
  | text content rest ih =>
    rw [dropEmpty]
    split
    next => exact ih merged.2
    next => exact ⟨startsWithText_dropEmpty merged.1, ih merged.2⟩
  | element name children rest inner outer => exact ⟨inner merged.1, outer merged.2⟩

/-- Where texts are maximal, elements and characters leave nothing open but empty texts. -/
theorem dropEmpty_eq_of_walk {f g : Forest} (merged : f.Merged) (merged' : g.Merged)
    (same : f.walk = g.walk) : f.dropEmpty = g.dropEmpty := by
  refine walk_injective (merged_dropEmpty merged) f.filled_dropEmpty (merged_dropEmpty merged')
    g.filled_dropEmpty ?_
  rw [walk_dropEmpty, walk_dropEmpty, same]

theorem dropEmpty_reverseOnto (f g : Forest) :
    (f.reverseOnto g).dropEmpty = f.dropEmpty.reverseOnto g.dropEmpty := by
  induction f generalizing g with
  | nil => rfl
  | text content rest ih =>
    rw [reverseOnto, ih, dropEmpty, dropEmpty]
    split <;> rfl
  | element name children rest _ ih =>
    rw [reverseOnto, ih]
    rfl

theorem dropEmpty_reverse (f : Forest) : f.reverse.dropEmpty = f.dropEmpty.reverse :=
  dropEmpty_reverseOnto f nil

theorem dropEmpty_pushText_empty (f : Forest) : (f.pushText "").dropEmpty = f.dropEmpty := by
  cases f with
  | text before rest => rw [pushText, String.append_empty]
  | _ => rfl

theorem dropEmpty_pushText {f : Forest} (merged : f.Merged) {content : String} (some : content ≠ "") :
    (f.pushText content).dropEmpty = f.dropEmpty.pushText content := by
  cases f with
  | nil => exact if_neg some
  | element name children rest => exact if_neg some
  | text before rest =>
    have joined : before ++ content ≠ "" := fun empty => some (String.append_eq_empty_iff.mp empty).2
    rw [pushText, dropEmpty, if_neg joined, dropEmpty]
    split
    next empty =>
      -- the empty text goes, and what was in front of it is no text that the new one could join
      have apart := startsWithText_dropEmpty merged.1
      rw [empty, String.empty_append]
      cases left : rest.dropEmpty with
      | text first others =>
        rw [left] at apart
        contradiction
      | _ => rfl
    next => rfl

/-- Nowhere in the forest do two texts stand next to each other. -/
theorem apart_of_merged {f : Forest} (merged : f.Merged) (before : Forest) (s t : String)
    (after : Forest) : f ≠ before ++ text s (text t after) := by
  rintro rfl
  induction before with
  | nil => exact absurd merged.1 (by simp [startsWithText])
  | text content rest ih => exact ih merged.2
  | element name children rest _ ih => exact ih merged.2

theorem merged_of_at {f : Forest} (merged : f.Merged) {place : List Nat} {e : Element}
    (stands : f.At place e) : e.children.Merged := by
  induction stands with
  | here name children rest => exact merged.1
  | inside below ih => exact ih merged.1
  | behindText behind ih => exact ih merged.2
  | behindElement behind ih => exact ih merged.2

end Forest

theorem Charset.readText?_eq_empty_iff {charset : Charset} {run : Bytes} :
    charset.readText? run = some "" ↔ charset.decode? run = some "" := by
  simp [readText?, Option.bind_eq_some_iff, toOption_eq_some_iff, unescape_eq_empty_iff]

namespace Encoding

/-- The elements and the characters of the tokens, each read in the encoding in force where it stands. -/
def spelled? (e : Encoding) : List Token → Option (List Mark)
  | [] => some []
  | t :: l => do
    let effect ← t.effect? e.charset
    let others ← (e.after t).spelled? l
    return effect.marks ++ others

/-- A token that reads as the empty text. -/
def ReadsEmpty (e : Encoding) (t : Token) : Prop := t.effect? e.charset = some (.text "")

instance (e : Encoding) (t : Token) : Decidable (e.ReadsEmpty t) :=
  inferInstanceAs (Decidable (t.effect? e.charset = some (.text "")))

/-- The tokens without those that read as the empty text. -/
def withoutEmpty (e : Encoding) : List Token → List Token
  | [] => []
  | t :: l => if e.ReadsEmpty t then (e.after t).withoutEmpty l else t :: (e.after t).withoutEmpty l

theorem after_of_readsEmpty {e : Encoding} {t : Token} (empty : e.ReadsEmpty t) : e.after t = e := by
  apply after_of_undeclared
  cases t with
  | instruction content => exact absurd (Option.some.inj empty) (by simp)
  | _ => rfl

/-- Empty CDATA sections read as nothing, and in ISO-2022-JP sections and runs of text that are an escape
    sequence. A run of text is never empty. -/
theorem readsEmpty_iff {e : Encoding} {t : Token} (solid : t ≠ .text []) :
    e.ReadsEmpty t ↔ t = .cdata [] ∨ e.charset = .iso2022Jp ∧
      ∃ escape, MultiByte.IsEscape escape ∧ (t = .text escape ∨ t = .cdata escape) := by
  have bare {x : Option String} : x.map Effect.text = some (.text "") ↔ x = some "" := by
    cases x <;> simp
  cases t with
  | text run =>
    have some : run ≠ [] := mt (congrArg Token.text) solid
    refine bare.trans (Charset.readText?_eq_empty_iff.trans (Charset.decode?_eq_empty_iff.trans ?_))
    simp [some]
  | cdata content =>
    refine bare.trans (Charset.decode?_eq_empty_iff.trans ?_)
    simp
  | reference name =>
    refine ⟨fun empty => ?_, by simp⟩
    obtain ⟨shown, -, resolved⟩ := Option.bind_eq_some_iff.mp empty
    obtain ⟨content, given, same⟩ := Option.map_eq_some_iff.mp resolved
    obtain rfl := Effect.text.inj same
    exact absurd rfl (Assembly.resolve_ne_nil (toOption_eq_some_iff.mp given))
  | _ => simp [ReadsEmpty, Token.effect?]

end Encoding

namespace Site

structure Merged (s : Site) : Prop where
  level : s.level.Merged
  before : ∀ o ∈ s.opened, o.before.Merged

/-- The place without the empty texts in front of it. -/
def dropEmpty (s : Site) : Site :=
  ⟨s.level.dropEmpty, s.opened.map fun o => ⟨o.name, o.before.dropEmpty⟩⟩

theorem merged_top : top.Merged := ⟨trivial, nofun⟩

theorem merged_of_take {s s' : Site} {effect : Effect} (merged : s.Merged)
    (taken : s.take effect = some s') : s'.Merged := by
  cases effect with
  | text content =>
    obtain rfl := Option.some.inj taken
    exact ⟨Forest.merged_pushText merged.level content, merged.before⟩
  | enter name =>
    obtain rfl := Option.some.inj taken
    exact ⟨trivial, List.forall_mem_cons.mpr ⟨merged.level, merged.before⟩⟩
  | leaf name =>
    obtain rfl := Option.some.inj taken
    exact ⟨⟨trivial, merged.level⟩, merged.before⟩
  | leave name =>
    obtain ⟨before, outer, opened, rfl⟩ := exists_of_take_leave taken
    obtain ⟨first, others⟩ := List.forall_mem_cons.mp (opened ▸ merged.before)
    exact ⟨⟨(Forest.merged_reverse s.level).mpr merged.level, first⟩, others⟩
  | nothing =>
    obtain rfl := Option.some.inj taken
    exact merged

/-- What is done to a place is done to it without empty texts, unless it is an empty text itself. -/
theorem dropEmpty_of_take {s s' : Site} {effect : Effect} (merged : s.Merged)
    (taken : s.take effect = some s') (full : effect ≠ .text "") :
    s.dropEmpty.take effect = some s'.dropEmpty := by
  cases effect with
  | text content =>
    obtain rfl := Option.some.inj taken
    have joined := Forest.dropEmpty_pushText merged.level (mt (congrArg Effect.text) full)
    simp only [dropEmpty, take, joined]
  | enter name | leaf name | nothing =>
    obtain rfl := Option.some.inj taken
    rfl
  | leave name =>
    obtain ⟨before, outer, opened, rfl⟩ := exists_of_take_leave taken
    simp only [dropEmpty, take, opened, List.map_cons, if_true, Forest.dropEmpty,
      Forest.dropEmpty_reverse]

theorem follow_cons_eq_some {s s' : Site} {e : Encoding} {t : Token} {l : List Token} :
    s.follow e (t :: l) = some s' ↔
      ∃ effect next, t.effect? e.charset = some effect ∧ s.take effect = some next ∧
        next.follow (e.after t) l = some s' := by
  simp only [follow, Option.bind_eq_some_iff]
  constructor
  · rintro ⟨next, ⟨effect, read, taken⟩, rest⟩
    exact ⟨effect, next, read, taken, rest⟩
  · rintro ⟨effect, next, read, taken, rest⟩
    exact ⟨next, ⟨effect, read, taken⟩, rest⟩

theorem merged_of_follow {s s' : Site} {e : Encoding} {l : List Token} (merged : s.Merged)
    (followed : s.follow e l = some s') : s'.Merged := by
  induction l generalizing s e with
  | nil =>
    obtain rfl := Option.some.inj followed
    exact merged
  | cons t l ih =>
    obtain ⟨effect, next, -, taken, rest⟩ := follow_cons_eq_some.mp followed
    exact ih (merged_of_take merged taken) rest

theorem spelled_of_follow {s s' : Site} {e : Encoding} {l : List Token}
    (followed : s.follow e l = some s') :
    ∃ marks, e.spelled? l = some marks ∧ s'.walked = s.walked ++ marks := by
  induction l generalizing s e with
  | nil =>
    obtain rfl := Option.some.inj followed
    exact ⟨[], rfl, (List.append_nil _).symm⟩
  | cons t l ih =>
    obtain ⟨effect, next, read, taken, rest⟩ := follow_cons_eq_some.mp followed
    obtain ⟨marks, spelled, walked⟩ := ih rest
    refine ⟨effect.marks ++ marks, ?_, ?_⟩
    · rw [Encoding.spelled?, read, spelled]
      rfl
    · rw [walked, walked_of_take taken, List.append_assoc]

/-- Leaving out the tokens that read as nothing leaves out the empty texts. -/
theorem follow_withoutEmpty {s s' : Site} {e : Encoding} {l : List Token} (merged : s.Merged)
    (followed : s.follow e l = some s') :
    s.dropEmpty.follow e (e.withoutEmpty l) = some s'.dropEmpty := by
  induction l generalizing s e with
  | nil =>
    obtain rfl := Option.some.inj followed
    rfl
  | cons t l ih =>
    obtain ⟨effect, next, read, taken, rest⟩ := follow_cons_eq_some.mp followed
    have after := ih (merged_of_take merged taken) rest
    rw [Encoding.withoutEmpty]
    split
    next empty =>
      -- character data declares no encoding, so what follows is read as if nothing had been there
      obtain rfl : .text "" = effect := Option.some.inj (empty.symm.trans read)
      obtain rfl := Option.some.inj taken
      rw [Encoding.after_of_readsEmpty empty] at after ⊢
      rw [← after, dropEmpty, dropEmpty, Forest.dropEmpty_pushText_empty]
    next solid =>
      have full : effect ≠ .text "" := by
        rintro rfl
        exact solid read
      exact follow_cons_eq_some.mpr ⟨effect, _, read, dropEmpty_of_take merged taken full, after⟩

end Site

namespace Input

/-- The elements and the characters of an input, in the order in which they come. -/
def spelled? (i : Input) : Option (List Mark) := i.encoding.spelled? i.lexed.tokens

def withoutEmpty (i : Input) : Input :=
  { i with lexed := { i.lexed with tokens := i.encoding.withoutEmpty i.lexed.tokens } }

variable {i : Input} {d : Document}

theorem merged_of_document? (read : i.document? = some d) : d.children.Merged := by
  obtain ⟨-, f, followed, rfl⟩ := document?_eq_some_iff.mp read
  exact (Forest.merged_reverse f).mpr (Site.merged_of_follow Site.merged_top followed).level

theorem spelled?_of_document? (read : i.document? = some d) :
    i.spelled? = some d.children.walk := by
  obtain ⟨-, f, followed, rfl⟩ := document?_eq_some_iff.mp read
  obtain ⟨marks, spelled, walked⟩ := Site.spelled_of_follow followed
  exact spelled.trans (congrArg some walked.symm)

theorem document?_withoutEmpty (read : i.document? = some d) :
    i.withoutEmpty.document? = some ⟨d.children.dropEmpty⟩ := by
  obtain ⟨whole, f, followed, rfl⟩ := document?_eq_some_iff.mp read
  refine document?_eq_some_iff.mpr ⟨whole, f.dropEmpty, ?_, ?_⟩
  · exact Site.follow_withoutEmpty Site.merged_top followed
  · rw [Forest.dropEmpty_reverse]

theorem dropEmpty_eq_of_spelled? {i' : Input} {d' : Document} (read : i.document? = some d)
    (read' : i'.document? = some d') (same : i.spelled? = i'.spelled?) :
    d.children.dropEmpty = d'.children.dropEmpty := by
  rw [spelled?_of_document? read, spelled?_of_document? read'] at same
  exact Forest.dropEmpty_eq_of_walk (merged_of_document? read) (merged_of_document? read')
    (Option.some.inj same)

theorem eq_of_withoutEmpty (read : i.document? = some d) (solid : i.withoutEmpty = i) :
    d.children.dropEmpty = d.children := by
  have left := document?_withoutEmpty read
  rw [solid, read] at left
  exact (congrArg Document.children (Option.some.inj left)).symm

theorem text_nil_not_mem_of_input? {source : Source} (given : source.input? = some i) :
    .text [] ∉ i.lexed.tokens := by
  cases source with
  | text s =>
    obtain rfl := Option.some.inj given
    exact Lexed.text_nil_not_mem _
  | bytes s =>
    obtain rfl := Option.some.inj given
    exact Lexed.text_nil_not_mem _
  | reader attempts =>
    obtain ⟨s, -, rfl⟩ := Option.map_eq_some_iff.mp given
    exact Lexed.text_nil_not_mem _
  | file fs path =>
    obtain ⟨s, -, rfl⟩ := Option.map_eq_some_iff.mp given
    exact Lexed.text_nil_not_mem _

end Input

namespace Source

/-- A document and the input it is read from. -/
structure Shows (i : Input) (d : Document) : Prop where
  /-- No element has two texts next to each other, at any depth. -/
  apart : ∀ e, (e = d.root ∨ ∃ place, d.children.At place e) →
    ∀ before s t after, e.children ≠ before ++ .text s (.text t after)
  spelled : i.spelled? = some d.children.walk
  /-- The empty texts are those that tokens leave which read as nothing. -/
  emptied : i.withoutEmpty.document? = some ⟨d.children.dropEmpty⟩
  empty : ∀ t ∈ i.lexed.tokens, ∀ e : Encoding, e.ReadsEmpty t ↔
    t = .cdata [] ∨ e.charset = .iso2022Jp ∧
      ∃ escape, MultiByte.IsEscape escape ∧ (t = .text escape ∨ t = .cdata escape)

theorem shows_of_document? {source : Source} {i : Input} {d : Document}
    (given : source.input? = some i) (read : i.document? = some d) : Shows i d where
  apart := by
    have merged := Input.merged_of_document? read
    rintro e (rfl | ⟨place, stands⟩)
    · exact Forest.apart_of_merged merged
    · exact Forest.apart_of_merged (Forest.merged_of_at merged stands)
  spelled := Input.spelled?_of_document? read
  emptied := Input.document?_withoutEmpty read
  empty := by
    intro t member e
    refine Encoding.readsEmpty_iff ?_
    rintro rfl
    exact Input.text_nil_not_mem_of_input? given member

/-- Texts are maximal in every document, wherever it comes from. Two inputs with the same elements and
    the same characters between them are the same tree, up to empty texts; and without tokens that read
    as nothing, they are the same document. -/
theorem texts_maximal (source : Source) (d : Document) (loaded : source.load.result = .ok d) :
    ∃ i, source.input? = some i ∧ Shows i d ∧
      ∀ (other : Source) (d' : Document) (i' : Input), other.load.result = .ok d' →
        other.input? = some i' → i.spelled? = i'.spelled? →
        d.children.dropEmpty = d'.children.dropEmpty ∧
        (i.withoutEmpty = i → i'.withoutEmpty = i' → d = d') := by
  obtain ⟨i, given, read⟩ := load_eq_ok_iff.mp loaded
  refine ⟨i, given, shows_of_document? given read, ?_⟩
  intro other d' i' loaded' given' same
  obtain ⟨_, input, read'⟩ := load_eq_ok_iff.mp loaded'
  obtain rfl := Option.some.inj (given'.symm.trans input)
  have alike := Input.dropEmpty_eq_of_spelled? read read' same
  refine ⟨alike, ?_⟩
  intro solid solid'
  rw [Input.eq_of_withoutEmpty read solid, Input.eq_of_withoutEmpty read' solid'] at alike
  exact congrArg Document.mk alike

/-- One text in pieces, and an empty section behind an element. -/
def dividedSample : String := "<a>x<?z?><![CDATA[]]>&amp;<!-- -->y<b/><![CDATA[]]></a>"

def undividedSample : String := "<a><![CDATA[x&y]]><b></b></a>"

theorem texts_maximal_divided :
    (Forest.element "a" (.text "x&y" (.element "b" .nil (.text "" .nil))) .nil).dropEmpty
      = (Forest.element "a" (.text "x&y" (.element "b" .nil .nil)) .nil).dropEmpty ∧
    ∀ before s t after, Forest.text "x&y" (.element "b" .nil (.text "" .nil))
      ≠ before ++ .text s (.text t after) := by
  have parsed : Document.parse dividedSample
      = .ok ⟨.element "a" (.text "x&y" (.element "b" .nil (.text "" .nil))) .nil⟩ := by
    decide +kernel
  have parsed' : Document.parse undividedSample
      = .ok ⟨.element "a" (.text "x&y" (.element "b" .nil .nil)) .nil⟩ := by
    decide +kernel
  have loaded := load_text_eq_ok_iff.mpr parsed
  have loaded' := load_text_eq_ok_iff.mpr parsed'
  obtain ⟨i, given, shown, alike⟩ := texts_maximal (.text dividedSample) _ loaded
  have same : i.spelled? = (Input.ofText undividedSample).spelled? := by
    rw [shown.spelled, Input.spelled?_of_document? (parse_eq_ok_iff.mp parsed')]
    rfl
  exact ⟨(alike (.text undividedSample) _ _ loaded' rfl same).1,
    shown.apart _ (Or.inr ⟨[0], .here _ _ _⟩)⟩

/-- Nothing but an escape sequence of ISO-2022-JP in an element. -/
def escapeSample : Bytes :=
  .ofAscii "<?xml version='1.0' encoding='ISO-2022-JP'?><a>\x1b(B</a>"

def bareSample : Bytes := .ofAscii "<?xml version='1.0' encoding='ISO-2022-JP'?><a></a>"

/-- No CDATA section is empty, and yet an empty text tells two documents apart that have the same elements
    and the same characters. -/
theorem empty_text_of_escape :
    (bytes escapeSample).load.result = .ok ⟨.element "a" (.text "" .nil) .nil⟩ ∧
    (bytes bareSample).load.result = .ok ⟨.element "a" .nil .nil⟩ ∧
    (Input.ofBytes escapeSample).spelled? = (Input.ofBytes bareSample).spelled? ∧
    (∀ t ∈ (Input.ofBytes escapeSample).lexed.tokens, t ≠ .cdata []) ∧
    ∀ t ∈ (Input.ofBytes bareSample).lexed.tokens, t ≠ .cdata [] := by
  decide +kernel

end Source

end PomToGradle
