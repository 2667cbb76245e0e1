import PomToGradle.Proofs.AssemblySteps
import PomToGradle.Proofs.AssemblyWalk

/-!
How a document divides its text into nodes. Text is always added to a text that is already the last
node, so no two stand next to each other; none is empty unless a CDATA section was.
-/
namespace PomToGradle

namespace Assembly

/-- All sequences of nodes under way have the property: those of the innermost level, and those in
    front of each open element. -/
def Each (P : Forest → Prop) (a : Assembly) : Prop := P a.level ∧ ∀ o ∈ a.opened, P o.before

theorem each_start {P : Forest → Prop} (empty : P .nil) (charset : Charset) (settled : Bool) :
    (start charset settled).Each P :=
  ⟨empty, fun _ none => nomatch none⟩

theorem each_openElement {P : Forest → Prop} {a : Assembly} (each : a.Each P) (empty : P .nil)
    (name : Bytes) : (a.openElement name).Each P :=
  ⟨empty, List.forall_mem_cons.mpr ⟨each.1, each.2⟩⟩

theorem each_declare {P : Forest → Prop} {a : Assembly} (each : a.Each P) (content : Bytes) :
    (a.declare content).Each P := by
  unfold declare
  split
  · exact each
  · split <;> exact each

theorem merged_of_moves {a b : Assembly} {t : Token} (moves : Moves a t b)
    (merged : a.Each Forest.Merged) : b.Each Forest.Merged := by
  cases moves with
  | text read => exact ⟨Forest.merged_pushText merged.1 _, merged.2⟩
  | cdata read => exact ⟨Forest.merged_pushText merged.1 _, merged.2⟩
  | reference read resolved => exact ⟨Forest.merged_pushText merged.1 _, merged.2⟩
  | startTag content => exact each_openElement merged trivial (tagName content)
  | emptyTag content => exact ⟨⟨trivial, merged.1⟩, merged.2⟩
  | @endTag content innermost outer opened same =>
    have before := List.forall_mem_cons.mp (opened ▸ merged.2)
    exact ⟨⟨(Forest.merged_reverse a.level).mpr merged.1, before.1⟩, before.2⟩
  | instruction content => exact each_declare merged content
  | comment content => exact merged
  | doctype keyword content => exact merged

theorem merged_of_run {l : List Token} {a b : Assembly} (merged : a.Each Forest.Merged)
    (done : a.run l = .ok b) : b.Each Forest.Merged := by
  refine run_keeps ?_ merged done
  intro a b t _ before step
  obtain ⟨next, moves, rfl⟩ := step_eq_ok_iff.mp step
  have kept := merged_of_moves moves before
  exact kept

theorem resolve_ne_nil {name content : String} (resolved : resolve name = .ok content) :
    content.toList ≠ [] := by
  have single (c : Char) : (String.singleton c).toList ≠ [] := by simp
  unfold resolve at resolved
  split at resolved
  · split at resolved
    next c _ =>
      obtain rfl := Except.ok.inj resolved
      exact single c
    next => cases resolved
  · split at resolved
    next c _ =>
      obtain rfl := Except.ok.inj resolved
      exact single c
    next => cases resolved

theorem filled_of_moves {a b : Assembly} {t : Token} (textual : a.Textual) (text : t.IsText)
    (plain : t.IsPlain) (solid : t ≠ .cdata []) (moves : Moves a t b)
    (filled : a.Each Forest.Filled) : b.Each Forest.Filled := by
  obtain ⟨l, spelled⟩ := text
  have shown {content : String} {run : Bytes} (same : Utf8.encodeChars l = run)
      (read : a.decode run = .ok content) (some : run ≠ []) : content.toList ≠ [] := by
    obtain rfl := Except.ok.inj ((decode_encodeChars textual l).symm.trans (same ▸ read))
    rw [String.toList_ofList]
    rintro rfl
    exact some same.symm
  cases moves with
  | @text run content read =>
    obtain ⟨some, absent⟩ : run ≠ [] ∧ ascii '&' ∉ run := plain rfl
    rw [readText_of_plain a absent] at read
    exact ⟨Forest.filled_pushText filled.1 (shown spelled read some), filled.2⟩
  | cdata read =>
    have some := mt (congrArg Token.cdata) solid
    exact ⟨Forest.filled_pushText filled.1 (shown spelled read some), filled.2⟩
  | reference read resolved =>
    exact ⟨Forest.filled_pushText filled.1 (resolve_ne_nil resolved), filled.2⟩
  | startTag content => exact each_openElement filled trivial (tagName content)
  | emptyTag content => exact ⟨⟨trivial, filled.1⟩, filled.2⟩
  | @endTag content innermost outer opened same =>
    have before := List.forall_mem_cons.mp (opened ▸ filled.2)
    exact ⟨⟨(Forest.filled_reverse a.level).mpr filled.1, before.1⟩, before.2⟩
  | instruction content => exact each_declare filled content
  | comment content => exact filled
  | doctype keyword content => exact filled

theorem filled_of_run {l : List Token} (sound : ∀ t ∈ l, t.IsText ∧ t.IsPlain)
    (solid : .cdata [] ∉ l) {a b : Assembly} (textual : a.Textual) (filled : a.Each Forest.Filled)
    (done : a.run l = .ok b) : b.Each Forest.Filled := by
  suffices kept : b.Textual ∧ b.Each Forest.Filled from kept.2
  refine run_keeps (P := fun a => a.Textual ∧ a.Each Forest.Filled) ?_ ⟨textual, filled⟩ done
  intro a b t member before step
  obtain ⟨textual, filled⟩ := before
  obtain ⟨text, plain⟩ := sound t member
  have after := step_advances textual text plain step
  obtain ⟨next, moves, rfl⟩ := step_eq_ok_iff.mp step
  have present : t ≠ .cdata [] := by
    rintro rfl
    exact solid member
  have kept := filled_of_moves textual text plain present moves filled
  exact ⟨after.textual, kept⟩

end Assembly

namespace Document

theorem merged_of_parse {s : String} {d : Document} (read : parse s = .ok d) :
    d.children.Merged := by
  obtain ⟨-, a, ran, -, rfl⟩ := parse_eq_ok_iff.mp read
  have merged := Assembly.merged_of_run (Assembly.each_start trivial .utf8 true) ran
  exact (Forest.merged_reverse a.level).mpr merged.1

theorem filled_of_parse {s : String} {d : Document} (solid : .cdata [] ∉ (lexed s).tokens)
    (read : parse s = .ok d) : d.children.Filled := by
  obtain ⟨-, a, ran, -, rfl⟩ := parse_eq_ok_iff.mp read
  have filled := Assembly.filled_of_run (sound_lexed s) solid Assembly.textual_start
    (Assembly.each_start trivial .utf8 true) ran
  exact (Forest.filled_reverse a.level).mpr filled.1

end Document

end PomToGradle
