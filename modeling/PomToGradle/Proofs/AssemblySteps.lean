import PomToGradle.Proofs.OrderedCollection
import PomToGradle.Tree.Assembly

/-!
All that one token can do to the tree under way, said once. What every step keeps is kept by the whole
document, by `Assembly.run_keeps`.
-/
namespace PomToGradle.Assembly

/-- The tree after a token that may stand where it stands. Whatever is not character data or a tag
    leaves the tree alone. -/
inductive Moves (a : Assembly) : Token → Assembly → Prop where
  | text {run : Bytes} {content : String} (read : a.readText run = .ok content) :
      Moves a (.text run) (a.addText content)
  | cdata {source : Bytes} {content : String} (read : a.decode source = .ok content) :
      Moves a (.cdata source) (a.addText content)
  | reference {name : Bytes} {shown content : String} (read : a.decode name = .ok shown)
      (resolved : resolve shown = .ok content) : Moves a (.reference name) (a.addText content)
  | startTag (content : Bytes) : Moves a (.startTag content) (a.openElement (tagName content))
  | emptyTag (content : Bytes) : Moves a (.emptyTag content) (a.addElement (tagName content))
  | endTag {content : Bytes} {innermost : OpenElement} {outer : List OpenElement}
      (opened : a.opened = innermost :: outer) (same : innermost.name = endTagName content) :
      Moves a (.endTag content)
        { a with
          level := .element (elementName innermost.name) a.level.reverse innermost.before
          opened := outer }
  | instruction (content : Bytes) : Moves a (.instruction content) (a.declare content)
  | comment (content : Bytes) : Moves a (.comment content) a
  | doctype (keyword content : Bytes) : Moves a (.doctype keyword content) a

theorem moves_of_apply {a b : Assembly} {t : Token} (applied : a.apply t = .ok b) : Moves a t b := by
  cases t with
  | text run =>
    obtain ⟨content, read, rfl⟩ := map_eq_ok.mp applied
    exact .text read
  | cdata content =>
    obtain ⟨text, read, rfl⟩ := map_eq_ok.mp applied
    exact .cdata read
  | reference name =>
    obtain ⟨shown, read, rest⟩ := bind_eq_ok.mp applied
    obtain ⟨content, resolved, last⟩ := bind_eq_ok.mp rest
    obtain rfl := Except.ok.inj last
    exact .reference read resolved
  | startTag content =>
    obtain rfl := Except.ok.inj applied
    exact .startTag content
  | emptyTag content =>
    obtain rfl := Except.ok.inj applied
    exact .emptyTag content
  | endTag content =>
    simp only [apply, closeElement] at applied
    split at applied
    next => contradiction
    next innermost outer opened =>
      split at applied
      next same =>
        obtain rfl := Except.ok.inj applied
        rw [← same]
        exact .endTag opened same
      next => contradiction
  | instruction content =>
    obtain rfl := Except.ok.inj applied
    exact .instruction content
  | comment content =>
    obtain rfl := Except.ok.inj applied
    exact .comment content
  | doctype keyword content =>
    obtain rfl := Except.ok.inj applied
    exact .doctype keyword content

theorem apply_of_moves {a b : Assembly} {t : Token} (moves : Moves a t b) : a.apply t = .ok b := by
  cases moves with
  | text read => rw [apply, read]; rfl
  | cdata read => rw [apply, read]; rfl
  | reference read resolved =>
    simp only [apply, read, resolved, bind, Except.bind]
    rfl
  | endTag opened same =>
    simp only [apply, closeElement, opened, same, if_true]
  | _ => rfl

theorem step_eq_ok_iff {a b : Assembly} {t : Token} :
    a.step t = .ok b ↔ ∃ next, Moves a t next ∧ { next with offset := a.offset + t.length } = b := by
  rw [step, map_eq_ok]
  constructor
  · rintro ⟨next, applied, same⟩
    exact ⟨next, moves_of_apply applied, same⟩
  · rintro ⟨next, moves, same⟩
    exact ⟨next, apply_of_moves moves, same⟩

theorem run_cons (a : Assembly) (t : Token) (l : List Token) :
    a.run (t :: l) = a.step t >>= fun b => b.run l := by
  simp [run]

theorem run_keeps {P : Assembly → Prop} {l : List Token}
    (keeps : ∀ a b, ∀ t ∈ l, P a → a.step t = .ok b → P b) {a b : Assembly} (initial : P a)
    (done : a.run l = .ok b) : P b := by
  induction l generalizing a with
  | nil =>
    obtain rfl := Except.ok.inj done
    exact initial
  | cons t l ih =>
    rw [run_cons] at done
    obtain ⟨next, first, rest⟩ := bind_eq_ok.mp done
    have later : ∀ a b, ∀ u ∈ l, P a → a.step u = .ok b → P b := fun a b u member =>
      keeps a b u (List.mem_cons_of_mem t member)
    exact ih later (keeps a next t (by simp) initial first) rest

end PomToGradle.Assembly
