import Mathlib.Data.List.Induction
import PomToGradle.Markup.Token

/-!
Tags that nest. The grammar of balanced words has no stack; `balanced_iff` says that a stack of the
names of the open elements accepts exactly these words.
-/
namespace PomToGradle

/-- Opens an element, or closes one. -/
def Token.isTag : Token → Bool
  | .startTag _ | .endTag _ => true
  | _ => false

inductive Balanced : List Token → Prop where
  | nil : Balanced []
  | skip {t : Token} {rest : List Token} (flat : t.isTag = false) (after : Balanced rest) :
      Balanced (t :: rest)
  | pair {content content' : Bytes} {inner rest : List Token}
      (partners : tagName content = endTagName content') (inside : Balanced inner)
      (after : Balanced rest) :
      Balanced (.startTag content :: (inner ++ .endTag content' :: rest))

/-- The names of the open elements after a token, innermost first, if the token may stand there. -/
def nest (names : List Bytes) : Token → Option (List Bytes)
  | .startTag content => some (tagName content :: names)
  | .endTag content =>
    match names with
    | [] => none
    | innermost :: outer => if innermost = endTagName content then some outer else none
  | _ => some names

def nestAll (names : List Bytes) (l : List Token) : Option (List Bytes) := l.foldlM nest names

theorem nestAll_cons (names : List Bytes) (t : Token) (l : List Token) :
    nestAll names (t :: l) = (nest names t).bind fun after => nestAll after l := rfl

theorem nestAll_append (names : List Bytes) (l r : List Token) :
    nestAll names (l ++ r) = (nestAll names l).bind fun after => nestAll after r := by
  simp [nestAll, List.foldlM_append]

theorem nest_of_not_isTag {t : Token} (flat : t.isTag = false) (names : List Bytes) :
    nest names t = some names := by
  cases t with
  | startTag content => contradiction
  | endTag content => contradiction
  | _ => rfl

/-- A balanced word leaves the stack as it was. -/
theorem nestAll_of_balanced {l : List Token} (balanced : Balanced l) (names : List Bytes) :
    nestAll names l = some names := by
  induction balanced generalizing names with
  | nil => rfl
  | skip flat _ ih =>
    rw [nestAll_cons, nest_of_not_isTag flat]
    exact ih names
  | @pair content content' inner rest partners _ _ inside after =>
    have closed : nest (tagName content :: names) (.endTag content') = some names := by
      simp [nest, partners]
    rw [nestAll_cons, nest, Option.bind_some, nestAll_append, inside, Option.bind_some, nestAll_cons,
      closed]
    exact after names

/-- A word that closes the elements of these names, innermost first, and opens none for good. -/
inductive Closing : List Bytes → List Token → Prop where
  | none {l : List Token} (balanced : Balanced l) : Closing [] l
  | more {names : List Bytes} {content : Bytes} {inner rest : List Token} (inside : Balanced inner)
      (after : Closing names rest) :
      Closing (endTagName content :: names) (inner ++ .endTag content :: rest)

theorem closing_skip {names : List Bytes} {t : Token} {l : List Token} (flat : t.isTag = false)
    (closing : Closing names l) : Closing names (t :: l) := by
  cases closing with
  | none balanced => exact .none (.skip flat balanced)
  | more inside after => exact .more (.skip flat inside) after

/-- The first end tag of a closing word belongs to a start tag in front of the word. -/
theorem closing_open {content : Bytes} {names : List Bytes} {l : List Token}
    (closing : Closing (tagName content :: names) l) : Closing names (.startTag content :: l) := by
  generalize stack : tagName content :: names = outer at closing
  cases closing with
  | none balanced => contradiction
  | @more names' content' inner rest inside after =>
    obtain ⟨partners, rfl⟩ := List.cons.inj stack
    cases after with
    | none balanced => exact .none (.pair partners inside balanced)
    | @more names'' content'' inner' rest' inside' after' =>
      have word :
          .startTag content :: (inner ++ .endTag content' :: (inner' ++ .endTag content'' :: rest'))
            = (.startTag content :: (inner ++ .endTag content' :: inner'))
              ++ .endTag content'' :: rest' := by
        simp
      rw [word]
      exact .more (.pair partners inside inside') after'

theorem closing_of_nestAll {names : List Bytes} {l : List Token}
    (accepted : nestAll names l = some []) : Closing names l := by
  induction l generalizing names with
  | nil =>
    obtain rfl : names = [] := Option.some.inj accepted
    exact .none .nil
  | cons t l ih =>
    rw [nestAll_cons] at accepted
    obtain ⟨after, step, rest⟩ := Option.bind_eq_some_iff.mp accepted
    by_cases flat : t.isTag = false
    · rw [nest_of_not_isTag flat] at step
      obtain rfl := Option.some.inj step
      exact closing_skip flat (ih rest)
    · cases t with
      | startTag content =>
        obtain rfl := Option.some.inj step
        exact closing_open (ih rest)
      | endTag content =>
        cases names with
        | nil => contradiction
        | cons innermost outer =>
          simp only [nest] at step
          split at step
          · next same =>
            obtain rfl := Option.some.inj step
            subst same
            exact .more .nil (ih rest)
          · contradiction
      | _ => simp [Token.isTag] at flat

theorem balanced_iff {l : List Token} : Balanced l ↔ nestAll [] l = some [] := by
  constructor
  · intro balanced
    exact nestAll_of_balanced balanced []
  · intro accepted
    cases closing_of_nestAll accepted with
    | none balanced => exact balanced

theorem balanced_append {l r : List Token} (first : Balanced l) (second : Balanced r) :
    Balanced (l ++ r) := by
  rw [balanced_iff, nestAll_append, nestAll_of_balanced first, Option.bind_some]
  exact nestAll_of_balanced second []

/-- The names in the start tags that have no end tag in the word, the last one first. -/
inductive OpenTags : List Token → List Bytes → Prop where
  | none {l : List Token} (balanced : Balanced l) : OpenTags l []
  | more {names : List Bytes} {content : Bytes} {before inner : List Token}
      (outer : OpenTags before names) (inside : Balanced inner) :
      OpenTags (before ++ .startTag content :: inner) (tagName content :: names)

theorem openTags_append {names : List Bytes} {l r : List Token} (opened : OpenTags l names)
    (balanced : Balanced r) : OpenTags (l ++ r) names := by
  cases opened with
  | none first => exact .none (balanced_append first balanced)
  | @more names content before inner outer inside =>
    rw [List.append_assoc, List.cons_append]
    exact .more outer (balanced_append inside balanced)

theorem nestAll_of_openTags {names : List Bytes} {l : List Token} (opened : OpenTags l names) :
    nestAll [] l = some names := by
  induction opened with
  | none balanced => exact balanced_iff.mp balanced
  | more outer inside ih =>
    rw [nestAll_append, ih, Option.bind_some, nestAll_cons, nest, Option.bind_some]
    exact nestAll_of_balanced inside _

/-- One more token opens an element, closes the innermost one, or does neither. -/
theorem openTags_concat {names names' : List Bytes} {l : List Token} {t : Token}
    (opened : OpenTags l names) (step : nest names t = some names') :
    OpenTags (l ++ [t]) names' := by
  by_cases flat : t.isTag = false
  · rw [nest_of_not_isTag flat] at step
    obtain rfl := Option.some.inj step
    exact openTags_append opened (.skip flat .nil)
  · cases t with
    | startTag content =>
      obtain rfl := Option.some.inj step
      exact .more opened .nil
    | endTag content =>
      cases opened with
      | none balanced => contradiction
      | @more outer content' before inner opened inside =>
        simp only [nest] at step
        split at step
        next partners =>
          obtain rfl := Option.some.inj step
          rw [List.append_assoc, List.cons_append]
          exact openTags_append opened (.pair partners inside .nil)
        next => contradiction
    | _ => simp [Token.isTag] at flat

theorem openTags_iff {names : List Bytes} {l : List Token} :
    OpenTags l names ↔ nestAll [] l = some names := by
  refine ⟨nestAll_of_openTags, fun accepted => ?_⟩
  induction l using List.reverseRecOn generalizing names with
  | nil =>
    obtain rfl : [] = names := Option.some.inj accepted
    exact .none .nil
  | append_singleton l t ih =>
    rw [nestAll_append] at accepted
    obtain ⟨before, front, last⟩ := Option.bind_eq_some_iff.mp accepted
    rw [nestAll_cons] at last
    obtain ⟨after, step, rest⟩ := Option.bind_eq_some_iff.mp last
    obtain rfl := Option.some.inj rest
    exact openTags_concat (ih front) step

end PomToGradle
