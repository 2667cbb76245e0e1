import Mathlib.Data.List.Basic
import PomToGradle.Tree.Search

/-!
A search step by step. What its steps find is what stands on its stack, one after the other and then
nothing (`Search.take_eq`). Where an element stands is said by its place, and the places of what is found
come in document order, each once (`Forest.lists_places`). A step is a number of turns of a loop, and
every turn makes the stack lighter.
-/
namespace PomToGradle

namespace Forest

/-- The element at a place inside a forest. A place counts, from the top level down, the nodes in front
    of it. -/
inductive At : Forest → List Nat → Element → Prop where
  | here (name : String) (children rest : Forest) :
      At (element name children rest) [0] ⟨name, children⟩
  | inside {name : String} {children rest : Forest} {place : List Nat} {e : Element}
      (below : At children place e) : At (element name children rest) (0 :: place) e
  | behindText {content : String} {rest : Forest} {n : Nat} {place : List Nat} {e : Element}
      (behind : At rest (n :: place) e) : At (text content rest) ((n + 1) :: place) e
  | behindElement {name : String} {children rest : Forest} {n : Nat} {place : List Nat} {e : Element}
      (behind : At rest (n :: place) e) : At (element name children rest) ((n + 1) :: place) e

/-- A place comes before those inside it and before those behind it. -/
def Earlier (a b : List Nat × Element) : Prop := List.Lex (· < ·) a.1 b.1

/-- All elements of that name inside a forest, with their places, in document order. -/
structure Lists (f : Forest) (tag : String) (found : List (List Nat × Element)) : Prop where
  ordered : found.Pairwise Earlier
  complete : ∀ place e, (place, e) ∈ found ↔ f.At place e ∧ e.name = tag

/-- The place of what stands one node further on its top level. -/
def further : List Nat × Element → List Nat × Element
  | (n :: place, e) => ((n + 1) :: place, e)
  | ([], e) => ([], e)

def within (found : List Nat × Element) : List Nat × Element := (0 :: found.1, found.2)

def places (tag : String) : Forest → List (List Nat × Element)
  | nil => []
  | text _ rest => (rest.places tag).map further
  | element name children rest =>
    (if name = tag then [([0], ⟨name, children⟩)] else [])
      ++ ((children.places tag).map within ++ (rest.places tag).map further)

variable {f : Forest} {tag : String}

theorem map_snd_places (tag : String) (f : Forest) :
    (f.places tag).map Prod.snd = f.descendants tag := by
  have snd_further : Prod.snd ∘ further = Prod.snd := by
    funext ⟨place, e⟩
    cases place <;> rfl
  have snd_within : Prod.snd ∘ within = Prod.snd := rfl
  induction f with
  | nil => rfl
  | text content rest ih => simp [places, descendants, snd_further, ih]
  | element name children rest inner outer =>
    simp only [places, descendants, List.map_append, List.map_map, snd_further, snd_within, inner, outer]
    split <;> simp

theorem not_at_nil {e : Element} : ¬ f.At [] e := nofun

theorem mem_map_further {l : List (List Nat × Element)} (solid : ∀ e, ([], e) ∉ l) {place : List Nat}
    {e : Element} :
    (place, e) ∈ l.map further ↔ ∃ n rest, place = (n + 1) :: rest ∧ (n :: rest, e) ∈ l := by
  constructor
  · intro member
    obtain ⟨⟨place', e'⟩, inside, same⟩ := List.mem_map.mp member
    cases place' with
    | nil => exact absurd inside (solid e')
    | cons n rest =>
      obtain ⟨rfl, rfl⟩ := Prod.mk.inj same
      exact ⟨n, rest, rfl, inside⟩
  · rintro ⟨n, rest, rfl, inside⟩
    exact List.mem_map.mpr ⟨_, inside, rfl⟩

theorem mem_map_within {l : List (List Nat × Element)} {place : List Nat} {e : Element} :
    (place, e) ∈ l.map within ↔ ∃ rest, place = 0 :: rest ∧ (rest, e) ∈ l := by
  simp only [List.mem_map, within, Prod.mk.injEq, Prod.exists]
  constructor
  · rintro ⟨rest, e', inside, rfl, rfl⟩
    exact ⟨rest, rfl, inside⟩
  · rintro ⟨rest, rfl, inside⟩
    exact ⟨rest, e, inside, rfl, rfl⟩

theorem mem_places {place : List Nat} {e : Element} :
    (place, e) ∈ f.places tag ↔ f.At place e ∧ e.name = tag := by
  induction f generalizing place e with
  | nil => exact ⟨nofun, fun found => nomatch found.1⟩
  | text content rest ih =>
    have solid (e : Element) : ([], e) ∉ rest.places tag := fun member => not_at_nil (ih.mp member).1
    rw [places, mem_map_further solid]
    constructor
    · rintro ⟨n, place, rfl, behind⟩
      exact ⟨.behindText (ih.mp behind).1, (ih.mp behind).2⟩
    · rintro ⟨stands, named⟩
      cases stands with
      | behindText behind => exact ⟨_, _, rfl, ih.mpr ⟨behind, named⟩⟩
  | element name children rest inner outer =>
    have solid (e : Element) : ([], e) ∉ rest.places tag := fun member => not_at_nil (outer.mp member).1
    rw [places, List.mem_append, List.mem_append, mem_map_within, mem_map_further solid]
    constructor
    · rintro (first | ⟨place, rfl, below⟩ | ⟨n, place, rfl, behind⟩)
      · split at first
        next named =>
          obtain ⟨rfl, rfl⟩ := Prod.mk.inj (List.mem_singleton.mp first)
          exact ⟨.here name children rest, named⟩
        next => contradiction
      · exact ⟨.inside (inner.mp below).1, (inner.mp below).2⟩
      · exact ⟨.behindElement (outer.mp behind).1, (outer.mp behind).2⟩
    · rintro ⟨stands, named⟩
      cases stands with
      | here =>
        rw [if_pos named]
        exact Or.inl List.mem_cons_self
      | inside below => exact Or.inr (Or.inl ⟨_, rfl, inner.mpr ⟨below, named⟩⟩)
      | behindElement behind => exact Or.inr (Or.inr ⟨_, _, rfl, outer.mpr ⟨behind, named⟩⟩)

theorem earlier_further {a b : List Nat × Element} (earlier : Earlier a b) :
    Earlier (further a) (further b) := by
  obtain ⟨p, e⟩ := a
  obtain ⟨q, e'⟩ := b
  cases earlier with
  | nil => exact .nil
  | rel less => exact .rel (Nat.succ_lt_succ less)
  | cons behind => exact .cons behind

theorem pairwise_further {l : List (List Nat × Element)} (ordered : l.Pairwise Earlier) :
    (l.map further).Pairwise Earlier :=
  List.pairwise_map.mpr (ordered.imp earlier_further)

theorem pairwise_within {l : List (List Nat × Element)} (ordered : l.Pairwise Earlier) :
    (l.map within).Pairwise Earlier :=
  List.pairwise_map.mpr (ordered.imp fun earlier => .cons earlier)

theorem pairwise_places (tag : String) (f : Forest) : (f.places tag).Pairwise Earlier := by
  induction f with
  | nil => exact .nil
  | text content rest ih => exact pairwise_further ih
  | element name children rest inner outer =>
    -- an element comes before all that is inside it, and this before all that is behind it
    have solid (e : Element) : ([], e) ∉ rest.places tag := fun member =>
      not_at_nil (mem_places.mp member).1
    refine List.pairwise_append.mpr ⟨?_, List.pairwise_append.mpr
      ⟨pairwise_within inner, pairwise_further outer, ?_⟩, ?_⟩
    · split
      · exact List.pairwise_singleton _ _
      · exact .nil
    · rintro ⟨p, e⟩ below ⟨q, e'⟩ behind
      obtain ⟨p', rfl, -⟩ := mem_map_within.mp below
      obtain ⟨n, q', rfl, -⟩ := (mem_map_further solid).mp behind
      exact .rel (Nat.succ_pos n)
    · rintro ⟨p, e⟩ first ⟨q, e'⟩ other
      obtain ⟨rfl, -⟩ : p = [0] ∧ name = tag := by
        split at first
        next named => exact ⟨(Prod.mk.inj (List.mem_singleton.mp first)).1, named⟩
        next => contradiction
      rcases List.mem_append.mp other with below | behind
      · obtain ⟨q', rfl, inside⟩ := mem_map_within.mp below
        cases q' with
        | nil => exact absurd (mem_places.mp inside).1 not_at_nil
        | cons n q' => exact .cons .nil
      · obtain ⟨n, q', rfl, -⟩ := (mem_map_further solid).mp behind
        exact .rel (Nat.succ_pos n)

theorem lists_places (tag : String) (f : Forest) : f.Lists tag (f.places tag) :=
  ⟨pairwise_places tag f, fun _ _ => mem_places⟩

theorem weight_lt_of_mem_descendants {e : Element} (member : e ∈ f.descendants tag) :
    Search.weight e.children < Search.weight f := by
  induction f with
  | nil => contradiction
  | text content rest ih =>
    have less := ih member
    simp only [Search.weight]
    omega
  | element name children rest inner outer =>
    simp only [descendants] at member
    have inside : e = ⟨name, children⟩ ∨ e ∈ children.descendants tag ∨ e ∈ rest.descendants tag := by
      split at member <;> simp_all
    simp only [Search.weight]
    rcases inside with rfl | below | behind
    · exact Nat.lt_succ_of_le (Nat.le_add_right _ _)
    · have less := inner below
      omega
    · have less := outer behind
      omega

end Forest

namespace Search

/-- The search after that many steps. -/
def after : Nat → Search → Search
  | 0, s => s
  | k + 1, s => after k s.advance.2

/-- That many turns of the loop, none of which gives an answer. A turn passes a node or leaves a level
    that has no more. -/
inductive Turns (tag : String) : Nat → List Forest → List Forest → Prop where
  | none (pending : List Forest) : Turns tag 0 pending pending
  | level {n : Nat} {outer stop : List Forest} (later : Turns tag n outer stop) :
      Turns tag (n + 1) (.nil :: outer) stop
  | text {n : Nat} {content : String} {rest : Forest} {outer stop : List Forest}
      (later : Turns tag n (rest :: outer) stop) :
      Turns tag (n + 1) (.text content rest :: outer) stop
  | element {n : Nat} {name : String} {children rest : Forest} {outer stop : List Forest}
      (other : name ≠ tag) (later : Turns tag n (children :: rest :: outer) stop) :
      Turns tag (n + 1) (.element name children rest :: outer) stop

/-- A turn that answers, and what it leaves. -/
inductive Answers (tag : String) : List Forest → Option Element → List Forest → Prop where
  | found (children rest : Forest) (outer : List Forest) :
      Answers tag (.element tag children rest :: outer) (some ⟨tag, children⟩)
        (children :: rest :: outer)
  | exhausted : Answers tag [] none []

/-- Every turn takes one off the weight of the stack, whether the stack grows or not. -/
theorem weight_of_turns {tag : String} {n : Nat} {pending stop : List Forest}
    (turns : Turns tag n pending stop) : n + totalWeight stop = totalWeight pending := by
  induction turns with
  | none => exact Nat.zero_add _
  | level _ ih | text _ ih | element _ _ ih =>
    simp only [totalWeight, weight] at ih ⊢
    omega

theorem exists_turns (tag : String) (pending : List Forest) :
    ∃ n stop, Turns tag n pending stop ∧
      Answers tag stop ((next? tag pending).map Prod.fst)
        (((next? tag pending).map Prod.snd).getD []) := by
  fun_induction next? tag pending with
  | case1 => exact ⟨0, [], .none [], .exhausted⟩
  | case2 outer ih =>
    obtain ⟨n, stop, turns, answer⟩ := ih
    exact ⟨n + 1, stop, .level turns, answer⟩
  | case3 outer content tail ih =>
    obtain ⟨n, stop, turns, answer⟩ := ih
    exact ⟨n + 1, stop, .text turns, answer⟩
  | case4 => exact ⟨0, _, .none _, .found _ _ _⟩
  | case5 outer name children tail other ih =>
    obtain ⟨n, stop, turns, answer⟩ := ih
    exact ⟨n + 1, stop, .element other turns, answer⟩

/-- A step answers with the first of what the stack stands for and leaves the others. -/
theorem advance_eq (s : Search) :
    s.advance.1 = (found s.tag s.pending).head? ∧
      found s.advance.2.tag s.advance.2.pending = (found s.tag s.pending).tail ∧
      s.advance.2.tag = s.tag := by
  unfold advance
  rcases next?_spec s.tag s.pending with ⟨none, empty⟩ | ⟨e, rest, some, cons⟩
  · rw [none, empty]
    exact ⟨rfl, rfl, rfl⟩
  · rw [some, cons]
    exact ⟨rfl, rfl, rfl⟩

theorem found_after (s : Search) (k : Nat) :
    found (after k s).tag (after k s).pending = (found s.tag s.pending).drop k := by
  induction k generalizing s with
  | zero => rfl
  | succ k ih =>
    obtain ⟨-, left, -⟩ := s.advance_eq
    rw [after, ih, left, List.drop_tail]

/-- Steps answer with what the stack stands for, in its order, and then with nothing. -/
theorem take_eq (s : Search) (n : Nat) :
    take n s = ((found s.tag s.pending).take n).map some
      ++ List.replicate (n - (found s.tag s.pending).length) none := by
  induction n generalizing s with
  | zero => simp [take]
  | succ n ih =>
    obtain ⟨answer, left, -⟩ := s.advance_eq
    have step : take (n + 1) s = s.advance.1 :: take n s.advance.2 := rfl
    rw [step, ih, answer, left]
    cases found s.tag s.pending with
    | nil => simp [List.replicate_succ]
    | cons e l => simp

theorem take_of_exhausted {s : Search} (exhausted : s.advance.1 = none) (n : Nat) :
    take n s = List.replicate n none := by
  rw [s.advance_eq.1, List.head?_eq_none_iff] at exhausted
  rw [take_eq, exhausted]
  simp

theorem exists_turns_advance (s : Search) :
    ∃ n stop, Turns s.tag n s.pending stop ∧ Answers s.tag stop s.advance.1 s.advance.2.pending := by
  have stepped : s.advance = ((next? s.tag s.pending).map Prod.fst,
      ⟨s.tag, ((next? s.tag s.pending).map Prod.snd).getD []⟩) := by
    unfold advance
    cases next? s.tag s.pending <;> rfl
  rw [stepped]
  exact exists_turns s.tag s.pending

/-- A search through an element answers with the elements of the name inside it, each place once and in
    document order, and never with the element itself; after any number of steps the others are left,
    and after the last one nothing is ever found. Every step ends: no stack allows more turns than it
    weighs. -/
theorem steps_in_document_order (e : Element) (tag : String) :
    (∃ found, e.children.Lists tag found ∧ found.map Prod.snd = e.children.descendants tag) ∧
    e ∉ e.children.descendants tag ∧
    (∀ k n, take n (after k (ofElement e tag))
      = (((e.children.descendants tag).drop k).take n).map some
        ++ List.replicate (n - ((e.children.descendants tag).drop k).length) none) ∧
    (∀ s : Search, s.advance.1 = none → ∀ n, take n s = List.replicate n none) ∧
    ∀ s : Search,
      (∃ n stop, Turns s.tag n s.pending stop ∧
        Answers s.tag stop s.advance.1 s.advance.2.pending) ∧
      ∀ n stop, Turns s.tag n s.pending stop → n ≤ totalWeight s.pending := by
  refine ⟨⟨_, Forest.lists_places tag e.children, Forest.map_snd_places tag e.children⟩, ?_, ?_, ?_, ?_⟩
  · intro member
    exact Nat.lt_irrefl _ (Forest.weight_lt_of_mem_descendants member)
  · intro k n
    have initial : found tag [e.children] = e.children.descendants tag := by simp [found]
    rw [take_eq, found_after]
    simp only [ofElement, initial]
  · exact fun s exhausted => take_of_exhausted exhausted
  · intro s
    refine ⟨s.exists_turns_advance, fun n stop turns => ?_⟩
    have weighs := weight_of_turns turns
    omega

def nestedSample : Element :=
  ⟨"a", .element "b" (.text "x" (.element "a" .nil .nil)) (.text "y" (.element "b" .nil .nil))⟩

/-- One of the names searched for is that of the element itself, which is not found. -/
theorem steps_in_document_order_nested :
    take 3 (ofElement nestedSample "b")
      = [some ⟨"b", .text "x" (.element "a" .nil .nil)⟩, some ⟨"b", .nil⟩, none] ∧
    (after 1 (ofElement nestedSample "a")).advance.1 = none ∧
    take 4 (after 1 (ofElement nestedSample "a")) = List.replicate 4 none ∧
    ∃ n stop, Turns "a" n [nestedSample.children] stop ∧ n ≤ 9 := by
  obtain ⟨-, -, answers, -, -⟩ := steps_in_document_order nestedSample "b"
  obtain ⟨-, -, answers', exhausted, ends⟩ := steps_in_document_order nestedSample "a"
  have second : [(after 1 (ofElement nestedSample "a")).advance.1] = [none] :=
    (answers' 1 1).trans (by decide)
  have none := (List.cons.inj second).1
  obtain ⟨⟨n, stop, turns, -⟩, bound⟩ := ends (ofElement nestedSample "a")
  exact ⟨(answers 0 3).trans (by decide), none, exhausted _ none 4, n, stop, turns, bound n stop turns⟩

end Search

end PomToGradle
