import Mathlib.Data.List.Forall2

/-!
When a reading that can fail succeeds, and reading a list in order until something fails. The contract
names the first failure by the answers in front of it; what comes after it does not matter.
-/
namespace PomToGradle

variable {α β γ δ ε ε' : Type}

theorem map_eq_ok {x : Except ε α} {f : α → β} {b : β} :
    x.map f = .ok b ↔ ∃ a, x = .ok a ∧ f a = b := by
  cases x with
  | error e => simp [Except.map]
  | ok a => simp [Except.map]

theorem bind_eq_ok {x : Except ε α} {f : α → Except ε β} {b : β} :
    (x >>= f) = .ok b ↔ ∃ a, x = .ok a ∧ f a = .ok b := by
  cases x with
  | error e => simp [bind, Except.bind]
  | ok a => simp [bind, Except.bind]

theorem mapError_eq_error {x : Except ε α} {f : ε → ε'} {e : ε'} :
    x.mapError f = .error e ↔ ∃ error, x = .error error ∧ f error = e := by
  cases x <;> simp [Except.mapError]

theorem mapError_eq_ok {x : Except ε α} {f : ε → ε'} {a : α} : x.mapError f = .ok a ↔ x = .ok a := by
  cases x <;> simp [Except.mapError]

theorem map_eq_error {x : Except ε α} {f : α → β} {e : ε} : x.map f = .error e ↔ x = .error e := by
  cases x <;> simp [Except.map]

theorem bind_eq_error {x : Except ε α} {f : α → Except ε β} {e : ε} :
    (x >>= f) = .error e ↔ x = .error e ∨ ∃ a, x = .ok a ∧ f a = .error e := by
  cases x <;> simp [bind, Except.bind]

/-- How a reading fails, if it does. -/
def failure? : Except ε α → Option ε
  | .ok _ => none
  | .error e => some e

theorem failure?_eq_some_iff {x : Except ε α} {e : ε} : failure? x = some e ↔ x = .error e := by
  cases x <;> simp [failure?]

theorem failure?_bind {x : Except ε α} {y : Except ε β} {f : α → Except ε γ} {g : β → Except ε δ}
    (first : failure? x = failure? y) (rest : ∀ a b, failure? (f a) = failure? (g b)) :
    failure? (x >>= f) = failure? (y >>= g) := by
  cases x with
  | error e =>
    obtain rfl := failure?_eq_some_iff.mp first.symm
    rfl
  | ok a =>
    cases y with
    | error e => contradiction
    | ok b => exact rest a b

/-- If reading one thing fails as reading its parts does, so does reading many things. -/
theorem failure?_mapM_flatMap {f : α → Except ε β} {g : γ → Except ε δ} {parts : γ → List α}
    (same : ∀ c, failure? (g c) = failure? ((parts c).mapM f)) (l : List γ) :
    failure? (l.mapM g) = failure? ((l.flatMap parts).mapM f) := by
  induction l with
  | nil => rfl
  | cons c l ih =>
    rw [List.mapM_cons, List.flatMap_cons, List.mapM_append]
    exact failure?_bind (same c) fun _ _ => failure?_bind ih fun _ _ => rfl

theorem exists_of_forall₂ {R : α → β → Prop} {l : List α} {values : List β}
    (related : List.Forall₂ R l values) {a : α} (member : a ∈ l) : ∃ b, R a b := by
  induction related with
  | nil => contradiction
  | cons head _ ih =>
    rcases List.mem_cons.mp member with rfl | later
    · exact ⟨_, head⟩
    · exact ih later

inductive Collected (f : α → Except ε β) : List α → Except ε (List β) → Prop where
  | all {l : List α} {values : List β} (read : List.Forall₂ (fun a b => f a = .ok b) l values) :
      Collected f l (.ok values)
  | first {before after : List α} {a : α} {error : ε} (sound : ∀ b ∈ before, ∃ value, f b = .ok value)
      (failure : f a = .error error) : Collected f (before ++ a :: after) (.error error)

theorem collected_mapM (f : α → Except ε β) (l : List α) : Collected f l (l.mapM f) := by
  induction l with
  | nil => exact .all .nil
  | cons a l ih =>
    cases head : f a with
    | error error =>
      have none : ∀ b ∈ ([] : List α), ∃ value, f b = .ok value := by simp
      simp only [List.mapM_cons, head]
      exact .first none head
    | ok value =>
      generalize tail : l.mapM f = rest at ih
      simp only [List.mapM_cons, head, tail]
      cases ih with
      | all read => exact .all (.cons head read)
      | @first before after b error sound failure =>
        have longer : ∀ b ∈ a :: before, ∃ value, f b = .ok value := by
          intro c member
          rcases List.mem_cons.mp member with same | member
          · exact ⟨value, same ▸ head⟩
          · exact sound c member
        exact .first longer failure

theorem mapM_eq_ok {f : α → Except ε β} {l : List α} {values : List β}
    (read : List.Forall₂ (fun a b => f a = .ok b) l values) : l.mapM f = .ok values := by
  induction read with
  | nil => rfl
  | cons head _ ih =>
    rw [List.mapM_cons, head, ih]
    rfl

theorem mapM_eq_some_iff {f : α → Option β} {l : List α} {values : List β} :
    l.mapM f = some values ↔ List.Forall₂ (fun a b => f a = some b) l values := by
  constructor
  · intro read
    induction l generalizing values with
    | nil =>
      obtain rfl := Option.some.inj read
      exact .nil
    | cons a l ih =>
      rw [List.mapM_cons] at read
      obtain ⟨b, head, read⟩ := Option.bind_eq_some_iff.mp read
      obtain ⟨rest, tail, whole⟩ := Option.bind_eq_some_iff.mp read
      obtain rfl := Option.some.inj whole
      exact .cons head (ih tail)
  · intro related
    induction related with
    | nil => rfl
    | cons head _ ih =>
      rw [List.mapM_cons, head, ih]
      rfl

theorem mapM_eq_error {f : α → Except ε β} {before after : List α} {a : α} {error : ε}
    (sound : ∀ b ∈ before, ∃ value, f b = .ok value) (failure : f a = .error error) :
    (before ++ a :: after).mapM f = .error error := by
  induction before with
  | nil =>
    rw [List.nil_append, List.mapM_cons, failure]
    rfl
  | cons b before ih =>
    obtain ⟨value, head⟩ := sound b (by simp)
    have tail := ih fun c member => sound c (List.mem_cons_of_mem b member)
    rw [List.cons_append, List.mapM_cons, head, tail]
    rfl

theorem mapM_eq_iff {f : α → Except ε β} {l : List α} {r : Except ε (List β)} :
    l.mapM f = r ↔ Collected f l r := by
  constructor
  · intro same
    exact same ▸ collected_mapM f l
  · intro collected
    cases collected with
    | all read => exact mapM_eq_ok read
    | first sound failure => exact mapM_eq_error sound failure

theorem mapM_eq_ok_iff {f : α → Except ε β} {l : List α} {values : List β} :
    l.mapM f = .ok values ↔ List.Forall₂ (fun a b => f a = .ok b) l values := by
  constructor
  · intro read
    cases mapM_eq_iff.mp read with
    | all related => exact related
  · exact mapM_eq_ok

theorem mapM_congr_forall₂ {f : α → Except ε γ} {g : β → Except ε γ} {l : List α} {m : List β}
    (same : List.Forall₂ (fun a b => f a = g b) l m) : l.mapM f = m.mapM g := by
  induction same with
  | nil => rfl
  | cons head _ ih => rw [List.mapM_cons, List.mapM_cons, head, ih]

end PomToGradle
