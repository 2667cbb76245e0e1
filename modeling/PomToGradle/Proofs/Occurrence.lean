import PomToGradle.Tree.Search

/-!
Whether a forest holds an element of a name, wherever it stands, and which of two neighbours the first
such element comes from.
-/
namespace PomToGradle

/-- An element of that name stands in the forest, at any depth. -/
inductive Forest.Holds (tag : String) : Forest → Prop where
  | here (children rest : Forest) : Holds tag (.element tag children rest)
  | inside {children : Forest} (name : String) (rest : Forest) (h : Holds tag children) :
      Holds tag (.element name children rest)
  | behind {rest : Forest} (name : String) (children : Forest) (h : Holds tag rest) :
      Holds tag (.element name children rest)
  | behindText {rest : Forest} (content : String) (h : Holds tag rest) :
      Holds tag (.text content rest)

theorem Forest.holds_iff {tag : String} {f : Forest} : f.Holds tag ↔ f.descendants tag ≠ [] := by
  constructor
  · intro h
    induction h with
    | here children rest => simp [descendants]
    | inside name rest _ ih =>
      simp only [descendants]
      split <;> simp [ih]
    | behind name children _ ih =>
      simp only [descendants]
      split <;> simp [ih]
    | behindText content _ ih => exact ih
  · intro some
    induction f with
    | nil => simp [descendants] at some
    | text content rest ih => exact .behindText content (ih some)
    | element name children rest inner outer =>
      by_cases same : name = tag
      · subst same
        exact .here children rest
      · by_cases none : children.descendants tag = []
        · refine .behind name children (outer ?_)
          simpa [descendants, same, none] using some
        · exact .inside name rest (inner none)

theorem isSome_descendant? (e : Element) (tag : String) :
    (e.descendant? tag).isSome = true ↔ e.children.Holds tag := by
  rw [Element.descendant?_eq, Forest.holds_iff]
  simp

theorem Forest.descendants_eq_nil {tag : String} {f : Forest} (absent : ¬ f.Holds tag) :
    f.descendants tag = [] := by
  simpa [holds_iff] using absent

theorem Forest.head?_descendants_append {tag : String} {f : Forest} (h : f.Holds tag) (g : Forest) :
    ((f ++ g).descendants tag).head? = (f.descendants tag).head? := by
  obtain ⟨e, others, first⟩ := List.exists_cons_of_ne_nil (holds_iff.mp h)
  rw [descendants_append, first]
  rfl

theorem Forest.head?_descendants_behind {tag : String} {f : Forest} (absent : ¬ f.Holds tag)
    (g : Forest) : ((f ++ g).descendants tag).head? = (g.descendants tag).head? := by
  rw [descendants_append, descendants_eq_nil absent]
  rfl

instance (tag : String) (f : Forest) : Decidable (f.Holds tag) :=
  decidable_of_iff (f.descendants tag ≠ []) Forest.holds_iff.symm

end PomToGradle
