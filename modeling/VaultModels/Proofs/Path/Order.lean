import VaultModels.Path

/-!
# The order of paths

`Path.same` is equality of components and `Path.before` the lexicographic order on them, so both see
a path only through its components. Held here: `same` is an equivalence, `before` is a strict order,
and `before` does not tell two spellings of one place apart.
-/
namespace VaultModels.Path

theorem same_iff (left right : Path) : left.same right ↔ left.components = right.components := by
  simp [same]

@[simp] theorem same_refl (path : Path) : path.same path := by simp [same]

theorem same_comm (left right : Path) : left.same right = right.same left := by
  rw [Bool.eq_iff_iff, same_iff, same_iff]
  exact eq_comm

theorem same_trans {left middle right : Path} (first : left.same middle)
    (second : middle.same right) : left.same right := by
  rw [same_iff] at *
  exact first.trans second

/-- Two names for one place are the same as, or different from, any third path alike. -/
theorem same_congr {left right : Path} (equal : left.same right) (other : Path) :
    left.same other = right.same other := by
  rw [same_iff] at equal
  simp [same, equal]

theorem Component.before_irrefl (c : Component) : c.before c = false := by
  cases c <;> simp [before, rank]

theorem Component.before_trans {left middle right : Component} (first : left.before middle)
    (second : middle.before right) : left.before right := by
  cases left <;> cases middle <;> cases right
  case name.name.name =>
    simp only [before, decide_eq_true_eq] at first second ⊢
    exact String.lt_trans first second
  all_goals simp_all [before, rank]

theorem componentsBefore_irrefl (components : List Component) :
    componentsBefore components components = false := by
  induction components with
  | nil => rfl
  | cons c rest ih => simpa [componentsBefore] using ih

/-- The first components that differ decide, so transitivity is settled at the first place where
one of the three lists leaves the others. -/
theorem componentsBefore_trans {left middle right : List Component}
    (first : componentsBefore left middle) (second : componentsBefore middle right) :
    componentsBefore left right := by
  induction right generalizing left middle with
  | nil => cases middle <;> simp [componentsBefore] at second
  | cons z zs ih =>
    cases left with
    | nil => rfl
    | cons x xs =>
      cases middle with
      | nil => simp [componentsBefore] at first
      | cons y ys =>
        simp only [componentsBefore] at first second ⊢
        by_cases hxy : x = y
        · subst hxy
          by_cases hxz : x = z
          · simp only [hxz, if_true] at first second ⊢
            exact ih first second
          · simpa only [hxz, if_false] using second
        · simp only [hxy, if_false] at first
          by_cases hyz : y = z
          · subst hyz
            simpa only [hxy, if_false] using first
          · simp only [hyz, if_false] at second
            have decided : x.before z := Component.before_trans first second
            have hxz : x ≠ z := by
              rintro rfl
              simp [Component.before_irrefl] at decided
            simpa only [hxz, if_false] using decided

theorem before_irrefl (path : Path) : path.before path = false :=
  componentsBefore_irrefl path.components

theorem before_trans {left middle right : Path} (first : left.before middle)
    (second : middle.before right) : left.before right :=
  componentsBefore_trans first second

theorem before_asymm {left right : Path} (less : left.before right) :
    right.before left = false := by
  cases greater : right.before left with
  | false => rfl
  | true => simpa [before_irrefl] using before_trans less greater

/-- The order does not see how a place is spelled. -/
theorem before_congr {left right : Path} (equal : left.same right) (other : Path) :
    other.before left = other.before right := by
  rw [same_iff] at equal
  simp [before, equal]

end VaultModels.Path
