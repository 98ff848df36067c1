import VaultModels.Path

/-!
# Segments of composed text

Cutting at separators undoes putting pieces together with them. The pieces before the last one are
taken without separators of their own; what stands behind them is arbitrary text and may hold more.
-/
namespace VaultModels.Path

theorem segments_ne_nil (cs : List Char) : segments cs ≠ [] := by
  cases cs with
  | nil => simp [segments]
  | cons c rest =>
    simp only [segments]
    split
    · simp
    · split <;> simp

/-- Text before the first separator goes to the front of the first segment. -/
theorem segments_append {front : List Char} (plain : separator ∉ front) {back first : List Char}
    {rest : List (List Char)} (cut : segments back = first :: rest) :
    segments (front ++ back) = (front ++ first) :: rest := by
  induction front with
  | nil => exact cut
  | cons c cs ih =>
    simp only [List.mem_cons, not_or] at plain
    simp only [List.cons_append, segments, if_neg (Ne.symm plain.1), ih plain.2]

/-- Text without separators is one segment. -/
theorem segments_plain {cs : List Char} (plain : separator ∉ cs) : segments cs = [cs] := by
  have cut : segments [] = [] :: [] := rfl
  simpa using segments_append plain cut

theorem segments_append_separator {front : List Char} (plain : separator ∉ front)
    (back : List Char) : segments (front ++ separator :: back) = front :: segments back := by
  have cut : segments (separator :: back) = [] :: segments back := by simp [segments]
  simpa using segments_append plain cut

theorem component?_name {segment : List Char} (named : isFiller segment = false)
    (lower : segment ≠ ['.', '.']) : component? segment = some (.name (String.ofList segment)) := by
  simp [component?, named, lower]

/-- A path that starts with a name has the components of its segments. -/
theorem components_of_segments {path : Path} {first : List Char} {rest : List (List Char)}
    (cut : segments path.text.toList = first :: rest) (named : isFiller first = false) :
    path.components = (first :: rest).filterMap component? := by
  unfold components
  rw [cut]
  split
  next opens =>
    cases opens
    simp [isFiller] at named
  next opens =>
    cases opens
    simp [isFiller] at named
  · rfl

theorem join_relative {left right : Path} (relative : right.isAbsolute = false)
    (named : left.text.toList ≠ []) (open_end : left.text.toList.getLast? ≠ some separator) :
    (left.join right).text.toList = left.text.toList ++ separator :: right.text.toList := by
  have between : ¬ (left.text.toList = [] ∨ left.text.toList.getLast? = some separator) := by
    simp [named, open_end]
  unfold join
  rw [if_neg (by simp [relative])]
  dsimp only
  rw [if_neg between]
  simp [separator]

/-- What is put behind a folder can be read off again. -/
theorem join_inj {folder left right : Path} (relative : right.isAbsolute = false)
    (inside : folder.isAbsolute = false) (named : folder.text.toList ≠ [])
    (open_end : folder.text.toList.getLast? ≠ some separator)
    (equal : folder.join left = folder.join right) : left = right := by
  have spelled := join_relative relative named open_end
  cases absolute : left.isAbsolute with
  | true =>
    have own : folder.join left = left := by rw [join, if_pos absolute]
    rw [← equal, own] at spelled
    obtain ⟨c, cs, opens⟩ := List.exists_cons_of_ne_nil named
    rw [isAbsolute, spelled, opens, List.cons_append, List.head?_cons] at absolute
    rw [isAbsolute, opens, List.head?_cons, absolute] at inside
    cases inside
  | false =>
    rw [← equal, join_relative absolute named open_end] at spelled
    have same := List.append_cancel_left spelled
    simp only [List.cons.injEq, true_and, String.toList_inj] at same
    exact congrArg Path.mk same

end VaultModels.Path
