import VaultModels.Proofs.Path.Segments

/-!
# Steps of a path

The segments of a path that lead somewhere. Joining puts steps behind steps, and a parent is without
the last one; the spelling in between has no part in it. Whether a path starts at the root is not among
its steps.
-/
namespace VaultModels.Path

/-- Names and `..`, in order. -/
def steps (path : Path) : List String :=
  ((segments path.text.toList).filter fun segment => !isFiller segment).map String.ofList

theorem segments_join_separator (front back : List Char) :
    segments (front ++ separator :: back) = segments front ++ segments back := by
  induction front with
  | nil => simp [segments]
  | cons c cs ih =>
    obtain ⟨first, rest, cut⟩ := List.exists_cons_of_ne_nil (segments_ne_nil cs)
    rw [cut] at ih
    by_cases ends : c = separator
    · simp only [List.cons_append, segments, ends, if_true, ih, cut]
    · simp only [List.cons_append, segments, ends, if_false, ih, cut]

/-- No segment holds a separator. -/
theorem separator_not_mem {cs segment : List Char} (cut : segment ∈ segments cs) :
    separator ∉ segment := by
  induction cs generalizing segment with
  | nil =>
    rw [List.mem_singleton.mp cut]
    exact List.not_mem_nil
  | cons c cs ih =>
    obtain ⟨first, rest, parts⟩ := List.exists_cons_of_ne_nil (segments_ne_nil cs)
    rw [parts] at ih
    by_cases ends : c = separator
    · rw [segments, if_pos ends, parts] at cut
      rcases List.mem_cons.mp cut with rfl | later
      · exact List.not_mem_nil
      · exact ih later
    · rw [segments, if_neg ends, parts] at cut
      rcases List.mem_cons.mp cut with rfl | later
      · rw [List.mem_cons, not_or]
        exact ⟨Ne.symm ends, ih List.mem_cons_self⟩
      · exact ih (List.mem_cons_of_mem _ later)

/-! ## Joining -/

section

variable (left : Path) {right : Path} (relative : right.isAbsolute = false)

include relative

theorem isAbsolute_join : (left.join right).isAbsolute = left.isAbsolute := by
  rw [join, if_neg (by simp [relative])]
  unfold isAbsolute at relative ⊢
  dsimp only
  cases opens : left.text.toList with
  | nil => simp [opens, relative]
  | cons c cs => split <;> simp [opens]

/-- The segments of the right side stand at the end. -/
theorem segments_join : ∃ front,
    segments (left.join right).text.toList = front ++ segments right.text.toList ∧
      front.filter (!isFiller ·) = (segments left.text.toList).filter (!isFiller ·) := by
  rw [join, if_neg (by simp [relative])]
  dsimp only
  rcases List.eq_nil_or_concat left.text.toList with empty | ⟨body, last, whole⟩
  · refine ⟨[], ?_, ?_⟩
    · rw [if_pos (.inl empty), String.toList_append, empty]
      rfl
    · rw [empty]
      rfl
  · rw [List.concat_eq_append] at whole
    by_cases ends : last = separator
    · refine ⟨segments body, ?_, ?_⟩
      · rw [if_pos (.inr (by simp [whole, ends])), String.toList_append, whole, ends,
          List.append_assoc, List.singleton_append, segments_join_separator]
      · rw [whole, ends, segments_join_separator, List.filter_append]
        exact (List.append_nil _).symm
    · refine ⟨segments left.text.toList, ?_, rfl⟩
      rw [if_neg (by simp [whole, ends]), String.toList_append, String.toList_append,
        ← segments_join_separator]
      simp [separator]

theorem steps_join : (left.join right).steps = left.steps ++ right.steps := by
  obtain ⟨front, cut, same⟩ := left.segments_join relative
  rw [steps, cut, List.filter_append, same, List.map_append]
  rfl

end

/-! ## Parents -/

/-- Dropping at the end what is not looked for loses nothing. -/
theorem filter_dropEnd {α : Type} {unwanted wanted : α → Bool}
    (apart : ∀ x, unwanted x → wanted x = false) (parts : List α) :
    (parts.reverse.dropWhile unwanted).reverse.filter wanted = parts.filter wanted := by
  have kept : ∀ back : List α, (back.dropWhile unwanted).filter wanted = back.filter wanted := by
    intro back
    induction back with
    | nil => rfl
    | cons part rest ih =>
      cases dropped : unwanted part with
      | true =>
        rw [List.dropWhile_cons_of_pos dropped, ih,
          List.filter_cons_of_neg (by simp [apart part dropped])]
      | false => rw [List.dropWhile_cons_of_neg (by simp [dropped])]
  rw [List.filter_reverse, kept, List.filter_reverse, List.reverse_reverse]

theorem filter_dropFillers (parts : List (List Char)) :
    (dropFillers parts).filter (!isFiller ·) = parts.filter (!isFiller ·) :=
  filter_dropEnd (fun _ filler => by simp [filler]) parts

theorem dropFillers_isPrefix (parts : List (List Char)) : dropFillers parts <+: parts := by
  rw [← List.reverse_suffix, dropFillers, List.reverse_reverse]
  exact List.dropWhile_suffix _

section

variable {parts kept : List (List Char)} (given : dropLastName parts = some kept)

include given

theorem dropLastName_eq : ∃ front last, dropFillers parts = front ++ [last] ∧
    isFiller last = false ∧ kept = dropFillers front := by
  unfold dropLastName at given
  split at given
  · cases given
  next some_left =>
    obtain ⟨front, last, whole⟩ :=
      (List.eq_nil_or_concat (dropFillers parts)).resolve_left some_left
    rw [List.concat_eq_append] at whole
    refine ⟨front, last, whole, ?_, ?_⟩
    · have first := List.head?_dropWhile_not isFiller parts.reverse
      rw [← List.reverse_reverse (List.dropWhile _ _), ← dropFillers, whole] at first
      simpa using first
    · rw [whole, List.dropLast_concat] at given
      exact (Option.some.inj given).symm

/-- What stands before the last name has all steps but that one. -/
theorem filter_dropLastName :
    kept.filter (!isFiller ·) = (parts.filter (!isFiller ·)).dropLast := by
  obtain ⟨front, last, whole, named, rfl⟩ := dropLastName_eq given
  rw [filter_dropFillers, ← filter_dropFillers parts, whole, List.filter_append,
    List.filter_cons_of_pos (by simp [named]), List.filter_nil, List.dropLast_concat]

theorem dropLastName_isPrefix : kept <+: parts := by
  obtain ⟨front, last, whole, -, rfl⟩ := dropLastName_eq given
  refine (dropFillers_isPrefix front).trans ?_
  exact (whole ▸ List.prefix_append front [last]).trans (dropFillers_isPrefix parts)

end

theorem dropLastName_eq_none {parts : List (List Char)} (missing : dropLastName parts = none) :
    parts.filter (!isFiller ·) = [] := by
  unfold dropLastName at missing
  split at missing
  next nothing => rw [← filter_dropFillers, nothing, List.filter_nil]
  · cases missing

/-- Pieces without separators come back. -/
theorem segments_withSeparators {parts : List (List Char)}
    (plain : ∀ part ∈ parts, separator ∉ part) : segments (withSeparators parts) = [] :: parts := by
  induction parts with
  | nil => rfl
  | cons part rest ih =>
    rw [List.forall_mem_cons] at plain
    have later := segments_append plain.1 (ih plain.2)
    rw [List.append_nil] at later
    have spelled : withSeparators (part :: rest) = separator :: (part ++ withSeparators rest) := rfl
    rw [spelled, segments, if_pos rfl, later]

theorem isAbsolute_iff (path : Path) :
    path.isAbsolute ↔ ∃ second rest, segments path.text.toList = [] :: second :: rest := by
  unfold isAbsolute
  cases path.text.toList with
  | nil => simp [segments]
  | cons c cs =>
    obtain ⟨first, rest, cut⟩ := List.exists_cons_of_ne_nil (segments_ne_nil cs)
    by_cases ends : c = separator <;> simp [segments, ends, cut]

/-- What is read off the segments of a path's text. -/
theorem read_segments (path : Path) {text first : List Char} {rest : List (List Char)}
    (spelled : path.text.toList = text) (cut : segments text = first :: rest) :
    path.steps = ((first :: rest).filter (!isFiller ·)).map String.ofList ∧
      path.isAbsolute = (first.isEmpty && !rest.isEmpty) := by
  subst spelled
  refine ⟨by rw [steps, cut], ?_⟩
  rw [Bool.eq_iff_iff, isAbsolute_iff, cut]
  cases rest <;> simp

/-! How the parent is spelled depends on how its path is in front: from the root, from a dot, or from
anything else. -/

section

variable {parts : List (List Char)} (plain : ∀ part ∈ parts, separator ∉ part)

include plain

theorem read_rooted :
    let above : Path :=
      ⟨String.ofList (if parts = [] then [separator] else withSeparators parts)⟩
    above.steps = (parts.filter (!isFiller ·)).map String.ofList ∧ above.isAbsolute := by
  intro above
  have cut : segments (if parts = [] then [separator] else withSeparators parts) =
      [] :: if parts = [] then [[]] else parts := by
    split
    · rfl
    · exact segments_withSeparators plain
  obtain ⟨steps, start⟩ := read_segments above String.toList_ofList cut
  rw [steps, start, List.filter_cons_of_neg (by decide)]
  split
  next nothing =>
    rw [nothing]
    exact ⟨rfl, rfl⟩
  next something =>
    refine ⟨rfl, ?_⟩
    rw [List.isEmpty_eq_false_iff.mpr something]
    rfl

theorem read_dotted :
    let above : Path := ⟨String.ofList ('.' :: withSeparators parts)⟩
    above.steps = (parts.filter (!isFiller ·)).map String.ofList ∧ above.isAbsolute = false := by
  intro above
  have cut : segments ('.' :: withSeparators parts) = ['.'] :: parts :=
    segments_append (by decide : separator ∉ ['.']) (segments_withSeparators plain)
  obtain ⟨steps, start⟩ := read_segments above String.toList_ofList cut
  rw [steps, start, List.filter_cons_of_neg (by decide)]
  exact ⟨rfl, rfl⟩

theorem read_plain (named : ∀ first ∈ parts.head?, first ≠ []) :
    let above : Path := ⟨String.ofList ((withSeparators parts).drop 1)⟩
    above.steps = (parts.filter (!isFiller ·)).map String.ofList ∧ above.isAbsolute = false := by
  intro above
  cases parts with
  | nil => exact ⟨rfl, rfl⟩
  | cons part rest =>
    rw [List.forall_mem_cons] at plain
    have cut : segments ((withSeparators (part :: rest)).drop 1) = part :: rest := by
      have whole := segments_append plain.1 (segments_withSeparators plain.2)
      rwa [List.append_nil] at whole
    obtain ⟨steps, start⟩ := read_segments above String.toList_ofList cut
    rw [steps, start, List.isEmpty_eq_false_iff.mpr (named part rfl)]
    exact ⟨rfl, rfl⟩

end

/-- A parent has the steps of its path but the last, and starts where the path does. -/
theorem steps_parent {path parent : Path} (above : path.parent? = some parent) :
    parent.steps = path.steps.dropLast ∧ parent.isAbsolute = path.isAbsolute := by
  have plain : ∀ parts kept, parts ⊆ segments path.text.toList → dropLastName parts = some kept →
      ∀ part ∈ kept, separator ∉ part := fun parts kept inside given part member =>
    separator_not_mem (inside ((dropLastName_isPrefix given).subset member))
  unfold parent? at above
  split at above
  next rest cut =>
    obtain ⟨kept, given, rfl⟩ := Option.map_eq_some_iff.mp above
    obtain ⟨upper, start⟩ :=
      read_rooted (plain rest kept (cut ▸ List.subset_cons_self _ _) given)
    obtain ⟨steps, rooted⟩ := read_segments path rfl cut
    have some_rest : rest.isEmpty = false := by
      rw [List.isEmpty_eq_false_iff]
      rintro rfl
      cases given
    rw [upper, start, steps, rooted, some_rest, List.filter_cons_of_neg (by decide),
      ← List.map_dropLast, filter_dropLastName given]
    exact ⟨rfl, rfl⟩
  next rest cut =>
    obtain ⟨steps, rooted⟩ := read_segments path rfl cut
    rw [steps, rooted, List.filter_cons_of_neg (by decide), ← List.map_dropLast]
    cases given : dropLastName rest with
    | none =>
      rw [given] at above
      cases above
      rw [dropLastName_eq_none given]
      exact ⟨rfl, rfl⟩
    | some kept =>
      rw [given] at above
      cases above
      rw [← filter_dropLastName given]
      exact read_dotted (plain rest kept (cut ▸ List.subset_cons_self _ _) given)
  next notRooted _ =>
    obtain ⟨kept, given, rfl⟩ := Option.map_eq_some_iff.mp above
    obtain ⟨first, rest, cut⟩ := List.exists_cons_of_ne_nil (segments_ne_nil path.text.toList)
    have named : first ≠ [] := by
      rintro rfl
      exact notRooted rest cut
    obtain ⟨steps, rooted⟩ := read_segments path rfl cut
    rw [steps, rooted, List.isEmpty_eq_false_iff.mpr named, ← cut, ← List.map_dropLast,
      ← filter_dropLastName given]
    refine read_plain (plain _ kept (List.Subset.refl _) given) fun part opens => ?_
    obtain ⟨back, whole⟩ := dropLastName_isPrefix given
    have front := congrArg List.head? (whole.trans cut)
    rw [List.head?_append, Option.mem_def.mp opens, Option.some_or] at front
    rw [Option.some.inj front]
    exact named

/-! ## Paths of names -/

theorem filterMap_component? {parts : List (List Char)} {names : List String}
    (only : parts.filterMap component? = names.map .name) :
    (parts.filter (!isFiller ·)).map String.ofList = names ∧ ".." ∉ names := by
  induction parts generalizing names with
  | nil =>
    cases List.map_eq_nil_iff.mp only.symm
    exact ⟨rfl, List.not_mem_nil⟩
  | cons part rest ih =>
    cases filler : isFiller part with
    | true =>
      have nothing : component? part = none := by rw [component?, filler, if_pos rfl]
      rw [List.filterMap_cons_none nothing] at only
      rw [List.filter_cons_of_neg (by simp [filler])]
      exact ih only
    | false =>
      by_cases up : part = ['.', '.']
      · have lower : component? part = some .parent := by rw [up]; rfl
        rw [List.filterMap_cons_some lower] at only
        cases names <;> cases only
      · rw [List.filterMap_cons_some (component?_name filler up)] at only
        cases names with
        | nil => cases only
        | cons name names =>
          obtain ⟨first, later⟩ := List.cons.inj only
          obtain ⟨same, below⟩ := ih later
          rw [← Component.name.inj first, List.filter_cons_of_pos (by simp [filler]), List.map_cons,
            same, List.mem_cons, not_or]
          refine ⟨rfl, fun dots => up ?_, below⟩
          rw [← String.toList_ofList (l := part), ← dots]
          rfl

/-- The steps of a path that is made of names are the names. -/
theorem steps_of_components {path : Path} {names : List String}
    (only : path.components = names.map .name) :
    path.isAbsolute = false ∧ path.steps = names ∧ ".." ∉ names := by
  unfold components at only
  split at only
  next rest cut =>
    obtain ⟨steps, -⟩ := read_segments path rfl cut
    split at only
    · cases names <;> cases only
    next relative =>
      rw [steps, List.filter_cons_of_neg (by decide)]
      exact ⟨by simpa using relative, filterMap_component? only⟩
  · cases names <;> cases only
  next notRooted _ =>
    obtain ⟨first, rest, cut⟩ := List.exists_cons_of_ne_nil (segments_ne_nil path.text.toList)
    obtain ⟨-, rooted⟩ := read_segments path rfl cut
    have named : first.isEmpty = false := by
      rw [List.isEmpty_eq_false_iff]
      rintro rfl
      exact notRooted rest cut
    exact ⟨by rw [rooted, named]; rfl, filterMap_component? only⟩

end VaultModels.Path
