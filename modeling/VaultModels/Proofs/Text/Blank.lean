import Mathlib.Data.List.DropRight
import VaultModels.Proofs.Text.CaseFold
import VaultModels.Text.Blank

/-!
# Trimmed text

Trimming leaves text that has no blank at either end, and leaves such text alone. So trimming twice
is trimming once, and blanks that are put around a text make no difference to what is left. Which
characters are blank does not matter here, except that no letter is.
-/
namespace VaultModels.Text

/-- No blank stands first or last. -/
structure IsTrimmed (cs : List Char) : Prop where
  front : ∀ c ∈ cs.head?, isBlank c = false
  back : ∀ c ∈ cs.getLast?, isBlank c = false

theorem trimChars_eq (cs : List Char) :
    trimChars cs = (cs.dropWhile isBlank).rdropWhile isBlank := rfl

theorem isTrimmed_trimChars (cs : List Char) : IsTrimmed (trimChars cs) := by
  rw [trimChars_eq]
  constructor
  · -- what is cut off behind leaves the front as it is
    intro c first
    obtain ⟨tail, whole⟩ := List.rdropWhile_prefix isBlank (l := cs.dropWhile isBlank)
    have start : (cs.dropWhile isBlank).head? = some c := by
      rw [← whole, List.head?_append, first]
      rfl
    have stops := List.head?_dropWhile_not isBlank cs
    rw [start] at stops
    exact stops
  · intro c last
    have named : (cs.dropWhile isBlank).rdropWhile isBlank ≠ [] := by
      intro empty
      simp [empty] at last
    have stops := List.rdropWhile_last_not isBlank _ named
    rw [(List.getLast_eq_iff_getLast?_eq_some named).mpr last] at stops
    simpa using stops

/-- Nothing is dropped in front of a character that stays. -/
theorem dropWhile_of_head {drop : Char → Bool} {cs : List Char}
    (stays : ∀ c ∈ cs.head?, drop c = false) : cs.dropWhile drop = cs := by
  cases cs with
  | nil => rfl
  | cons c rest =>
    rw [List.dropWhile_cons_of_neg]
    simp [stays c rfl]

/-- Only the tail is dropped behind characters that stay. -/
theorem dropTail_append {drop : Char → Bool} {cs tail : List Char}
    (stays : ∀ c ∈ cs, drop c = false) (dropped : ∀ c ∈ tail, drop c = true) :
    dropTail drop (cs ++ tail) = cs := by
  have behind : ∀ c ∈ tail.reverse, drop c = true := by simpa using dropped
  have kept : cs.reverse.dropWhile drop = cs.reverse :=
    dropWhile_of_head fun c last => stays c (List.mem_reverse.mp (List.mem_of_mem_head? last))
  rw [dropTail, List.reverse_append, List.dropWhile_append_of_pos behind, kept, List.reverse_reverse]

theorem trimChars_of_isTrimmed {cs : List Char} (trimmed : IsTrimmed cs) : trimChars cs = cs := by
  have back : cs.rdropWhile isBlank = cs := by
    rw [List.rdropWhile_eq_self_iff]
    intro named
    simp [trimmed.back _ (List.getLast_mem_getLast? named)]
  rw [trimChars_eq, dropWhile_of_head trimmed.front, back]

/-- Text without any blank has none at its ends. -/
theorem isTrimmed_of_all {cs : List Char} (visible : ∀ c ∈ cs, isBlank c = false) :
    IsTrimmed cs where
  front c first := visible c (List.mem_of_mem_head? first)
  back c last := visible c (List.mem_of_mem_getLast? last)

theorem trimChars_idem (cs : List Char) : trimChars (trimChars cs) = trimChars cs :=
  trimChars_of_isTrimmed (isTrimmed_trimChars cs)

theorem trim_idem (text : String) : trim (trim text) = trim text := by
  rw [trim, trim, String.toList_ofList, trimChars_idem]

theorem dropTail_subset (drop : Char → Bool) (cs : List Char) : dropTail drop cs ⊆ cs := by
  intro c member
  have kept := (List.dropWhile_sublist drop).subset (List.mem_reverse.mp member)
  exact List.mem_reverse.mp kept

theorem trimChars_subset (cs : List Char) : trimChars cs ⊆ cs := fun _ member =>
  (List.dropWhile_sublist isBlank).subset (dropTail_subset isBlank _ member)

theorem mem_dropWhile_blank {c : Char} {cs : List Char} (member : c ∈ cs)
    (visible : isBlank c = false) : c ∈ cs.dropWhile isBlank := by
  rw [← List.takeWhile_append_dropWhile (p := isBlank) (l := cs)] at member
  refine (List.mem_append.mp member).resolve_left fun dropped => ?_
  have blank := List.mem_takeWhile_imp dropped
  rw [visible] at blank
  cases blank

/-- Only blanks are cut off. -/
theorem mem_trimChars {c : Char} {cs : List Char} (member : c ∈ cs) (visible : isBlank c = false) :
    c ∈ trimChars cs := by
  have behind := mem_dropWhile_blank member visible
  exact List.mem_reverse.mpr (mem_dropWhile_blank (List.mem_reverse.mpr behind) visible)

theorem length_trimChars_le (cs : List Char) : (trimChars cs).length ≤ cs.length := by
  rw [trimChars_eq]
  exact ((List.rdropWhile_prefix isBlank _).sublist.trans
    (List.dropWhile_sublist isBlank)).length_le

theorem rdropWhile_append_blank (cs : List Char) {after : List Char} (back : after.all isBlank) :
    (cs ++ after).rdropWhile isBlank = cs.rdropWhile isBlank := by
  rw [List.rdropWhile, List.reverse_append, List.dropWhile_append_of_pos]
  · rfl
  · intro c member
    exact List.all_eq_true.mp back c (List.mem_reverse.mp member)

/-- Blanks that are put around a text are what trimming takes away. -/
theorem trimChars_padded {before after : List Char} (front : before.all isBlank)
    (back : after.all isBlank) (cs : List Char) :
    trimChars (before ++ cs ++ after) = trimChars cs := by
  rw [trimChars_eq, trimChars_eq, List.append_assoc,
    List.dropWhile_append_of_pos (List.all_eq_true.mp front), List.dropWhile_append]
  split
  next blank =>
    -- nothing but blanks, so all of it goes in front
    rw [List.isEmpty_iff.mp blank, List.dropWhile_eq_nil_iff.mpr (List.all_eq_true.mp back)]
  next => exact rdropWhile_append_blank _ back

/-! ## Case -/

theorem isBlank_lowerAscii (c : Char) : isBlank (lowerAscii c) = isBlank c := by
  by_cases large : 'A' ≤ c ∧ c ≤ 'Z'
  · obtain ⟨n, bound, rfl⟩ := exists_of_large large
    have alike : ∀ n < 26, isBlank (Char.ofNat (97 + n)) = isBlank (Char.ofNat (65 + n)) := by
      decide
    rw [lowerAscii_large n bound, alike n bound]
  · rw [lowerAscii, if_neg large]

theorem isTrimmed_foldCase {cs : List Char} : IsTrimmed (foldCase cs) ↔ IsTrimmed cs := by
  unfold foldCase
  constructor
  · rintro ⟨front, back⟩
    constructor
    · intro c first
      rw [← isBlank_lowerAscii]
      exact front _ (by simp [List.head?_map, Option.mem_def.mp first])
    · intro c last
      rw [← isBlank_lowerAscii]
      exact back _ (by simp [List.getLast?_map, Option.mem_def.mp last])
  · rintro ⟨front, back⟩
    constructor
    · intro c first
      rw [List.head?_map] at first
      obtain ⟨given, start, rfl⟩ := Option.map_eq_some_iff.mp first
      rw [isBlank_lowerAscii]
      exact front given start
    · intro c last
      rw [List.getLast?_map] at last
      obtain ⟨given, stop, rfl⟩ := Option.map_eq_some_iff.mp last
      rw [isBlank_lowerAscii]
      exact back given stop

/-- What is the same up to case as a trimmed text has no blank around it either. -/
theorem trim_of_sameIgnoringCase {text request : String}
    (same : sameIgnoringCase (trim text) request) : trim request = request := by
  rw [sameIgnoringCase_iff, trim, String.toList_ofList] at same
  have trimmed : IsTrimmed request.toList := by
    rw [← isTrimmed_foldCase, ← same, isTrimmed_foldCase]
    exact isTrimmed_trimChars text.toList
  rw [trim, trimChars_of_isTrimmed trimmed, String.ofList_toList]

end VaultModels.Text
