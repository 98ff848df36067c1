import VaultModels.Text.CaseFold

/-!
# Folding ASCII case

Lower and upper case are two ways to choose one character of a pair, so either choice hides which of
the two was written, and text is the same up to case exactly if either choice makes it equal. What is
no letter has no pair. Pairs beyond ASCII are not folded and not looked at here.
-/
namespace VaultModels.Text

/-! ## Characters -/

/-- Large letters by their place in the alphabet. -/
theorem exists_of_large {c : Char} (large : 'A' ≤ c ∧ c ≤ 'Z') :
    ∃ n, n < 26 ∧ c = Char.ofNat (65 + n) := by
  have low : 65 ≤ c.toNat := large.1
  have high : c.toNat ≤ 90 := large.2
  refine ⟨c.toNat - 65, by omega, ?_⟩
  rw [Nat.add_sub_cancel' low, Char.ofNat_toNat]

/-- Small letters by their place in the alphabet. -/
theorem exists_of_small {c : Char} (small : 'a' ≤ c ∧ c ≤ 'z') :
    ∃ n, n < 26 ∧ c = Char.ofNat (97 + n) := by
  have low : 97 ≤ c.toNat := small.1
  have high : c.toNat ≤ 122 := small.2
  refine ⟨c.toNat - 97, by omega, ?_⟩
  rw [Nat.add_sub_cancel' low, Char.ofNat_toNat]

theorem lowerAscii_large : ∀ n < 26, lowerAscii (Char.ofNat (65 + n)) = Char.ofNat (97 + n) := by
  decide

theorem upperAscii_small : ∀ n < 26, upperAscii (Char.ofNat (97 + n)) = Char.ofNat (65 + n) := by
  decide

theorem lowerAscii_small : ∀ n < 26, lowerAscii (Char.ofNat (97 + n)) = Char.ofNat (97 + n) := by
  decide

theorem upperAscii_large : ∀ n < 26, upperAscii (Char.ofNat (65 + n)) = Char.ofNat (65 + n) := by
  decide

theorem lowerAscii_upperAscii (c : Char) : lowerAscii (upperAscii c) = lowerAscii c := by
  by_cases small : 'a' ≤ c ∧ c ≤ 'z'
  · obtain ⟨n, bound, rfl⟩ := exists_of_small small
    rw [upperAscii_small n bound, lowerAscii_large n bound, lowerAscii_small n bound]
  · rw [upperAscii, if_neg small]

theorem upperAscii_lowerAscii (c : Char) : upperAscii (lowerAscii c) = upperAscii c := by
  by_cases large : 'A' ≤ c ∧ c ≤ 'Z'
  · obtain ⟨n, bound, rfl⟩ := exists_of_large large
    rw [lowerAscii_large n bound, upperAscii_small n bound, upperAscii_large n bound]
  · rw [lowerAscii, if_neg large]

/-- A character that folds to something else than a small letter stands for itself. -/
theorem eq_of_lowerAscii {c d : Char} (folded : lowerAscii c = d) (plain : ¬ ('a' ≤ d ∧ d ≤ 'z')) :
    c = d := by
  by_cases large : 'A' ≤ c ∧ c ≤ 'Z'
  · obtain ⟨n, bound, rfl⟩ := exists_of_large large
    rw [lowerAscii_large n bound] at folded
    have small : ∀ n < 26, 'a' ≤ Char.ofNat (97 + n) ∧ Char.ofNat (97 + n) ≤ 'z' := by decide
    exact absurd (folded ▸ small n bound) plain
  · rwa [lowerAscii, if_neg large] at folded

/-! ## Texts -/

theorem foldCase_map_upper (cs : List Char) : foldCase (cs.map upperAscii) = foldCase cs := by
  rw [foldCase, List.map_map]
  exact List.map_congr_left fun c _ => lowerAscii_upperAscii c

theorem map_upper_foldCase (cs : List Char) : (foldCase cs).map upperAscii = cs.map upperAscii := by
  rw [foldCase, List.map_map]
  exact List.map_congr_left fun c _ => upperAscii_lowerAscii c

theorem foldCase_eq_iff (left right : List Char) :
    foldCase left = foldCase right ↔ left.map upperAscii = right.map upperAscii := by
  constructor
  · intro folded
    rw [← map_upper_foldCase left, folded, map_upper_foldCase]
  · intro raised
    rw [← foldCase_map_upper left, raised, foldCase_map_upper]

theorem sameIgnoringCase_iff (left right : String) :
    sameIgnoringCase left right ↔ foldCase left.toList = foldCase right.toList := by
  rw [sameIgnoringCase, beq_iff_eq]

@[simp] theorem sameIgnoringCase_refl (text : String) : sameIgnoringCase text text := by
  rw [sameIgnoringCase_iff]

theorem sameIgnoringCase_comm (left right : String) :
    sameIgnoringCase left right = sameIgnoringCase right left := by
  rw [Bool.eq_iff_iff, sameIgnoringCase_iff, sameIgnoringCase_iff]
  exact eq_comm

end VaultModels.Text
