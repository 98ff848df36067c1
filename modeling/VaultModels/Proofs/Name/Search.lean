import VaultModels.Proofs.Name.Scope

/-!
# The search for a free name

A claim does not know how far it has to look. It tries the base, and then the base with one number after
the other until a name is free, and counts in 32 bits. Here the search is taken turn by turn, with no
bound given in advance. Whatever names are used, it ends after one turn more than there are names at the
latest, with the name that the scope picks; only where the base and all numbers of the counter are
taken, which is `2 ^ 31 - 1` names, it ends without one. What becomes of such a claim is left open.
-/
namespace VaultModels.Name

open Text

/-- How far the search of a claim has come. -/
inductive Search
  /-- The base itself is to be tried. -/
  | plain
  /-- The base with this number is to be tried. -/
  | numbered (n : Int32)
  | found (name : String)
  /-- The last number of the counter is taken. -/
  | exhausted
  deriving DecidableEq, Repr

namespace Search

/-- The base with what the counter shows. -/
def counted (base : String) (n : Int32) : String := base ++ "_" ++ int32Text n

/-- One turn. The search goes on until a name is free or the counter has no next number. -/
def turn (used : List String) (base : String) : Search → Search
  | plain => if base ∈ used then numbered 2 else found base
  | numbered n =>
    if counted base n ∈ used then
      if n = Int32.maxValue then exhausted else numbered (n + 1)
    else found (counted base n)
  | found name => found name
  | exhausted => exhausted

/-- The search for `base` after so many turns. -/
def after (used : List String) (base : String) (turns : Nat) : Search :=
  (turn used base)^[turns] plain

variable {used : List String} {base : String} {n t : Nat}

theorem after_succ (used : List String) (base : String) (t : Nat) :
    after used base (t + 1) = turn used base (after used base t) :=
  Function.iterate_succ_apply' _ _ _

theorem counted_ofNat (small : n < 2 ^ 31) :
    counted base (.ofNat n) = Scope.suffixed base n := by
  rw [counted, int32Text, Int32.toInt_ofNat_of_lt small]
  rfl

theorem ofNat_eq_maxValue (small : n < 2 ^ 31) :
    Int32.ofNat n = Int32.maxValue ↔ n + 1 = 2 ^ 31 := by
  rw [← Int32.toInt_inj, Int32.toInt_ofNat_of_lt small, Int32.toInt_maxValue]
  omega

/-! ## One turn -/

theorem turn_plain (taken : base ∈ used) : turn used base plain = numbered (.ofNat 2) := by
  rw [turn, if_pos taken]
  rfl

theorem turn_free (small : n < 2 ^ 31) (free : Scope.suffixed base n ∉ used) :
    turn used base (numbered (.ofNat n)) = found (Scope.suffixed base n) := by
  rw [turn, counted_ofNat small, if_neg free]

theorem turn_taken (small : n + 1 < 2 ^ 31) (taken : Scope.suffixed base n ∈ used) :
    turn used base (numbered (.ofNat n)) = numbered (.ofNat (n + 1)) := by
  have fits : n < 2 ^ 31 := by omega
  have more : Int32.ofNat n ≠ Int32.maxValue := by
    rw [ne_eq, ofNat_eq_maxValue fits]
    omega
  rw [turn, counted_ofNat fits, if_pos taken, if_neg more, Int32.ofNat_add]
  rfl

theorem turn_last (last : n + 1 = 2 ^ 31) (taken : Scope.suffixed base n ∈ used) :
    turn used base (numbered (.ofNat n)) = exhausted := by
  have fits : n < 2 ^ 31 := by omega
  rw [turn, counted_ofNat fits, if_pos taken, if_pos ((ofNat_eq_maxValue fits).mpr last)]

/-! ## All turns -/

/-- As long as names are taken, the search goes on with the next number. -/
theorem after_taken (taken : base ∈ used) (small : t + 2 < 2 ^ 31)
    (numbers : ∀ k, 2 ≤ k → k < t + 2 → Scope.suffixed base k ∈ used) :
    after used base (t + 1) = numbered (.ofNat (t + 2)) := by
  induction t with
  | zero => exact turn_plain taken
  | succ t ih =>
    have before := ih (by omega) fun k from_two less => numbers k from_two (by omega)
    rw [after_succ, before]
    exact turn_taken small (numbers (t + 2) (by omega) (by omega))

/-- Every search ends: there are only so many names. -/
theorem ends (used : List String) (base : String) :
    (∃ name, HandsOut used base name ∧
      ∃ turns ≤ used.toFinset.card + 1, after used base turns = found name) ∨
    (base ∈ used ∧ (∀ k, 2 ≤ k → k < 2 ^ 31 → Scope.suffixed base k ∈ used) ∧
      ∃ turns ≤ used.toFinset.card + 1, after used base turns = exhausted) := by
  generalize picked : Scope.pick ⟨used⟩ base = name
  have given : HandsOut used base name := picked ▸ Scope.pick_handsOut ⟨used⟩ base
  cases given with
  | plain free =>
    refine .inl ⟨base, .plain free, 1, by omega, ?_⟩
    exact if_neg free
  | numbered n taken from_two earlier free =>
    by_cases small : n < 2 ^ 31
    · obtain ⟨t, rfl⟩ := Nat.exists_eq_add_of_le' from_two
      refine .inl ⟨_, .numbered _ taken from_two earlier free, t + 2, ?_, ?_⟩
      · exact Scope.le_card_of_taken taken earlier
      · rw [after_succ, after_taken taken small earlier]
        exact turn_free small free
    · -- The number that is free is none that the counter can hold.
      have numbers : ∀ k, 2 ≤ k → k < 2 ^ 31 → Scope.suffixed base k ∈ used :=
        fun k low high => earlier k low (by omega)
      have names := Scope.le_card_of_taken taken numbers
      refine .inr ⟨taken, numbers, 2 ^ 31 - 1, by omega, ?_⟩
      have last : after used base (2 ^ 31 - 3 + 1) = numbered (.ofNat (2 ^ 31 - 3 + 2)) :=
        after_taken taken (by omega) fun k low high => numbers k low (by omega)
      rw [show 2 ^ 31 - 1 = 2 ^ 31 - 3 + 1 + 1 from rfl, after_succ, last]
      exact turn_last rfl (numbers _ (by omega) (by omega))

/-- With one name to come, fewer than `2 ^ 31` names leave the counter a number that is free. -/
theorem finds (base : String) (few : used.toFinset.card + 1 < 2 ^ 31) :
    ∃ name, HandsOut used base name ∧
      ∃ turns ≤ used.toFinset.card + 1, after used base turns = found name := by
  rcases ends used base with found | ⟨taken, numbers, -⟩
  · exact found
  · have names := Scope.le_card_of_taken taken numbers
    omega

/-- A turn for the base and one for each of its numbers. -/
example : after ["Draft", "Draft_2"] "Draft" 3 = found "Draft_3" := by decide

end Search

end VaultModels.Name
