import Mathlib.Data.List.Nodup
import Mathlib.Order.Interval.Finset.Nat
import VaultModels.Name.Scope
import VaultModels.Proofs.Name.Identifier
import VaultModels.Proofs.Text.Decimal

/-!
# Names handed out

What a claim gives, said without a search: the name that is asked for if it is free, and else the
numbered one with the least number from two on that is free. There is always a free number, so no
two claims on one scope get the same name. A numbered name is as good an identifier as the name
that it is made from.
-/
namespace VaultModels.Name

open Text

/-- The name that a claim of `base` gets where the names `used` are taken. -/
inductive HandsOut (used : List String) (base : String) : String → Prop
  | plain (free : base ∉ used) : HandsOut used base base
  | numbered (n : Nat) (taken : base ∈ used) (from_two : 2 ≤ n)
      (earlier : ∀ k, 2 ≤ k → k < n → Scope.suffixed base k ∈ used)
      (free : Scope.suffixed base n ∉ used) : HandsOut used base (Scope.suffixed base n)

variable {used : List String} {base name : String} {n m tries : Nat}

namespace Scope

theorem toList_suffixed (base : String) (n : Nat) :
    (suffixed base n).toList = base.toList ++ '_' :: natChars n := by
  simp [suffixed, natText]

theorem suffixed_inj (same : suffixed base n = suffixed base m) : n = m := by
  have spelled := congrArg String.toList same
  rw [toList_suffixed, toList_suffixed] at spelled
  exact natChars_inj (List.cons.inj (List.append_cancel_left spelled)).2

theorem suffixed_ne (base : String) (n : Nat) : suffixed base n ≠ base := by
  intro same
  simpa [toList_suffixed] using congrArg (·.toList.length) same

/-! ## The search for a number -/

theorem le_freeSuffix : n ≤ freeSuffix used base tries n := by
  induction tries generalizing n with
  | zero => exact Nat.le_refl n
  | succ tries ih =>
    unfold freeSuffix
    split
    · exact Nat.le_of_succ_le ih
    · exact Nat.le_refl n

theorem taken_of_lt_freeSuffix {k : Nat} (from_n : n ≤ k) (before : k < freeSuffix used base tries n) :
    suffixed base k ∈ used := by
  induction tries generalizing n with
  | zero => exact absurd before (Nat.not_lt.mpr from_n)
  | succ tries ih =>
    unfold freeSuffix at before
    split at before
    next taken =>
      rcases Nat.eq_or_lt_of_le from_n with rfl | later
      · simpa using taken
      · exact ih later before
    next => exact absurd before (Nat.not_lt.mpr from_n)

/-- The search ends early only at a number that is free. -/
theorem freeSuffix_free (found : freeSuffix used base tries n < n + tries) :
    suffixed base (freeSuffix used base tries n) ∉ used := by
  induction tries generalizing n with
  | zero => exact absurd found (Nat.not_lt.mpr le_freeSuffix)
  | succ tries ih =>
    unfold freeSuffix at found ⊢
    split at found
    next taken =>
      rw [if_pos taken]
      exact ih (by omega)
    next free =>
      rw [if_neg free]
      simpa using free

/-- A name that is taken with all its numbers below `n` stands for as many names. -/
theorem le_card_of_taken (taken : base ∈ used)
    (numbers : ∀ k, 2 ≤ k → k < n → suffixed base k ∈ used) : n ≤ used.toFinset.card + 1 := by
  let named := insert base ((Finset.Ico 2 n).image (suffixed base))
  have inside : named ⊆ used.toFinset := by
    refine Finset.insert_subset (List.mem_toFinset.mpr taken) fun name member => ?_
    obtain ⟨k, between, rfl⟩ := Finset.mem_image.mp member
    obtain ⟨low, high⟩ := Finset.mem_Ico.mp between
    exact List.mem_toFinset.mpr (numbers k low high)
  have size : named.card = n - 2 + 1 := by
    rw [Finset.card_insert_of_notMem (by simp [suffixed_ne]),
      Finset.card_image_of_injective _ fun _ _ => suffixed_inj, Nat.card_Ico]
  have bound := Finset.card_le_card inside
  omega

theorem freeSuffix_lt (taken : base ∈ used) :
    freeSuffix used base used.length 2 < 2 + used.length := by
  have bound : freeSuffix used base used.length 2 ≤ used.toFinset.card + 1 :=
    le_card_of_taken taken fun _ from_two before => taken_of_lt_freeSuffix from_two before
  have names := used.toFinset_card_le
  omega

/-! ## Claims -/

theorem pick_handsOut (scope : Scope) (base : String) :
    HandsOut scope.used base (scope.pick base) := by
  unfold pick
  split
  next taken =>
    have taken : base ∈ scope.used := by simpa using taken
    exact .numbered _ taken le_freeSuffix (fun _ from_two before => taken_of_lt_freeSuffix from_two before)
      (freeSuffix_free (freeSuffix_lt taken))
  next free => exact .plain (by simpa using free)

end Scope

namespace HandsOut

theorem free (given : HandsOut used base name) : name ∉ used := by
  cases given with
  | plain free => exact free
  | numbered _ _ _ _ free => exact free

/-- A claim gets one name. -/
theorem unique {other : String} (given : HandsOut used base name) (again : HandsOut used base other) :
    name = other := by
  cases given with
  | plain free =>
    cases again with
    | plain => rfl
    | numbered _ taken => exact absurd taken free
  | numbered n taken from_two earlier free =>
    cases again with
    | plain free => exact absurd taken free
    | numbered m _ other_from_two other_earlier other_free =>
      rcases Nat.lt_trichotomy n m with less | rfl | more
      · exact absurd (other_earlier n from_two less) free
      · rfl
      · exact absurd (earlier m other_from_two more) other_free

theorem pick_eq {scope : Scope} (given : HandsOut scope.used base name) : scope.pick base = name :=
  (scope.pick_handsOut base).unique given

end HandsOut

/-- No keyword holds an underscore. -/
theorem not_keyword_of_underscore {name : String} (underscored : '_' ∈ name.toList) :
    isKeyword name = false := by
  have plain : ∀ keyword ∈ keywords, '_' ∉ keyword.toList := by decide
  cases keyword : isKeyword name with
  | false => rfl
  | true => exact absurd underscored (plain name (by simpa [isKeyword] using keyword))

theorem isPart_of_isDigit {c : Char} (digit : isDigit c) : isPart c := by
  have ranged : isDecimalDigit c := by
    refine List.any_eq_true.mpr ⟨⟨0x30, 0x39⟩, List.mem_cons_self, ?_⟩
    simpa [isDigit, Range.holds, Char.le_def, UInt32.le_iff_toNat_le] using digit
  simp [isPart, ranged]

theorem isValid_suffixed (valid : isValid base) (n : Nat) : isValid (Scope.suffixed base n) := by
  have underscored : '_' ∈ (Scope.suffixed base n).toList := by simp [Scope.toList_suffixed]
  have keyword := not_keyword_of_underscore underscored
  rw [isValid_iff] at valid ⊢
  refine ⟨?_, ?_, by rwa [String.ofList_toList]⟩
  · intro c member
    simp only [Scope.toList_suffixed, List.mem_append, List.mem_cons] at member
    rcases member with inside | rfl | digit
    · exact valid.parts_only c inside
    · decide +kernel
    · exact isPart_of_isDigit (isDigit_of_mem_natChars n c digit)
  · have starts := valid.starts_well
    rw [Scope.toList_suffixed]
    cases spelled : base.toList with
    | nil => simp [spelled, startsWell] at starts
    | cons c rest => simpa [spelled, startsWell] using starts

/-- A view of names that keeps the numbers behind them. -/
def KeepsNumbers (view : String → String) : Prop :=
  ∀ base n, view (Scope.suffixed base n) = Scope.suffixed (view base) n

/-- A name that is free in a view of all names is what the view of its base would get there. -/
theorem HandsOut.map {view : String → String} (keeps : KeepsNumbers view)
    (given : HandsOut used base name) (free : view name ∉ used.map view) :
    HandsOut (used.map view) (view base) (view name) := by
  cases given with
  | plain => exact .plain free
  | numbered n taken from_two earlier _ =>
    rw [keeps] at free ⊢
    refine .numbered n (List.mem_map_of_mem taken) from_two (fun k low before => ?_) free
    exact List.mem_map.mpr ⟨_, earlier k low before, keeps base k⟩

theorem HandsOut.eq_or_suffixed (given : HandsOut used base name) :
    name = base ∨ ∃ n, name = Scope.suffixed base n := by
  cases given with
  | plain => exact .inl rfl
  | numbered n => exact .inr ⟨n, rfl⟩

theorem HandsOut.isValid (given : HandsOut used base name) (valid : isValid base) : isValid name := by
  cases given with
  | plain => exact valid
  | numbered n => exact isValid_suffixed valid n

/-! ## Claims one after the other -/

namespace Scope

variable {scope : Scope} {bases : List String}

theorem claimAll_cons (scope : Scope) (base : String) (rest : List String) :
    (scope.claimAll (base :: rest)).1 =
      scope.pick base :: ((scope.reserve (scope.pick base)).claimAll rest).1 := rfl

theorem length_claimAll (scope : Scope) (bases : List String) :
    (scope.claimAll bases).1.length = bases.length := by
  induction bases generalizing scope with
  | nil => rfl
  | cons base rest ih => rw [claimAll_cons, List.length_cons, List.length_cons, ih]

/-- Later claims leave the names of earlier ones as they are. -/
theorem claimAll_append (scope : Scope) (bases more : List String) :
    (scope.claimAll (bases ++ more)).1 =
      (scope.claimAll bases).1 ++ ((scope.claimAll bases).2.claimAll more).1 := by
  induction bases generalizing scope with
  | nil => rfl
  | cons base rest ih =>
    rw [List.cons_append, claimAll_cons, ih]
    rfl

theorem claimAll_free : ∀ name ∈ (scope.claimAll bases).1, name ∉ scope.used := by
  induction bases generalizing scope with
  | nil => simp [claimAll]
  | cons base rest ih =>
    intro name member
    rw [claimAll_cons] at member
    rcases List.mem_cons.mp member with rfl | later
    · exact (scope.pick_handsOut base).free
    · exact fun taken => ih name later (List.mem_cons_of_mem _ taken)

theorem claimAll_nodup (scope : Scope) (bases : List String) :
    (scope.claimAll bases).1.Nodup := by
  induction bases generalizing scope with
  | nil => exact List.nodup_nil
  | cons base rest ih =>
    rw [claimAll_cons, List.nodup_cons]
    exact ⟨fun later => claimAll_free _ later List.mem_cons_self, ih _⟩

theorem claimAll_isValid (valid : ∀ base ∈ bases, isValid base) :
    ∀ name ∈ (scope.claimAll bases).1, isValid name := by
  induction bases generalizing scope with
  | nil => simp [claimAll]
  | cons base rest ih =>
    obtain ⟨first, others⟩ := List.forall_mem_cons.mp valid
    rw [claimAll_cons]
    exact List.forall_mem_cons.mpr ⟨(scope.pick_handsOut base).isValid first, ih others⟩

/-- Every name is one that is asked for, with or without a number. -/
theorem base_of_mem_claimAll {name : String} (member : name ∈ (scope.claimAll bases).1) :
    ∃ base ∈ bases, name = base ∨ ∃ n, name = suffixed base n := by
  induction bases generalizing scope with
  | nil => cases member
  | cons base rest ih =>
    rw [claimAll_cons] at member
    rcases List.mem_cons.mp member with rfl | later
    · exact ⟨base, List.mem_cons_self, (scope.pick_handsOut base).eq_or_suffixed⟩
    · obtain ⟨other, asked, shape⟩ := ih later
      exact ⟨other, List.mem_cons_of_mem _ asked, shape⟩

/-- What is asked for is taken in the end, by this claim or by an earlier one. -/
theorem mem_claimAll_or_used (scope : Scope) :
    ∀ base ∈ bases, base ∈ (scope.claimAll bases).1 ∨ base ∈ scope.used := by
  induction bases generalizing scope with
  | nil => simp
  | cons first rest ih =>
    intro base member
    rw [claimAll_cons, List.mem_cons]
    rcases List.mem_cons.mp member with rfl | later
    · generalize picked : scope.pick base = name
      have given := picked ▸ scope.pick_handsOut base
      cases given with
      | plain => exact .inl (.inl rfl)
      | numbered _ taken => exact .inr taken
    · rcases ih (scope.reserve (scope.pick first)) base later with named | reserved
      · exact .inl (.inr named)
      · rcases List.mem_cons.mp reserved with same | taken
        · exact .inl (.inl same)
        · exact .inr taken

/-- Names stay distinct and free in a view exactly if they look like what the views of their bases
would get. -/
theorem claimAll_map_iff (scope : Scope) (bases : List String) {view : String → String}
    (keeps : KeepsNumbers view) :
    ((scope.claimAll bases).1.map view).Nodup ∧
        (∀ name ∈ (scope.claimAll bases).1, view name ∉ scope.used.map view) ↔
      (scope.claimAll bases).1.map view =
        ((⟨scope.used.map view⟩ : Scope).claimAll (bases.map view)).1 := by
  constructor
  · rintro ⟨distinct, free⟩
    induction bases generalizing scope with
    | nil => rfl
    | cons base rest ih =>
      rw [claimAll_cons, List.map_cons, List.nodup_cons] at distinct
      rw [claimAll_cons, List.forall_mem_cons] at free
      have picked : (⟨scope.used.map view⟩ : Scope).pick (view base) = view (scope.pick base) :=
        ((scope.pick_handsOut base).map keeps free.1).pick_eq
      rw [claimAll_cons, List.map_cons, List.map_cons, claimAll_cons, picked]
      refine congrArg (view (scope.pick base) :: ·) (ih _ distinct.2 fun name later => ?_)
      rw [reserve, List.map_cons, List.mem_cons, not_or]
      refine ⟨fun same => distinct.1 ?_, free.2 name later⟩
      exact List.mem_map.mpr ⟨name, later, same⟩
  · intro same
    rw [same]
    refine ⟨claimAll_nodup _ _, fun name member => ?_⟩
    have seen : view name ∈ (scope.claimAll bases).1.map view := List.mem_map_of_mem member
    exact claimAll_free _ (same ▸ seen)

end Scope

end VaultModels.Name
