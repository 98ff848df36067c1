import Mathlib.Data.Nat.Digits.Lemmas
import VaultModels.Proofs.Guid.Canonical

/-!
# The value of a GUID

A GUID is a number of 128 bits, and its text is one of several ways to write that number down. The
canonical text leaves out everything else: two GUIDs have one value exactly if they have one canonical
text.
-/
namespace VaultModels.Guid

open Text

def hexDigits : List Char :=
  ['0', '1', '2', '3', '4', '5', '6', '7', '8', '9', 'A', 'B', 'C', 'D', 'E', 'F']

/-- The value of a digit in either case. -/
def digitValue (c : Char) : Nat := hexDigits.idxOf (upperAscii c)

/-- The number that 32 digits write, the first digit counting most. -/
def value (digits : List Char) : BitVec 128 :=
  BitVec.ofNat 128 (Nat.ofDigits 16 (digits.reverse.map digitValue))

/-- The number that a GUID in any form denotes. -/
def value? (text : String) : Option (BitVec 128) := (readDigits (trimChars text.toList)).map value

example : value? " {ABCDEF00-2222-3333-4444-55555555555a}" =
    some 0xabcdef0022223333444455555555555a := by decide

theorem toNat_lt_of_isHexDigit {c : Char} (hex : isHexDigit c) : c.toNat < 128 := by
  simp only [isHexDigit, Bool.or_eq_true, Bool.and_eq_true, decide_eq_true_eq, Char.le_def,
    UInt32.le_iff_toNat_le] at hex
  have bounds : '9'.val.toNat = 57 ∧ 'f'.val.toNat = 102 ∧ 'F'.val.toNat = 70 := by decide
  rw [Char.toNat]
  omega

/-- Digits by their code, all of them ASCII. -/
theorem exists_of_isHexDigit {c : Char} (hex : isHexDigit c) : ∃ n, n < 128 ∧ c = Char.ofNat n :=
  ⟨c.toNat, toNat_lt_of_isHexDigit hex, (Char.ofNat_toNat c).symm⟩

theorem upperAscii_mem_hexDigits {c : Char} (hex : isHexDigit c) : upperAscii c ∈ hexDigits := by
  have listed : ∀ n < 128, isHexDigit (Char.ofNat n) → upperAscii (Char.ofNat n) ∈ hexDigits := by
    decide
  obtain ⟨n, bound, rfl⟩ := exists_of_isHexDigit hex
  exact listed n bound hex

theorem digitValue_lt {c : Char} (hex : isHexDigit c) : digitValue c < 16 :=
  List.idxOf_lt_length_of_mem (upperAscii_mem_hexDigits hex)

theorem digitValue_eq_iff {c d : Char} (hex : isHexDigit c) :
    digitValue c = digitValue d ↔ upperAscii c = upperAscii d :=
  List.idxOf_inj (upperAscii_mem_hexDigits hex)

/-- Digits of one length have one list of values exactly if they differ in case at most. -/
theorem map_digitValue_eq_iff {left right : List Char} (ofLeft : left.all isHexDigit) :
    left.map digitValue = right.map digitValue ↔ left.map upperAscii = right.map upperAscii := by
  induction left generalizing right with
  | nil => cases right <;> simp
  | cons c left ih =>
    rw [List.all_cons, Bool.and_eq_true] at ofLeft
    cases right with
    | nil => simp
    | cons d right =>
      rw [List.map_cons, List.map_cons, List.map_cons, List.map_cons, List.cons.injEq,
        List.cons.injEq, digitValue_eq_iff ofLeft.1, ih ofLeft.2]

theorem digitValues_lt {digits : List Char} (given : IsDigits digits) :
    ∀ d ∈ digits.reverse.map digitValue, d < 16 := by
  intro d member
  obtain ⟨c, from_digits, rfl⟩ := List.mem_map.mp member
  exact digitValue_lt (List.all_eq_true.mp given.hex c (List.mem_reverse.mp from_digits))

/-- 32 digits fill the 128 bits and do not run over. -/
theorem ofDigits_lt {digits : List Char} (given : IsDigits digits) :
    Nat.ofDigits 16 (digits.reverse.map digitValue) < 2 ^ 128 := by
  have bound := Nat.ofDigits_lt_base_pow_length (by decide : 1 < 16) (digitValues_lt given)
  rw [List.length_map, List.length_reverse, given.length] at bound
  exact bound.trans_le (by decide)

/-- Two GUIDs have one value exactly if their digits differ in case at most. -/
theorem value_eq_iff {left right : List Char} (ofLeft : IsDigits left) (ofRight : IsDigits right) :
    value left = value right ↔ left.map upperAscii = right.map upperAscii := by
  have lengths : (left.reverse.map digitValue).length = (right.reverse.map digitValue).length := by
    simp [ofLeft.length, ofRight.length]
  rw [value, value, ← BitVec.toNat_inj, BitVec.toNat_ofNat, BitVec.toNat_ofNat,
    Nat.mod_eq_of_lt (ofDigits_lt ofLeft), Nat.mod_eq_of_lt (ofDigits_lt ofRight),
    ← map_digitValue_eq_iff ofLeft.hex]
  constructor
  · intro numbers
    have values := Nat.ofDigits_inj_of_len_eq (by decide) lengths (digitValues_lt ofLeft)
      (digitValues_lt ofRight) numbers
    rwa [List.map_reverse, List.map_reverse, List.reverse_inj] at values
  · intro values
    rw [List.map_reverse, List.map_reverse, values]

/-! ## Texts -/

theorem canonicalText_eq_iff {left right : List Char} (ofLeft : IsDigits left)
    (ofRight : IsDigits right) :
    canonicalText left = canonicalText right ↔ left.map upperAscii = right.map upperAscii := by
  rw [canonicalText, canonicalText, String.ofList_inj, canonicalChars_eq, canonicalChars_eq]
  constructor
  · intro braced
    have read := congrArg readDigits braced
    rwa [readDigits_bracedChars ofLeft.upper, readDigits_bracedChars ofRight.upper,
      Option.some.injEq] at read
  · exact congrArg bracedChars

/-- What has a canonical text has a value. -/
theorem exists_value {text canonical : String} (read : ofAnyForm? text = some canonical) :
    ∃ number, value? text = some number := by
  obtain ⟨digits, taken, -⟩ := Option.map_eq_some_iff.mp read
  exact ⟨value digits, by rw [value?, taken, Option.map_some]⟩

/-- Two texts denote one value exactly if they have one canonical text. -/
theorem value?_eq_iff {left right canonical : String} (read : ofAnyForm? right = some canonical) :
    value? left = value? right ↔ ofAnyForm? left = some canonical := by
  obtain ⟨digits, taken, rfl⟩ := Option.map_eq_some_iff.mp read
  have ofRight := isDigits_of_readDigits taken
  rw [value?, value?, taken, ofAnyForm?, Option.map_some, Option.map_eq_some_iff,
    Option.map_eq_some_iff]
  refine exists_congr fun others => and_congr_right fun given => ?_
  have ofLeft := isDigits_of_readDigits given
  rw [value_eq_iff ofLeft ofRight, canonicalText_eq_iff ofLeft ofRight]

/-- Of the forms that denote a value, the braced one alone is the same text as its canonical one up
to case. -/
theorem value?_eq_and_braced_iff {left right canonical : String}
    (read : ofAnyForm? right = some canonical) :
    value? left = value? right ∧ (ofBraced? left).isSome ↔ sameIgnoringCase left canonical := by
  rw [value?_eq_iff read, ← ofBraced?_eq_some (isCanonical_of_ofAnyForm? read)]
  constructor
  · rintro ⟨same, braced⟩
    obtain ⟨others, taken⟩ := Option.isSome_iff_exists.mp braced
    rw [taken, ← ofAnyForm?_of_ofBraced? taken, same]
  · intro braced
    exact ⟨ofAnyForm?_of_ofBraced? braced, by rw [braced, Option.isSome_some]⟩

end VaultModels.Guid
