import Mathlib.Data.List.TakeWhile
import VaultModels.Proofs.Text.Blank
import VaultModels.Proofs.Text.Decimal

/-!
# Numerals

Which texts are read as a number, and as which: digits behind at most one sign, with any number of
zeros in front, of a value that fits. What is written of a number is one of them, without a plus sign
and without extra zeros.
-/
namespace VaultModels.Text

/-- At least one digit, and the value of the digits together. -/
structure IsNumeral (digits : List Char) (n : Nat) : Prop where
  some_digit : digits ≠ []
  digits_only : ∀ c ∈ digits, isDigit c = true
  value : Nat.ofDigitChars 10 digits 0 = n

/-- The text spells the number. -/
inductive Spells : List Char → Int → Prop
  | unsigned {digits : List Char} {n : Nat} (numeral : IsNumeral digits n) : Spells digits n
  | plus {digits : List Char} {n : Nat} (numeral : IsNumeral digits n) : Spells ('+' :: digits) n
  | minus {digits : List Char} {n : Nat} (numeral : IsNumeral digits n) :
      Spells ('-' :: digits) (-n)

variable {cs digits : List Char} {c : Char} {n : Nat} {value : Int}

theorem IsNumeral.not_mem (numeral : IsNumeral digits n) (strange : isDigit c = false) :
    c ∉ digits := by
  intro member
  exact absurd (numeral.digits_only c member) (by simp [strange])

/-- A numeral does not open with a sign, and with nothing else that is no digit. -/
theorem IsNumeral.ne_cons (numeral : IsNumeral digits n) (strange : isDigit c = false)
    (rest : List Char) : digits ≠ c :: rest := by
  intro opens
  exact numeral.not_mem strange (by simp [opens])

/-- A numeral ends before the first character that is no digit. -/
theorem IsNumeral.takeWhile_append (numeral : IsNumeral digits n) (strange : isDigit c = false)
    (rest : List Char) : (digits ++ c :: rest).takeWhile isDigit = digits := by
  rw [List.takeWhile_append_of_pos numeral.digits_only, List.takeWhile_cons_of_neg (by simp [strange]),
    List.append_nil]

theorem IsNumeral.dropWhile_append (numeral : IsNumeral digits n) (strange : isDigit c = false)
    (rest : List Char) : (digits ++ c :: rest).dropWhile isDigit = c :: rest := by
  rw [List.dropWhile_append_of_pos numeral.digits_only, List.dropWhile_cons_of_neg (by simp [strange])]

/-- What digits at the front of a text count together. -/
theorem isNumeral_takeWhile (cs : List Char) (some_digit : cs.takeWhile isDigit ≠ []) :
    ∃ n, IsNumeral (cs.takeWhile isDigit) n :=
  ⟨_, some_digit, fun _ => List.mem_takeWhile_imp, rfl⟩

theorem isNumeral_natChars (n : Nat) : IsNumeral (natChars n) n where
  some_digit := natChars_ne_nil n
  digits_only := isDigit_of_mem_natChars n
  value := Nat.ofDigitChars_ten_toDigits

theorem readNat?_eq_some : readNat? cs = some n ↔ IsNumeral cs n := by
  unfold readNat?
  constructor
  · intro read
    split at read
    next numeric => exact ⟨numeric.1, List.all_eq_true.mp numeric.2, Option.some.inj read⟩
    next => contradiction
  · intro numeral
    rw [if_pos ⟨numeral.some_digit, List.all_eq_true.mpr numeral.digits_only⟩, numeral.value]

theorem readInt?_eq_some : readInt? cs = some value ↔ Spells cs value := by
  constructor
  · intro read
    unfold readInt? at read
    split at read
    · simp only [Option.bind_eq_bind, Option.map_eq_some_iff, Option.bind_eq_some_iff] at read
      obtain ⟨_, ⟨n, numeric, ⟨⟩⟩, rfl⟩ := read
      exact .minus (readNat?_eq_some.mp numeric)
    · obtain ⟨n, numeric, rfl⟩ := Option.map_eq_some_iff.mp read
      exact .plus (readNat?_eq_some.mp numeric)
    · obtain ⟨n, numeric, rfl⟩ := Option.map_eq_some_iff.mp read
      exact .unsigned (readNat?_eq_some.mp numeric)
  · intro spelled
    cases spelled with
    | unsigned numeral =>
      -- digits are not mistaken for a sign
      rw [readInt?, readNat?_eq_some.mpr numeral]
      · rfl
      · exact fun rest => numeral.ne_cons (by decide) rest
      · exact fun rest => numeral.ne_cons (by decide) rest
    | plus numeral => simp [readInt?, readNat?_eq_some.mpr numeral]
    | minus numeral => simp [readInt?, readNat?_eq_some.mpr numeral]

theorem toInt32?_eq_some {id : Int32} : toInt32? value = some id ↔ value = id.toInt := by
  constructor
  · intro fits
    unfold toInt32? at fits
    split at fits
    next bounded =>
      simp only [fitsInt32, Bool.and_eq_true, decide_eq_true_eq] at bounded
      rw [← Option.some.inj fits, Int32.toInt_ofInt_of_le (by omega) (by omega)]
    next => contradiction
  · intro same
    rw [same, toInt32?_toInt]

/-- A text is read as a number exactly if it spells that number. -/
theorem readInt32?_eq_some {id : Int32} : readInt32? cs = some id ↔ Spells cs id.toInt := by
  simp only [readInt32?, Option.bind_eq_some_iff, readInt?_eq_some, toInt32?_eq_some]
  constructor
  · rintro ⟨value, spelled, rfl⟩
    exact spelled
  · intro spelled
    exact ⟨_, spelled, rfl⟩

/-- Digits alone spell what they count. -/
theorem IsNumeral.spells_iff (numeral : IsNumeral digits n) : Spells digits value ↔ value = n := by
  constructor
  · intro spelled
    have again := readInt?_eq_some.mpr (.unsigned numeral)
    rw [readInt?_eq_some.mpr spelled] at again
    exact Option.some.inj again
  · intro same
    rw [same]
    exact .unsigned numeral

theorem spells_intChars (value : Int) : Spells (intChars value) value := by
  cases value with
  | ofNat n => exact .unsigned (isNumeral_natChars n)
  | negSucc n => exact .minus (isNumeral_natChars (n + 1))

/-- A number is read back from what is written of it. -/
theorem readInt32?_int32Text (id : Int32) : readInt32? (int32Text id).toList = some id := by
  rw [readInt32?_eq_some, int32Text, intText, String.toList_ofList]
  exact spells_intChars id.toInt

/-! ## Blanks -/

theorem isBlank_of_isDigit (digit : c.isDigit) : isBlank c = false := by
  simp only [Char.isDigit, Bool.and_eq_true, decide_eq_true_eq] at digit
  have low : 48 ≤ c.toNat := digit.1
  have high : c.toNat ≤ 57 := digit.2
  simp [isBlank]
  omega

/-- No blank stands in what is written of a number. -/
theorem isBlank_int32Text (id : Int32) : ∀ c ∈ (int32Text id).toList, isBlank c = false := by
  intro c member
  rcases isDigit_of_mem_intText member with digit | rfl
  · exact isBlank_of_isDigit digit
  · decide

end VaultModels.Text
