import Mathlib.Data.List.TakeDrop
import VaultModels.Json.Number
import VaultModels.Proofs.Text.Decimal

/-!
# Whole numbers read back

Decimal text is read as the number it was written of, as long as nothing follows that a number could go
on with. Numbers with a fraction or an exponent are never written, and how they are read is left open.
-/
namespace VaultModels.Json

open Text

/-- Nothing follows that a number could go on with. -/
def EndsNumber (rest : List Char) : Prop :=
  ∀ c ∈ rest.head?, isDigit c = false ∧ c ≠ '.' ∧ c ≠ 'e' ∧ c ≠ 'E'

variable {digits rest : List Char}

theorem spanDigits_append (numeric : ∀ c ∈ digits, isDigit c = true) (ends : EndsNumber rest) :
    spanDigits (digits ++ rest) = (digits, rest) := by
  have stops : rest.takeWhile isDigit = [] ∧ rest.dropWhile isDigit = rest := by
    cases rest with
    | nil => exact ⟨rfl, rfl⟩
    | cons c rest =>
      have strange : isDigit c = false := (ends c rfl).1
      simp [strange]
  rw [spanDigits, List.span_eq_takeWhile_dropWhile, List.takeWhile_append_of_pos numeric,
    List.dropWhile_append_of_pos numeric, stops.1, stops.2, List.append_nil]

/-- More digits never make a number smaller. -/
theorem le_ofDigitChars (n : Nat) (digits : List Char) : n ≤ Nat.ofDigitChars 10 digits n := by
  induction digits generalizing n with
  | nil => exact Nat.le_refl n
  | cons d digits ih =>
    rw [Nat.ofDigitChars_cons]
    exact Nat.le_trans (by omega) (ih _)

theorem accumulate_fits (n : Nat) (fits : Nat.ofDigitChars 10 digits n < wordLimit) :
    accumulate n digits = (Nat.ofDigitChars 10 digits n, 0) := by
  induction digits generalizing n with
  | nil => rfl
  | cons d digits ih =>
    have longer : Nat.ofDigitChars 10 (d :: digits) n =
        Nat.ofDigitChars 10 digits (n * 10 + digitValue d) := by
      rw [Nat.ofDigitChars_cons, Nat.mul_comm]
      rfl
    rw [longer] at fits ⊢
    rw [accumulate, if_pos (Nat.lt_of_le_of_lt (le_ofDigitChars _ _) fits)]
    exact ih _ fits

/-- Digits without a leading zero that fit 64 bits are read as a whole number. -/
theorem readUnsigned_append (numeric : ∀ c ∈ digits, isDigit c = true) (some_digit : digits ≠ [])
    (no_zero : ∀ c cs, digits ≠ '0' :: c :: cs)
    (fits : Nat.ofDigitChars 10 digits 0 < wordLimit) (ends : EndsNumber rest) :
    readUnsigned (digits ++ rest) = .ok (some (Nat.ofDigitChars 10 digits 0), rest) := by
  unfold readUnsigned
  rw [spanDigits_append numeric ends]
  split
  next same => exact absurd (Prod.mk.inj same).1 some_digit
  next same => exact absurd (Prod.mk.inj same).1 (no_zero _ _)
  next same =>
    cases same
    rw [accumulate_fits 0 fits]
    dsimp only
    split
    next =>
      exact absurd rfl (ends '.' rfl).2.1
    next =>
      have unscaled : rest.head? ≠ some 'e' ∧ rest.head? ≠ some 'E' :=
        ⟨fun next => (ends 'e' next).2.2.1 rfl, fun next => (ends 'E' next).2.2.2 rfl⟩
      rw [if_pos ⟨rfl, unscaled⟩]

theorem readUnsigned_natChars {n : Nat} (fits : n < wordLimit) (ends : EndsNumber rest) :
    readUnsigned (natChars n ++ rest) = .ok (some n, rest) := by
  have value : Nat.ofDigitChars 10 (natChars n) 0 = n := Nat.ofDigitChars_ten_toDigits
  have read := readUnsigned_append (isDigit_of_mem_natChars n) (natChars_ne_nil n)
    (natChars_ne_zero_cons n) (by rwa [value]) ends
  rwa [value] at read

theorem readNumber_unsigned {cs : List Char} (unsigned : cs.head? ≠ some '-') :
    readNumber cs = (readUnsigned cs).map fun (value, rest) => (value.map Int.ofNat, rest) := by
  unfold readNumber
  split
  next => exact absurd rfl unsigned
  next => rfl

/-- Every number that fits 64 bits with its sign is read back. -/
theorem readNumber_intChars {n : Int} (fits : n.natAbs ≤ Nat.pow 2 63) (ends : EndsNumber rest) :
    readNumber (intChars n ++ rest) = .ok (some n, rest) := by
  have below : n.natAbs < wordLimit := Nat.lt_of_le_of_lt fits (by decide)
  cases n with
  | ofNat n =>
    have read : readUnsigned (natChars n ++ rest) = .ok (some n, rest) :=
      readUnsigned_natChars below ends
    have unsigned : (natChars n ++ rest).head? ≠ some '-' := by
      obtain ⟨d, ds, opened⟩ := List.exists_cons_of_ne_nil (natChars_ne_nil n)
      have digit := isDigit_of_mem_natChars n d (by simp [opened])
      rw [opened]
      rintro ⟨⟩
      exact absurd digit (by decide)
    rw [intChars, readNumber_unsigned unsigned, read]
    rfl
  | negSucc n =>
    have read : readUnsigned (natChars (n + 1) ++ rest) = .ok (some (n + 1), rest) :=
      readUnsigned_natChars below ends
    have signed : negate? (n + 1) = some (.negSucc n) := if_pos ⟨Nat.succ_pos n, fits⟩
    rw [intChars, List.cons_append, readNumber, read]
    exact congrArg (fun value => Except.ok (value, rest)) signed

end VaultModels.Json
