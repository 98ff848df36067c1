import VaultModels.Text.Decimal

/-!
# Characters of decimal text

Decimal text holds digits and a sign, and a text that opens with anything else is read as no number.
No digits are wasted: a number of more than one digit does not open with a zero.
-/
namespace VaultModels.Text

theorem isDigit_of_mem_natChars (n : Nat) : ∀ c ∈ natChars n, isDigit c = true := by
  intro c member
  exact Nat.isDigit_of_mem_toDigits (by decide) (by decide) member

theorem natChars_ne_nil (n : Nat) : natChars n ≠ [] := Nat.toDigits_ne_nil

theorem digitChar_ne_zero : ∀ d < 10, 0 < d → Nat.digitChar d ≠ '0' := by decide

theorem head?_natChars {n : Nat} (positive : 0 < n) : (natChars n).head? ≠ some '0' := by
  induction n using Nat.strongRecOn with
  | ind n ih =>
    by_cases small : n < 10
    · rw [natChars, Nat.toDigits_of_lt_base small]
      simpa using digitChar_ne_zero n small positive
    · have earlier := ih (n / 10) (by omega) (by omega)
      rw [natChars, Nat.toDigits_of_base_le (by decide) (by omega), List.head?_append]
      cases opened : (Nat.toDigits 10 (n / 10)).head? with
      | none => exact absurd (List.head?_eq_none_iff.mp opened) Nat.toDigits_ne_nil
      | some d => simpa [natChars, opened] using earlier

theorem natChars_ne_zero_cons (n : Nat) (c : Char) (cs : List Char) :
    natChars n ≠ '0' :: c :: cs := by
  rcases Nat.eq_zero_or_pos n with rfl | positive
  · exact (by decide : natChars 0 = ['0']) ▸ by simp
  · intro same
    exact head?_natChars positive (by rw [same]; rfl)

theorem natChars_inj {n m : Nat} (same : natChars n = natChars m) : n = m := by
  have read := congrArg (fun digits => Nat.ofDigitChars 10 digits 0) same
  simpa [natChars] using read

theorem intChars_cons (n : Int) : ∃ c cs, intChars n = c :: cs ∧ (c = '-' ∨ isDigit c = true) := by
  cases n with
  | ofNat n =>
    obtain ⟨c, cs, opened⟩ := List.exists_cons_of_ne_nil (natChars_ne_nil n)
    exact ⟨c, cs, opened, .inr (isDigit_of_mem_natChars n c (by simp [opened]))⟩
  | negSucc n => exact ⟨'-', _, rfl, .inl rfl⟩

theorem isDigit_of_mem_intText {n : Int} {c : Char} (member : c ∈ (intText n).toList) :
    c.isDigit ∨ c = '-' := by
  rw [intText, String.toList_ofList] at member
  cases n with
  | ofNat n => exact .inl (Nat.isDigit_of_mem_toDigits (by decide) (by decide) member)
  | negSucc n =>
    rcases List.mem_cons.mp member with rfl | digit
    · exact .inr rfl
    · exact .inl (Nat.isDigit_of_mem_toDigits (by decide) (by decide) digit)

theorem toInt32?_toInt (value : Int32) : toInt32? value.toInt = some value := by
  have lower := Int32.le_toInt value
  have upper := Int32.toInt_lt value
  rw [toInt32?, if_pos (by simp [fitsInt32]; omega), Int32.ofInt_toInt]

theorem readInt32?_eq_none {c : Char} (strange : isDigit c = false) (unsigned : c ≠ '-' ∧ c ≠ '+')
    (rest : List Char) : readInt32? (c :: rest) = none := by
  have no_digits : readNat? (c :: rest) = none := by
    rw [readNat?, if_neg]
    simp [strange]
  have no_number : readInt? (c :: rest) = none := by
    unfold readInt?
    split
    next opens => exact absurd (List.cons.inj opens).1 unsigned.1
    next opens => exact absurd (List.cons.inj opens).1 unsigned.2
    · rw [no_digits]
      rfl
  rw [readInt32?, no_number]
  rfl

end VaultModels.Text
