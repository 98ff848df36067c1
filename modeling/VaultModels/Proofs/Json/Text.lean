import VaultModels.Json.Text

/-!
# Strings read back

The escape that is written of a character is read as this character, so the body of a written string
ends at its closing quote and not before. What other texts are read as strings is left open.
-/
namespace VaultModels.Json

theorem hexDigit?_hexDigit : ∀ n < 16, hexDigit? (hexDigit n) = some n := by decide

theorem unit?_hexDigit {n : Nat} (small : n < 0x20) :
    unit? '0' '0' (hexDigit (n / 16)) (hexDigit (n % 16)) = some n := by
  have zero : hexDigit? '0' = some 0 := by decide
  rw [unit?, zero, hexDigit?_hexDigit _ (by omega), hexDigit?_hexDigit _ (by omega)]
  simp only [Option.bind_eq_bind, Option.bind_some, Option.some.injEq]
  omega

/-- Below the space there are no surrogates. -/
theorem readBody_unit {a b : Char} {n : Nat} (unit : unit? '0' '0' a b = some n) (small : n < 0x20)
    (rest : List Char) :
    readBody ('\\' :: 'u' :: '0' :: '0' :: a :: b :: rest) =
      prepend (Char.ofNat n) (readBody rest) := by
  have trailing : isTrailing n = false := by simp [isTrailing]; omega
  have leading : isLeading n = false := by simp [isLeading]; omega
  rw [readBody, unit]
  simp [leading, trailing]

theorem readBody_plain {c : Char} (unquoted : c ≠ '"') (unslashed : c ≠ '\\')
    (printed : isControl c = false) (rest : List Char) :
    readBody (c :: rest) = prepend c (readBody rest) := by
  rw [readBody.eq_def]
  split <;> simp_all

/-- Characters with an escape of two characters. -/
def shortEscapes : List Char := ['"', '\\', '\x08', '\x0c', '\n', '\r', '\t']

theorem readBody_writeChar (c : Char) (rest : List Char) :
    readBody (writeChar c ++ rest) = prepend c (readBody rest) := by
  by_cases short : c ∈ shortEscapes
  · simp only [shortEscapes, List.mem_cons, List.not_mem_nil, or_false] at short
    rcases short with rfl | rfl | rfl | rfl | rfl | rfl | rfl <;> rfl
  · simp only [shortEscapes, List.mem_cons, List.not_mem_nil, or_false, not_or] at short
    have written : writeChar c =
        if isControl c then
          ['\\', 'u', '0', '0', hexDigit (c.toNat / 16), hexDigit (c.toNat % 16)]
        else [c] := by simp [writeChar, short]
    rw [written]
    split
    next control =>
      have below : c < ' ' := by simpa [isControl] using control
      have small : c.toNat < 0x20 := UInt32.lt_iff_toNat_lt.mp (Char.lt_def.mp below)
      have read := readBody_unit (unit?_hexDigit small) small rest
      rwa [Char.ofNat_toNat] at read
    next printed =>
      exact readBody_plain short.1 short.2.1 (by simpa using printed) rest

theorem readBody_written (cs rest : List Char) :
    readBody (cs.flatMap writeChar ++ '"' :: rest) = .ok (cs, rest) := by
  induction cs with
  | nil => rfl
  | cons c cs ih =>
    rw [List.flatMap_cons, List.append_assoc, readBody_writeChar, ih]
    rfl

theorem writeText_append (text : String) (rest : List Char) :
    writeText text ++ rest = '"' :: (text.toList.flatMap writeChar ++ '"' :: rest) := by
  simp [writeText]

end VaultModels.Json
