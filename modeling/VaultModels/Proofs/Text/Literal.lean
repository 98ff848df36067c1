import VaultModels.Proofs.Text.Decimal
import VaultModels.Text.Literal

/-!
# Reading literals back

Escaping is undone by `unescape`, so a literal tells its text: no two texts have one literal. It ends
at its closing quote whatever follows it, so it tells its text inside of a line, too. A literal opens
with a quote, and so it is never the text of a number.
-/
namespace VaultModels.Text

/-- Characters with an escape of their own. -/
def escaped : List Char := ['\\', '"', '\n', '\r', '\t', '\x00']

theorem escapeChar_plain {c : Char} (plain : c ∉ escaped) : escapeChar c = [c] := by
  simp only [escaped, List.mem_cons, List.not_mem_nil, or_false, not_or] at plain
  simp [escapeChar, plain]

theorem unescape_escapeChar (c : Char) (rest : List Char) :
    unescape (escapeChar c ++ rest) = (unescape rest).map (c :: ·) := by
  by_cases simple : c ∈ escaped
  · simp only [escaped, List.mem_cons, List.not_mem_nil, or_false] at simple
    rcases simple with rfl | rfl | rfl | rfl | rfl | rfl <;> rfl
  · rw [escapeChar_plain simple, List.singleton_append]
    have unslashed : c ≠ '\\' := fun slash => simple (slash ▸ List.mem_cons_self)
    rw [unescape, if_neg unslashed]
    exact fun _ _ slash _ => unslashed slash

theorem unescape_escapeChars (cs : List Char) : unescape (escapeChars cs) = some cs := by
  induction cs with
  | nil => rfl
  | cons c rest ih => rw [escapeChars, List.flatMap_cons, unescape_escapeChar, ← escapeChars, ih]; rfl

theorem escapeChars_inj {left right : List Char} (equal : escapeChars left = escapeChars right) :
    left = right := by
  have read := unescape_escapeChars left
  rw [equal, unescape_escapeChars] at read
  exact (Option.some.inj read).symm

theorem quote_inj {left right : String} (equal : quote left = quote right) : left = right := by
  have spelled := String.ofList_injective equal
  simp only [quoteChars, List.cons.injEq, true_and] at spelled
  exact String.toList_inj.mp (escapeChars_inj (List.append_cancel_right spelled))

/-- Each character is scanned over as a whole, so no quote and no backslash of it is left alone. -/
theorem scanBody_escapeChar (c : Char) (rest : List Char) :
    scanBody (escapeChar c ++ rest) =
      (scanBody rest).map fun parts => (escapeChar c ++ parts.1, parts.2) := by
  by_cases simple : c ∈ escaped
  · simp only [escaped, List.mem_cons, List.not_mem_nil, or_false] at simple
    rcases simple with rfl | rfl | rfl | rfl | rfl | rfl <;> rfl
  · have unslashed : c ≠ '\\' := fun slash => simple (slash ▸ List.mem_cons_self)
    have unquoted : c ≠ '"' := fun quoted => simple (by simp [quoted, escaped])
    rw [escapeChar_plain simple, List.singleton_append, scanBody, if_neg unquoted, if_neg unslashed]
    · rfl
    · exact fun _ _ slash _ => unslashed slash

theorem scanBody_escapeChars (cs suffix : List Char) :
    scanBody (escapeChars cs ++ '"' :: suffix) = some (escapeChars cs, suffix) := by
  induction cs with
  | nil => rfl
  | cons c rest ih =>
    rw [escapeChars, List.flatMap_cons, List.append_assoc, scanBody_escapeChar, ← escapeChars, ih]
    rfl

/-- A literal ends at its closing quote. -/
theorem scanLiteral_quote (text : String) (suffix : List Char) :
    scanLiteral ((quote text).toList ++ suffix) = some ((escapeLiteral text).toList, suffix) := by
  rw [quote, escapeLiteral, String.toList_ofList, String.toList_ofList, quoteChars,
    List.cons_append, List.append_assoc, List.singleton_append, scanLiteral, scanBody_escapeChars]

theorem quote_ne_int32Text (text : String) (n : Int32) : quote text ≠ int32Text n := by
  intro equal
  have quoted : '"' ∈ (int32Text n).toList := by
    rw [← equal, quote, String.toList_ofList]
    exact List.mem_cons_self
  rcases isDigit_of_mem_intText quoted with digit | sign
  · exact absurd digit (by decide)
  · exact absurd sign (by decide)

end VaultModels.Text
