import Mathlib.Data.String.Basic
import Mathlib.Data.List.SplitLengths
import VaultModels.Proofs.Guid.Value
import VaultModels.Resolution.TextForm

/-!
# Forms of a GUID

The forms that a GUID is written in, said without a reader: its digits alone, in groups with hyphens
between them, and the groups in braces or behind `urn:uuid:`. What is read is exactly what is in one of
the forms, so a canonical text stands for the digits of a GUID up to case, whatever the form was, and
both ways to read it give it back.
-/
namespace VaultModels.Guid

open Resolution Text

/-- The digits in groups of 8, 4, 4, 4 and 12 with a hyphen between each two. -/
def IsHyphenated (digits cs : List Char) : Prop :=
  ∃ groups : List (List Char), groups.map List.length = [8, 4, 4, 4, 12] ∧
    groups.flatten = digits ∧ cs = ['-'].intercalate groups

/-- The text is the digits in one of the forms. -/
inductive Spells (digits : List Char) : List Char → Prop
  | plain : Spells digits digits
  | hyphenated {cs : List Char} (grouped : IsHyphenated digits cs) : Spells digits cs
  | braced {cs : List Char} (grouped : IsHyphenated digits cs) :
      Spells digits ('{' :: (cs ++ ['}']))
  | urn {mark cs : List Char} (named : foldCase mark = "urn:uuid:".toList)
      (grouped : IsHyphenated digits cs) : Spells digits (mark ++ cs)

/-- Blanks around the text do not count. -/
def Writes (text : String) (digits : List Char) : Prop :=
  IsDigits digits ∧ Spells digits (trimChars text.toList)

/-- Groups of upper case digits in braces. -/
def IsUpperBraced (text : String) : Prop :=
  ∃ digits cs, (∀ c ∈ digits, c ∈ hexDigits) ∧ IsHyphenated digits cs ∧
    text.toList = '{' :: (cs ++ ['}'])

variable {digits cs : List Char}

/-! ## Groups -/

theorem intercalate_eq_writeGroups {groups : List (List Char)} (named : groups ≠ []) :
    ['-'].intercalate groups = writeGroups (groups.map List.length) groups.flatten := by
  induction groups with
  | nil => exact absurd rfl named
  | cons group rest ih =>
    cases rest with
    | nil => simp [List.intercalate, writeGroups]
    | cons next more =>
      have later := ih (List.cons_ne_nil next more)
      rw [List.map_cons, List.flatten_cons, writeGroups_cons (by simp) rfl, ← later]
      simp [List.intercalate]

theorem isHyphenated_iff :
    IsHyphenated digits cs ↔ cs = writeGroups groupSizes digits ∧ digits.length = 32 := by
  constructor
  · rintro ⟨groups, sizes, rfl, rfl⟩
    have named : groups ≠ [] := by
      rintro rfl
      cases sizes
    rw [intercalate_eq_writeGroups named, List.length_flatten, sizes]
    exact ⟨rfl, rfl⟩
  · rintro ⟨rfl, total⟩
    have sizes : (groupSizes.splitLengths digits).map List.length = groupSizes :=
      List.map_splitLengths_length _ _ total.ge
    have whole : (groupSizes.splitLengths digits).flatten = digits :=
      List.flatten_splitLengths _ _ total.le
    refine ⟨groupSizes.splitLengths digits, sizes, whole, ?_⟩
    rw [intercalate_eq_writeGroups, sizes, whole]
    intro empty
    rw [empty] at sizes
    cases sizes

theorem IsHyphenated.length (grouped : IsHyphenated digits cs) : cs.length = 36 := by
  obtain ⟨rfl, total⟩ := isHyphenated_iff.mp grouped
  simp [groupSizes, writeGroups, total]

/-! ## Reading -/

theorem readPlain_hyphenated (grouped : IsHyphenated digits cs) : readPlain cs = none := by
  refine Option.eq_none_iff_forall_ne_some.mpr fun row read => ?_
  obtain ⟨rfl, given⟩ := readPlain_eq_some.mp read
  exact absurd (given.length.symm.trans grouped.length) (by decide)

theorem readDigits_urn {mark : List Char} (given : IsDigits digits)
    (named : foldCase mark = urnMark) (grouped : IsHyphenated digits cs) :
    readDigits (mark ++ cs) = some digits := by
  have taken : readUrn (mark ++ cs) = some digits :=
    readUrn_eq_some.mpr ⟨mark, cs, rfl, named,
      readHyphenated_eq_some.mpr ⟨(isHyphenated_iff.mp grouped).1, given⟩⟩
  obtain ⟨first, rest, rfl, opens, -⟩ := List.map_eq_cons_iff.mp named
  have other : isHexDigit first = false := by
    rw [← isHexDigit_lowerAscii, opens]
    rfl
  -- The form in braces opens otherwise too, since no other character folds to the first of the mark.
  have braceless : readBraced (first :: (rest ++ cs)) = none := by
    refine Option.eq_none_iff_forall_ne_some.mpr fun row read => ?_
    obtain ⟨same, -⟩ := readBraced_eq_some.mp read
    obtain rfl := (List.cons.inj same).1
    cases opens
  obtain ⟨plain, hyphenated⟩ := read_none_of_opens other (rest ++ cs)
  rw [List.cons_append] at taken ⊢
  rw [readDigits, plain, hyphenated, braceless, taken]
  rfl

/-- The texts in one of the forms are read, and no others are. -/
theorem readDigits_eq_some : readDigits cs = some digits ↔ IsDigits digits ∧ Spells digits cs := by
  constructor
  · intro read
    have given := isDigits_of_readDigits read
    have grouped : ∀ {rest}, readHyphenated rest = some digits → IsHyphenated digits rest :=
      fun inner => isHyphenated_iff.mpr ⟨(readHyphenated_eq_some.mp inner).1, given.length⟩
    refine ⟨given, ?_⟩
    simp only [readDigits, Option.orElse_eq_or, Option.or_eq_some_iff] at read
    rcases read with plain | ⟨-, hyphenated | ⟨-, braced | ⟨-, urn⟩⟩⟩
    · obtain ⟨rfl, -⟩ := readPlain_eq_some.mp plain
      exact .plain
    · exact .hyphenated (grouped hyphenated)
    · obtain ⟨rfl, -⟩ := readBraced_eq_some.mp braced
      exact .braced (isHyphenated_iff.mpr ⟨rfl, given.length⟩)
    · obtain ⟨mark, rest, rfl, named, inner⟩ := readUrn_eq_some.mp urn
      exact .urn named (grouped inner)
  · rintro ⟨given, spelled⟩
    cases spelled with
    | plain => rw [readDigits, readPlain_eq_some.mpr ⟨rfl, given⟩, Option.orElse_some]
    | hyphenated grouped =>
      have read := readHyphenated_eq_some.mpr ⟨(isHyphenated_iff.mp grouped).1, given⟩
      rw [readDigits, readPlain_hyphenated grouped, read]
      rfl
    | braced grouped =>
      obtain ⟨rfl, -⟩ := isHyphenated_iff.mp grouped
      exact readDigits_bracedChars given
    | urn named grouped => exact readDigits_urn given named grouped

/-! ## Bytes -/

theorem length_le_utf8Len (cs : List Char) : cs.length ≤ String.utf8Len cs := by
  induction cs with
  | nil => exact Nat.zero_le 0
  | cons c rest ih =>
    rw [List.length_cons, String.utf8Len_cons]
    exact Nat.add_le_add ih c.utf8Size_pos

theorem utf8Len_of_ascii (ascii : ∀ c ∈ cs, c.toNat < 128) : String.utf8Len cs = cs.length := by
  induction cs with
  | nil => rfl
  | cons c rest ih =>
    obtain ⟨first, others⟩ := List.forall_mem_cons.mp ascii
    have one : c.utf8Size = 1 := Char.utf8Size_eq_one_iff.mpr (Nat.le_of_lt_succ first)
    rw [String.utf8Len_cons, List.length_cons, one, ih others]

theorem IsDigits.ascii (given : IsDigits digits) : ∀ c ∈ digits, c.toNat < 128 :=
  fun c member => toNat_lt_of_isHexDigit (List.all_eq_true.mp given.hex c member)

theorem IsHyphenated.utf8Len (grouped : IsHyphenated digits cs) (given : IsDigits digits) :
    String.utf8Len cs = 36 := by
  rw [utf8Len_of_ascii, grouped.length]
  intro c member
  rw [(isHyphenated_iff.mp grouped).1] at member
  rcases mem_writeGroups member with rfl | listed
  · decide
  · exact given.ascii c listed

/-- Of the texts with 36 bytes, in any script, only the hyphenated ones are read. -/
theorem readDigits_of_bytes (bytes : String.utf8Len cs = 36) : readDigits cs = readHyphenated cs := by
  refine Option.ext fun digits => ?_
  rw [readDigits_eq_some, readHyphenated_eq_some]
  constructor
  · rintro ⟨given, spelled⟩
    have short := bytes ▸ length_le_utf8Len cs
    -- The other forms have 32 bytes, or 38 and 45 characters and at least as many bytes.
    cases spelled with
    | plain =>
      rw [utf8Len_of_ascii given.ascii, given.length] at bytes
      cases bytes
    | hyphenated grouped => exact ⟨(isHyphenated_iff.mp grouped).1, given⟩
    | braced grouped => simp [grouped.length] at short
    | urn named grouped => simp [grouped.length, length_urnMark named] at short
  · rintro ⟨rfl, given⟩
    exact ⟨given, .hyphenated (isHyphenated_iff.mpr ⟨rfl, given.length⟩)⟩

/-- What is in the braces is read in any form, if it has 36 bytes. -/
theorem ofBraced?_eq (inner : String) :
    ofBraced? ("\x7b" ++ inner ++ "\x7d") =
      if inner.utf8ByteSize = 36 then (readDigits inner.toList).map canonicalText else none := by
  have opened : ("\x7b" ++ inner ++ "\x7d").toList = '{' :: (inner.toList ++ ['}']) := by
    simp
  have closed : (inner.toList ++ ['}']).getLast? = some '}' := List.getLast?_concat
  rw [ofBraced?, opened, readBraced, if_pos closed, List.dropLast_concat, ← String.utf8Len_toList]
  split
  next bytes => rw [readDigits_of_bytes bytes]
  next other =>
    refine Option.map_eq_none_iff.mpr (Option.eq_none_iff_forall_ne_some.mpr fun digits read => ?_)
    obtain ⟨groups, given⟩ := readHyphenated_eq_some.mp read
    exact other ((isHyphenated_iff.mpr ⟨groups, given.length⟩).utf8Len given)

/-! ## Canonical texts -/

variable {text canonical : String}

theorem normalizeGuid_eq_ok :
    normalizeGuid text = .ok canonical ↔ ofAnyForm? text = some canonical := by
  unfold normalizeGuid
  cases ofAnyForm? text <;> simp

theorem Writes.normalizeGuid (written : Writes text digits) :
    normalizeGuid text = .ok (canonicalText digits) := by
  rw [normalizeGuid_eq_ok, ofAnyForm?, readDigits_eq_some.mpr written, Option.map_some]

theorem exists_writes (accepted : normalizeGuid text = .ok canonical) :
    ∃ digits, Writes text digits := by
  obtain ⟨digits, read, -⟩ := Option.map_eq_some_iff.mp (normalizeGuid_eq_ok.mp accepted)
  exact ⟨digits, readDigits_eq_some.mp read⟩

theorem IsCanonical.isUpperBraced (form : IsCanonical canonical) : IsUpperBraced canonical := by
  obtain ⟨digits, given, rfl⟩ := form
  refine ⟨digits.map upperAscii, writeGroups groupSizes (digits.map upperAscii), ?_,
    isHyphenated_iff.mpr ⟨rfl, given.upper.length⟩, ?_⟩
  · intro c member
    obtain ⟨digit, listed, rfl⟩ := List.mem_map.mp member
    exact upperAscii_mem_hexDigits (List.all_eq_true.mp given.hex digit listed)
  · rw [canonicalText, String.toList_ofList]
    rfl

/-- Each GUID has one canonical text, groups of upper case digits in braces. Text in braces that is read
is the same as the canonical one up to case, and a canonical text is read as itself in either way. In
any form exactly the texts that write digits are read, and to one text exactly if the digits are the
same up to case. -/
theorem guids_canonicalised (text : String) :
    (∀ canonical, ofBraced? text = some canonical →
      IsUpperBraced canonical ∧ sameIgnoringCase canonical text ∧
        ofBraced? canonical = some canonical ∧ normalizeGuid text = .ok canonical) ∧
    (∀ canonical, normalizeGuid text = .ok canonical →
      normalizeGuid canonical = .ok canonical ∧ ofBraced? canonical = some canonical) ∧
    ((∃ canonical, normalizeGuid text = .ok canonical) ↔ ∃ digits, Writes text digits) ∧
    ∀ other digits others, Writes text digits → Writes other others →
      ((∃ canonical, normalizeGuid text = .ok canonical ∧ normalizeGuid other = .ok canonical) ↔
        foldCase digits = foldCase others) := by
  refine ⟨fun canonical read => ?_, fun canonical accepted => ?_, ?_, ?_⟩
  · have form := isCanonical_of_ofBraced? read
    have same := (ofBraced?_eq_some form).mp read
    refine ⟨form.isUpperBraced, ?_, form.ofBraced?,
      normalizeGuid_eq_ok.mpr (ofAnyForm?_of_ofBraced? read)⟩
    rwa [sameIgnoringCase_comm]
  · have form := isCanonical_of_ofAnyForm? (normalizeGuid_eq_ok.mp accepted)
    exact ⟨normalizeGuid_eq_ok.mpr (ofAnyForm?_of_ofBraced? form.ofBraced?), form.ofBraced?⟩
  · exact ⟨fun ⟨_, accepted⟩ => exists_writes accepted,
      fun ⟨digits, written⟩ => ⟨canonicalText digits, written.normalizeGuid⟩⟩
  · intro other digits others written otherWritten
    rw [written.normalizeGuid, otherWritten.normalizeGuid, foldCase_eq_iff,
      ← canonicalText_eq_iff written.1 otherWritten.1]
    constructor
    · rintro ⟨canonical, first, second⟩
      exact Except.ok.inj (first.trans second.symm)
    · intro same
      exact ⟨canonicalText others, congrArg _ same, rfl⟩

theorem guids_canonicalised_forms :
    let braced := "\x7b0b8b4f6b-1c3a-4c8e-9b7e-2d8e1a3c5f00\x7d"
    let canonical := "\x7b0B8B4F6B-1C3A-4C8E-9B7E-2D8E1A3C5F00\x7d"
    ofBraced? braced = some canonical ∧ sameIgnoringCase canonical braced ∧
      normalizeGuid braced = .ok canonical ∧ normalizeGuid canonical = .ok canonical ∧
      ∃ shared, normalizeGuid " 0b8b4f6b1c3a4c8e9b7e2d8e1a3c5f00\n" = .ok shared ∧
        normalizeGuid "URN:uuid:0B8B4F6B-1C3A-4C8E-9B7E-2D8E1A3C5F00" = .ok shared := by
  intro braced canonical
  have read : ofBraced? braced = some canonical := by
    unfold braced canonical
    decide
  obtain ⟨ofBraces, again, -, -⟩ := guids_canonicalised braced
  obtain ⟨-, same, -, accepted⟩ := ofBraces canonical read
  refine ⟨read, same, accepted, (again canonical accepted).1, ?_⟩
  have plain : Writes " 0b8b4f6b1c3a4c8e9b7e2d8e1a3c5f00\n"
      "0b8b4f6b1c3a4c8e9b7e2d8e1a3c5f00".toList := by
    have trimmed : trimChars " 0b8b4f6b1c3a4c8e9b7e2d8e1a3c5f00\n".toList =
        "0b8b4f6b1c3a4c8e9b7e2d8e1a3c5f00".toList := by decide
    rw [Writes, trimmed]
    exact ⟨⟨by decide, by decide⟩, .plain⟩
  have urn : Writes "URN:uuid:0B8B4F6B-1C3A-4C8E-9B7E-2D8E1A3C5F00"
      "0B8B4F6B1C3A4C8E9B7E2D8E1A3C5F00".toList := by
    have trimmed : trimChars "URN:uuid:0B8B4F6B-1C3A-4C8E-9B7E-2D8E1A3C5F00".toList =
        "URN:uuid:".toList ++ "0B8B4F6B-1C3A-4C8E-9B7E-2D8E1A3C5F00".toList := by decide
    rw [Writes, trimmed]
    exact ⟨⟨by decide, by decide⟩, .urn (by decide) (isHyphenated_iff.mpr (by decide))⟩
  obtain ⟨-, -, -, agree⟩ := guids_canonicalised " 0b8b4f6b1c3a4c8e9b7e2d8e1a3c5f00\n"
  exact (agree _ _ _ plain urn).mpr (by decide)

end VaultModels.Guid
