import Mathlib.Algebra.Ring.Nat
import VaultModels.Guid
import VaultModels.Proofs.Text.Blank
import VaultModels.Proofs.Text.CaseFold
import VaultModels.Proofs.Text.Decimal

/-!
# Canonical GUIDs

Writing groups of digits and reading them are inverse to each other, so each form of a GUID holds 32
digits and nothing else, and the canonical text is the braced form that stays as it is when it is
read again. A text is the same as a canonical one up to case exactly if it is the braced form of its
digits. The other three forms denote the digits too, but compare as different texts.
-/
namespace VaultModels.Guid

open Text

/-! ## Groups -/

section

variable {size : Nat} {sizes : List Nat} {cs digits : List Char}

theorem readGroups_cons (named : sizes ≠ []) :
    readGroups (size :: sizes) cs = some digits ↔
      ∃ group rest more, cs = group ++ '-' :: rest ∧ group.length = size ∧ group.all isHexDigit ∧
        readGroups sizes rest = some more ∧ digits = group ++ more := by
  rw [readGroups.eq_3 cs size sizes named]
  constructor
  · intro read
    split at read
    next fits =>
      split at read
      next rest cut =>
        obtain ⟨more, later, rfl⟩ := Option.map_eq_some_iff.mp read
        refine ⟨cs.take size, rest, more, ?_, fits.1, fits.2, later, rfl⟩
        rw [← cut, List.take_append_drop]
      · cases read
    · cases read
  · rintro ⟨group, rest, more, rfl, rfl, hex, later, rfl⟩
    rw [List.take_left, if_pos ⟨rfl, hex⟩, List.drop_left]
    simp only [later, Option.map_some]

theorem writeGroups_cons (named : sizes ≠ []) {group more : List Char}
    (fits : group.length = size) :
    writeGroups (size :: sizes) (group ++ more) = group ++ '-' :: writeGroups sizes more := by
  subst fits
  rw [writeGroups.eq_3 _ group.length sizes named, List.take_left, List.drop_left]

/-- Groups are read exactly from what writing the digits gives. -/
theorem readGroups_eq_some (named : sizes ≠ []) :
    readGroups sizes cs = some digits ↔
      cs = writeGroups sizes digits ∧ digits.length = sizes.sum ∧ digits.all isHexDigit := by
  induction sizes generalizing cs digits with
  | nil => exact absurd rfl named
  | cons size sizes ih =>
    by_cases last : sizes = []
    · subst last
      simp only [readGroups, writeGroups, List.sum_cons, List.sum_nil, Nat.add_zero]
      constructor
      · intro read
        split at read
        next fits =>
          cases read
          exact ⟨rfl, fits⟩
        · cases read
      · rintro ⟨rfl, fits⟩
        rw [if_pos fits]
    · rw [readGroups_cons last]
      constructor
      · rintro ⟨group, rest, more, rfl, length, hex, later, rfl⟩
        obtain ⟨rfl, total, others⟩ := (ih last).mp later
        rw [writeGroups_cons last length]
        simp_all
      · rintro ⟨rfl, total, hex⟩
        rw [List.sum_cons] at total
        have length : (digits.take size).length = size := by
          rw [List.length_take]
          omega
        rw [← List.take_append_drop size digits, List.all_append, Bool.and_eq_true] at hex
        refine ⟨digits.take size, writeGroups sizes (digits.drop size), digits.drop size, ?_,
          length, hex.1, (ih last).mpr ⟨rfl, by simp [total], hex.2⟩,
          (List.take_append_drop size digits).symm⟩
        rw [← writeGroups_cons last length, List.take_append_drop]

theorem mem_writeGroups {c : Char} (member : c ∈ writeGroups sizes digits) :
    c = '-' ∨ c ∈ digits := by
  fun_induction writeGroups sizes digits with
  | case1 => cases member
  | case2 => exact .inr member
  | case3 digits size sizes _ ih =>
    rcases List.mem_append.mp member with front | back
    · exact .inr (List.mem_of_mem_take front)
    · rcases List.mem_cons.mp back with hyphen | rest
      · exact .inl hyphen
      · exact (ih rest).imp_right List.mem_of_mem_drop

/-- A change of characters that keeps hyphens goes to the digits. -/
theorem map_writeGroups (change : Char → Char) (hyphen : change '-' = '-') (named : sizes ≠ [])
    (total : digits.length = sizes.sum) :
    (writeGroups sizes digits).map change = writeGroups sizes (digits.map change) := by
  induction sizes generalizing digits with
  | nil => exact absurd rfl named
  | cons size sizes ih =>
    by_cases last : sizes = []
    · subst last
      rfl
    · rw [List.sum_cons] at total
      have length : (digits.take size).length = size := by
        rw [List.length_take]
        omega
      rw [← List.take_append_drop size digits, writeGroups_cons last length, List.map_append,
        List.map_cons, hyphen, ih last (by simp [total]), List.map_append,
        writeGroups_cons last (by rw [List.length_map, length])]

/-- What folds to groups of digits has its hyphens where the groups have theirs. -/
theorem exists_groups_of_foldCase (named : sizes ≠ []) (total : digits.length = sizes.sum)
    (folded : foldCase cs = writeGroups sizes digits) :
    ∃ written, cs = writeGroups sizes written ∧ foldCase written = digits := by
  induction sizes generalizing cs digits with
  | nil => exact absurd rfl named
  | cons size sizes ih =>
    by_cases last : sizes = []
    · subst last
      exact ⟨cs, rfl, folded⟩
    · rw [List.sum_cons] at total
      have length : (digits.take size).length = size := by
        rw [List.length_take]
        omega
      rw [← List.take_append_drop size digits, writeGroups_cons last length] at folded
      obtain ⟨group, rest, rfl, front, behind⟩ := List.map_eq_append_iff.mp folded
      obtain ⟨hyphen, more, rfl, same, later⟩ := List.map_eq_cons_iff.mp behind
      obtain ⟨written, rfl, others⟩ := ih last (by simp [total]) later
      obtain rfl := eq_of_lowerAscii same (by decide)
      have fits : group.length = size := by rw [← length, ← front, List.length_map]
      refine ⟨group ++ written, (writeGroups_cons last fits).symm, ?_⟩
      rw [foldCase, List.map_append, front]
      exact (congrArg (digits.take size ++ ·) others).trans (List.take_append_drop size digits)

end

/-! ## Digits -/

theorem isHexDigit_lowerAscii (c : Char) : isHexDigit (lowerAscii c) = isHexDigit c := by
  by_cases large : 'A' ≤ c ∧ c ≤ 'Z'
  · obtain ⟨n, bound, rfl⟩ := exists_of_large large
    have alike : ∀ n < 26, isHexDigit (Char.ofNat (97 + n)) = isHexDigit (Char.ofNat (65 + n)) := by
      decide
    rw [lowerAscii_large n bound, alike n bound]
  · rw [lowerAscii, if_neg large]

/-- The 32 digits of a GUID, in either case. -/
structure IsDigits (digits : List Char) : Prop where
  length : digits.length = 32
  hex : digits.all isHexDigit

theorem isDigits_foldCase {digits : List Char} : IsDigits (foldCase digits) ↔ IsDigits digits := by
  have hex : (foldCase digits).all isHexDigit = digits.all isHexDigit := by
    rw [foldCase, List.all_map]
    exact congrArg digits.all (funext isHexDigit_lowerAscii)
  constructor
  · rintro ⟨length, only⟩
    exact ⟨by simpa [foldCase] using length, hex ▸ only⟩
  · rintro ⟨length, only⟩
    exact ⟨by simpa [foldCase] using length, hex ▸ only⟩

theorem IsDigits.upper {digits : List Char} (given : IsDigits digits) :
    IsDigits (digits.map upperAscii) := by
  rw [← isDigits_foldCase, foldCase_map_upper, isDigits_foldCase]
  exact given

/-- The braced form of digits, in the case they are written in. -/
def bracedChars (digits : List Char) : List Char :=
  '{' :: (writeGroups groupSizes digits ++ ['}'])

theorem canonicalChars_eq (digits : List Char) :
    canonicalChars digits = bracedChars (digits.map upperAscii) := rfl

theorem readPlain_eq_some {cs digits : List Char} :
    readPlain cs = some digits ↔ cs = digits ∧ IsDigits digits := by
  unfold readPlain
  constructor
  · intro read
    split at read
    next fits =>
      cases read
      exact ⟨rfl, fits.1, fits.2⟩
    · cases read
  · rintro ⟨rfl, given⟩
    exact if_pos ⟨given.length, given.hex⟩

theorem readHyphenated_eq_some {cs digits : List Char} :
    readHyphenated cs = some digits ↔ cs = writeGroups groupSizes digits ∧ IsDigits digits := by
  rw [readHyphenated, readGroups_eq_some (by decide)]
  exact and_congr_right fun _ => ⟨fun ⟨length, hex⟩ => ⟨length, hex⟩, fun given =>
    ⟨given.length, given.hex⟩⟩

theorem readBraced_eq_some {cs digits : List Char} :
    readBraced cs = some digits ↔ cs = bracedChars digits ∧ IsDigits digits := by
  unfold readBraced
  constructor
  · intro read
    split at read
    next rest =>
      split at read
      next closed =>
        obtain ⟨inner, given⟩ := readHyphenated_eq_some.mp read
        obtain ⟨front, rfl⟩ := List.getLast?_eq_some_iff.mp closed
        rw [List.dropLast_concat] at inner
        exact ⟨by rw [inner, bracedChars], given⟩
      · cases read
    · cases read
  · rintro ⟨rfl, given⟩
    change (if (writeGroups groupSizes digits ++ ['}']).getLast? = some '}' then
      readHyphenated (writeGroups groupSizes digits ++ ['}']).dropLast else none) = some digits
    rw [if_pos List.getLast?_concat, List.dropLast_concat]
    exact readHyphenated_eq_some.mpr ⟨rfl, given⟩

theorem length_urnMark {mark : List Char} (named : foldCase mark = urnMark) : mark.length = 9 := by
  rw [← List.length_map lowerAscii, ← foldCase, named]
  rfl

theorem readUrn_eq_some {cs digits : List Char} :
    readUrn cs = some digits ↔
      ∃ mark rest, cs = mark ++ rest ∧ foldCase mark = urnMark ∧
        readHyphenated rest = some digits := by
  unfold readUrn
  constructor
  · intro read
    split at read
    next named => exact ⟨cs.take 9, cs.drop 9, (List.take_append_drop 9 cs).symm, named, read⟩
    · cases read
  · rintro ⟨mark, rest, rfl, named, read⟩
    have length := length_urnMark named
    rw [List.take_left' length, List.drop_left' length, if_pos named, read]

/-- Each of the four forms holds 32 digits. -/
theorem isDigits_of_readDigits {cs digits : List Char} (read : readDigits cs = some digits) :
    IsDigits digits := by
  simp only [readDigits, Option.orElse_eq_or, Option.or_eq_some_iff] at read
  rcases read with plain | ⟨-, hyphenated | ⟨-, braced | ⟨-, urn⟩⟩⟩
  · exact (readPlain_eq_some.mp plain).2
  · exact (readHyphenated_eq_some.mp hyphenated).2
  · exact (readBraced_eq_some.mp braced).2
  · obtain ⟨_, _, -, -, hyphenated⟩ := readUrn_eq_some.mp urn
    exact (readHyphenated_eq_some.mp hyphenated).2

/-- Text that opens with another character is in neither of the forms that open with a digit. -/
theorem read_none_of_opens {c : Char} (other : isHexDigit c = false) (rest : List Char) :
    readPlain (c :: rest) = none ∧ readHyphenated (c :: rest) = none := by
  constructor
  · rw [readPlain, List.all_cons, other, if_neg]
    rintro ⟨-, ⟨⟩⟩
  · rw [readHyphenated, groupSizes, readGroups.eq_3 _ _ _ (by simp), List.take_succ_cons,
      List.all_cons, other, if_neg]
    rintro ⟨-, ⟨⟩⟩

/-- Text in braces is read as the braced form and as no other. -/
theorem readDigits_bracedChars {digits : List Char} (given : IsDigits digits) :
    readDigits (bracedChars digits) = some digits := by
  obtain ⟨plain, hyphenated⟩ :=
    read_none_of_opens (by decide : isHexDigit '{' = false) (writeGroups groupSizes digits ++ ['}'])
  rw [← bracedChars] at plain hyphenated
  rw [readDigits, plain, hyphenated, readBraced_eq_some.mpr ⟨rfl, given⟩]
  rfl

theorem foldCase_bracedChars {digits : List Char} (given : IsDigits digits) :
    foldCase (bracedChars digits) = bracedChars (foldCase digits) := by
  have groups := map_writeGroups lowerAscii (by decide) (by decide : groupSizes ≠ []) given.length
  rw [bracedChars, foldCase, List.map_cons, List.map_append, groups]
  rfl

theorem isTrimmed_bracedChars (digits : List Char) : IsTrimmed (bracedChars digits) := by
  constructor
  · rintro c ⟨⟩
    decide
  · intro c last
    rw [bracedChars, ← List.cons_append, List.getLast?_concat] at last
    cases last
    decide

/-- What folds to a braced form is one. -/
theorem exists_braced_of_foldCase {cs digits : List Char} (given : IsDigits digits)
    (folded : foldCase cs = bracedChars digits) :
    ∃ written, cs = bracedChars written ∧ foldCase written = digits := by
  obtain ⟨front, rest, rfl, opens, inner⟩ := List.map_eq_cons_iff.mp folded
  obtain ⟨groups, back, rfl, body, closes⟩ := List.map_eq_append_iff.mp inner
  obtain ⟨last, rfl, same⟩ := List.map_eq_singleton_iff.mp closes
  obtain rfl := eq_of_lowerAscii opens (by decide)
  obtain rfl := eq_of_lowerAscii same (by decide)
  obtain ⟨written, rfl, digitsOf⟩ := exists_groups_of_foldCase (by decide) given.length body
  exact ⟨written, rfl, digitsOf⟩

/-! ## Canonical texts -/

/-- The canonical text of some GUID. -/
def IsCanonical (text : String) : Prop := ∃ digits, IsDigits digits ∧ text = canonicalText digits

variable {text canonical : String}

theorem isCanonical_of_ofBraced? (read : ofBraced? text = some canonical) :
    IsCanonical canonical := by
  obtain ⟨digits, braced, rfl⟩ := Option.map_eq_some_iff.mp read
  exact ⟨digits, (readBraced_eq_some.mp braced).2, rfl⟩

theorem isCanonical_of_ofAnyForm? (read : ofAnyForm? text = some canonical) :
    IsCanonical canonical := by
  obtain ⟨digits, given, rfl⟩ := Option.map_eq_some_iff.mp read
  exact ⟨digits, isDigits_of_readDigits given, rfl⟩

theorem foldCase_canonicalText {digits : List Char} (given : IsDigits digits) :
    foldCase (canonicalText digits).toList = bracedChars (foldCase digits) := by
  rw [canonicalText, String.toList_ofList, canonicalChars_eq, foldCase_bracedChars given.upper,
    foldCase_map_upper]

/-- The braced form of a GUID is the same text as the canonical one up to case, and no other text
is. -/
theorem ofBraced?_eq_some (form : IsCanonical canonical) :
    ofBraced? text = some canonical ↔ sameIgnoringCase text canonical := by
  obtain ⟨digits, given, rfl⟩ := form
  rw [sameIgnoringCase_iff, foldCase_canonicalText given, ofBraced?, Option.map_eq_some_iff]
  constructor
  · rintro ⟨written, braced, same⟩
    obtain ⟨spelled, givenWritten⟩ := readBraced_eq_some.mp braced
    rw [← foldCase_canonicalText given, ← same, foldCase_canonicalText givenWritten, spelled,
      foldCase_bracedChars givenWritten]
  · intro folded
    obtain ⟨written, spelled, same⟩ :=
      exists_braced_of_foldCase (isDigits_foldCase.mpr given) folded
    have givenWritten : IsDigits written := by rwa [← isDigits_foldCase, same, isDigits_foldCase]
    refine ⟨written, readBraced_eq_some.mpr ⟨spelled, givenWritten⟩, ?_⟩
    rw [canonicalText, canonicalText, canonicalChars_eq, canonicalChars_eq,
      (foldCase_eq_iff written digits).mp same]

/-- Each of the texts that are read as braced is read the same in any form. -/
theorem ofAnyForm?_of_ofBraced? (read : ofBraced? text = some canonical) :
    ofAnyForm? text = some canonical := by
  obtain ⟨digits, braced, rfl⟩ := Option.map_eq_some_iff.mp read
  obtain ⟨spelled, given⟩ := readBraced_eq_some.mp braced
  rw [ofAnyForm?, spelled, trimChars_of_isTrimmed (isTrimmed_bracedChars digits),
    readDigits_bracedChars given]
  rfl

theorem IsCanonical.ofBraced? (form : IsCanonical canonical) :
    ofBraced? canonical = some canonical :=
  (ofBraced?_eq_some form).mpr (sameIgnoringCase_refl canonical)

/-- A braced GUID has no blanks around it. -/
theorem trim_of_ofBraced? (read : ofBraced? text = some canonical) : Text.trim text = text := by
  obtain ⟨digits, braced, rfl⟩ := Option.map_eq_some_iff.mp read
  rw [Text.trim, (readBraced_eq_some.mp braced).1,
    trimChars_of_isTrimmed (isTrimmed_bracedChars digits), ← (readBraced_eq_some.mp braced).1,
    String.ofList_toList]

/-- A braced GUID is no number. -/
theorem readInt32?_of_ofBraced? (read : ofBraced? text = some canonical) :
    readInt32? text.toList = none := by
  obtain ⟨digits, braced, rfl⟩ := Option.map_eq_some_iff.mp read
  rw [(readBraced_eq_some.mp braced).1, bracedChars]
  exact readInt32?_eq_none (by decide) (by decide) _

end VaultModels.Guid
