import VaultModels.Name

/-!
# Identifiers

What cleaning a name aims at, said without cleaning: characters that may stand in an identifier, a
first one that may open it, and no keyword. Cleaning always gets there and leaves such names alone,
so `isValid` decides exactly this.
-/
namespace VaultModels.Name

open Text

/-- A spelling that a C# identifier may have. -/
structure IsIdentifier (cs : List Char) : Prop where
  parts_only : ∀ c ∈ cs, isPart c
  starts_well : startsWell cs
  not_keyword : isKeyword (String.ofList cs) = false

theorem isPart_of_isStart {c : Char} (start : isStart c) : isPart c := by
  simp only [isStart, Bool.or_eq_true, beq_iff_eq] at start
  rcases start with letter | rfl
  · simp [isPart, letter]
  · decide +kernel

/-- Keywords open with a small letter, so a name that opens otherwise is none. -/
theorem isKeyword_opens {cs : List Char} (keyword : isKeyword (String.ofList cs)) :
    cs.head?.any Char.isLower := by
  have small : ∀ k ∈ keywords, k.toList.head?.any Char.isLower := by decide +kernel
  have member : String.ofList cs ∈ keywords := by simpa [isKeyword] using keyword
  have opens := small _ member
  rwa [String.toList_ofList] at opens

theorem not_keyword_cons {c : Char} (cs : List Char) (large : c.isLower = false) :
    isKeyword (String.ofList (c :: cs)) = false := by
  cases keyword : isKeyword (String.ofList (c :: cs)) with
  | false => rfl
  | true => simpa [large] using isKeyword_opens keyword

theorem parts_eq_self {cs : List Char} (only : ∀ c ∈ cs, isPart c) : parts cs = cs :=
  List.filter_eq_self.mpr only

theorem identifier_cleanChars (cs : List Char) : IsIdentifier (cleanChars cs) := by
  have kept : ∀ c ∈ parts cs, isPart c := fun c member => (List.mem_filter.mp member).2
  unfold cleanChars
  dsimp only
  split
  next fits =>
    simp only [Bool.and_eq_true, Bool.not_eq_true'] at fits
    exact ⟨kept, fits.1, fits.2⟩
  next =>
    refine ⟨?_, by simp [startsWell, isStart], not_keyword_cons _ rfl⟩
    intro c member
    rcases List.mem_cons.mp member with rfl | tail
    · decide +kernel
    · exact kept c tail

theorem cleanChars_of_identifier {cs : List Char} (identifier : IsIdentifier cs) :
    cleanChars cs = cs := by
  simp [cleanChars, parts_eq_self identifier.parts_only, identifier.starts_well,
    identifier.not_keyword]

/-- Valid names are the identifiers, with no mention of cleaning. -/
theorem isValid_iff (name : String) : isValid name ↔ IsIdentifier name.toList := by
  simp only [isValid, clean, Bool.and_eq_true, bne_iff_ne, ne_eq, beq_iff_eq]
  constructor
  · rintro ⟨-, fixed⟩
    have same : cleanChars name.toList = name.toList := by
      rw [← String.toList_ofList (l := cleanChars name.toList), fixed]
    rw [← same]
    exact identifier_cleanChars _
  · intro identifier
    refine ⟨?_, ?_⟩
    · rintro rfl
      simpa [startsWell] using identifier.starts_well
    · rw [cleanChars_of_identifier identifier, String.ofList_toList]

theorem clean_of_isValid {name : String} (valid : isValid name) : clean name = name := by
  rw [clean, cleanChars_of_identifier ((isValid_iff name).mp valid), String.ofList_toList]

theorem isValid_clean (name : String) : isValid (clean name) := by
  rw [isValid_iff, clean, String.toList_ofList]
  exact identifier_cleanChars _

/-- A valid name stays valid behind an opening of its own that no keyword has. -/
theorem isValid_append {opening name : String} {front : Char} {more : List Char}
    (opens : opening.toList = front :: more) (start : isStart front)
    (large : front.isLower = false) (rest : more.all isPart) (valid : isValid name) :
    isValid (opening ++ name) := by
  rw [isValid_iff] at valid ⊢
  simp only [String.toList_append, opens, List.cons_append]
  refine ⟨?_, start, not_keyword_cons _ large⟩
  intro c member
  simp only [List.mem_cons, List.mem_append] at member
  rcases member with rfl | inside | tail
  · exact isPart_of_isStart start
  · exact List.all_eq_true.mp rest c inside
  · exact valid.parts_only c tail

theorem isValid_ne_nil {name : String} (valid : isValid name) : name.toList ≠ [] := by
  intro empty
  simpa [empty, startsWell] using ((isValid_iff name).mp valid).starts_well

/-- Neither separators nor dots stand in an identifier. -/
theorem isValid_plain {name : String} (valid : isValid name) :
    '/' ∉ name.toList ∧ '.' ∉ name.toList := by
  have only := ((isValid_iff name).mp valid).parts_only
  refine ⟨fun member => ?_, fun member => ?_⟩
  · exact absurd (only _ member) (by decide +kernel)
  · exact absurd (only _ member) (by decide +kernel)

/-! ## Cleaning as a retraction -/

/-- A letter or `_` opens the name, letters, numbers, marks, format characters and connectors are all
that stands in it, and it is not reserved. -/
structure IsLegal (name : String) : Prop where
  opened : ∃ c rest, name.toList = c :: rest ∧ (isLetter c ∨ c = '_')
  permitted : ∀ c ∈ name.toList, isLetter c ∨ isLetterNumber c ∨ isDecimalDigit c ∨ isMark c ∨
    isFormat c ∨ isConnector c
  unreserved : name ∉ keywords

/-- The characters make no name without `_` in front of them. -/
def NeedsOpening (cs : List Char) : Prop :=
  cs = [] ∨ (∃ c rest, cs = c :: rest ∧ ¬ isLetter c ∧ c ≠ '_') ∨ String.ofList cs ∈ keywords

theorem isPart_iff (c : Char) :
    isPart c ↔ isLetter c ∨ isLetterNumber c ∨ isDecimalDigit c ∨ isMark c ∨ isFormat c ∨
      isConnector c := by
  simp only [isPart, Bool.or_eq_true, or_assoc]

theorem isKeyword_iff (name : String) : isKeyword name ↔ name ∈ keywords := by
  simp [isKeyword]

theorem startsWell_iff (cs : List Char) :
    startsWell cs ↔ ∃ c rest, cs = c :: rest ∧ (isLetter c ∨ c = '_') := by
  cases cs with
  | nil => simp [startsWell]
  | cons c rest => simp [startsWell, isStart]

theorem isLegal_iff (name : String) : IsLegal name ↔ IsIdentifier name.toList := by
  constructor
  · intro legal
    refine ⟨fun c member => (isPart_iff c).mpr (legal.permitted c member),
      (startsWell_iff _).mpr legal.opened, Bool.eq_false_iff.mpr fun keyword => ?_⟩
    rw [String.ofList_toList, isKeyword_iff] at keyword
    exact legal.unreserved keyword
  · intro identifier
    refine ⟨(startsWell_iff _).mp identifier.starts_well,
      fun c member => (isPart_iff c).mp (identifier.parts_only c member), fun reserved => ?_⟩
    have free := identifier.not_keyword
    rw [String.ofList_toList] at free
    exact absurd ((isKeyword_iff name).mpr reserved) (Bool.eq_false_iff.mp free)

theorem needsOpening_iff (cs : List Char) :
    NeedsOpening cs ↔ (startsWell cs && !isKeyword (String.ofList cs)) = false := by
  rw [NeedsOpening, ← isKeyword_iff, Bool.and_eq_false_iff, Bool.not_eq_false', ← or_assoc]
  refine or_congr_left ?_
  cases cs with
  | nil => simp [startsWell]
  | cons c rest => simp [startsWell, isStart]

/-- `_` is put in front of what is kept exactly where it is needed. -/
theorem toList_clean (name : String) :
    (NeedsOpening (parts name.toList) ↔ (clean name).toList = '_' :: parts name.toList) ∧
      (¬ NeedsOpening (parts name.toList) ↔ (clean name).toList = parts name.toList) := by
  rw [needsOpening_iff, clean, String.toList_ofList, cleanChars]
  cases startsWell (parts name.toList) && !isKeyword (String.ofList (parts name.toList)) <;> simp

/-- Cleaning takes any text to a legal name, by dropping what is not permitted and putting `_` in front
where the rest needs it, and it leaves legal names and no others as they are. -/
theorem clean_retracts (name : String) :
    IsLegal (clean name) ∧
      (let kept := name.toList.filter isPart
       (NeedsOpening kept ↔ (clean name).toList = '_' :: kept) ∧
         (¬ NeedsOpening kept ↔ (clean name).toList = kept)) ∧
      clean (clean name) = clean name ∧
      (clean name = name ↔ IsLegal name) := by
  have legal : IsLegal (clean name) :=
    (isLegal_iff _).mpr ((isValid_iff _).mp (isValid_clean name))
  refine ⟨legal, toList_clean name, clean_of_isValid (isValid_clean name), ?_, ?_⟩
  · intro same
    rwa [same] at legal
  · intro given
    exact clean_of_isValid ((isValid_iff name).mpr ((isLegal_iff name).mp given))

end VaultModels.Name
