import VaultModels.Proofs.Name.Scope

/-!
# Names without their format characters

C# takes two identifiers for the same if they differ in format characters alone (lexical grammar,
section 2.4.2), while names are handed out by their full spelling. So names that are distinct as they
are written may be one name for the compiler, and one that is no keyword may be a keyword for it. Both
are characterised exactly: the names stay distinct if they are what a scope would hand out that never
sees a format character, and only a name that is left to the type itself may hide a keyword.
-/
namespace VaultModels.Name

open Text

/-- The name as C# compares it. -/
def withoutFormat (name : String) : String :=
  String.ofList (name.toList.filter (!isFormat ·))

/-- Seen through `view`, the names of a type's members are distinct, none is that of the type and none
is a keyword. -/
structure KeptApart (view : String → String) (typeName : String) (names : List String) : Prop where
  distinct : (names.map view).Nodup
  from_type : ∀ name ∈ names, view name ≠ view typeName
  not_keyword : ∀ name ∈ names, isKeyword (view name) = false

/-- The names that the members of a type get for their display names. -/
def memberNames (typeName : String) (displayNames : List String) : List String :=
  ((Scope.empty.reserve typeName).claimAll (displayNames.map clean)).1

variable {typeName : String} {displayNames : List String}

theorem not_isFormat {c : Char} (small : c.toNat < 0xAD) : isFormat c = false := by
  have large : ∀ range ∈ formatRanges, 0xAD ≤ range.first := by decide
  refine Bool.eq_false_iff.mpr fun format => ?_
  obtain ⟨range, listed, holds⟩ := List.any_eq_true.mp format
  have bound := large range listed
  simp only [Range.holds, Bool.and_eq_true, decide_eq_true_eq] at holds
  omega

theorem withoutFormat_keepsNumbers : KeepsNumbers withoutFormat := by
  intro base n
  have digits : (natChars n).filter (!isFormat ·) = natChars n := by
    refine List.filter_eq_self.mpr fun c member => ?_
    have digit := isDigit_of_mem_natChars n c member
    simp only [isDigit, Bool.and_eq_true, decide_eq_true_eq, Char.le_def,
      UInt32.le_iff_toNat_le] at digit
    rw [not_isFormat, Bool.not_false]
    exact Nat.lt_of_le_of_lt digit.2 (by decide)
  have underscore : isFormat '_' = false := not_isFormat (by decide)
  apply String.toList_injective
  simp [withoutFormat, Scope.toList_suffixed, underscore, digits]

/-- The text has no format character. -/
def isFormatFree (text : String) : Bool := text.toList.all (!isFormat ·)

theorem withoutFormat_of_free {text : String} (free : isFormatFree text) :
    withoutFormat text = text := by
  rw [withoutFormat, List.filter_eq_self.mpr (List.all_eq_true.mp free), String.ofList_toList]

theorem isFormatFree_clean {text : String} (free : isFormatFree text) :
    isFormatFree (clean text) := by
  have kept : (parts text.toList).all (!isFormat ·) := by
    refine List.all_eq_true.mpr fun c member => ?_
    exact List.all_eq_true.mp free c (List.mem_filter.mp member).1
  rw [isFormatFree, clean, String.toList_ofList, cleanChars]
  split
  · exact kept
  · rw [List.all_cons, kept, not_isFormat (by decide)]
    rfl

theorem isValid_of_mem_memberNames {name : String}
    (member : name ∈ memberNames typeName displayNames) : isValid name := by
  refine Scope.claimAll_isValid (fun base asked => ?_) name member
  obtain ⟨display, -, rfl⟩ := List.mem_map.mp asked
  exact isValid_clean display

theorem length_memberNames (typeName : String) (displayNames : List String) :
    (memberNames typeName displayNames).length = displayNames.length := by
  rw [memberNames, Scope.length_claimAll, List.length_map]

/-- As they are written, the names are kept apart. -/
theorem memberNames_keptApart (typeName : String) (displayNames : List String) :
    KeptApart id typeName (memberNames typeName displayNames) where
  distinct := by
    rw [List.map_id]
    exact Scope.claimAll_nodup _ _
  from_type := by
    rintro name member rfl
    exact Scope.claimAll_free _ member List.mem_cons_self
  not_keyword := by
    intro name member
    simpa using ((isValid_iff name).mp (isValid_of_mem_memberNames member)).not_keyword

/-- A name hides a keyword only if it is a cleaned display name that hides one. -/
theorem keywords_hidden_iff :
    (∀ name ∈ memberNames typeName displayNames, isKeyword (withoutFormat name) = false) ↔
      ∀ display ∈ displayNames, isKeyword (withoutFormat (clean display)) →
        clean display = typeName := by
  constructor
  · intro clear display listed hidden
    rcases (Scope.empty.reserve typeName).mem_claimAll_or_used _
      (List.mem_map_of_mem (f := clean) listed) with named | reserved
    · rw [clear _ named] at hidden
      cases hidden
    · simpa [Scope.empty, Scope.reserve] using reserved
  · intro only name member
    obtain ⟨base, asked, shape⟩ := Scope.base_of_mem_claimAll member
    obtain ⟨display, listed, rfl⟩ := List.mem_map.mp asked
    rcases shape with rfl | ⟨n, rfl⟩
    · refine Bool.eq_false_iff.mpr fun hidden => ?_
      exact (memberNames_keptApart typeName displayNames).from_type _ member
        (only display listed hidden)
    · rw [withoutFormat_keepsNumbers]
      exact not_keyword_of_underscore (by simp [Scope.toList_suffixed])

/-- As they are compared, the names are kept apart exactly if they look like the names that a scope
would hand out which sees no format characters, and no display name but the type's own hides a
keyword. -/
theorem memberNames_compared_iff (typeName : String) (displayNames : List String) :
    KeptApart withoutFormat typeName (memberNames typeName displayNames) ↔
      (memberNames typeName displayNames).map withoutFormat =
          ((Scope.empty.reserve (withoutFormat typeName)).claimAll
            (displayNames.map fun display => withoutFormat (clean display))).1 ∧
        ∀ display ∈ displayNames, isKeyword (withoutFormat (clean display)) →
          clean display = typeName := by
  have commutes := (Scope.empty.reserve typeName).claimAll_map_iff (displayNames.map clean)
    withoutFormat_keepsNumbers
  rw [List.map_map] at commutes
  constructor
  · rintro ⟨distinct, from_type, not_keyword⟩
    refine ⟨commutes.mp ⟨distinct, fun name member => ?_⟩, keywords_hidden_iff.mp not_keyword⟩
    simpa [Scope.empty, Scope.reserve] using from_type name member
  · rintro ⟨same, only⟩
    obtain ⟨distinct, free⟩ := commutes.mpr same
    refine ⟨distinct, fun name member => ?_, keywords_hidden_iff.mpr only⟩
    simpa [Scope.empty, Scope.reserve] using free name member

/-- Where the schema has no format characters, nothing changes by leaving them out. -/
theorem memberNames_formatFree (ofType : isFormatFree typeName)
    (ofMembers : ∀ display ∈ displayNames, isFormatFree display) :
    KeptApart withoutFormat typeName (memberNames typeName displayNames) := by
  have same : ∀ name ∈ memberNames typeName displayNames, withoutFormat name = name := by
    intro name member
    obtain ⟨base, asked, shape⟩ := Scope.base_of_mem_claimAll member
    obtain ⟨display, listed, rfl⟩ := List.mem_map.mp asked
    have seen := withoutFormat_of_free (isFormatFree_clean (ofMembers display listed))
    rcases shape with rfl | ⟨n, rfl⟩
    · exact seen
    · rw [withoutFormat_keepsNumbers, seen]
  obtain ⟨distinct, from_type, not_keyword⟩ := memberNames_keptApart typeName displayNames
  refine ⟨?_, fun name member => ?_, fun name member => ?_⟩
  · rw [List.map_congr_left same]
    exact distinct
  · rw [same name member, withoutFormat_of_free ofType]
    exact from_type name member
  · rw [same name member]
    exact not_keyword name member

end VaultModels.Name
