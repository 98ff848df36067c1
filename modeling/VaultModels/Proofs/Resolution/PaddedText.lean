import VaultModels.Proofs.Resolution.AliasText

/-!
# Text references with blanks around them

Numbers and braced GUIDs are read without the blanks around them, so padded they mean what they mean
alone. An alias is looked up as it is written while declared aliases are compared without their
blanks, so padded it meets none. Hence blanks make a difference exactly to an alias that finds an
element. Only what a reference comes to is compared here, and not which queries are made.
-/
namespace VaultModels.Resolution

open Schema Text

/-- The sort of an error, whatever texts it carries. -/
inductive Cause where
  | notFound
  | unresolved
  | unrecognized
  | argument
  | backend
  deriving DecidableEq, Repr

def Error.cause : Error → Cause
  | .notFound _ _ => .notFound
  | .unresolved _ _ => .unresolved
  | .unrecognized _ => .unrecognized
  | .argument _ => .argument
  | .backend _ => .backend

/-- The text with other characters around it. -/
def padded (before : List Char) (text : String) (after : List Char) : String :=
  String.ofList (before ++ text.toList ++ after)

variable {snapshot : Snapshot} {kind : Kind} {text request : String} {before after : List Char}

/-! ## How padded text is read -/

theorem trim_padded (front : before.all isBlank) (back : after.all isBlank) (text : String) :
    trim (padded before text after) = trim text := by
  rw [trim, padded, String.toList_ofList, trimChars_padded front back, trim]

/-- Blanks that are put around a text are cut off again, so there are none if nothing is cut off. -/
theorem padded_eq_of_trimmed (front : before.all isBlank) (back : after.all isBlank)
    (trimmed : trim (padded before text after) = padded before text after) :
    padded before text after = text := by
  have chars : trimChars text.toList = before ++ text.toList ++ after := by
    rw [trim_padded front back, trim, padded] at trimmed
    exact String.ofList_injective trimmed
  have short := length_trimChars_le text.toList
  rw [chars, List.length_append, List.length_append] at short
  obtain rfl : before = [] := List.eq_nil_of_length_eq_zero (by omega)
  obtain rfl : after = [] := List.eq_nil_of_length_eq_zero (by omega)
  rw [padded, List.nil_append, List.append_nil, String.ofList_toList]

/-- What is read depends on the text without its blanks, but an alias stays as it is written. -/
theorem classify_of_trim {left right : String} (same : trim left = trim right) :
    classify left =
      match classify right with
      | .ok (.aliased _) => .ok (.aliased left)
      | reading => reading := by
  unfold classify
  rw [same]
  dsimp only
  split
  · rfl
  · cases readInt32? (trim right).toList with
    | some id => rfl
    | none => cases Guid.ofBraced? (trim right) <;> rfl

theorem eq_of_classify_aliased {written : String} (read : classify text = .ok (.aliased written)) :
    written = text := by
  have again := classify_of_trim (rfl : trim text = trim text)
  rw [read] at again
  cases again
  rfl

/-! ## What it comes to -/

/-- A request with blanks around it meets no declared alias. -/
theorem byAlias_untrimmed (untrimmed : trim request ≠ request) :
    (byAlias kind request).endOver snapshot = .error (.notFound kind request) := by
  have unmet : (snapshot.elements kind).find? (·.answersTo request) = none := by
    rw [List.find?_eq_none]
    intro element _ answers
    exact untrimmed (trim_of_answersTo answers)
  rw [byAlias_over, unmet, ite_self]

theorem byAlias_eq_error {error : Error} :
    (byAlias kind request).endOver snapshot = .error error ↔
      error = .notFound kind request ∧ ∀ id, (byAlias kind request).endOver snapshot ≠ .ok id := by
  rw [byAlias_over]
  split
  · simp
  · simp [eq_comm]

theorem byText_alias (read : classify text = .ok (.aliased text)) :
    (byText kind text).endOver snapshot = (byAlias kind text).endOver snapshot := by
  rw [byText, read]
  rfl

/-- Blanks around a text leave everything but an alias to what the text comes to, and an alias to
nothing. -/
theorem byText_padded (front : before.all isBlank) (back : after.all isBlank)
    (differs : padded before text after ≠ text) :
    (byText kind (padded before text after)).endOver snapshot =
      if classify text = .ok (.aliased text) then .error (.notFound kind (padded before text after))
      else (byText kind text).endOver snapshot := by
  have untrimmed : trim (padded before text after) ≠ padded before text after :=
    fun trimmed => differs (padded_eq_of_trimmed front back trimmed)
  have missed : (byAlias kind (padded before text after)).endOver snapshot =
      .error (.notFound kind (padded before text after)) := byAlias_untrimmed untrimmed
  unfold byText
  rw [classify_of_trim (trim_padded front back text)]
  cases read : classify text with
  | error error => simp
  | ok form =>
    cases form with
    | integer id => simp
    | guid guid => simp
    | aliased written =>
      cases eq_of_classify_aliased read
      simpa [byForm] using missed

/-- Sorts of outcomes tell padded text from the text alone only where an alias is lost. -/
theorem cause_byText_padded (front : before.all isBlank) (back : after.all isBlank) :
    ((byText kind (padded before text after)).endOver snapshot).mapError Error.cause =
        ((byText kind text).endOver snapshot).mapError Error.cause ↔
      ¬ (classify text = .ok (.aliased text) ∧ padded before text after ≠ text ∧
        ∃ id, (byText kind text).endOver snapshot = .ok id) := by
  by_cases plain : padded before text after = text
  · rw [plain]
    simp
  rw [byText_padded front back plain]
  by_cases read : classify text = .ok (.aliased text)
  · rw [if_pos read, byText_alias read]
    cases found : (byAlias kind text).endOver snapshot with
    | ok id => simp [Except.mapError, read, plain]
    | error error =>
      obtain ⟨rfl, -⟩ := byAlias_eq_error.mp found
      simp [Except.mapError, Error.cause]
  · rw [if_neg read]
    simp [read]

/-- Blanks around a text make a difference exactly to an alias that finds an element: with them it
finds none. Every other text comes to the same id or to the same error with them. -/
theorem padded_resolves (snapshot : Snapshot) (kind : Kind) (text : String) {before after : List Char}
    (front : before.all isBlank) (back : after.all isBlank) :
    let around := (Reference.resolve kind (.text (padded before text after))).endOver snapshot
    let alone := (Reference.resolve kind (.text text)).endOver snapshot
    (classify text ≠ .ok (.aliased text) → around = alone) ∧
    (classify text = .ok (.aliased text) → padded before text after ≠ text →
      around = .error (.notFound kind (padded before text after))) ∧
    (around.mapError Error.cause = alone.mapError Error.cause ↔
      ¬ (classify text = .ok (.aliased text) ∧ padded before text after ≠ text ∧
        ∃ id, alone = .ok id)) := by
  dsimp only [Reference.resolve]
  refine ⟨fun other => ?_, fun read differs => ?_, cause_byText_padded front back⟩
  · by_cases plain : padded before text after = text
    · rw [plain]
    · rw [byText_padded front back plain, if_neg other]
  · rw [byText_padded front back differs, if_pos read]

/-- An object type with an alias, and a view with a GUID. -/
def labelled : Snapshot :=
  { objectTypes :=
      [{ id := 0, nameSingular := "Document", isReal := true, aliases := ["OT.Document"] }],
    views := [{ id := 7, name := "Mine", guid := some "{ABCDEF00-2222-3333-4444-555555555555}" }] }

/-- A braced GUID between a no-break space, an ideographic space and a line feed. -/
theorem padded_resolves_braced :
    ['\u00a0'].all isBlank ∧ ['\u3000', '\n'].all isBlank ∧
      (Reference.resolve .view (.text (padded ['\u00a0']
        "{abcdef00-2222-3333-4444-555555555555}" ['\u3000', '\n']))).endOver labelled = .ok 7 := by
  have front : ['\u00a0'].all isBlank := by decide
  have back : ['\u3000', '\n'].all isBlank := by decide
  have braced : classify "{abcdef00-2222-3333-4444-555555555555}" =
      .ok (.guid "{ABCDEF00-2222-3333-4444-555555555555}") := by decide
  have alone : (Reference.resolve .view
      (.text "{abcdef00-2222-3333-4444-555555555555}")).endOver labelled = .ok 7 := by decide
  obtain ⟨kept, -, -⟩ :=
    padded_resolves labelled .view "{abcdef00-2222-3333-4444-555555555555}" front back
  refine ⟨front, back, (kept ?_).trans alone⟩
  rw [braced]
  rintro ⟨⟩

/-- The alias of the object type leads to it, and to nothing with a space on either side. -/
theorem padded_alias_lost :
    [' '].all isBlank ∧
      (Reference.resolve .objectType (.text "OT.Document")).endOver labelled = .ok 0 ∧
      padded [' '] "OT.Document" [' '] = " OT.Document " ∧
      (Reference.resolve .objectType (.text " OT.Document ")).endOver labelled =
        .error (.notFound .objectType " OT.Document ") := by
  decide

end VaultModels.Resolution
