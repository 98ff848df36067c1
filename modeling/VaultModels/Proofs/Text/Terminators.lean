import VaultModels.Proofs.Guid.Canonical
import VaultModels.Proofs.Name.Identifier
import VaultModels.Proofs.Text.Literal
import VaultModels.Text.DocComment

/-!
# Line terminators

Five characters end a line of C#. Literals, comments and doc comments take a carriage return and a
line feed out of the text that they hold, and pass the other three on as they are. Names and numbers
hold none of the five.
-/
namespace VaultModels.Text

/-- Next line, line separator and paragraph separator: the terminators that no encoding looks for. -/
def passedTerminators : List Char := ['\u0085', '\u2028', '\u2029']

/-- The characters that end a line. -/
def lineTerminators : List Char := '\r' :: '\n' :: passedTerminators

/-- The terminators of a text, in order. -/
def terminators (text : String) : List Char := text.toList.filter lineTerminators.contains

/-- The terminators that are left of a text when it is encoded. -/
def passedOn (text : String) : List Char := text.toList.filter passedTerminators.contains

def isOneLine (text : String) : Bool := text.toList.all fun c => !lineTerminators.contains c

theorem mem_terminators {c : Char} {text : String} :
    c ∈ terminators text ↔ c ∈ text.toList ∧ c ∈ lineTerminators := by
  rw [terminators, List.mem_filter, List.contains_iff_mem]

theorem mem_passedOn {c : Char} {text : String} :
    c ∈ passedOn text ↔ c ∈ text.toList ∧ c ∈ passedTerminators := by
  rw [passedOn, List.mem_filter, List.contains_iff_mem]

theorem terminators_eq_nil {text : String} : terminators text = [] ↔ isOneLine text := by
  simp [terminators, isOneLine]

@[simp] theorem terminators_plain {text : String} (plain : isOneLine text) :
    terminators text = [] := terminators_eq_nil.mpr plain

theorem isOneLine_ofList {cs : List Char}
    (free : cs.all fun c => !lineTerminators.contains c) : isOneLine (String.ofList cs) := by
  rw [isOneLine, String.toList_ofList, free]

@[simp] theorem terminators_append (left right : String) :
    terminators (left ++ right) = terminators left ++ terminators right := by
  rw [terminators, String.toList_append, List.filter_append]
  rfl

theorem passedOn_append (left right : String) :
    passedOn (left ++ right) = passedOn left ++ passedOn right := by
  rw [passedOn, String.toList_append, List.filter_append]
  rfl

theorem passedOn_eq_nil {text : String} (plain : isOneLine text) : passedOn text = [] := by
  rw [isOneLine, List.all_eq_true] at plain
  refine List.filter_eq_nil_iff.mpr fun c member passed => ?_
  simpa [lineTerminators, List.contains_iff_mem.mp passed] using plain c member

/-! ## Encodings -/

section

variable {encode : Char → List Char}
  (each : ∀ c, (encode c).filter lineTerminators.contains = [c].filter passedTerminators.contains)

include each

/-- An encoding that treats each character so treats a text so. -/
theorem filter_encoded (cs : List Char) :
    (cs.flatMap encode).filter lineTerminators.contains =
      cs.filter passedTerminators.contains := by
  induction cs with
  | nil => rfl
  | cons c rest ih =>
    rw [List.flatMap_cons, List.filter_append, each, ih, ← List.filter_append]
    rfl

end

/-- A character that is kept, and is neither of the two that are taken out. -/
theorem filter_kept {c : Char} (kept : ¬ (c = '\r' ∨ c = '\n')) :
    [c].filter lineTerminators.contains = [c].filter passedTerminators.contains := by
  rw [not_or] at kept
  simp [lineTerminators, List.filter_cons, kept]

theorem filter_escapeChar (c : Char) :
    (escapeChar c).filter lineTerminators.contains = [c].filter passedTerminators.contains := by
  by_cases simple : c ∈ escaped
  · simp only [escaped, List.mem_cons, List.not_mem_nil, or_false] at simple
    rcases simple with rfl | rfl | rfl | rfl | rfl | rfl <;> decide
  · rw [escapeChar_plain simple]
    refine filter_kept ?_
    rintro (rfl | rfl)
    · exact simple (by decide)
    · exact simple (by decide)

theorem filter_commentChar (c : Char) :
    [commentChar c].filter lineTerminators.contains = [c].filter passedTerminators.contains := by
  unfold commentChar
  split
  next ends => rcases ends with rfl | rfl <;> decide
  next kept => exact filter_kept kept

theorem filter_docChar (c : Char) :
    (entityChars (commentChar c)).filter lineTerminators.contains =
      [c].filter passedTerminators.contains := by
  rw [← filter_commentChar]
  unfold entityChars
  split
  next markup => rw [markup]; decide
  · split
    next markup => rw [markup]; decide
    · split
      next markup => rw [markup]; decide
      · rfl

@[simp] theorem terminators_quote (text : String) :
    terminators (quote text) = passedOn text := by
  rw [terminators, quote, String.toList_ofList, quoteChars, List.filter_cons_of_neg (by decide),
    List.filter_append, escapeChars, filter_encoded filter_escapeChar,
    List.filter_cons_of_neg (by decide), List.filter_nil, List.append_nil]
  rfl

@[simp] theorem terminators_commentText (text : String) :
    terminators (commentText text) = passedOn text := by
  rw [terminators, commentText, String.toList_ofList, List.map_eq_flatMap,
    filter_encoded filter_commentChar]
  rfl

@[simp] theorem terminators_docText (text : String) :
    terminators (docText text) = passedOn text := by
  rw [terminators, docText, String.toList_ofList, docChars, List.flatMap_map,
    filter_encoded filter_docChar]
  rfl

/-! ## Texts of one line -/

/-- Characters of a kind that no terminator is of make up one line. -/
theorem isOneLine_of_all (kind : Char → Bool) {text : String}
    (strange : lineTerminators.all fun t => !kind t) (only : ∀ c ∈ text.toList, kind c) :
    isOneLine text := by
  rw [isOneLine, List.all_eq_true]
  intro c member
  rw [Bool.not_eq_true', ← Bool.not_eq_true, List.contains_iff_mem]
  intro ends
  have other := List.all_eq_true.mp strange c ends
  simp [only c member] at other

theorem isOneLine_int32Text (n : Int32) : isOneLine (int32Text n) := by
  refine isOneLine_of_all (fun c => c.isDigit || c == '-') (by decide) fun c member => ?_
  rcases isDigit_of_mem_intText member with digit | rfl
  · simp [digit]
  · simp

theorem isOneLine_of_isValid {name : String} (valid : Name.isValid name) : isOneLine name :=
  isOneLine_of_all _ (by decide +kernel) ((Name.isValid_iff name).mp valid).parts_only

end VaultModels.Text

namespace VaultModels.Guid

theorem isOneLine_of_isCanonical {text : String} (form : IsCanonical text) :
    Text.isOneLine text := by
  obtain ⟨digits, given, rfl⟩ := form
  refine Text.isOneLine_of_all
    (fun c => c == '\x7b' || c == '\x7d' || c == '-' || isHexDigit c) (by decide) ?_
  intro c member
  rw [canonicalText, String.toList_ofList, canonicalChars_eq, bracedChars] at member
  rcases List.mem_cons.mp member with rfl | inner
  · rfl
  · rcases List.mem_append.mp inner with groups | closing
    · rcases mem_writeGroups groups with rfl | digit
      · rfl
      · simp [List.all_eq_true.mp given.upper.hex c digit]
    · rw [List.mem_singleton.mp closing]
      rfl

end VaultModels.Guid
