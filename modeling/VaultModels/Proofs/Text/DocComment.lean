import VaultModels.Proofs.Text.Literal
import VaultModels.Text.DocComment

/-!
# Embedded text read back

Text is put into generated code in three ways: escaped in a literal, on one line behind `//`, and with
its markup as entities in a doc comment. What is read out of a literal is the text, and what is read
out of a doc comment is the text behind `//`, which has lost its carriage returns and line feeds to
spaces and nothing else. How C# or XML treat other characters is not held here.
-/
namespace VaultModels.Text

variable {c d : Char} {cs before after : List Char}

/-- The entities of the three characters of markup. -/
def entities : List (List Char) :=
  [['&', 'a', 'm', 'p', ';'], ['&', 'l', 't', ';'], ['&', 'g', 't', ';']]

/-- Every occurrence of a character replaced by a text. -/
def replaceAll (c : Char) (text : String) (cs : List Char) : List Char :=
  cs.flatMap fun d => if d = c then text.toList else [d]

/-! ## Entities -/

/-- The characters that have an entity. -/
def IsMarkup (c : Char) : Prop := c = '&' ∨ c = '<' ∨ c = '>'

theorem entityChars_plain (plain : ¬ IsMarkup c) : entityChars c = [c] := by
  rw [IsMarkup, not_or, not_or] at plain
  rw [entityChars, if_neg plain.1, if_neg plain.2.1, if_neg plain.2.2]

/-- What is written of markup is an entity with one ampersand and no angle bracket. -/
theorem entityChars_markup (markup : IsMarkup c) :
    ∃ tail, entityChars c = '&' :: tail ∧ '&' :: tail ∈ entities ∧ '&' ∉ tail ∧
      '<' ∉ tail ∧ '>' ∉ tail := by
  rcases markup with rfl | rfl | rfl
  · exact ⟨_, rfl, by decide, by decide, by decide, by decide⟩
  · exact ⟨_, rfl, by decide, by decide, by decide, by decide⟩
  · exact ⟨_, rfl, by decide, by decide, by decide, by decide⟩

theorem readEntities_entityChars (c : Char) (rest : List Char) :
    readEntities (entityChars c ++ rest) = (readEntities rest).map (c :: ·) := by
  by_cases markup : IsMarkup c
  · rcases markup with rfl | rfl | rfl <;> rfl
  · rw [entityChars_plain markup, List.singleton_append, readEntities]
    · exact if_neg markup
    all_goals
      intro more amp
      exact absurd (.inl amp) markup

/-- Entities are read as the characters that they stand for. -/
theorem readEntities_docChars (cs : List Char) :
    readEntities (docChars cs) = some (cs.map commentChar) := by
  rw [docChars]
  induction cs.map commentChar with
  | nil => rfl
  | cons c rest ih =>
    rw [List.flatMap_cons, readEntities_entityChars, ih]
    rfl

/-- No angle bracket is left. -/
theorem not_mem_entityChars (bracket : d = '<' ∨ d = '>') (c : Char) : d ∉ entityChars c := by
  by_cases markup : IsMarkup c
  · obtain ⟨tail, spelled, -, -, opens, closes⟩ := entityChars_markup markup
    rcases bracket with rfl | rfl
    · simp [spelled, opens]
    · simp [spelled, closes]
  · rw [entityChars_plain markup, List.mem_singleton]
    intro same
    exact markup (same ▸ .inr bracket)

theorem not_mem_docText (bracket : d = '<' ∨ d = '>') (text : String) :
    d ∉ (docText text).toList := by
  rw [docText, String.toList_ofList, docChars, List.mem_flatMap]
  intro found
  obtain ⟨c, -, member⟩ := found
  exact not_mem_entityChars bracket c member

/-- Every ampersand opens an entity. -/
theorem entity_of_ampersand (written : cs.flatMap entityChars = before ++ '&' :: after) :
    ∃ entity ∈ entities, entity <+: '&' :: after := by
  induction cs generalizing before with
  | nil => simp at written
  | cons c rest ih =>
    rw [List.flatMap_cons, List.append_eq_append_iff] at written
    rcases written with ⟨more, -, later⟩ | ⟨more, opens, later⟩
    · exact ih later
    · cases more with
      | nil => exact @ih [] later.symm
      | cons amp more =>
        -- the ampersand is of this character, and so the first of its entity
        obtain ⟨rfl, rfl⟩ := List.cons.inj later
        by_cases markup : IsMarkup c
        · obtain ⟨tail, spelled, listed, once, -⟩ := entityChars_markup markup
          rw [spelled] at opens
          cases before with
          | nil => exact ⟨_, listed, by simp [(List.cons.inj opens).2]⟩
          | cons first front =>
            have again : '&' ∈ tail := by simp [(List.cons.inj opens).2]
            exact absurd again once
        · have inside : '&' ∈ entityChars c := by simp [opens]
          rw [entityChars_plain markup, List.mem_singleton] at inside
          exact absurd (.inl inside.symm) markup

/-! ## The order of the replacements -/

theorem replaceAll_other (differs : d ≠ c) (text : String) : replaceAll c text [d] = [d] := by
  simp [replaceAll, differs]

theorem replaceAll_append (c : Char) (text : String) (cs more : List Char) :
    replaceAll c text (cs ++ more) = replaceAll c text cs ++ replaceAll c text more :=
  List.flatMap_append

/-- What is written character by character is what replacing the markup in the whole text gives, the
ampersand first. -/
theorem docChars_replaced (cs : List Char) :
    docChars cs =
      replaceAll '>' "&gt;"
        (replaceAll '<' "&lt;" (replaceAll '&' "&amp;" (cs.map commentChar))) := by
  have single : ∀ c, entityChars c =
      replaceAll '>' "&gt;" (replaceAll '<' "&lt;" (replaceAll '&' "&amp;" [c])) := by
    intro c
    by_cases markup : IsMarkup c
    · rcases markup with rfl | rfl | rfl <;> decide
    · rw [entityChars_plain markup]
      rw [IsMarkup, not_or, not_or] at markup
      rw [replaceAll_other markup.1, replaceAll_other markup.2.1, replaceAll_other markup.2.2]
  rw [docChars]
  induction cs.map commentChar with
  | nil => rfl
  | cons c rest ih =>
    rw [List.flatMap_cons, ih, single c, ← replaceAll_append, ← replaceAll_append,
      ← replaceAll_append, List.singleton_append]

/-! ## What is read back -/

theorem commentChar_ne (differs : commentChar c ≠ c) : c = '\r' ∨ c = '\n' := by
  unfold commentChar at differs
  split at differs
  next ends => exact ends
  next => exact absurd rfl differs

/-- A literal holds its text and ends at its closing quote, whatever follows. A doc comment holds no
angle bracket and no ampersand but those of its entities; they stand for the text behind `//`, which is
the embedded text with other characters in place of carriage returns and line feeds. -/
theorem embedded_reads_back (text : String) :
    unescape (escapeLiteral text).toList = some text.toList ∧
    (∀ suffix, scanLiteral ((quote text).toList ++ suffix) =
      some ((escapeLiteral text).toList, suffix)) ∧
    (docText text).toList =
      replaceAll '>' "&gt;" (replaceAll '<' "&lt;"
        (replaceAll '&' "&amp;" (commentText text).toList)) ∧
    '<' ∉ (docText text).toList ∧ '>' ∉ (docText text).toList ∧
    (∀ before after, (docText text).toList = before ++ '&' :: after →
      ∃ entity ∈ entities, entity <+: '&' :: after) ∧
    readEntities (docText text).toList = some (commentText text).toList ∧
    (commentText text).toList.length = text.toList.length ∧
    ∀ i : Nat, (commentText text).toList[i]? ≠ text.toList[i]? →
      text.toList[i]? = some '\r' ∨ text.toList[i]? = some '\n' := by
  refine ⟨?_, scanLiteral_quote text, ?_, not_mem_docText (.inl rfl) text,
    not_mem_docText (.inr rfl) text, ?_, ?_, ?_, ?_⟩
  · rw [escapeLiteral, String.toList_ofList, unescape_escapeChars]
  · rw [docText, commentText, String.toList_ofList, String.toList_ofList, docChars_replaced]
  · intro before after written
    rw [docText, String.toList_ofList, docChars] at written
    exact entity_of_ampersand written
  · rw [docText, commentText, String.toList_ofList, String.toList_ofList, readEntities_docChars]
  · rw [commentText, String.toList_ofList, List.length_map]
  · intro i differs
    rw [commentText, String.toList_ofList, List.getElem?_map] at differs
    cases given : text.toList[i]? with
    | none => simp [given] at differs
    | some c =>
      rw [given, Option.map_some] at differs
      simpa using commentChar_ne fun same => differs (congrArg some same)

/-- A name with all of markup, a quote, a backslash and a line break. -/
theorem embedded_reads_back_draft :
    scanLiteral ((quote "R&D <\"a\\\">\r\n").toList ++ ['"', ')']) =
      some ("R&D <\\\"a\\\\\\\">\\r\\n".toList, ['"', ')']) ∧
    (docText "R&D <\"a\\\">\r\n").toList = ['R'] ++ '&' :: "amp;D &lt;\"a\\\"&gt;  ".toList ∧
    (∃ entity ∈ entities, entity <+: '&' :: "amp;D &lt;\"a\\\"&gt;  ".toList) ∧
    readEntities (docText "R&D <\"a\\\">\r\n").toList = some "R&D <\"a\\\">  ".toList := by
  obtain ⟨-, scanned, -, -, -, opened, read, -⟩ := embedded_reads_back "R&D <\"a\\\">\r\n"
  have written : (docText "R&D <\"a\\\">\r\n").toList =
      ['R'] ++ '&' :: "amp;D &lt;\"a\\\"&gt;  ".toList := by decide
  exact ⟨scanned _, written, opened _ _ written, read⟩

end VaultModels.Text
