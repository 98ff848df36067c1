import VaultModels.Model.Wrapper
import VaultModels.Proofs.Code.SourceLines
import VaultModels.Proofs.Text.Blank

/-!
# Lines read out of printed code

Printed code is taken apart again: at its line feeds, without a carriage return at the end of a line
and without the blanks in front of it. Texts that hold neither of the two and open with no blank come
back one by one and in their order, whatever the layout was. At which depth a line stood is not read.
-/
namespace VaultModels.Model

open Code Text

/-- The text holds neither of the two characters that line endings are made of. -/
def IsUnbroken (text : String) : Prop := '\r' ∉ text.toList ∧ '\n' ∉ text.toList

instance (text : String) : Decidable (IsUnbroken text) := inferInstanceAs (Decidable (_ ∧ _))

/-- The characters that lines are indented with. -/
def indentation : List Char := [' ', '\t']

/-- A line as it is between the indentation and the line ending. -/
def readLine (line : List Char) : List Char :=
  (dropTail (· == '\r') line).dropWhile indentation.contains

/-- The lines of a text; what stands behind the last line feed is one of them. -/
def readCode (text : String) : List (List Char) := (splitLines text.toList).map readLine

/-- A text for a line of its own, that opens with none of certain characters. -/
structure IsLine (others : List Char) (text : String) : Prop where
  unbroken : IsUnbroken text
  opens : ∀ c ∈ text.toList.head?, c ∉ others

variable {others : List Char} {text front rest : String}

theorem IsLine.weaken {fewer : List Char} (line : IsLine others text) (part : fewer ⊆ others) :
    IsLine fewer text where
  unbroken := line.unbroken
  opens c first listed := line.opens c first (part listed)

/-- Fixed text is checked by its characters, and so never taken apart. -/
theorem isLine_ofList {cs : List Char}
    (checked : (cs.all fun c => c != '\r' && c != '\n') && cs.head?.all (!others.contains ·)) :
    IsLine others (String.ofList cs) := by
  simp only [Bool.and_eq_true, List.all_eq_true, bne_iff_ne, ne_eq] at checked
  obtain ⟨free, opens⟩ := checked
  constructor
  · rw [IsUnbroken, String.toList_ofList]
    exact ⟨fun member => (free _ member).1 rfl, fun member => (free _ member).2 rfl⟩
  · intro c first
    rw [String.toList_ofList] at first
    rw [Option.mem_def.mp first] at opens
    simpa using opens

theorem isUnbroken_append (left : IsUnbroken front) (right : IsUnbroken rest) :
    IsUnbroken (front ++ rest) := by
  simp only [IsUnbroken, String.toList_append, List.mem_append, not_or]
  exact ⟨⟨left.1, right.1⟩, left.2, right.2⟩

/-- A line opens with what its front opens with. -/
theorem isLine_append (opens : IsLine others front) (some_char : front ≠ "")
    (unbroken : IsUnbroken rest) : IsLine others (front ++ rest) where
  unbroken := isUnbroken_append opens.unbroken unbroken
  opens := by
    have named : front.toList ≠ [] := by simpa using some_char
    rw [String.toList_append, List.head?_append_of_ne_nil _ named]
    exact opens.opens

/-! ## Characters that end a line -/

theorem isUnbroken_of_terminators (passed : ∀ c ∈ terminators text, c ∈ passedTerminators) :
    IsUnbroken text := by
  constructor
  · intro member
    have found := passed '\r' (mem_terminators.mpr ⟨member, by decide⟩)
    exact absurd found (by decide)
  · intro member
    have found := passed '\n' (mem_terminators.mpr ⟨member, by decide⟩)
    exact absurd found (by decide)

theorem isUnbroken_of_isOneLine (plain : isOneLine text) : IsUnbroken text := by
  apply isUnbroken_of_terminators
  simp [terminators_plain plain]

theorem isUnbroken_quote (text : String) : IsUnbroken (quote text) := by
  apply isUnbroken_of_terminators
  intro c member
  rw [terminators_quote] at member
  exact (mem_passedOn.mp member).2

theorem isUnbroken_docText (text : String) : IsUnbroken (docText text) := by
  apply isUnbroken_of_terminators
  intro c member
  rw [terminators_docText] at member
  exact (mem_passedOn.mp member).2

/-! ## Reading -/

theorem splitLines_append {line : List Char} (free : '\n' ∉ line) (rest : List Char) :
    splitLines (line ++ '\n' :: rest) = line :: splitLines rest := by
  induction line with
  | nil => rfl
  | cons c line ih =>
    rw [List.mem_cons, not_or] at free
    rw [List.cons_append, splitLines, if_neg (Ne.symm free.1), ih free.2]

/-- A line ending is a line feed, behind carriage returns if behind anything. -/
theorem toList_lineEnding (ending : LineEnding) :
    ∃ returns, ending.text.toList = returns ++ ['\n'] ∧ '\n' ∉ returns ∧
      returns.all (· == '\r') := by
  cases ending with
  | lf => exact ⟨[], by decide⟩
  | crlf => exact ⟨['\r'], by decide⟩

/-- One line is read, and then what follows. -/
theorem readCode_line {line : String} (unbroken : IsUnbroken line) (ending : LineEnding)
    (rest : String) :
    readCode (line ++ ending.text ++ rest) =
      line.toList.dropWhile indentation.contains :: readCode rest := by
  obtain ⟨returns, spelled, oneLine, only⟩ := toList_lineEnding ending
  have free : '\n' ∉ line.toList ++ returns := by simp [unbroken.2, oneLine]
  have kept : ∀ c ∈ line.toList, (c == '\r') = false := by
    intro c member
    have differs : c ≠ '\r' := fun same => unbroken.1 (same ▸ member)
    simp [differs]
  have whole : (line ++ ending.text ++ rest).toList =
      (line.toList ++ returns) ++ '\n' :: rest.toList := by simp [spelled]
  rw [readCode, whole, splitLines_append free, List.map_cons, readLine,
    dropTail_append kept (List.all_eq_true.mp only), readCode]

theorem readCode_join (ending : LineEnding) {lines : List String}
    (unbroken : ∀ line ∈ lines, IsUnbroken line) :
    readCode (String.join (lines.map (· ++ ending.text))) =
      lines.map (fun line => line.toList.dropWhile indentation.contains) ++ [[]] := by
  induction lines with
  | nil => rfl
  | cons line rest ih =>
    obtain ⟨first, others⟩ := List.forall_mem_cons.mp unbroken
    rw [List.map_cons, String.join_cons, readCode_line first, ih others, List.map_cons,
      List.cons_append]

theorem indented_read (layout : Layout) {line : Line} (flush : IsLine indentation line.text) :
    IsUnbroken (layout.indented line) ∧
      (layout.indented line).toList.dropWhile indentation.contains = line.text.toList := by
  have stays : line.text.toList.dropWhile indentation.contains = line.text.toList := by
    refine dropWhile_of_head fun c first => ?_
    simpa using flush.opens c first
  have blank : ∀ c ∈ (layout.indent.text line.depth).toList, indentation.contains c := by
    intro c member
    rcases layout.indent.text_blank line.depth c member with rfl | rfl <;> rfl
  unfold Layout.indented
  split
  next empty => rw [empty]; decide
  next =>
    constructor
    · exact isUnbroken_append
        (isUnbroken_of_isOneLine (layout.indent.isOneLine_text line.depth)) flush.unbroken
    · rw [String.toList_append, List.dropWhile_append_of_pos blank, stays]

/-- What is read of printed code are the texts that it was printed from. -/
theorem readCode_print (layout : Layout) {items : List Item}
    (flush : ∀ item ∈ items, IsLine indentation item.text) :
    readCode (layout.print items) = items.map (fun item => item.text.toList) ++ [[]] := by
  have placed : ∀ line ∈ Item.lines 0 items, IsLine indentation line.text := by
    intro line listed
    have named : line.text ∈ (Item.lines 0 items).map (·.text) := List.mem_map_of_mem listed
    rw [Item.map_text_lines] at named
    obtain ⟨item, inside, same⟩ := List.mem_map.mp named
    exact same ▸ flush item inside
  have unbroken : ∀ line ∈ (Item.lines 0 items).map layout.indented, IsUnbroken line := by
    intro line listed
    obtain ⟨bare, inside, rfl⟩ := List.mem_map.mp listed
    exact (indented_read layout (placed bare inside)).1
  have texts := congrArg (List.map String.toList) (Item.map_text_lines 0 items)
  rw [List.map_map, List.map_map] at texts
  rw [Layout.print_lines, readCode_join _ unbroken, List.map_map, List.append_left_inj]
  refine Eq.trans (List.map_congr_left fun line listed => ?_) texts
  exact (indented_read layout (placed line listed)).2

end VaultModels.Model
