import Mathlib.Data.List.TakeWhile
import VaultModels.Proofs.Code.SourceLines
import VaultModels.Proofs.Text.Blank

/-!
# Nesting read out of printed code

The depth of code is read off its text alone. Lines are cut at the line ending, and each is looked at
from the depth in front of it: a brace raises or lowers the depth if it stands in the one column that
this depth leaves it, and any other line has to be indented so far and may be no brace. Items whose
blocks are all closed are printed as lines that lead from each depth back to it. What else the lines
say is not read, so braces inside of a line do not count.
-/
namespace VaultModels.Code

open Text

/-! ## The reader -/

/-- The lines of a text; what stands behind the last ending is one of them. -/
def LineEnding.split : LineEnding → List Char → List (List Char)
  | _, [] => [[]]
  | .lf, '\n' :: rest => [] :: split .lf rest
  | .crlf, '\r' :: '\n' :: rest => [] :: split .crlf rest
  | ending, c :: rest => (split ending rest).modifyHead (c :: ·)

/-- A brace with nothing but blanks around it. -/
def IsLoneBrace (line : List Char) : Prop :=
  trimChars line = ['\x7b'] ∨ trimChars line = ['\x7d']

instance (line : List Char) : Decidable (IsLoneBrace line) := inferInstanceAs (Decidable (_ ∨ _))

/-- The depth behind a line, unless the line is out of place at the depth in front of it. -/
def Indent.step (indent : Indent) (depth : Nat) (line : List Char) : Option Nat :=
  if line = [] then some depth
  else if line = (indent.text depth ++ "\x7b").toList then some (depth + 1)
  else if 0 < depth ∧ line = (indent.text (depth - 1) ++ "\x7d").toList then some (depth - 1)
  else if (indent.text depth).toList <+: line ∧ ¬ IsLoneBrace line then some depth
  else none

/-- The depth at the end of a text whose first line is at depth 0. -/
def Layout.readDepth (layout : Layout) (text : String) : Option Nat :=
  (layout.lineEnding.split text.toList).foldlM layout.indent.step 0

example : ({ indent := .spaces2, lineEnding := .lf } : Layout).readDepth
    "class A\n\x7b\n  int B;\n\x7d\n" = some 0 := by decide

example : ({ indent := .spaces2, lineEnding := .lf } : Layout).readDepth
    "class A\n\x7b\nint B;\n\x7d\n" = none := by decide

/-! ## Lines -/

theorem LineEnding.split_cons (ending : LineEnding) {c : Char} (inner : c ≠ '\r' ∧ c ≠ '\n')
    (rest : List Char) : ending.split (c :: rest) = (ending.split rest).modifyHead (c :: ·) := by
  rw [LineEnding.split]
  · rintro - rfl
    exact absurd rfl inner.2
  · rintro more - rfl
    exact absurd rfl inner.1

/-- One line is cut off, and then what follows is cut. -/
theorem LineEnding.split_line (ending : LineEnding) {line : List Char}
    (unbroken : '\r' ∉ line ∧ '\n' ∉ line) (rest : List Char) :
    ending.split (line ++ (ending.text.toList ++ rest)) = line :: ending.split rest := by
  induction line with
  | nil => cases ending <;> rfl
  | cons c line ih =>
    simp only [List.mem_cons, not_or] at unbroken
    obtain ⟨⟨noReturn, noReturns⟩, noFeed, noFeeds⟩ := unbroken
    rw [List.cons_append, ending.split_cons ⟨Ne.symm noReturn, Ne.symm noFeed⟩,
      ih ⟨noReturns, noFeeds⟩, List.modifyHead_cons]

theorem LineEnding.split_join (ending : LineEnding) {lines : List String}
    (unbroken : ∀ line ∈ lines, '\r' ∉ line.toList ∧ '\n' ∉ line.toList) :
    ending.split (String.join (lines.map (· ++ ending.text))).toList =
      lines.map String.toList ++ [[]] := by
  induction lines with
  | nil => cases ending <;> rfl
  | cons line rest ih =>
    obtain ⟨first, others⟩ := List.forall_mem_cons.mp unbroken
    rw [List.map_cons, String.join_cons, String.toList_append, String.toList_append,
      List.append_assoc, ending.split_line first, ih others, List.map_cons, List.cons_append]

/-! ## Lines that are no braces -/

/-- Something besides blanks and braces is written there. -/
def hasInk (text : String) : Bool :=
  text.toList.any fun c => !isBlank c && c != '\x7b' && c != '\x7d'

theorem hasInk_append (front back : String) :
    hasInk (front ++ back) = (hasInk front || hasInk back) := by
  rw [hasInk, String.toList_append, List.any_append]
  rfl

theorem hasInk_front {front : String} (ink : hasInk front) (back : String) :
    hasInk (front ++ back) := by
  rw [hasInk_append, ink, Bool.true_or]

theorem hasInk_back (front : String) {back : String} (ink : hasInk back) :
    hasInk (front ++ back) := by
  rw [hasInk_append, ink, Bool.or_true]

theorem Indent.not_hasInk_text (indent : Indent) (depth : Nat) :
    hasInk (indent.text depth) = false := by
  rw [hasInk, List.any_eq_false]
  intro c member
  rcases indent.text_blank depth c member with rfl | rfl <;> decide

theorem not_loneBrace_of_hasInk {text : String} (ink : hasInk text) : ¬ IsLoneBrace text.toList := by
  obtain ⟨c, member, dark⟩ := List.any_eq_true.mp ink
  simp only [Bool.and_eq_true, Bool.not_eq_true', bne_iff_ne, ne_eq] at dark
  obtain ⟨⟨visible, noOpening⟩, noClosing⟩ := dark
  have left := mem_trimChars member visible
  rintro (opening | closing)
  · exact noOpening (List.mem_singleton.mp (opening ▸ left))
  · exact noClosing (List.mem_singleton.mp (closing ▸ left))

/-! ## What a line does to the depth -/

section

variable (layout : Layout) (depth : Nat)

theorem Layout.indented_named {text : String} (named : text ≠ "") :
    layout.indented ⟨depth, text⟩ = layout.indent.text depth ++ text := by
  rw [indented, if_neg named]

theorem Layout.step_opening :
    layout.indent.step depth (layout.indented ⟨depth, "\x7b"⟩).toList = some (depth + 1) := by
  rw [layout.indented_named depth (by decide), Indent.step, if_neg (by simp), if_pos rfl]

theorem Layout.step_closing :
    layout.indent.step (depth + 1) (layout.indented ⟨depth, "\x7d"⟩).toList = some depth := by
  have other : (layout.indent.text depth ++ "\x7d").toList ≠
      (layout.indent.text (depth + 1) ++ "\x7b").toList := by
    intro same
    rw [String.toList_append, String.toList_append] at same
    exact absurd (List.append_inj_right' same rfl) (by decide)
  rw [layout.indented_named depth (by decide), Indent.step, if_neg (by simp), if_neg other,
    Nat.add_sub_cancel, if_pos ⟨Nat.succ_pos depth, rfl⟩]

theorem Layout.step_empty :
    layout.indent.step depth (layout.indented ⟨depth, ""⟩).toList = some depth := by
  have empty : "".toList = [] := by decide
  rw [indented, if_pos rfl, empty, Indent.step, if_pos rfl]

/-- A line with ink on it leaves the depth as it is, since no line of a brace has any. -/
theorem Layout.step_ink {text : String} (ink : hasInk text) :
    layout.indent.step depth (layout.indented ⟨depth, text⟩).toList = some depth := by
  have named : text ≠ "" := by
    rintro rfl
    cases ink
  have written := hasInk_back (layout.indent.text depth) ink
  have bare : ∀ brace ∈ ["\x7b", "\x7d"], hasInk brace = false := by decide
  have braceless : ∀ column, ∀ brace ∈ ["\x7b", "\x7d"],
      (layout.indent.text depth ++ text).toList ≠ (layout.indent.text column ++ brace).toList := by
    intro column brace listed same
    rw [String.toList_inj.mp same, hasInk_append, layout.indent.not_hasInk_text,
      bare brace listed] at written
    cases written
  rw [layout.indented_named depth named, Indent.step, if_neg (by simp [named]),
    if_neg (braceless depth _ (by decide)),
    if_neg fun closing => braceless (depth - 1) _ (by decide) closing.2,
    if_pos ⟨by simp, not_loneBrace_of_hasInk written⟩]

end

/-! ## Items -/

/-- A line that is empty or has ink on it. -/
def Item.isPlain : Item → Bool
  | .line text => text == "" || hasInk text
  | .opening | .closing => false

/-- Plain lines, and blocks that are closed again. -/
inductive Item.IsNested : List Item → Prop
  | nil : IsNested []
  | line {text : String} (plain : isPlain (.line text)) : IsNested [.line text]
  | block {body : List Item} (inner : IsNested body) : IsNested (Item.block body)
  | append {items more : List Item} (first : IsNested items) (second : IsNested more) :
      IsNested (items ++ more)

/-- A block, where what follows its body stands at the depth of the body. -/
theorem Item.lines_block {body : List Item} {depth : Nat}
    (through : ∀ more, lines (depth + 1) (body ++ more) =
      lines (depth + 1) body ++ lines (depth + 1) more) (more : List Item) :
    lines depth (block body ++ more) =
      ⟨depth, "\x7b"⟩ :: (lines (depth + 1) body ++ ⟨depth, "\x7d"⟩ :: lines depth more) := by
  rw [block, List.cons_append, List.append_assoc, lines, through]
  rfl

namespace Item.IsNested

/-- What follows nested items stands at the depth that they start from. -/
theorem lines_append {items : List Item} (nested : IsNested items) (depth : Nat)
    (more : List Item) :
    Item.lines depth (items ++ more) = Item.lines depth items ++ Item.lines depth more := by
  induction nested generalizing depth more with
  | nil => rfl
  | line => rfl
  | @block body inner ih =>
    have alone := Item.lines_block (ih (depth + 1)) []
    rw [List.append_nil, Item.lines] at alone
    rw [Item.lines_block (ih (depth + 1)), alone, List.cons_append, List.append_assoc,
      List.singleton_append]
  | append first second ihFirst ihSecond =>
    rw [List.append_assoc, ihFirst, ihSecond, ihFirst, List.append_assoc]

/-- Read from any depth, the lines of nested items lead back to it. -/
theorem read_lines {items : List Item} (nested : IsNested items) (layout : Layout) (depth : Nat) :
    ((Item.lines depth items).map fun line => (layout.indented line).toList).foldlM
      layout.indent.step depth = some depth := by
  induction nested generalizing depth with
  | nil => rfl
  | @line text plain =>
    have stays : layout.indent.step depth (layout.indented ⟨depth, text⟩).toList = some depth := by
      rw [Item.isPlain, Bool.or_eq_true, beq_iff_eq] at plain
      rcases plain with rfl | ink
      · exact layout.step_empty depth
      · exact layout.step_ink depth ink
    rw [Item.lines, List.map_cons, List.foldlM_cons, stays]
    rfl
  | @block body inner ih =>
    have placed := Item.lines_block (inner.lines_append (depth + 1)) []
    rw [List.append_nil, Item.lines] at placed
    rw [placed, List.map_cons, List.foldlM_cons, layout.step_opening, Option.bind_eq_bind,
      Option.bind_some, List.map_append, List.foldlM_append, ih, Option.bind_eq_bind,
      Option.bind_some, List.map_singleton, List.foldlM_cons, layout.step_closing]
    rfl
  | append first second ihFirst ihSecond =>
    rw [first.lines_append, List.map_append, List.foldlM_append, ihFirst]
    exact ihSecond depth

/-! Ways to get nested items. -/

/-- A line with ink on it in front of nested items. -/
theorem inked {text : String} {rest : List Item} (ink : hasInk text) (nested : IsNested rest) :
    IsNested (.line text :: rest) :=
  .append (.line (Bool.or_eq_true_iff.mpr (.inr ink))) nested

theorem plain {items : List Item} (only : items.all isPlain) : IsNested items := by
  induction items with
  | nil => exact .nil
  | cons item rest ih =>
    rw [List.all_cons, Bool.and_eq_true] at only
    cases item with
    | line text => exact .append (.line only.1) (ih only.2)
    | opening => cases only.1
    | closing => cases only.1

theorem flatten {parts : List (List Item)} (each : ∀ part ∈ parts, IsNested part) :
    IsNested parts.flatten := by
  induction parts with
  | nil => exact .nil
  | cons part rest ih =>
    obtain ⟨first, others⟩ := List.forall_mem_cons.mp each
    exact .append first (ih others)

theorem separated {separator : List Item} (between : IsNested separator)
    {parts : List (List Item)} (each : ∀ part ∈ parts, IsNested part) :
    IsNested (parts.intersperse separator).flatten := by
  fun_induction List.intersperse separator parts with
  | case1 => exact .nil
  | case2 part => exact .flatten each
  | case3 part rest _ ih =>
    obtain ⟨first, others⟩ := List.forall_mem_cons.mp each
    exact .append first (.append between (ih others))

end Item.IsNested

/-- Code that is printed from nested items is read from depth 0 to depth 0. -/
theorem Layout.readDepth_print (layout : Layout) {items : List Item} (nested : Item.IsNested items)
    (unbroken : ∀ line ∈ (Item.lines 0 items).map layout.indented,
      '\r' ∉ line.toList ∧ '\n' ∉ line.toList) :
    layout.readDepth (layout.print items) = some 0 := by
  rw [readDepth, print_lines, LineEnding.split_join _ unbroken, List.foldlM_append, List.map_map]
  have read := nested.read_lines layout 0
  rw [Function.comp_def, read]
  rfl

end VaultModels.Code
