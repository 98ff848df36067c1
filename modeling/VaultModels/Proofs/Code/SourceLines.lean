import VaultModels.Proofs.Code.Printing
import VaultModels.Proofs.Text.Terminators

/-!
# Terminators in printed code

A printed text is made of lines, and layout puts only blanks and braces into them. So the terminators
inside its lines are those in the texts of the items, in the same order.
-/
namespace VaultModels.Code

open Text

def Item.text : Item → String
  | .line text => text
  | .opening => "\x7b"
  | .closing => "\x7d"

/-- The terminators in the lines of the items. -/
def Item.terminators (items : List Item) : List Char :=
  items.flatMap fun item => Text.terminators item.text

namespace Item

variable (text : String) (items more : List Item)

@[simp] theorem terminators_nil : terminators [] = [] := rfl

@[simp] theorem terminators_line :
    terminators (.line text :: items) = Text.terminators text ++ terminators items := rfl

@[simp] theorem terminators_append :
    terminators (items ++ more) = terminators items ++ terminators more := List.flatMap_append

@[simp] theorem terminators_block : terminators (block items) = terminators items := by
  have opens : terminators [.opening] = [] := by decide
  have closes : terminators [.closing] = [] := by decide
  rw [block, ← List.singleton_append, terminators_append, terminators_append, opens, closes,
    List.nil_append, List.append_nil]

theorem terminators_flatMap {α : Type} (write : α → List Item) (parts : List α) :
    terminators (parts.flatMap write) = parts.flatMap fun part => terminators (write part) :=
  List.flatMap_assoc

@[simp] theorem terminators_banner : terminators banner = [] := by
  simp (disch := decide) [banner]

theorem terminators_usings (namespaces : List String)
    (plain : ∀ name ∈ namespaces, isOneLine name) : terminators (usings namespaces) = [] := by
  have lines : ∀ name ∈ namespaces, Text.terminators ("using " ++ name ++ ";") = [] := by
    intro name listed
    have named := plain name listed
    simp (disch := first | assumption | decide)
  rw [usings, terminators_append, List.append_eq_nil_iff, terminators, List.flatMap_map]
  exact ⟨List.flatMap_eq_nil_iff.mpr lines, rfl⟩

theorem map_text_lines (depth : Nat) (items : List Item) :
    (lines depth items).map (·.text) = items.map Item.text := by
  induction items generalizing depth with
  | nil => rfl
  | cons item rest ih => cases item <;> simp [lines, Item.text, ih]

end Item

theorem Indent.isOneLine_text (indent : Indent) (depth : Nat) : isOneLine (indent.text depth) :=
  isOneLine_of_all (fun c => c == ' ' || c == '\t') (by decide) fun c member => by
    simpa using indent.text_blank depth c member

/-- Lines outside of all blocks are printed as they are. -/
theorem Layout.print_flat (layout : Layout) (texts : List String) :
    layout.print (texts.map .line) =
      String.join (texts.map (· ++ layout.lineEnding.text)) := by
  have flat : Item.lines 0 (texts.map .line) = texts.map fun text => ⟨0, text⟩ := by
    induction texts with
    | nil => rfl
    | cons text rest ih => rw [List.map_cons, Item.lines, ih, List.map_cons]
  have bare : ∀ text, layout.indented ⟨0, text⟩ = text := by
    intro text
    unfold indented
    split
    next empty => exact empty.symm
    next => exact String.empty_append
  rw [print_lines, flat, List.map_map, List.map_map]
  simp only [Function.comp_def, bare]

/-- Indentation ends no line. -/
theorem Layout.terminators_indented (layout : Layout) (line : Line) :
    terminators (layout.indented line) = terminators line.text := by
  unfold indented
  split
  next empty => rw [empty]
  next =>
    rw [terminators_append, terminators_plain (layout.indent.isOneLine_text line.depth),
      List.nil_append]

theorem Layout.terminators_lines (layout : Layout) (items : List Item) :
    ((Item.lines 0 items).map layout.indented).flatMap terminators = Item.terminators items := by
  rw [List.flatMap_map]
  simp only [layout.terminators_indented]
  rw [Item.terminators, ← List.flatMap_map Item.text, ← Item.map_text_lines 0, List.flatMap_map]

end VaultModels.Code
