import VaultModels.Code.Layout

/-!
# Lines of printed code

Every line among the items of a source text is a line of what is printed, behind its indentation. A
line is anything that the layout's line ending closes; which depth it has is not held here.
-/
namespace VaultModels.Code

/-- The text is made of lines, and one of them is `line`, apart from the blanks in front of it. -/
def Layout.HasLine (layout : Layout) (written line : String) : Prop :=
  ∃ (lines : List String) (indent : String),
    written = String.join (lines.map (· ++ layout.lineEnding.text)) ∧
    indent ++ line ∈ lines ∧ ∀ c ∈ indent.toList, c = ' ' ∨ c = '\t'

theorem Item.mem_lines {text : String} {items : List Item} (member : .line text ∈ items)
    (depth : Nat) : ∃ inner, ⟨inner, text⟩ ∈ Item.lines depth items := by
  induction items generalizing depth with
  | nil => cases member
  | cons item rest ih =>
    rcases List.mem_cons.mp member with rfl | later
    · exact ⟨depth, List.mem_cons_self⟩
    · cases item with
      | line other =>
        obtain ⟨inner, found⟩ := ih later depth
        exact ⟨inner, List.mem_cons_of_mem _ found⟩
      | opening =>
        obtain ⟨inner, found⟩ := ih later (depth + 1)
        exact ⟨inner, List.mem_cons_of_mem _ found⟩
      | closing =>
        obtain ⟨inner, found⟩ := ih later (depth - 1)
        exact ⟨inner, List.mem_cons_of_mem _ found⟩

theorem Indent.text_blank (indent : Indent) (depth : Nat) :
    ∀ c ∈ (indent.text depth).toList, c = ' ' ∨ c = '\t' := by
  have unit : ∀ c ∈ indent.unit.toList, c = ' ' ∨ c = '\t' := by
    cases indent <;> simp [Indent.unit]
  intro c member
  simp only [text, String.toList_join, List.mem_flatMap, List.mem_replicate] at member
  obtain ⟨piece, ⟨-, rfl⟩, inside⟩ := member
  exact unit c inside

/-- What a line is printed as, without its ending. -/
def Layout.indented (layout : Layout) (line : Line) : String :=
  if line.text = "" then "" else layout.indent.text line.depth ++ line.text

theorem Layout.print_lines (layout : Layout) (items : List Item) :
    layout.print items =
      String.join (((Item.lines 0 items).map layout.indented).map
        (· ++ layout.lineEnding.text)) := by
  rw [List.map_map]
  rfl

theorem Layout.print_hasLine (layout : Layout) {items : List Item} {text : String}
    (member : .line text ∈ items) : layout.HasLine (layout.print items) text := by
  obtain ⟨depth, printed⟩ := Item.mem_lines member 0
  have placed : layout.indented ⟨depth, text⟩ ∈ (Item.lines 0 items).map layout.indented :=
    List.mem_map_of_mem printed
  by_cases empty : text = ""
  · refine ⟨_, "", layout.print_lines items, ?_, by simp⟩
    simpa [indented, empty] using placed
  · refine ⟨_, layout.indent.text depth, layout.print_lines items, ?_, Indent.text_blank _ _⟩
    simpa only [indented, empty, if_false] using placed

end VaultModels.Code
