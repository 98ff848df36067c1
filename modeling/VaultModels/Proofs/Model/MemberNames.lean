import VaultModels.Proofs.Model.Members
import VaultModels.Proofs.Name.Format

/-!
# Names of members

The members of a class and those of an enum get their names in the same way: each display name is
cleaned, and one scope hands the names out that holds back the name of the type. So whatever the
display names are, the names are kept apart as they are written, and it is known exactly when they are
kept apart as the compiler compares them.
-/
namespace VaultModels.Model

open Code Name Schema

/-- The names that members of the type get for these display names: kept apart as they are written, and
as they are compared exactly if leaving out format characters makes no difference to which names are
handed out, and brings no keyword to light. It makes none where there are none. -/
structure IsNaming (typeName : String) (displayNames names : List String) : Prop where
  written : KeptApart id typeName names
  compared : KeptApart withoutFormat typeName names ↔
    names.map withoutFormat =
        ((Scope.empty.reserve (withoutFormat typeName)).claimAll
          (displayNames.map fun display => withoutFormat (clean display))).1 ∧
      ∀ display ∈ displayNames, isKeyword (withoutFormat (clean display)) →
        clean display = typeName
  formatFree : isFormatFree typeName → (∀ display ∈ displayNames, isFormatFree display) →
    KeptApart withoutFormat typeName names

theorem isNaming_memberNames (typeName : String) (displayNames : List String) :
    IsNaming typeName displayNames (memberNames typeName displayNames) where
  written := memberNames_keptApart typeName displayNames
  compared := memberNames_compared_iff typeName displayNames
  formatFree := memberNames_formatFree

/-! ## Members of a class -/

theorem names_of_members {snapshot : Snapshot} {cls : ObjectClass} {found : List Member}
    (ended : (members cls).endOver snapshot = .ok found) :
    found.map (·.name) = memberNames (classTypeName cls) (found.map (·.displayName)) := by
  obtain ⟨_, _, _, -, -, lists, -⟩ := members_lists ended
  rw [lists.names_eq, memberNames, List.map_map]
  rfl

/-! ## Members of an enum -/

/-- The lines of members whose names are known. -/
def writtenMembers : Bool → List (EnumEntry × String) → List Item
  | _, [] => []
  | isFirst, (entry, name) :: rest => entry.items name isFirst ++ writtenMembers false rest

theorem enumMembers_eq (scope : Scope) (isFirst : Bool) (entries : List EnumEntry) :
    enumMembers scope isFirst entries =
      writtenMembers isFirst
        (entries.zip (scope.claimAll (entries.map fun entry => clean entry.displayName)).1) := by
  induction entries generalizing scope isFirst with
  | nil => rfl
  | cons entry rest ih =>
    rw [List.map_cons, Scope.claimAll_cons, List.zip_cons_cons, writtenMembers, ← ih]
    rfl

/-- The members of an enum are written under names of their own, one after the other. -/
theorem enumBody_eq (typeName : String) (entries : List EnumEntry) :
    enumBody typeName entries =
      writtenMembers true
        (entries.zip (memberNames typeName (entries.map (·.displayName)))) := by
  rw [enumBody, enumMembers_eq, memberNames, List.map_map]
  rfl

/-! ## Both -/

/-- The names of the members of a class, and those that are written for the members of an enum. -/
theorem members_named {snapshot : Snapshot} {cls : ObjectClass} {found : List Member}
    (ended : (members cls).endOver snapshot = .ok found) (typeName : String)
    (entries : List EnumEntry) :
    IsNaming (classTypeName cls) (found.map (·.displayName)) (found.map (·.name)) ∧
      ∃ names, names.length = entries.length ∧
        enumBody typeName entries = writtenMembers true (entries.zip names) ∧
        IsNaming typeName (entries.map (·.displayName)) names := by
  constructor
  · rw [names_of_members ended]
    exact isNaming_memberNames _ _
  · refine ⟨memberNames typeName (entries.map (·.displayName)), ?_, enumBody_eq typeName entries,
      isNaming_memberNames _ _⟩
    rw [memberNames, Scope.length_claimAll, List.length_map, List.length_map]

/-- Two entries are named by one keyword, and one like the enum. -/
def rates : List EnumEntry := [⟨1, "class"⟩, ⟨2, "Rate"⟩, ⟨3, "class"⟩]

theorem members_named_invoice :
    ∃ found names, (members invoice).endOver invoiceSnapshot = .ok found ∧ found.length = 4 ∧
      KeptApart withoutFormat (classTypeName invoice) (found.map (·.name)) ∧
      enumBody "Rate" rates = writtenMembers true (rates.zip names) ∧ names.length = 3 ∧
      KeptApart withoutFormat "Rate" names := by
  have declared : invoice ∈ invoiceSnapshot.classes := List.mem_cons_self
  have ended := members_of_sound declared (by decide)
  obtain ⟨isOf, -⟩ := members_isOf ended
  obtain ⟨ofClass, names, length, written, ofEnum⟩ := members_named ended "Rate" rates
  refine ⟨_, names, ended, isOf.length_eq.symm, ofClass.formatFree ?_ ?_, written, length,
    ofEnum.formatFree (by decide) (by decide)⟩
  · exact isFormatFree_clean (by decide)
  · rw [Member.displayNames_eq isOf]
    decide

/-- A property is named like another one, and one like the class, but for a soft hyphen. -/
def hyphenated : ObjectClass :=
  ⟨5, "Invoice", 0, [], none, [⟨1001, false⟩, ⟨1002, false⟩, ⟨1003, false⟩]⟩

def hyphenatedSnapshot : Snapshot :=
  { classes := [hyphenated]
    propertyDefs :=
      [{ id := 1001, name := "Amount", dataType := .floating },
       { id := 1002, name := "Am\u00ADount", dataType := .floating },
       { id := 1003, name := "In\u00ADvoice", dataType := .text }] }

/-- The compiler takes the members of a class for one, and for their class, and takes the member of an
enum for a keyword. -/
theorem names_merged :
    (∃ found, (members hyphenated).endOver hyphenatedSnapshot = .ok found ∧
      ¬ ((found.map (·.name)).map withoutFormat).Nodup ∧
      ∃ member ∈ found, withoutFormat member.name = withoutFormat (classTypeName hyphenated)) ∧
    ∃ name, enumBody "Rate" [⟨1, "cl\u00ADass"⟩] =
        writtenMembers true [(⟨1, "cl\u00ADass"⟩, name)] ∧
      isKeyword (withoutFormat name) := by
  constructor
  · have declared : hyphenated ∈ hyphenatedSnapshot.classes := List.mem_cons_self
    refine ⟨_, members_of_sound declared (by decide), ?_⟩
    decide +kernel
  · refine ⟨"cl\u00ADass", ?_, ?_⟩
    · decide +kernel
    · decide +kernel

end VaultModels.Model
