import VaultModels.Proofs.Model.Members

/-!
# Properties without a member

What the host hears of the properties that a class leaves out. One whose data type has no accessor gets
a warning of its own, with its display name in it. The ones that the vault computes and the ones that
the wrapper handles are passed over without a word, so the host hears of everything that is left out
exactly if there are none of these.
-/
namespace VaultModels

open Model Schema

/-- The display name stands in the text. -/
def Message.Names (message : Message) (property : PropertyDef) : Prop :=
  property.name.toList <:+: message.text.toList

/-- Each of the properties has a message of its own among those that are heard. -/
def EachReported (properties : List PropertyDef) (heard : List Message) : Prop :=
  ∃ own, own.Subperm heard ∧
    List.Forall₂ (fun property message => message.Names property) properties own

namespace Schema.Snapshot

variable (snapshot : Snapshot)

/-- The definitions that a class is left without a member for. -/
def skipped (definitions : List PropertyDef) : List PropertyDef :=
  definitions.filter fun property => !snapshot.hasMember property

/-- What is skipped is hidden or a gap. -/
theorem isGap_eq (property : PropertyDef) :
    snapshot.isGap property = (property.isShown && !snapshot.hasMember property) := by
  rw [isGap, hasMember, ← Option.not_isSome]
  cases property.isShown <;> rfl

theorem skipped_filter_isShown (definitions : List PropertyDef) :
    (snapshot.skipped definitions).filter (·.isShown) = definitions.filter snapshot.isGap := by
  rw [skipped, List.filter_filter]
  exact List.filter_congr fun property _ => (snapshot.isGap_eq property).symm

end Schema.Snapshot

namespace Model

variable {snapshot : Snapshot} {scope : Name.Scope} {definitions : List PropertyDef}
  {found : List Member} {told : List Message}

theorem gapWarning_names (property : PropertyDef) : (gapWarning property).Names property := by
  refine ⟨("Generation of datatype " ++ property.dataType.name ++
    " not yet supported (property '").toList, "').".toList, ?_⟩
  rw [← String.toList_append, ← String.toList_append]
  rfl

namespace Lists

/-- One warning for each gap, in order. -/
theorem warned (lists : Lists snapshot scope definitions found told) :
    List.Forall₂ (fun property message => message.channel = .warning ∧ message.Names property)
      (definitions.filter snapshot.isGap) told := by
  rw [lists.told_eq, List.forall₂_map_right_iff, List.forall₂_same]
  exact fun property _ => ⟨rfl, gapWarning_names property⟩

/-- There are only as many messages as gaps, so none is left over for a hidden property. -/
theorem eachReported_iff (lists : Lists snapshot scope definitions found told) :
    EachReported (snapshot.skipped definitions) told ↔
      ∀ property ∈ snapshot.skipped definitions, property.isShown := by
  have gaps := snapshot.skipped_filter_isShown definitions
  constructor
  · rintro ⟨own, among, named⟩
    have enough := calc (snapshot.skipped definitions).length
      _ = own.length := named.length_eq
      _ ≤ told.length := among.length_le
      _ = (definitions.filter snapshot.isGap).length := lists.warned.length_eq.symm
    rw [← gaps] at enough
    exact List.length_filter_eq_length_iff.mp (Nat.le_antisymm (List.length_filter_le _ _) enough)
  · intro shown
    rw [← List.filter_eq_self.mpr shown, gaps]
    exact ⟨told, List.Subperm.refl told, lists.warned.imp fun _ _ both => both.2⟩

end Lists

/-- Of the properties that a class whose listing comes to its end has no member for, the host hears of
each that is skipped for no reason but its data type, by one warning with the display name in it, and
of nothing else. So each has a message of its own exactly if none is skipped for another reason. -/
theorem skipped_reported {cls : ObjectClass} (ended : (members cls).endOver snapshot = .ok found) :
    ∃ (associations : List Association) (definitions : List PropertyDef),
      snapshot.associations cls.id = .ok associations ∧
      associations.map snapshot.definition? = definitions.map some ∧
      List.Forall₂ (Member.IsOf snapshot) (definitions.filter snapshot.hasMember) found ∧
      let skipped := snapshot.skipped definitions
      let heard := ((members cls).run snapshot.backend ()).messages
      List.Forall₂ (fun property message => message.channel = .warning ∧ message.Names property)
        (skipped.filter fun property => (skipReason? property).isNone) heard ∧
      (EachReported skipped heard ↔ ∀ property ∈ skipped, skipReason? property = none) := by
  obtain ⟨associations, definitions, told, given, listed, lists, messages⟩ := members_lists ended
  have unreasoned : ∀ property, (skipReason? property).isNone = property.isShown := by
    intro property
    rw [← Option.not_isSome, skipReason?_isSome, Bool.not_not]
  refine ⟨associations, definitions, given, listed, lists.isOf, ?_⟩
  simp only [messages, unreasoned, ← Option.isNone_iff_eq_none]
  refine ⟨?_, lists.eachReported_iff⟩
  rw [snapshot.skipped_filter_isShown]
  exact lists.warned

/-- The reserved property and the computed one are passed over, so there is one message for three. -/
theorem skipped_reported_invoice :
    let definitions := invoice.associations.filterMap invoiceSnapshot.definition?
    let heard := ((members invoice).run invoiceSnapshot.backend ()).messages
    (invoiceSnapshot.skipped definitions).map (·.name) = ["Created", "Number", "Issued at"] ∧
      (∃ found, (members invoice).endOver invoiceSnapshot = .ok found) ∧
      heard.length = 1 ∧ ¬ EachReported (invoiceSnapshot.skipped definitions) heard := by
  intro definitions heard
  have declared : invoice ∈ invoiceSnapshot.classes := List.mem_cons_self
  have ended := members_of_sound declared (by decide)
  obtain ⟨associations, defined, given, listed, -, warned, reported⟩ := skipped_reported ended
  obtain rfl : invoice.associations = associations := Except.ok.inj given
  obtain rfl : definitions = defined := Snapshot.filterMap_definition? listed
  refine ⟨by decide, ⟨_, ended⟩, warned.length_eq.symm.trans (by decide), ?_⟩
  rw [reported]
  decide

/-- Its number is computed by the vault. -/
def numbered : ObjectClass := ⟨5, "Invoice", 0, [], none, [⟨1003, false⟩]⟩

def numberedSnapshot : Snapshot :=
  { classes := [numbered]
    propertyDefs :=
      [{ id := 1003, name := "Number", dataType := .integer, automatic := .autoNumberSimple }] }

/-- The one property of the class has no member and no message. -/
theorem skipped_silently :
    (members numbered).endOver numberedSnapshot = .ok [] ∧
      numbered.associations.map numberedSnapshot.definition? =
        numberedSnapshot.propertyDefs.map some ∧
      numberedSnapshot.skipped numberedSnapshot.propertyDefs = numberedSnapshot.propertyDefs ∧
      ((members numbered).run numberedSnapshot.backend ()).messages = [] ∧
      ¬ EachReported numberedSnapshot.propertyDefs
        ((members numbered).run numberedSnapshot.backend ()).messages := by
  have silent : ((members numbered).run numberedSnapshot.backend ()).messages = [] := rfl
  refine ⟨rfl, by decide, by decide, silent, ?_⟩
  rw [silent]
  rintro ⟨own, among, named⟩
  rw [List.subperm_nil.mp among] at named
  cases named

end Model

end VaultModels
