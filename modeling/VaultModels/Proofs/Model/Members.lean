import VaultModels.Proofs.Model.Emission
import VaultModels.Proofs.Model.Faults
import VaultModels.Proofs.Name.Scope
import VaultModels.Proofs.Resolution.Lookup
import VaultModels.Proofs.Session.Heard

/-!
# The members of a class

Over a snapshot the associations of a class stand for property definitions, and going through them
does one of three things with each: pass it over, warn of it, or make it a member under the next free
name. `Lists` has one rule for each of the three, and what holds of all members follows from the
rules. Which associations make the listing fail is the subject of the faults.
-/
namespace VaultModels

namespace Schema

open Model

/-- Neither computed by the vault nor one of the properties that the wrapper handles. -/
def PropertyDef.isShown (property : PropertyDef) : Bool :=
  property.automatic == .none && !(1 ≤ property.id && property.id ≤ 100)

namespace Snapshot

variable (snapshot : Snapshot)

/-- The definition that an association stands for: the first one with the id. -/
def definition? (association : Association) : Option PropertyDef :=
  snapshot.propertyDefs.find? (·.id == association.propertyDef)

theorem filterMap_definition? {snapshot : Snapshot} {associations : List Association}
    {definitions : List PropertyDef}
    (listed : associations.map snapshot.definition? = definitions.map some) :
    associations.filterMap snapshot.definition? = definitions := by
  have read := congrArg (List.filterMap id) listed
  rwa [List.filterMap_map, List.filterMap_map, Function.id_comp, Function.id_comp,
    List.filterMap_some] at read

/-- The accessor of a property by its data type; a lookup needs a value list that is there. -/
def accessorFor? (property : PropertyDef) : Option Accessor :=
  match property.dataType with
  | .text | .multiLineText => some (.scalar .string)
  | .date => some (.scalar .dateTime)
  | .boolean => some (.scalar .bool)
  | .integer => some (.scalar .int)
  | .floating => some (.scalar .float)
  | .lookup => (property.valueList.bind snapshot.listType?).map (.single ∘ .of)
  | .multiSelectLookup => (property.valueList.bind snapshot.listType?).map (.multiple ∘ .of)
  | .uninitialized | .integer64 | .time | .timestamp | .fileTime | .acl => none

/-- The property gets a member. -/
def hasMember (property : PropertyDef) : Bool :=
  property.isShown && (snapshot.accessorFor? property).isSome

/-- The property would get a member, had its data type an accessor. -/
def isGap (property : PropertyDef) : Bool :=
  property.isShown && (snapshot.accessorFor? property).isNone

/-- The definitions that become members of a class, one for each association. -/
def memberDefinitions (cls : ObjectClass) : List PropertyDef :=
  ((snapshot.associationsOf cls).filterMap snapshot.definition?).filter snapshot.hasMember

end Snapshot

end Schema

namespace Model

open Schema

/-- What the host hears of a property that has no accessor. -/
def gapWarning (property : PropertyDef) : Message :=
  ⟨.warning, (Refusal.unsupportedValueKind property.name property.dataType.name).message⟩

/-- Going through the definitions with the names of `scope` taken gives these members and messages. -/
inductive Lists (snapshot : Snapshot) :
    Name.Scope → List PropertyDef → List Member → List Message → Prop
  | done (scope : Name.Scope) : Lists snapshot scope [] [] []
  | hidden {scope : Name.Scope} {property : PropertyDef} {rest : List PropertyDef}
      {found : List Member} {told : List Message} (hidden : property.isShown = false)
      (later : Lists snapshot scope rest found told) :
      Lists snapshot scope (property :: rest) found told
  | gap {scope : Name.Scope} {property : PropertyDef} {rest : List PropertyDef}
      {found : List Member} {told : List Message} (shown : property.isShown)
      (unmapped : snapshot.accessorFor? property = none)
      (later : Lists snapshot scope rest found told) :
      Lists snapshot scope (property :: rest) found (gapWarning property :: told)
  | member {scope : Name.Scope} {property : PropertyDef} {accessor : Accessor}
      {rest : List PropertyDef} {found : List Member} {told : List Message}
      (shown : property.isShown) (mapped : snapshot.accessorFor? property = some accessor)
      (later : Lists snapshot (scope.claim (Name.clean property.name)).2 rest found told) :
      Lists snapshot scope (property :: rest)
        (⟨(scope.claim (Name.clean property.name)).1, property.name, propertyReference property,
          accessor⟩ :: found) told

variable {snapshot : Snapshot} {scope : Name.Scope} {associations : List Association}
  {definitions : List PropertyDef} {found : List Member} {told : List Message}

theorem skipReason?_isSome (property : PropertyDef) :
    (skipReason? property).isSome = !property.isShown := by
  have shown : property.isShown = (property.automatic == .none && !property.isReserved) := rfl
  rw [shown, skipReason?, PropertyDef.isAutomatic, bne]
  cases property.automatic == .none <;> cases property.isReserved <;> rfl

/-- A lookup that gets an accessor points at the type of its list. -/
theorem Accessor.target_ended {list : ElementId} {shape : Target → Accessor}
    {accessor : Option Accessor}
    (ended : (Accessor.target list >>= fun target => .done (some (shape target))).endOver snapshot =
      .ok accessor) :
    accessor = (snapshot.listType? list).map (shape ∘ .of) := by
  rw [Session.endOver_bind, Accessor.target_over] at ended
  cases listed : snapshot.listType? list with
  | none =>
    rw [listed] at ended
    cases ended
  | some type =>
    rw [listed] at ended
    cases ended
    rfl

/-- An accessor that comes out is the one of the data type. -/
theorem Accessor.of?_ended {property : PropertyDef} {accessor : Option Accessor}
    (ended : (Accessor.of? property).endOver snapshot = .ok accessor) :
    accessor = snapshot.accessorFor? property := by
  unfold Accessor.of? at ended
  unfold Snapshot.accessorFor?
  split at ended
  case h_7 list kind given =>
    rw [kind, given]
    exact Accessor.target_ended ended
  case h_8 list kind given =>
    rw [kind, given]
    exact Accessor.target_ended ended
  case h_9 => 
    cases ended
    cases kind : property.dataType <;> cases given : property.valueList <;> simp_all
  all_goals
    cases ended
    simp only [*]

/-- Each association that is gone through stands for a definition, and what is made of the definitions
is up to the rules. -/
theorem membersFrom_lists (ended : (membersFrom scope associations).endOver snapshot = .ok found) :
    ∃ definitions told, associations.map snapshot.definition? = definitions.map some ∧
      Lists snapshot scope definitions found told ∧
      (membersFrom scope associations).Reaches snapshot (fun _ => true) told found := by
  induction associations generalizing scope found with
  | nil =>
    cases ended
    exact ⟨[], [], rfl, .done scope, Session.reaches_done []⟩
  | cons association rest ih =>
    unfold membersFrom at ended
    obtain ⟨property, fetched, ended⟩ := Session.endOver_bind_eq_ok.mp ended
    have given := Resolution.fetch_eq_ok.mp fetched
    have defined : snapshot.definition? association = some property :=
      Resolution.found_eq_ok.mp given
    unfold membersFrom
    rw [List.map_cons, defined]
    rw [skipReason?_isSome] at ended
    cases shown : property.isShown with
    | false =>
      rw [shown] at ended
      obtain ⟨definitions, told, same, lists, reaches⟩ := ih ended
      refine ⟨property :: definitions, told, by rw [same, List.map_cons], .hidden shown lists, ?_⟩
      refine (Session.reaches_fetch given).silent_bind ?_
      rwa [skipReason?_isSome, shown]
    | true =>
      rw [shown] at ended
      obtain ⟨made, mapped, ended⟩ := Session.endOver_bind_eq_ok.mp ended
      have silent : (Accessor.of? property).Reaches snapshot (fun _ => true) [] made :=
        (Accessor.of?_tells property).reaches mapped
      have same := Accessor.of?_ended mapped
      cases made with
      | none =>
        obtain ⟨definitions, told, listed, lists, reaches⟩ := ih ended
        refine ⟨property :: definitions, gapWarning property :: told, by rw [listed, List.map_cons],
          .gap shown same.symm lists, ?_⟩
        refine (Session.reaches_fetch given).silent_bind ?_
        rw [skipReason?_isSome, shown]
        exact silent.silent_bind (Session.reaches_tell _ reaches)
      | some accessor =>
        obtain ⟨more, later, ended⟩ := Session.endOver_bind_eq_ok.mp ended
        cases ended
        obtain ⟨definitions, told, listed, lists, reaches⟩ := ih later
        refine ⟨property :: definitions, told, by rw [listed, List.map_cons],
          .member shown same.symm lists, ?_⟩
        refine (Session.reaches_fetch given).silent_bind ?_
        rw [skipReason?_isSome, shown]
        rw [← List.append_nil told]
        exact silent.silent_bind (reaches.bind (Session.reaches_done _))

/-! ## What holds of all members -/

/-- The member has everything but its name from the definition. -/
structure Member.IsOf (snapshot : Snapshot) (property : PropertyDef) (member : Member) : Prop where
  displayName : member.displayName = property.name
  reference : member.reference = propertyReference property
  accessor : snapshot.accessorFor? property = some member.accessor

theorem Member.displayNames_eq (isOf : List.Forall₂ (Member.IsOf snapshot) definitions found) :
    found.map (·.displayName) = definitions.map (·.name) := by
  induction isOf with
  | nil => rfl
  | cons first _ ih => rw [List.map_cons, List.map_cons, first.displayName, ih]

namespace Lists

theorem isOf (lists : Lists snapshot scope definitions found told) :
    List.Forall₂ (Member.IsOf snapshot) (definitions.filter snapshot.hasMember) found := by
  induction lists with
  | done => exact .nil
  | hidden hidden _ ih =>
    rwa [List.filter_cons_of_neg (by simp [Snapshot.hasMember, hidden])]
  | gap shown unmapped _ ih =>
    rwa [List.filter_cons_of_neg (by simp [Snapshot.hasMember, unmapped])]
  | member shown mapped _ ih =>
    rw [List.filter_cons_of_pos (by simp [Snapshot.hasMember, shown, mapped])]
    exact .cons ⟨rfl, rfl, mapped⟩ ih

theorem told_eq (lists : Lists snapshot scope definitions found told) :
    told = (definitions.filter snapshot.isGap).map gapWarning := by
  induction lists with
  | done => rfl
  | hidden hidden _ ih =>
    rwa [List.filter_cons_of_neg (by simp [Snapshot.isGap, hidden])]
  | gap shown unmapped _ ih =>
    rw [List.filter_cons_of_pos (by simp [Snapshot.isGap, shown, unmapped]), List.map_cons, ← ih]
  | member shown mapped _ ih =>
    rwa [List.filter_cons_of_neg (by simp [Snapshot.isGap, mapped])]

/-- Members are named in their order, by one scope. -/
theorem names_eq (lists : Lists snapshot scope definitions found told) :
    found.map (·.name) = (scope.claimAll (found.map fun member => Name.clean member.displayName)).1 := by
  induction lists with
  | done => rfl
  | hidden _ _ ih => exact ih
  | gap _ _ _ ih => exact ih
  | member _ _ _ ih => rw [List.map_cons, List.map_cons, Name.Scope.claimAll_cons, ih]; rfl

theorem isValid (lists : Lists snapshot scope definitions found told) :
    ∀ member ∈ found, Name.isValid member.name := by
  intro member inside
  have named : member.name ∈ found.map (·.name) := List.mem_map_of_mem inside
  rw [lists.names_eq] at named
  refine Name.Scope.claimAll_isValid (fun base asked => ?_) _ named
  obtain ⟨other, -, rfl⟩ := List.mem_map.mp asked
  exact Name.isValid_clean _

end Lists

/-- The members of any class whose listing comes to its end. -/
theorem members_lists {cls : ObjectClass} (ended : (members cls).endOver snapshot = .ok found) :
    ∃ associations definitions told, snapshot.associations cls.id = .ok associations ∧
      associations.map snapshot.definition? = definitions.map some ∧
      Lists snapshot (Name.Scope.empty.reserve (classTypeName cls)) definitions found told ∧
      ((members cls).run snapshot.backend ()).messages = told := by
  obtain ⟨associations, fetched, ended⟩ := Session.endOver_bind_eq_ok.mp ended
  have given := Resolution.fetch_eq_ok.mp fetched
  obtain ⟨definitions, told, listed, lists, reaches⟩ := membersFrom_lists ended
  refine ⟨associations, definitions, told, given, listed, lists, ?_⟩
  rw [← ((Session.reaches_fetch given).silent_bind reaches).heard]
  exact (List.filter_true _).symm

/-- Each member is made of a definition of the snapshot, under a name of its own. -/
theorem members_isOf {cls : ObjectClass} (ended : (members cls).endOver snapshot = .ok found) :
    List.Forall₂ (Member.IsOf snapshot) (snapshot.memberDefinitions cls) found ∧
      ∀ member ∈ found, Name.isValid member.name := by
  obtain ⟨associations, definitions, told, given, listed, lists, -⟩ := members_lists ended
  obtain ⟨first, declared, rfl⟩ := Option.map_eq_some_iff.mp (Resolution.found_eq_ok.mp given)
  have own : snapshot.associationsOf cls = first.associations := by
    rw [Snapshot.associationsOf, declared, Option.map_some, Option.getD_some]
  rw [Snapshot.memberDefinitions, own, Snapshot.filterMap_definition? listed]
  exact ⟨lists.isOf, lists.isValid⟩

/-- A class has one member for each of its associations whose definition is shown and has an accessor,
in order, and under names of its own. The host hears of each other one that is shown, and of nothing
else. -/
theorem members_accounted {cls : ObjectClass} (ended : (members cls).endOver snapshot = .ok found) :
    ∃ (associations : List Association) (definitions : List PropertyDef),
      snapshot.associations cls.id = .ok associations ∧
      associations.map snapshot.definition? = definitions.map some ∧
      List.Forall₂ (Member.IsOf snapshot) (definitions.filter snapshot.hasMember) found ∧
      (found.map (·.name)).Nodup ∧
      (∀ member ∈ found, Name.isValid member.name ∧ member.name ≠ classTypeName cls) ∧
      ((members cls).run snapshot.backend ()).messages =
        (definitions.filter snapshot.isGap).map gapWarning := by
  obtain ⟨associations, definitions, told, given, listed, lists, messages⟩ := members_lists ended
  refine ⟨associations, definitions, given, listed, lists.isOf, ?_, ?_, ?_⟩
  · rw [lists.names_eq]
    exact Name.Scope.claimAll_nodup _ _
  · intro member inside
    have named : member.name ∈ found.map (·.name) := List.mem_map_of_mem inside
    rw [lists.names_eq] at named
    refine ⟨lists.isValid member inside, ?_⟩
    rintro same
    exact Name.Scope.claimAll_free _ named (same ▸ List.mem_cons_self)
  · rw [messages, lists.told_eq]

/-- Its properties are left to the wrapper, computed, without an accessor, or members; of the members
two are named alike, one comes twice and one is named like the class. -/
def invoice : ObjectClass :=
  ⟨5, "Invoice", 0, [], none,
    [⟨20, false⟩, ⟨1001, false⟩, ⟨1002, true⟩, ⟨1003, false⟩, ⟨1004, false⟩, ⟨1005, false⟩,
     ⟨1001, false⟩]⟩

def invoiceSnapshot : Snapshot :=
  { objectTypes := [.real 0 "Document", .staticList 200 "Status"]
    classes := [invoice]
    propertyDefs :=
      [{ id := 20, name := "Created", dataType := .timestamp },
       { id := 1001, name := "Amount", dataType := .floating },
       .lookupInto 1002 "Amount!" 200,
       { id := 1003, name := "Number", dataType := .integer, automatic := .autoNumberSimple },
       { id := 1004, name := "Issued at", dataType := .timestamp },
       { id := 1005, name := "Invoice", dataType := .text }] }

theorem members_accounted_invoice :
    ∃ found, (members invoice).endOver invoiceSnapshot = .ok found ∧
      found.map (·.displayName) = ["Amount", "Amount!", "Invoice", "Amount"] ∧
      (found.map (·.name)).Nodup ∧
      ((members invoice).run invoiceSnapshot.backend ()).messages =
        [gapWarning { id := 1004, name := "Issued at", dataType := .timestamp }] := by
  have declared : invoice ∈ invoiceSnapshot.classes := List.mem_cons_self
  have ended := members_of_sound declared (by decide)
  obtain ⟨associations, definitions, given, listed, isOf, distinct, -, told⟩ :=
    members_accounted ended
  obtain rfl : invoice.associations = associations := Except.ok.inj given
  obtain rfl := Snapshot.filterMap_definition? listed
  exact ⟨_, ended, Member.displayNames_eq isOf, distinct, told⟩

end Model

end VaultModels
