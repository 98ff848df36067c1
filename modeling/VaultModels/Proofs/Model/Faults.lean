import VaultModels.Model.ClassFile
import VaultModels.Proofs.Resolution.ById
import VaultModels.Proofs.Session.Over

/-!
# What can be wrong with a class

Over a snapshot a class file comes out unless an association of the class dangles: it names no
property definition, or a lookup that gets an accessor names no value list. The first association
that dangles is the one that is reported. Nothing else stops a class file, whatever the kinds and the
names of its properties are. What the file then holds is read off the snapshot.
-/
namespace VaultModels

/-- The value list of a lookup property. A lookup may lack one; a list given to any other property
does not count. -/
def Schema.PropertyDef.lookupList? (property : Schema.PropertyDef) : Option Schema.ElementId :=
  if property.dataType.isLookup then property.valueList else none

namespace Schema.Snapshot

open Model

variable (snapshot : Snapshot)

/-- The object type or value list that a lookup into `list` points at. -/
def listType? (list : ElementId) : Option ObjectType :=
  if list = Resolution.unresolvedId then none else snapshot.objectTypes.find? (·.id == list)

/-- The associations of the first class with the id of `cls`. -/
def associationsOf (cls : ObjectClass) : List Association :=
  ((snapshot.classes.find? (·.id == cls.id)).map (·.associations)).getD []

/-- What is wrong with a lookup into `list`. -/
def listFault? (list : ElementId) : Option RunError :=
  match snapshot.listType? list with
  | some _ => none
  | none => some (.resolution Resolution.Identifier.dangling)

/-- What is wrong with an association, if anything. -/
def fault? (association : Association) : Option RunError :=
  match snapshot.propertyDefs.find? (·.id == association.propertyDef) with
  | none =>
    some (.schema (.notFound .propertyDefinition (Text.int32Text association.propertyDef)))
  | some property =>
    if (skipReason? property).isSome then none
    else property.lookupList?.bind snapshot.listFault?

/-- The first thing that is wrong with a class. -/
def classFault? (cls : ObjectClass) : Option RunError :=
  (snapshot.associationsOf cls).findSome? snapshot.fault?

end Schema.Snapshot

namespace Model

open Schema Resolution

variable (snapshot : Snapshot)

/-- The generated type that an accessor points at. -/
def Accessor.target? : Accessor → Option Target
  | .scalar _ => none
  | .single target | .multiple target => some target

/-! ## Accessors -/

theorem resolveId_over (list : ElementId) :
    ((Identifier.ofId list).resolveId .objectType).endOver snapshot =
      match snapshot.listType? list with
      | some _ => .ok list
      | none => .error Identifier.dangling := by
  unfold Snapshot.listType?
  by_cases given : list = unresolvedId
  · rw [if_pos given, given, Identifier.resolveId_none]
    rfl
  · have reported : snapshot.answer (.verify .objectType list) =
        Snapshot.found .objectType (Text.int32Text list)
          ((snapshot.objectTypes.find? (·.id == list)).map (·.id)) := by
      simp only [Snapshot.answer, Snapshot.verify, Snapshot.elements, List.find?_map,
        Option.map_map]
      rfl
    rw [Identifier.resolveId_some given, Session.endOver_ask, reported, if_neg given]
    cases found : snapshot.objectTypes.find? (·.id == list) with
    | none => rfl
    | some type =>
      have same : type.id = list := by simpa using List.find?_some found
      simp [Snapshot.found, same, given]

theorem listType?_eq_some {list : ElementId} {type : ObjectType}
    (found : snapshot.listType? list = some type) :
    snapshot.objectTypes.find? (·.id == list) = some type := by
  unfold Snapshot.listType? at found
  split at found
  · cases found
  · exact found

theorem Accessor.target_over (list : ElementId) :
    (Accessor.target list).endOver snapshot =
      match snapshot.listType? list with
      | some type => .ok (Target.of type)
      | none => .error (.resolution Identifier.dangling) := by
  unfold Accessor.target
  rw [Session.endOver_bind, Session.endOver_mapError, resolveId_over]
  cases found : snapshot.listType? list with
  | none => rfl
  | some type =>
    have given : snapshot.answer (.objectType list) = .ok type := by
      simp only [Snapshot.answer, Snapshot.objectType, listType?_eq_some snapshot found]
      rfl
    exact Session.endOver_fetch_bind snapshot given _

/-- A property that is no lookup into a list never fails, and never points at a generated type. -/
theorem Accessor.of?_over_plain {property : PropertyDef} (plain : property.lookupList? = none) :
    ∃ found, (Accessor.of? property).endOver snapshot = .ok found ∧
      ∀ accessor ∈ found, accessor.target? = none := by
  unfold PropertyDef.lookupList? at plain
  unfold Accessor.of?
  split <;> simp_all [ValueKind.isLookup, target?]

theorem lookupList?_eq_some {property : PropertyDef} {list : ElementId}
    (lookup : property.lookupList? = some list) :
    (property.dataType = .lookup ∨ property.dataType = .multiSelectLookup) ∧
      property.valueList = some list := by
  simpa [PropertyDef.lookupList?, ValueKind.isLookup] using lookup

/-- A lookup gets an accessor exactly if its list is there. -/
theorem Accessor.of?_over_lookup {property : PropertyDef} {list : ElementId}
    (lookup : property.lookupList? = some list) :
    (snapshot.listType? list = none →
      (Accessor.of? property).endOver snapshot = .error (.resolution Identifier.dangling)) ∧
    (∀ type, snapshot.listType? list = some type →
      ∃ accessor, (Accessor.of? property).endOver snapshot = .ok (some accessor) ∧
        accessor.target? = some (.of type)) := by
  obtain ⟨kind | kind, given⟩ := lookupList?_eq_some lookup
  · have shape : Accessor.of? property =
        (Accessor.target list >>= fun target => .done (some (.single target))) := by
      simp only [Accessor.of?, kind, given]
    rw [shape, Session.endOver_bind, Accessor.target_over]
    refine ⟨fun missing => ?_, fun type found => ⟨.single (.of type), ?_, rfl⟩⟩
    · rw [missing]
      rfl
    · rw [found]
      rfl
  · have shape : Accessor.of? property =
        (Accessor.target list >>= fun target => .done (some (.multiple target))) := by
      simp only [Accessor.of?, kind, given]
    rw [shape, Session.endOver_bind, Accessor.target_over]
    refine ⟨fun missing => ?_, fun type found => ⟨.multiple (.of type), ?_, rfl⟩⟩
    · rw [missing]
      rfl
    · rw [found]
      rfl

/-! ## Members -/

/-- A member that points at a generated type points at that of an object type or value list of the
snapshot. -/
def Member.PointsInto (member : Member) (snapshot : Snapshot) : Prop :=
  ∀ target ∈ member.accessor.target?, ∃ type ∈ snapshot.objectTypes, target = .of type

/-- The accessor of a property comes out unless its lookup dangles. -/
theorem Accessor.of?_over (property : PropertyDef) :
    ∃ found : Option Accessor,
      (Accessor.of? property).endOver snapshot =
        withFault (property.lookupList?.bind snapshot.listFault?) found ∧
      ∀ accessor ∈ found, ∀ target ∈ accessor.target?,
        ∃ type ∈ snapshot.objectTypes, target = .of type := by
  cases lookup : property.lookupList? with
  | none =>
    obtain ⟨found, ended, plain⟩ := Accessor.of?_over_plain snapshot lookup
    refine ⟨found, ended, fun accessor member target points => ?_⟩
    rw [plain accessor member] at points
    cases points
  | some list =>
    obtain ⟨failed, reached⟩ := Accessor.of?_over_lookup snapshot lookup
    rw [Option.bind_some, Snapshot.listFault?]
    cases listed : snapshot.listType? list with
    | none => exact ⟨none, failed listed, by simp⟩
    | some type =>
      obtain ⟨accessor, ended, points⟩ := reached type listed
      refine ⟨some accessor, ended, ?_⟩
      have declared := List.mem_of_find?_eq_some (listType?_eq_some snapshot listed)
      rintro one ⟨⟩ target aimed
      rw [points] at aimed
      exact ⟨type, declared, (Option.some.inj aimed).symm⟩

/-- The first association that dangles ends the walk over them, and nothing else does. -/
theorem membersFrom_over (associations : List Association) (scope : Name.Scope) :
    ∃ found : List Member,
      (membersFrom scope associations).endOver snapshot =
        withFault (associations.findSome? snapshot.fault?) found ∧
      ∀ member ∈ found, member.PointsInto snapshot := by
  induction associations generalizing scope with
  | nil => exact ⟨[], rfl, by simp⟩
  | cons association rest ih =>
    rw [List.findSome?_cons, Snapshot.fault?]
    unfold membersFrom
    cases named : snapshot.propertyDefs.find? (·.id == association.propertyDef) with
    | none =>
      have missing : snapshot.answer (.propertyDef association.propertyDef) =
          .error (.notFound .propertyDefinition (Text.int32Text association.propertyDef)) := by
        simp only [Snapshot.answer, Snapshot.propertyDef, named]
        rfl
      exact ⟨[], Session.endOver_fetch_bind_error snapshot missing _, by simp⟩
    | some property =>
      have given : snapshot.answer (.propertyDef association.propertyDef) = .ok property := by
        simp only [Snapshot.answer, Snapshot.propertyDef, named]
        rfl
      rw [Session.endOver_fetch_bind snapshot given]
      dsimp only
      by_cases skipped : (skipReason? property).isSome
      · rw [if_pos skipped, if_pos skipped]
        exact ih scope
      · rw [if_neg skipped, if_neg skipped]
        obtain ⟨made, ended, points⟩ := Accessor.of?_over snapshot property
        rw [Session.endOver_bind, ended]
        cases property.lookupList?.bind snapshot.listFault? with
        | some error => exact ⟨[], rfl, by simp⟩
        | none =>
          cases made with
          | none => exact ih scope
          | some accessor =>
            obtain ⟨more, later, inside⟩ := ih (scope.claim (Name.clean property.name)).2
            refine ⟨⟨(scope.claim (Name.clean property.name)).1, property.name,
              propertyReference property, accessor⟩ :: more, ?_, ?_⟩
            · simp only [withFault_none, ok_bind, Session.endOver_bind, later]
              cases rest.findSome? snapshot.fault? <;> rfl
            · intro member listed
              rcases List.mem_cons.mp listed with rfl | later
              · exact points accessor rfl
              · exact inside member later

end Model

/-- The members that a class gets; none if an association dangles. -/
def Schema.Snapshot.membersOf (snapshot : Schema.Snapshot) (cls : Schema.ObjectClass) :
    List Model.Member :=
  ((Model.members cls).endOver snapshot).toOption.getD []

namespace Model

open Schema

variable {snapshot : Snapshot} {cls : ObjectClass}

/-- The associations of a declared class are found, though they may be those of another class with
its id. -/
theorem members_shape (declared : cls ∈ snapshot.classes) :
    (members cls).endOver snapshot =
      (membersFrom (Name.Scope.empty.reserve (classTypeName cls))
        (snapshot.associationsOf cls)).endOver snapshot := by
  cases found : snapshot.classes.find? (·.id == cls.id) with
  | none => simpa using List.find?_eq_none.mp found cls declared
  | some first =>
    have given : snapshot.answer (.associations cls.id) = .ok (snapshot.associationsOf cls) := by
      simp only [Snapshot.answer, Snapshot.associations, Snapshot.associationsOf, found]
      rfl
    exact Session.endOver_fetch_bind snapshot given _

/-- A declared class has its members unless one of its associations dangles. -/
theorem members_over (declared : cls ∈ snapshot.classes) :
    (members cls).endOver snapshot =
      withFault (snapshot.classFault? cls) (snapshot.membersOf cls) := by
  obtain ⟨found, ended, -⟩ := membersFrom_over snapshot (snapshot.associationsOf cls)
    (Name.Scope.empty.reserve (classTypeName cls))
  rw [← members_shape declared, ← Snapshot.classFault?] at ended
  rw [Snapshot.membersOf, ended]
  cases snapshot.classFault? cls <;> rfl

/-- A declared class without a fault has its members. -/
theorem members_of_sound (declared : cls ∈ snapshot.classes)
    (sound : snapshot.classFault? cls = none) :
    (members cls).endOver snapshot = .ok (snapshot.membersOf cls) := by
  rw [members_over declared, sound, withFault_none]

theorem membersOf_pointsInto (declared : cls ∈ snapshot.classes) :
    ∀ member ∈ snapshot.membersOf cls, member.PointsInto snapshot := by
  obtain ⟨found, ended, inside⟩ := membersFrom_over snapshot (snapshot.associationsOf cls)
    (Name.Scope.empty.reserve (classTypeName cls))
  rw [Snapshot.membersOf, members_shape declared, ended]
  cases (snapshot.associationsOf cls).findSome? snapshot.fault? with
  | none => exact inside
  | some error => simp [Except.toOption]

end Model

end VaultModels
