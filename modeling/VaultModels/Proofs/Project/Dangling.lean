import VaultModels.Proofs.Project.PlanCall
import VaultModels.Proofs.Project.Rendering

/-!
# Dangling associations

A planning call that may replace files is rejected over a snapshot exactly if an association of a
walked class dangles, and the error is that of the first one in walk order. Kinds without accessor,
lookups without list, names that coincide and names that are no identifiers never reject a plan.
Ids need not be distinct: of several definitions, classes or types with one id the first one counts.
-/
namespace VaultModels

namespace Schema.Snapshot

open Model

variable (snapshot : Snapshot)

/-- The association names a property definition, and if that is a lookup into a list and gets an
accessor, then the list is an object type or value list of the snapshot. -/
def Sound (association : Association) : Prop :=
  ∃ property,
    snapshot.propertyDefs.find? (·.id == association.propertyDef) = some property ∧
    (property.automatic = .none → ¬ (1 ≤ property.id ∧ property.id ≤ 100) →
      property.dataType = .lookup ∨ property.dataType = .multiSelectLookup →
      ∀ list, property.valueList = some list →
        list ≠ -1 ∧ ∃ type ∈ snapshot.objectTypes, type.id = list)

/-- What an unsound association is reported as. -/
def danglingError (association : Association) : RunError :=
  match snapshot.propertyDefs.find? (·.id == association.propertyDef) with
  | none =>
    .schema (.notFound .propertyDefinition (Text.int32Text association.propertyDef))
  | some _ => .resolution (.unresolved (some .objectType) "")

theorem listType?_isSome (list : ElementId) :
    (snapshot.listType? list).isSome ↔
      list ≠ -1 ∧ ∃ type ∈ snapshot.objectTypes, type.id = list := by
  unfold listType?
  split
  next none_given =>
    have absent : ¬ list ≠ -1 := not_not_intro none_given
    simp [absent]
  next given =>
    have present : list ≠ -1 := given
    simp [present]

theorem listFault?_eq_none_iff (list : ElementId) :
    snapshot.listFault? list = none ↔
      list ≠ -1 ∧ ∃ type ∈ snapshot.objectTypes, type.id = list := by
  rw [← listType?_isSome, listFault?]
  cases snapshot.listType? list <;> simp

/-- A property is left out if it is automatic or reserved. -/
theorem skipReason?_isSome_iff (property : PropertyDef) :
    (skipReason? property).isSome ↔
      (property.automatic = .none → 1 ≤ property.id ∧ property.id ≤ 100) := by
  unfold skipReason? PropertyDef.isAutomatic PropertyDef.isReserved
  by_cases automatic : property.automatic = .none
  · by_cases reserved : 1 ≤ property.id ∧ property.id ≤ 100 <;> simp [automatic, reserved]
  · simp [automatic]

/-- Exactly the unsound associations have a fault. -/
theorem fault?_eq_none_iff (association : Association) :
    snapshot.fault? association = none ↔ snapshot.Sound association := by
  unfold fault? Sound
  cases snapshot.propertyDefs.find? (·.id == association.propertyDef) with
  | none => simp
  | some property =>
    simp only [Option.some.injEq, exists_eq_left']
    by_cases skipped : (skipReason? property).isSome
    · rw [if_pos skipped]
      have exempt := (skipReason?_isSome_iff property).mp skipped
      exact iff_of_true rfl fun automatic counted => absurd (exempt automatic) counted
    · rw [if_neg skipped]
      rw [skipReason?_isSome_iff, Classical.not_imp] at skipped
      simp only [skipped.1, skipped.2, not_false_eq_true, forall_const, PropertyDef.lookupList?,
        ValueKind.isLookup, Bool.or_eq_true, beq_iff_eq]
      by_cases lookup : property.dataType = .lookup ∨ property.dataType = .multiSelectLookup
      · rw [if_pos lookup]
        cases property.valueList <;> simp [lookup, listFault?_eq_none_iff]
      · simp [lookup]

theorem eq_danglingError {association : Association} {error : RunError}
    (faulty : snapshot.fault? association = some error) :
    error = snapshot.danglingError association := by
  unfold fault? at faulty
  unfold danglingError
  cases named : snapshot.propertyDefs.find? (·.id == association.propertyDef) with
  | none =>
    rw [named] at faulty
    exact (Option.some.inj faulty).symm
  | some property =>
    rw [named] at faulty
    dsimp only at faulty
    split at faulty
    · cases faulty
    · obtain ⟨list, -, missing⟩ := Option.bind_eq_some_iff.mp faulty
      unfold listFault? at missing
      split at missing
      · cases missing
      · exact (Option.some.inj missing).symm

/-- The first fault of a list of associations is that of the first unsound one. -/
theorem findSome?_fault?_eq_some_iff (associations : List Association) (error : RunError) :
    associations.findSome? snapshot.fault? = some error ↔
      ∃ before association after, associations = before ++ association :: after ∧
        (∀ earlier ∈ before, snapshot.Sound earlier) ∧ ¬ snapshot.Sound association ∧
        error = snapshot.danglingError association := by
  rw [List.findSome?_eq_some_iff]
  constructor
  · rintro ⟨before, association, after, cut, faulty, clear⟩
    refine ⟨before, association, after, cut, ?_, ?_, snapshot.eq_danglingError faulty⟩
    · intro earlier member
      exact (snapshot.fault?_eq_none_iff earlier).mp (clear earlier member)
    · rw [← fault?_eq_none_iff, faulty]
      simp
  · rintro ⟨before, association, after, cut, clear, unsound, rfl⟩
    refine ⟨before, association, after, cut, ?_, ?_⟩
    · obtain ⟨error, faulty⟩ := Option.ne_none_iff_exists'.mp
        (mt (snapshot.fault?_eq_none_iff association).mp unsound)
      rw [faulty, snapshot.eq_danglingError faulty]
    · intro earlier member
      exact (snapshot.fault?_eq_none_iff earlier).mpr (clear earlier member)

/-- A class is walked if its object type is a real one. -/
theorem mem_walkedClasses (cls : ObjectClass) :
    (∃ type ∈ snapshot.realTypes, cls ∈ snapshot.classesOf type.id) ↔
      cls ∈ snapshot.classes ∧
        ∃ type ∈ snapshot.objectTypes, type.isReal ∧ type.id = cls.objectType := by
  simp only [realTypes, classesOf, List.mem_filter, beq_iff_eq]
  constructor
  · rintro ⟨type, ⟨member, real⟩, declared, same⟩
    exact ⟨declared, type, member, real, same.symm⟩
  · rintro ⟨declared, type, member, real, same⟩
    exact ⟨type, ⟨member, real⟩, declared, same.symm⟩

theorem mem_associationsOf {cls : ObjectClass} (association : Association) :
    association ∈ snapshot.associationsOf cls ↔
      ∃ first, snapshot.classes.find? (·.id == cls.id) = some first ∧
        association ∈ first.associations := by
  unfold associationsOf
  cases snapshot.classes.find? (·.id == cls.id) <;> simp

theorem mem_walkedAssociations (association : Association) :
    association ∈ snapshot.walkedAssociations ↔
      ∃ cls, (∃ type ∈ snapshot.realTypes, cls ∈ snapshot.classesOf type.id) ∧
        association ∈ snapshot.associationsOf cls := by
  simp only [walkedAssociations, List.mem_flatMap]
  constructor
  · rintro ⟨type, real, cls, owned, member⟩
    exact ⟨cls, ⟨type, real, owned⟩, member⟩
  · rintro ⟨cls, ⟨type, real, owned⟩, member⟩
    exact ⟨type, real, cls, owned, member⟩

/-- Nothing is wrong on the walk if every association of a walked class is sound, the first class of
an id standing for all of them. -/
theorem no_fault_iff :
    snapshot.walkedAssociations.findSome? snapshot.fault? = none ↔
      ∀ cls ∈ snapshot.classes,
        (∃ type ∈ snapshot.objectTypes, type.isReal ∧ type.id = cls.objectType) →
        ∀ first, snapshot.classes.find? (·.id == cls.id) = some first →
          ∀ association ∈ first.associations, snapshot.Sound association := by
  rw [List.findSome?_eq_none_iff]
  constructor
  · intro clear cls declared owned first found association member
    have walked : association ∈ snapshot.walkedAssociations :=
      (snapshot.mem_walkedAssociations association).mpr
        ⟨cls, (snapshot.mem_walkedClasses cls).mpr ⟨declared, owned⟩,
          (snapshot.mem_associationsOf association).mpr ⟨first, found, member⟩⟩
    exact (snapshot.fault?_eq_none_iff association).mp (clear association walked)
  · intro sound association walked
    obtain ⟨cls, inside, listed⟩ := (snapshot.mem_walkedAssociations association).mp walked
    obtain ⟨declared, owned⟩ := (snapshot.mem_walkedClasses cls).mp inside
    obtain ⟨first, found, member⟩ := (snapshot.mem_associationsOf association).mp listed
    exact (snapshot.fault?_eq_none_iff association).mpr
      (sound cls declared owned first found association member)

end Schema.Snapshot

namespace Project

open Model Schema

variable {ω : Type} {snapshot : Snapshot} {cache : Cache}

/-- A forced call over a snapshot gives a plan unless there is a fault on the walk. -/
theorem PlanCall.run_forced {call : PlanCall ω} (forced : call.overwrite = true)
    (options : Options) (agrees : cache.Agrees snapshot) :
    ∃ accepted, (call.run snapshot.backend options (cache, ())).result =
      withFault (snapshot.walkedAssociations.findSome? snapshot.fault?) accepted := by
  obtain ⟨accepted, decided⟩ :=
    call.decide_forced forced (firstOfEachTarget (snapshot.inventory options))
  refine ⟨accepted, ?_⟩
  rw [call.run_snapshot options agrees, render_over]
  cases snapshot.walkedAssociations.findSome? snapshot.fault? with
  | some error => rfl
  | none =>
    rw [withFault_none, withFault_none]
    dsimp only
    rw [decided]
    rfl

theorem PlanCall.forced_accepted {call : PlanCall ω} (forced : call.overwrite = true)
    (options : Options) (agrees : cache.Agrees snapshot)
    (clear : snapshot.walkedAssociations.findSome? snapshot.fault? = none) :
    ∃ accepted, (call.run snapshot.backend options (cache, ())).result = .ok accepted := by
  obtain ⟨accepted, ended⟩ := call.run_forced forced options agrees
  rw [clear] at ended
  exact ⟨accepted, ended⟩

/-- A planning call that may replace files is accepted exactly if every association of a walked class
is sound, and is otherwise rejected with the error of the first unsound association of the walk: a
property definition that is not there, or a lookup whose list stands for nothing. The project and the
options have no part in this, nor has anything that is remembered of the snapshot. -/
theorem forced_call_decision (call : PlanCall ω) (forced : call.overwrite = true)
    (options : Options) (agrees : cache.Agrees snapshot) :
    ((∃ accepted, (call.run snapshot.backend options (cache, ())).result = .ok accepted) ↔
      ∀ cls ∈ snapshot.classes,
        (∃ type ∈ snapshot.objectTypes, type.isReal ∧ type.id = cls.objectType) →
        ∀ first, snapshot.classes.find? (·.id == cls.id) = some first →
          ∀ association ∈ first.associations, snapshot.Sound association) ∧
    (∀ error, (call.run snapshot.backend options (cache, ())).result = .error error ↔
      ∃ before association after,
        (snapshot.realTypes.flatMap fun type =>
          (snapshot.classesOf type.id).flatMap snapshot.associationsOf) =
            before ++ association :: after ∧
        (∀ earlier ∈ before, snapshot.Sound earlier) ∧ ¬ snapshot.Sound association ∧
        error = snapshot.danglingError association) := by
  obtain ⟨plan, ended⟩ := call.run_forced forced options agrees
  rw [ended]
  refine ⟨?_, fun error => ?_⟩
  · rw [← snapshot.no_fault_iff]
    constructor
    · rintro ⟨accepted, reached⟩
      exact (withFault_eq_ok.mp reached).1
    · intro clear
      exact ⟨plan, withFault_eq_ok.mpr ⟨clear, rfl⟩⟩
  · rw [withFault_eq_error]
    exact snapshot.findSome?_fault?_eq_some_iff _ error

/-- The second class has two lookups that dangle, into the list `-1` and into a list that is not
there; a class before it holds an automatic property and a property of a reserved id that dangle too
and do not count. -/
def danglingSnapshot : Snapshot :=
  { objectTypes := [.real 0 "Document", .real (-1) "Nothing"]
    classes :=
      [⟨1, "Invoice", 0, [], none, [⟨7, false⟩, ⟨1001, false⟩]⟩,
       ⟨2, "Report", 0, [], none, [⟨1002, false⟩, ⟨1003, false⟩]⟩]
    propertyDefs :=
      [.lookupInto 7 "Reserved" 999,
       { id := 1001, name := "Computed", dataType := .lookup, valueList := some 999,
         automatic := .calculatedWithScript },
       .multiLookupInto 1002 "Nobody" (-1),
       .lookupInto 1003 "Nowhere" 999] }

theorem forced_call_decision_sample :
    let call : PlanCall Memory := ⟨Memory.writer, {}, true⟩
    (call.run danglingSnapshot.backend {} ([], ())).result =
      .error (.resolution (.unresolved (some .objectType) "")) := by
  intro call
  obtain ⟨-, rejected⟩ :=
    forced_call_decision call rfl {} (Cache.agrees_empty danglingSnapshot)
  have clear : ∀ earlier ∈ [⟨7, false⟩, ⟨1001, false⟩],
      danglingSnapshot.fault? earlier = none := by decide
  have dangles : danglingSnapshot.fault? ⟨1002, false⟩ ≠ none := by decide
  refine (rejected _).mpr ⟨[⟨7, false⟩, ⟨1001, false⟩], ⟨1002, false⟩, [⟨1003, false⟩],
    by decide, ?_, ?_, by decide⟩
  · intro earlier member
    exact (danglingSnapshot.fault?_eq_none_iff earlier).mp (clear earlier member)
  · exact mt (danglingSnapshot.fault?_eq_none_iff ⟨1002, false⟩).mpr dangles

end Project

end VaultModels
