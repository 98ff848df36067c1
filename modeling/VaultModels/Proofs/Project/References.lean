import Mathlib.Data.List.Nodup
import VaultModels.Proofs.Model.Namesakes
import VaultModels.Proofs.Project.Dangling
import VaultModels.Proofs.Project.Targets

/-!
# Types that class files refer to

The base of a class and the types that its lookups point at are declared in the plan that holds the
class file. An object type is declared by its own file, unless a class of its base's name is walked
before it and takes the file; a value list by its own file, unless anything else has taken its name.
References are names, so the type that takes a file is the one that is then referred to. Whether
it is a fit base or element type is not held.
-/
namespace VaultModels

namespace Schema.Snapshot

open Model

variable {snapshot : Snapshot}

/-- With distinct ids a class has the base of the one type that it belongs to. -/
theorem baseName_of_distinct (distinct : (snapshot.objectTypes.map (·.id)).Nodup)
    {type : ObjectType} (declared : type ∈ snapshot.objectTypes) {cls : ObjectClass}
    (owner : type.id = cls.objectType) : snapshot.baseName cls = objectTypeName type := by
  unfold baseName
  cases found : snapshot.objectTypes.find? (·.id == cls.objectType) with
  | none => simpa [owner] using List.find?_eq_none.mp found type declared
  | some first =>
    have same : first.id = cls.objectType := by simpa using List.find?_some found
    have only := List.inj_on_of_nodup_map distinct (List.mem_of_find?_eq_some found) declared
      (same.trans owner.symm)
    rw [only]
    rfl

end Schema.Snapshot

namespace Project

open Code Model Schema

/-- The plan declares the type of a base: in a file for an object type, or in a class file if a
class of the name comes first. -/
def Plan.DeclaresBase (plan : Plan) (options : Options) (snapshot : Snapshot) (typeName : String) :
    Prop :=
  ∃ artifact ∈ plan.artifacts.map (·.artifact), artifact.Declares options typeName ∧
    (artifact.kind = .objectType ∨ artifact.kind = .objectClass ∧ snapshot.ClassFirst typeName)

/-- The plan declares the type of a value list: in a file for a list, or in any file if the name is
taken. -/
def Plan.DeclaresList (plan : Plan) (options : Options) (snapshot : Snapshot) (typeName : String) :
    Prop :=
  ∃ artifact ∈ plan.artifacts.map (·.artifact), artifact.Declares options typeName ∧
    (artifact.kind = .valueListEnum ∨ snapshot.Taken typeName)

variable {ω : Type} {snapshot : Snapshot} {cache : Cache} {accepted : Plan}

/-! ## What the plan has under a name -/

section

variable {call : PlanCall ω} {options : Options} (agrees : cache.Agrees snapshot)
  (ended : (call.run snapshot.backend options (cache, ())).result = .ok accepted)

include agrees ended

theorem PlanCall.get?_modelPath {name : String} (valid : Name.isValid name) :
    accepted.get? (options.modelPath name) = snapshot.declaration? options name := by
  rw [PlanCall.get?_accepted agrees ended, snapshot.find?_inventory options valid]

theorem PlanCall.mem_of_declaration? {name : String} (valid : Name.isValid name)
    {artifact : Artifact} (found : snapshot.declaration? options name = some artifact)
    (declares : artifact.Declares options name) :
    artifact ∈ accepted.artifacts.map (·.artifact) := by
  rw [PlanCall.mem_accepted agrees ended, declares.placed,
    PlanCall.get?_modelPath agrees ended valid]
  exact found

/-- A planned file in the place of a name is the one file that the name gets. -/
theorem PlanCall.declaration?_of_planned {name : String} (valid : Name.isValid name)
    {artifact : Artifact} (planned : artifact ∈ accepted.artifacts.map (·.artifact))
    (placed : artifact.path = options.modelPath name) :
    snapshot.declaration? options name = some artifact := by
  rw [← PlanCall.get?_modelPath agrees ended valid, ← placed]
  exact (PlanCall.mem_accepted agrees ended artifact).mp planned

theorem PlanCall.declaresBase {type : ObjectType} (real : type ∈ snapshot.realTypes) :
    accepted.DeclaresBase options snapshot (objectTypeName type) := by
  obtain ⟨artifact, found, declares, kind⟩ := snapshot.base_declared options real
  have planned := PlanCall.mem_of_declaration? agrees ended (isValid_objectTypeName type) found
    declares
  exact ⟨artifact, planned, declares, kind⟩

theorem PlanCall.declaresList {list : ObjectType} (static : list ∈ snapshot.staticLists) :
    accepted.DeclaresList options snapshot (valueListName list) := by
  obtain ⟨artifact, found, declares, kind⟩ := snapshot.list_declared options static
  have planned := PlanCall.mem_of_declaration? agrees ended (isValid_valueListName list) found
    declares
  exact ⟨artifact, planned, declares, kind⟩

/-- A class that comes first under its name has its file in the plan. -/
theorem PlanCall.class_planned {name : String} (unshared : wrapperName ≠ name)
    (unlisted : propertyEnumName ≠ name) (first : snapshot.ClassFirst name) :
    ∃ cls ∈ snapshot.walkedClasses, classTypeName cls = name ∧
      snapshot.classArtifact options cls ∈ accepted.artifacts.map (·.artifact) := by
  obtain ⟨cls, walked, rfl, found⟩ := first.declared options
  have declared : snapshot.declaration? options (classTypeName cls) =
      some (snapshot.classArtifact options cls) := by
    rw [Snapshot.declaration?, if_neg unshared, if_neg unlisted, found]
    rfl
  exact ⟨cls, walked, rfl, PlanCall.mem_of_declaration? agrees ended (isValid_classTypeName cls)
    declared (snapshot.classArtifact_declares options cls)⟩

/-- Class files are made from walked classes. -/
theorem PlanCall.class_of_accepted {file : Artifact}
    (planned : file ∈ accepted.artifacts.map (·.artifact)) (isClass : file.kind = .objectClass) :
    ∃ cls ∈ snapshot.walkedClasses, file = snapshot.classArtifact options cls := by
  rcases (snapshot.mem_inventory options file).mp
      (PlanCall.inventory_of_accepted agrees ended planned) with
    rfl | rfl | ⟨type, -, rfl⟩ | ⟨cls, walked, rfl | ⟨-, rfl⟩⟩ | ⟨list, -, rfl⟩
  case inr.inr.inr.inl.inl => exact ⟨cls, walked, rfl⟩
  all_goals cases isClass

/-- The files of value lists are made from static lists. -/
theorem PlanCall.list_of_accepted {file : Artifact}
    (planned : file ∈ accepted.artifacts.map (·.artifact)) (isList : file.kind = .valueListEnum) :
    ∃ list ∈ snapshot.staticLists, file = snapshot.listArtifact options list := by
  rcases (snapshot.mem_inventory options file).mp
      (PlanCall.inventory_of_accepted agrees ended planned) with
    rfl | rfl | ⟨type, -, rfl⟩ | ⟨cls, -, rfl | ⟨-, rfl⟩⟩ | ⟨list, static, rfl⟩
  case inr.inr.inr.inr => exact ⟨list, static, rfl⟩
  all_goals cases isList

end

/-- Every class file of an accepted plan is that of a class of a real object type. The plan declares
the base in its header, and for each member that is a lookup the type of what it points at. -/
theorem references_declared (call : PlanCall ω) (options : Options)
    (distinct : (snapshot.objectTypes.map (·.id)).Nodup) (agrees : cache.Agrees snapshot)
    (ended : (call.run snapshot.backend options (cache, ())).result = .ok accepted)
    {file : Artifact} (planned : file ∈ accepted.artifacts.map (·.artifact))
    (isClass : file.kind = .objectClass) :
    ∃ cls ∈ snapshot.classes, ∃ type ∈ snapshot.objectTypes,
      type.isReal ∧ type.id = cls.objectType ∧ file = snapshot.classArtifact options cls ∧
      options.layout.HasLine file.content
        (classHeader options.partials (classTypeName cls) (objectTypeName type)) ∧
      accepted.DeclaresBase options snapshot (objectTypeName type) ∧
      ∀ member ∈ snapshot.membersOf cls,
        (∀ text, .line text ∈ member.items → options.layout.HasLine file.content text) ∧
        ∀ target ∈ member.accessor.target?, ∃ pointed ∈ snapshot.objectTypes,
          target = .of pointed ∧
          (pointed.isReal → accepted.DeclaresBase options snapshot target.typeName) ∧
          (¬ pointed.isReal → accepted.DeclaresList options snapshot target.typeName) := by
  obtain ⟨cls, walked, rfl⟩ := PlanCall.class_of_accepted agrees ended planned isClass
  obtain ⟨type, real, owned⟩ := List.mem_flatMap.mp walked
  obtain ⟨declared, isReal⟩ := List.mem_filter.mp real
  obtain ⟨ofClasses, owner⟩ := List.mem_filter.mp owned
  have same : type.id = cls.objectType := (beq_iff_eq.mp owner).symm
  refine ⟨cls, ofClasses, type, declared, isReal, same, rfl, ?_,
    PlanCall.declaresBase agrees ended real, ?_⟩
  · rw [← Snapshot.baseName_of_distinct distinct declared same]
    exact snapshot.classArtifact_hasHeader options cls
  · intro member listed
    refine ⟨fun text line => snapshot.classArtifact_hasMember options listed line, ?_⟩
    intro target points
    obtain ⟨pointed, there, rfl⟩ := membersOf_pointsInto ofClasses member listed target points
    refine ⟨pointed, there, rfl, fun holdsObjects => ?_, fun static => ?_⟩
    · have named : (Target.of pointed).typeName = objectTypeName pointed := by
        rw [Target.of, if_pos holdsObjects]
        rfl
      rw [named]
      exact PlanCall.declaresBase agrees ended (List.mem_filter.mpr ⟨there, holdsObjects⟩)
    · have named : (Target.of pointed).typeName = valueListName pointed := by
        rw [Target.of, if_neg static]
        rfl
      rw [named]
      exact PlanCall.declaresList agrees ended (List.mem_filter.mpr ⟨there, by simpa using static⟩)

/-- The class `OT_Customer` has the name of the base of the class `Client`, and the class `Status` the
name of the value list that its own lookup points into. -/
def shadowedSnapshot : Snapshot :=
  { objectTypes := [.real 0 "Document", .real 1 "Customer", .staticList 100 "Status"]
    classes :=
      [⟨1, "OT_Customer", 0, [], none, []⟩,
       ⟨2, "Status", 0, [], none, [⟨1001, false⟩]⟩,
       ⟨3, "Client", 1, [], none, []⟩]
    propertyDefs := [.lookupInto 1001 "State" 100] }

theorem shadowed_clear :
    shadowedSnapshot.walkedAssociations.findSome? shadowedSnapshot.fault? = none := by
  decide

theorem shadowed_client : shadowedSnapshot.ClassFirst "Client" :=
  Snapshot.classFirst_of_alone (by decide +kernel) (by decide +kernel)

theorem references_declared_sample :
    let call : PlanCall Memory := ⟨Memory.writer, {}, true⟩
    ∃ accepted, (call.run shadowedSnapshot.backend {} ([], ())).result = .ok accepted ∧
      ∃ file ∈ accepted.artifacts.map (·.artifact), ∃ type ∈ shadowedSnapshot.objectTypes,
        type.isReal ∧ accepted.DeclaresBase {} shadowedSnapshot (objectTypeName type) := by
  intro call
  have agrees := Cache.agrees_empty shadowedSnapshot
  obtain ⟨accepted, ended⟩ := call.forced_accepted rfl {} agrees shadowed_clear
  refine ⟨accepted, ended, ?_⟩
  obtain ⟨cls, -, -, planned⟩ :=
    PlanCall.class_planned agrees ended (by decide) (by decide) shadowed_client
  obtain ⟨-, -, type, declared, real, -, -, -, base, -⟩ :=
    references_declared call {} (by decide) agrees ended planned rfl
  exact ⟨_, planned, type, declared, real, base⟩

/-- A base need not be declared by the file of an object type, nor an element type by the file of a
value list. -/
theorem references_shadowed :
    let call : PlanCall Memory := ⟨Memory.writer, {}, true⟩
    (shadowedSnapshot.objectTypes.map (·.id)).Nodup ∧
    ∃ accepted, (call.run shadowedSnapshot.backend {} ([], ())).result = .ok accepted ∧
      (∃ cls ∈ shadowedSnapshot.classes,
        shadowedSnapshot.classArtifact {} cls ∈ accepted.artifacts.map (·.artifact) ∧
        shadowedSnapshot.baseName cls = "OT_Customer" ∧
        ∀ artifact ∈ accepted.artifacts.map (·.artifact), artifact.kind = .objectType →
          ¬ artifact.Declares {} "OT_Customer") ∧
      ∃ cls ∈ shadowedSnapshot.classes,
        shadowedSnapshot.classArtifact {} cls ∈ accepted.artifacts.map (·.artifact) ∧
        (∃ member ∈ shadowedSnapshot.membersOf cls,
          member.accessor.target? = some (.valueList "Status")) ∧
        ∀ artifact ∈ accepted.artifacts.map (·.artifact), artifact.kind ≠ .valueListEnum := by
  intro call
  have agrees := Cache.agrees_empty shadowedSnapshot
  obtain ⟨accepted, ended⟩ := call.forced_accepted rfl {} agrees shadowed_clear
  refine ⟨by decide, accepted, ended, ?_, ?_⟩
  · obtain ⟨cls, walked, named, planned⟩ :=
      PlanCall.class_planned agrees ended (by decide) (by decide) shadowed_client
    have based : ∀ cls ∈ shadowedSnapshot.walkedClasses, classTypeName cls = "Client" →
        cls ∈ shadowedSnapshot.classes ∧ shadowedSnapshot.baseName cls = "OT_Customer" := by
      decide +kernel
    obtain ⟨declared, base⟩ := based cls walked named
    refine ⟨cls, declared, planned, base, ?_⟩
    have taken : Name.isValid "OT_Customer" ∧
        (shadowedSnapshot.declaration? {} "OT_Customer").map (·.kind) = some .objectClass := by
      decide +kernel
    intro artifact member kind declares
    have found := PlanCall.declaration?_of_planned agrees ended taken.1 member declares.placed
    simpa [found, kind] using taken.2
  · have first : shadowedSnapshot.ClassFirst "Status" :=
      Snapshot.classFirst_of_alone (by decide +kernel) (by decide +kernel)
    obtain ⟨cls, walked, named, planned⟩ :=
      PlanCall.class_planned agrees ended (by decide) (by decide) first
    have pointing : ∀ cls ∈ shadowedSnapshot.walkedClasses, classTypeName cls = "Status" →
        cls ∈ shadowedSnapshot.classes ∧ ∃ member ∈ shadowedSnapshot.membersOf cls,
          member.accessor.target? = some (.valueList "Status") := by
      decide +kernel
    obtain ⟨declared, points⟩ := pointing cls walked named
    refine ⟨cls, declared, planned, points, ?_⟩
    have lists : ∀ list ∈ shadowedSnapshot.staticLists, valueListName list = "Status" := by
      decide
    have ofClass := PlanCall.declaration?_of_planned agrees ended (isValid_classTypeName cls)
      planned (shadowedSnapshot.classArtifact_declares {} cls).placed
    intro artifact member kind
    obtain ⟨list, static, rfl⟩ := PlanCall.list_of_accepted agrees ended member kind
    have ofList := PlanCall.declaration?_of_planned agrees ended (isValid_valueListName list)
      member (shadowedSnapshot.listArtifact_declares {} list).placed
    rw [lists list static, ← named, ofClass] at ofList
    cases congrArg Artifact.kind (Option.some.inj ofList)

end Project

end VaultModels
