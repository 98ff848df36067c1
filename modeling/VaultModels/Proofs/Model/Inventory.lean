import VaultModels.Proofs.Model.Emission
import VaultModels.Proofs.Model.Faults

/-!
# The artifacts of a snapshot

Everything that a snapshot calls for, as one list: the wrapper, the property enum, each real object
type followed by its classes, every static value list. The list is written down without a walk and
without queries. Two of its artifacts may have one target; which of them is kept is not the subject
here.
-/
namespace VaultModels

namespace Model

open Schema

/-- The file of the property enum. -/
def propertyEnumArtifact (options : Options) (properties : List PropertyDef) : Artifact :=
  { path := options.modelPath propertyEnumName
    content := enumText options propertyEnumName "Property definitions of the vault."
      (properties.map fun property => ⟨property.id, property.name⟩)
    kind := .propertyEnum }

/-- The file of an object type's base. -/
def typeArtifact (options : Options) (type : ObjectType) : Artifact :=
  { path := options.modelPath (objectTypeName type)
    content := options.layout.print (typeBaseItems options.modelNamespace type)
    kind := .objectType }

end Model

namespace Schema.Snapshot

open Model

variable (snapshot : Snapshot) (options : Options)

/-- The name of the base of a class: that of the first object type with the id. -/
def baseName (cls : ObjectClass) : String :=
  ((snapshot.objectTypes.find? (·.id == cls.objectType)).map objectTypeName).getD ""

/-- The generated file of a class. -/
def classArtifact (cls : ObjectClass) : Artifact :=
  { path := options.modelPath (classTypeName cls)
    content := options.layout.print
      (classItems options.modelNamespace options.partials cls (snapshot.baseName cls)
        (snapshot.membersOf cls))
    kind := .objectClass }

/-- The file of a static value list. -/
def listArtifact (list : ObjectType) : Artifact :=
  { path := options.modelPath (valueListName list)
    content := enumText options (valueListName list)
      ("Items of the value list " ++ list.nameSingular ++ ".")
      ((snapshot.itemsOf list.id).map fun item => ⟨item.id, item.name⟩)
    kind := .valueListEnum }

/-- A class comes with its partial where the options ask for one. -/
def classArtifacts (cls : ObjectClass) : List Artifact :=
  snapshot.classArtifact options cls ::
    if options.partials then [classPartial options cls] else []

/-- An object type is followed by its classes. -/
def typeArtifacts (type : ObjectType) : List Artifact :=
  typeArtifact options type ::
    (snapshot.classesOf type.id).flatMap (snapshot.classArtifacts options)

def staticLists : List ObjectType := snapshot.objectTypes.filter (!·.isReal)

def inventory : List Artifact :=
  sharedWrapper options :: propertyEnumArtifact options snapshot.propertyDefs ::
    (snapshot.realTypes.flatMap (snapshot.typeArtifacts options) ++
      snapshot.staticLists.map (snapshot.listArtifact options))

/-- The associations that are looked at, in the order of the inventory. -/
def walkedAssociations : List Association :=
  snapshot.realTypes.flatMap fun type =>
    (snapshot.classesOf type.id).flatMap snapshot.associationsOf

/-- The classes of real object types, in the order of the inventory. -/
def walkedClasses : List ObjectClass :=
  snapshot.realTypes.flatMap fun type => snapshot.classesOf type.id

/-- Where no walked association dangles, nothing is wrong with a walked class. -/
theorem classFault?_of_clear {snapshot : Snapshot} {cls : ObjectClass}
    (clear : snapshot.walkedAssociations.findSome? snapshot.fault? = none)
    (walked : cls ∈ snapshot.walkedClasses) : snapshot.classFault? cls = none := by
  obtain ⟨type, real, owned⟩ := List.mem_flatMap.mp walked
  refine List.findSome?_eq_none_iff.mpr fun association member => ?_
  refine List.findSome?_eq_none_iff.mp clear association ?_
  exact List.mem_flatMap.mpr ⟨type, real, List.mem_flatMap.mpr ⟨cls, owned, member⟩⟩

theorem mem_inventory (artifact : Artifact) :
    artifact ∈ snapshot.inventory options ↔
      artifact = sharedWrapper options ∨
      artifact = propertyEnumArtifact options snapshot.propertyDefs ∨
      (∃ type ∈ snapshot.realTypes, artifact = typeArtifact options type) ∨
      (∃ cls ∈ snapshot.walkedClasses, artifact = snapshot.classArtifact options cls ∨
        options.partials ∧ artifact = classPartial options cls) ∨
      ∃ list ∈ snapshot.staticLists, artifact = snapshot.listArtifact options list := by
  have ofClass : ∀ cls, artifact ∈ snapshot.classArtifacts options cls ↔
      artifact = snapshot.classArtifact options cls ∨
        options.partials ∧ artifact = classPartial options cls := by
    intro cls
    unfold classArtifacts
    split <;> simp [*]
  simp only [inventory, typeArtifacts, walkedClasses, List.mem_cons, List.mem_append,
    List.mem_flatMap, List.mem_map, ofClass]
  constructor
  · rintro (shared | properties | ⟨type, real, base | ⟨cls, owned, file⟩⟩ | ⟨list, static, same⟩)
    · exact .inl shared
    · exact .inr (.inl properties)
    · exact .inr (.inr (.inl ⟨type, real, base⟩))
    · exact .inr (.inr (.inr (.inl ⟨cls, ⟨type, real, owned⟩, file⟩)))
    · exact .inr (.inr (.inr (.inr ⟨list, static, same.symm⟩)))
  · rintro (shared | properties | ⟨type, real, base⟩ | ⟨cls, ⟨type, real, owned⟩, file⟩ |
      ⟨list, static, same⟩)
    · exact .inl shared
    · exact .inr (.inl properties)
    · exact .inr (.inr (.inl ⟨type, real, .inl base⟩))
    · exact .inr (.inr (.inl ⟨type, real, .inr ⟨cls, owned, file⟩⟩))
    · exact .inr (.inr (.inr ⟨list, static, same.symm⟩))

end Schema.Snapshot

/-! ## Emitters over a snapshot -/

namespace Model

open Schema

variable {snapshot : Snapshot} (options : Options)

theorem wrapper_over : (wrapper options).endOver snapshot = .ok (sharedWrapper options) := rfl

theorem propertyEnum_over (properties : List PropertyDef) :
    (propertyEnum options properties).endOver snapshot =
      .ok (propertyEnumArtifact options properties) := rfl

theorem typeBase_over (type : ObjectType) :
    (typeBase options type).endOver snapshot = .ok (typeArtifact options type) := rfl

theorem valueListEnum_over (list : ObjectType) :
    (valueListEnum options list).endOver snapshot = .ok (snapshot.listArtifact options list) := rfl

/-- A class file comes out unless an association of the class dangles. The base comes first, so the
class has to belong to an object type. -/
theorem classFile_over {cls : ObjectClass} (declared : cls ∈ snapshot.classes)
    (owned : ∃ type ∈ snapshot.objectTypes, type.id = cls.objectType) :
    (classFile options cls).endOver snapshot =
      withFault (snapshot.classFault? cls) (snapshot.classArtifact options cls) := by
  cases found : snapshot.objectTypes.find? (·.id == cls.objectType) with
  | none =>
    obtain ⟨type, member, same⟩ := owned
    simpa [same] using List.find?_eq_none.mp found type member
  | some type =>
    have given : snapshot.answer (.objectType cls.objectType) = .ok type := by
      simp only [Snapshot.answer, Snapshot.objectType, found]
      rfl
    have named : snapshot.baseName cls = objectTypeName type := by
      simp only [Snapshot.baseName, found, Option.map_some, Option.getD_some]
    rw [Snapshot.classArtifact, named]
    refine (Session.endOver_fetch_bind snapshot given _).trans ?_
    rw [Session.endOver_bind, members_over declared]
    cases snapshot.classFault? cls <;> rfl

end Model

end VaultModels
