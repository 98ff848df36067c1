import VaultModels.Proofs.Model.Headers

/-!
# Subjects of artifacts

What a file is made from: the shared wrapper, the property definitions as a whole, an object type, a
class, the part of a class that is edited by hand, a value list. The subject settles the kind of the
file and the name of the type in it, and the two settle its path. The inventory is the list of a
snapshot's subjects, each made into its artifact.
-/
namespace VaultModels

namespace Model

open Schema

inductive Subject where
  | wrapper
  | properties
  | objectType (type : ObjectType)
  | objectClass (cls : ObjectClass)
  | classPartial (cls : ObjectClass)
  | valueList (list : ObjectType)
  deriving DecidableEq, Repr

namespace Subject

def kind : Subject → ArtifactKind
  | .wrapper => .baseWrapper
  | .properties => .propertyEnum
  | .objectType _ => .objectType
  | .objectClass _ => .objectClass
  | .classPartial _ => .classPartial
  | .valueList _ => .valueListEnum

/-- The type that the file declares, or that it continues. -/
def typeName : Subject → String
  | .wrapper => wrapperName
  | .properties => propertyEnumName
  | .objectType type => objectTypeName type
  | .objectClass cls | .classPartial cls => classTypeName cls
  | .valueList list => valueListName list

theorem isValid_typeName (subject : Subject) : Name.isValid subject.typeName := by
  cases subject with
  | wrapper => exact isValid_wrapperName
  | properties => exact isValid_propertyEnumName
  | objectType type => exact isValid_objectTypeName type
  | objectClass cls => exact isValid_classTypeName cls
  | classPartial cls => exact isValid_classTypeName cls
  | valueList list => exact isValid_valueListName list

def path (options : Options) (subject : Subject) : Path :=
  if subject.kind = .classPartial then options.partialPath subject.typeName
  else options.modelPath subject.typeName

/-- Files of one kind are kept apart by the names of their types, and by nothing else. -/
theorem path_same (options : Options) {first second : Subject} (alike : first.kind = second.kind) :
    (first.path options).same (second.path options) ↔ first.typeName = second.typeName := by
  unfold path
  rw [alike]
  split
  · rw [options.partialPath_same first.isValid_typeName second.isValid_typeName, beq_iff_eq]
  · rw [options.modelPath_same first.isValid_typeName second.isValid_typeName, beq_iff_eq]

end Subject

/-- The text of the file declares the type, or goes on with it where it is edited by hand. -/
def Artifact.Names (options : Options) (artifact : Artifact) (typeName : String) : Prop :=
  if artifact.kind = .classPartial then
    options.layout.HasLine artifact.content ("public partial class " ++ typeName)
  else artifact.Declares options typeName

end Model

namespace Schema.Snapshot

open Model

variable (snapshot : Snapshot) (options : Options)

def artifactOf : Subject → Artifact
  | .wrapper => sharedWrapper options
  | .properties => propertyEnumArtifact options snapshot.propertyDefs
  | .objectType type => typeArtifact options type
  | .objectClass cls => snapshot.classArtifact options cls
  | .classPartial cls => classPartial options cls
  | .valueList list => snapshot.listArtifact options list

theorem artifactOf_kind (subject : Subject) :
    (snapshot.artifactOf options subject).kind = subject.kind := by
  cases subject <;> rfl

theorem artifactOf_path (subject : Subject) :
    (snapshot.artifactOf options subject).path = subject.path options := by
  -- by the definitions of the artifacts alone, so that their contents are never looked at
  cases subject <;>
    simp only [artifactOf, sharedWrapper, propertyEnumArtifact, typeArtifact, classArtifact,
      classPartial, listArtifact, Subject.path, Subject.kind, Subject.typeName, reduceCtorEq,
      if_false, if_true]

/-- The type that a subject stands for is the one in the text of its file. -/
theorem artifactOf_names (subject : Subject) :
    (snapshot.artifactOf options subject).Names options subject.typeName := by
  cases subject with
  | wrapper => exact sharedWrapper_declares options
  | properties => exact propertyEnumArtifact_declares options _
  | objectType type => exact typeArtifact_declares options type
  | objectClass cls => exact snapshot.classArtifact_declares options cls
  | classPartial cls =>
    refine Code.Layout.print_hasLine _ ?_
    simp [classPartialItems, Code.Item.block, Subject.typeName]
  | valueList list => exact snapshot.listArtifact_declares options list

/-- A class, and the part of it that is edited by hand where the options ask for one. -/
def classSubjects (cls : ObjectClass) : List Subject :=
  .objectClass cls :: if options.partials then [.classPartial cls] else []

/-- The subjects of all files, in walk order. -/
def subjects : List Subject :=
  .wrapper :: .properties ::
    ((snapshot.realTypes.flatMap fun type =>
        .objectType type :: (snapshot.classesOf type.id).flatMap (classSubjects options)) ++
      snapshot.staticLists.map .valueList)

theorem inventory_eq_subjects :
    snapshot.inventory options = (snapshot.subjects options).map (snapshot.artifactOf options) := by
  have ofClass : ∀ cls, (classSubjects options cls).map (snapshot.artifactOf options) =
      snapshot.classArtifacts options cls := by
    intro cls
    unfold classSubjects classArtifacts
    split <;> rfl
  have ofType : ∀ type : ObjectType,
      (Subject.objectType type ::
          (snapshot.classesOf type.id).flatMap (classSubjects options)).map
        (snapshot.artifactOf options) = snapshot.typeArtifacts options type := by
    intro type
    rw [List.map_cons, List.map_flatMap]
    simp only [ofClass]
    rfl
  rw [subjects, List.map_cons, List.map_cons, List.map_append, List.map_flatMap, List.map_map]
  simp only [ofType]
  rfl

theorem exists_subject {artifact : Artifact} (listed : artifact ∈ snapshot.inventory options) :
    ∃ subject ∈ snapshot.subjects options, artifact = snapshot.artifactOf options subject := by
  rw [inventory_eq_subjects] at listed
  obtain ⟨subject, member, same⟩ := List.mem_map.mp listed
  exact ⟨subject, member, same.symm⟩

end Schema.Snapshot

end VaultModels
