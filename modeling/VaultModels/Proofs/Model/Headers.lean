import VaultModels.Proofs.Code.Printing
import VaultModels.Proofs.Model.Inventory

/-!
# Declared types

Each generated file is named for a type, and its text has the header that declares it. Partials
continue a type that another file declares, so they declare none. The support types in the wrapper's
file are not the subject here.
-/
namespace VaultModels

namespace Model

open Code Schema

/-- A line that declares the type in a file of the kind. -/
def ArtifactKind.IsHeader (kind : ArtifactKind) (typeName header : String) : Prop :=
  match kind with
  | .baseWrapper => header = "public abstract class " ++ typeName ++ " : IDisposable"
  | .propertyEnum | .valueListEnum => header = "public enum " ++ typeName
  | .objectType => header = "public abstract class " ++ typeName ++ " : " ++ wrapperName
  | .objectClass =>
    ∃ base, header = "public class " ++ typeName ++ " : " ++ base ∨
      header = "public partial class " ++ typeName ++ " : " ++ base
  | .classPartial => False

/-- The artifact is the file of the type and declares it. -/
structure Artifact.Declares (options : Options) (artifact : Artifact) (typeName : String) :
    Prop where
  placed : artifact.path = options.modelPath typeName
  declared : ∃ header, artifact.kind.IsHeader typeName header ∧
    options.layout.HasLine artifact.content header

variable (options : Options)

theorem wrapperContent_hasLine :
    options.layout.HasLine (wrapperContent options)
      ("public abstract class " ++ wrapperName ++ " : IDisposable") := by
  refine ⟨wrapperLines options.modelNamespace, "\t", by rw [wrapperContent], ?_, by simp⟩
  have inside : "\t" ++ ("public abstract class " ++ wrapperName ++ " : IDisposable") ∈
      wrapperBody := by decide
  exact List.mem_append_right _ inside

theorem sharedWrapper_declares : (sharedWrapper options).Declares options wrapperName where
  placed := by rw [sharedWrapper]
  declared := by
    dsimp only [sharedWrapper]
    exact ⟨_, rfl, wrapperContent_hasLine options⟩

theorem enumText_hasLine (typeName about : String) (entries : List EnumEntry) :
    options.layout.HasLine (enumText options typeName about entries)
      ("public enum " ++ typeName) := by
  apply Layout.print_hasLine
  simp [enumItems, Item.block]

theorem propertyEnumArtifact_declares (properties : List PropertyDef) :
    (propertyEnumArtifact options properties).Declares options propertyEnumName where
  placed := by rw [propertyEnumArtifact]
  declared := by
    dsimp only [propertyEnumArtifact]
    exact ⟨_, rfl, enumText_hasLine options _ _ _⟩

theorem typeArtifact_declares (type : ObjectType) :
    (typeArtifact options type).Declares options (objectTypeName type) where
  placed := by rw [typeArtifact]
  declared := by
    refine ⟨_, rfl, Layout.print_hasLine _ ?_⟩
    simp [typeBaseItems, Item.block]

/-- The line of a class file that names the class and its base. -/
def classHeader (partials : Bool) (typeName base : String) : String :=
  (if partials then "public partial class" else "public class") ++ " " ++ typeName ++ " : " ++ base

end Model

namespace Schema.Snapshot

open Code Model

variable (snapshot : Snapshot) (options : Options)

theorem classArtifact_hasHeader (cls : ObjectClass) :
    options.layout.HasLine (snapshot.classArtifact options cls).content
      (classHeader options.partials (classTypeName cls) (snapshot.baseName cls)) := by
  apply Layout.print_hasLine
  simp [classItems, Item.block, classHeader]

theorem classArtifact_declares (cls : ObjectClass) :
    (snapshot.classArtifact options cls).Declares options (classTypeName cls) where
  placed := by rw [classArtifact]
  declared := by
    refine ⟨_, ⟨snapshot.baseName cls, ?_⟩, snapshot.classArtifact_hasHeader options cls⟩
    cases asked : options.partials with
    | false => exact .inl rfl
    | true => exact .inr rfl

/-- Every line of a member is in the file of its class. -/
theorem classArtifact_hasMember {cls : ObjectClass} {member : Member} {text : String}
    (listed : member ∈ snapshot.membersOf cls) (line : .line text ∈ member.items) :
    options.layout.HasLine (snapshot.classArtifact options cls).content text := by
  have inside : .line text ∈ (snapshot.membersOf cls).flatMap Member.items :=
    List.mem_flatMap.mpr ⟨member, listed, line⟩
  apply Layout.print_hasLine
  simp only [classItems, Item.block, List.mem_append, List.mem_cons, inside, true_or, or_true]

theorem listArtifact_declares (list : ObjectType) :
    (snapshot.listArtifact options list).Declares options (valueListName list) where
  placed := by rw [listArtifact]
  declared := by
    dsimp only [listArtifact]
    exact ⟨_, rfl, enumText_hasLine options _ _ _⟩

end Schema.Snapshot

end VaultModels
