import VaultModels.Model.Enumeration

/-!
# Bases of object types

One abstract class per real object type, with the four constructors of the shared wrapper.
-/
namespace VaultModels.Model

open Code Schema Text

def wrapperName : String := "ObjVerEx"

/-- One way to construct a wrapper: its parameters, and the arguments passed on to the base. -/
structure Constructor where
  parameters : String
  arguments : String
  deriving DecidableEq, Repr

def constructors : List Constructor :=
  [⟨"Vault vault, ObjectVersion versionInfo, bool checkOut = false",
    "vault, versionInfo, checkOut"⟩,
   ⟨"ObjectVersionAndProperties ovap, bool checkOut = false", "ovap, checkOut"⟩,
   ⟨"Vault vault, ObjVer objVer, bool checkOut = false", "vault, objVer, checkOut"⟩,
   ⟨"Vault vault, int objType, int id, int version, bool checkOut = false",
    "vault, objType, id, version, checkOut"⟩]

def Constructor.items (typeName : String) (shape : Constructor) : List Item :=
  [.line ("public " ++ typeName ++ "(" ++ shape.parameters ++ ")"),
   .line ("    : base(" ++ shape.arguments ++ ")")] ++ Item.block []

/-- All four constructors, with empty lines between them. -/
def constructorItems (typeName : String) : List Item :=
  ((constructors.map (Constructor.items typeName)).intersperse [Item.blank]).flatten

def typeBaseItems (modelNamespace : String) (type : ObjectType) : List Item :=
  let typeName := objectTypeName type
  Item.banner ++ Item.usings ["System", "MFilesAPI"] ++
    [.line ("namespace " ++ modelNamespace)] ++
    Item.block
      (summary ("Base type for objects of type " ++ docText type.nameSingular ++ ".") ++
        [.line ("public abstract class " ++ typeName ++ " : " ++ wrapperName)] ++
        Item.block (constructorItems typeName))

def typeBase (options : Options) (type : ObjectType) : Emitting Artifact := do
  let typeName := objectTypeName type
  Session.verbose ("Generating " ++ typeName ++ " for object type " ++ int32Text type.id)
  .done
    { path := options.modelPath typeName
      content := options.layout.print (typeBaseItems options.modelNamespace type)
      kind := .objectType }

end VaultModels.Model
