import VaultModels.Model.TypeBase

/-!
# Class files

One class per object class, with a typed accessor for each associated property, and the partial that
is left to be edited by hand. Properties that the vault computes and reserved built-in properties
get no accessor; a property of an unsupported kind gets a warning instead.
-/
namespace VaultModels.Model

open Code Schema Text

inductive SkipReason where
  /-- The vault computes the value. -/
  | automaticValue
  /-- The base wrapper handles the property. -/
  | reservedBuiltin
  deriving DecidableEq, Repr

def skipReason? (property : PropertyDef) : Option SkipReason :=
  if property.isAutomatic then some .automaticValue
  else if property.isReserved then some .reservedBuiltin
  else none

def classTypeName (cls : ObjectClass) : String := Name.clean cls.name

structure Member where
  name : String
  displayName : String
  /-- The expression that names the property. -/
  reference : String
  accessor : Accessor
  deriving DecidableEq, Repr

/-- Members for a list of associations in declared order, named uniquely within `scope`. -/
def membersFrom (scope : Name.Scope) : List Association → Emitting (List Member)
  | [] => .done []
  | association :: rest => do
    let property ← Session.fetch .schema (.propertyDef association.propertyDef)
    if (skipReason? property).isSome then membersFrom scope rest
    else match ← Accessor.of? property with
      | none => do
        Session.warn
          (Refusal.unsupportedValueKind property.name property.dataType.name).message
        membersFrom scope rest
      | some accessor => do
        let (name, next) := scope.claim (Name.clean property.name)
        let more ← membersFrom next rest
        .done (⟨name, property.name, propertyReference property, accessor⟩ :: more)

/-- No member is named like its class. -/
def members (cls : ObjectClass) : Emitting (List Member) := do
  let associations ← Session.fetch .schema (.associations cls.id)
  membersFrom (Name.Scope.empty.reserve (classTypeName cls)) associations

def Member.items (member : Member) : List Item :=
  [Item.blank,
   .line ("// Binding property for " ++ commentText member.displayName ++ "."),
   .line ("public " ++ member.accessor.storageType ++ " " ++ member.name)] ++
    Item.block
      [.line ("get \x7b return " ++ member.accessor.getter member.reference ++ "; \x7d"),
       .line ("set \x7b " ++ member.accessor.setter member.reference ++ "; \x7d")]

def classItems (modelNamespace : String) (partials : Bool) (cls : ObjectClass) (base : String)
    (members : List Member) : List Item :=
  let typeName := classTypeName cls
  let modifier := if partials then "public partial class" else "public class"
  Item.banner ++ Item.usings ["System", "System.Collections.Generic", "MFilesAPI"] ++
    [.line ("namespace " ++ modelNamespace)] ++
    Item.block
      ([.line ("[MetaStructureClass(Name = " ++ quote cls.name ++ ")]"),
        .line (modifier ++ " " ++ typeName ++ " : " ++ base)] ++
        Item.block (constructorItems typeName ++ members.flatMap Member.items))

def classFile (options : Options) (cls : ObjectClass) : Emitting Artifact := do
  let typeName := classTypeName cls
  let type ← Session.fetch .schema (.objectType cls.objectType)
  let found ← members cls
  Session.verbose ("Generating " ++ typeName ++ " with " ++ natText found.length ++ " properties")
  .done
    { path := options.modelPath typeName
      content := options.layout.print
        (classItems options.modelNamespace options.partials cls (objectTypeName type) found)
      kind := .objectClass }

def classPartialItems (modelNamespace : String) (cls : ObjectClass) : List Item :=
  Item.usings ["System", "MFilesAPI"] ++ [.line ("namespace " ++ modelNamespace)] ++
    Item.block
      ([.line ("public partial class " ++ classTypeName cls)] ++ Item.block [])

def classPartial (options : Options) (cls : ObjectClass) : Artifact :=
  { path := options.partialPath (classTypeName cls)
    content := options.layout.print (classPartialItems options.modelNamespace cls)
    kind := .classPartial }

end VaultModels.Model
