import VaultModels.Model.Accessor
import VaultModels.Model.Artifact
import VaultModels.Model.Options
import VaultModels.Name.Scope
import VaultModels.Text.DocComment

/-!
# Enumerations

C# enums over vault elements: `PropertyDefinitions`, with one member per property definition, and
one enum per static value list, with one member per item. A member carries the display name in a
`Description` attribute and the vault id as its value.
-/
namespace VaultModels.Model

open Code Schema Text

structure EnumEntry where
  id : ElementId
  displayName : String
  deriving DecidableEq, Repr

namespace EnumEntry

def describe (entry : EnumEntry) : String := "[Description(" ++ quote entry.displayName ++ ")]"

def define (entry : EnumEntry) (name : String) : String :=
  name ++ " = " ++ int32Text entry.id ++ ","

/-- The two lines of a member; every member but the first has an empty line before it. -/
def items (entry : EnumEntry) (name : String) (isFirst : Bool) : List Item :=
  (if isFirst then [] else [Item.blank]) ++ [.line entry.describe, .line (entry.define name)]

end EnumEntry

/-- Members in declared order, named uniquely within `scope`. -/
def enumMembers : Name.Scope → Bool → List EnumEntry → List Item
  | _, _, [] => []
  | scope, isFirst, entry :: rest =>
    let (name, next) := scope.claim (Name.clean entry.displayName)
    entry.items name isFirst ++ enumMembers next false rest

/-- No member is named like its enum. -/
def enumBody (typeName : String) (entries : List EnumEntry) : List Item :=
  enumMembers (Name.Scope.empty.reserve typeName) true entries

def summary (text : String) : List Item :=
  [.line "/// <summary>", .line ("/// " ++ text), .line "/// </summary>"]

def enumItems (modelNamespace typeName about : String) (entries : List EnumEntry) : List Item :=
  Item.banner ++ Item.usings ["System.ComponentModel"] ++
    [.line ("namespace " ++ modelNamespace)] ++
    Item.block
      (summary (docText about) ++ [.line ("public enum " ++ typeName)] ++
        Item.block (enumBody typeName entries))

def enumText (options : Options) (typeName about : String) (entries : List EnumEntry) : String :=
  options.layout.print (enumItems options.modelNamespace typeName about entries)

def propertyEnumName : String := "PropertyDefinitions"

def propertyEnum (options : Options) (properties : List PropertyDef) : Emitting Artifact := do
  Session.verbose
    ("Generating " ++ propertyEnumName ++ " with " ++ natText properties.length ++ " members")
  .done
    { path := options.modelPath propertyEnumName
      content := enumText options propertyEnumName "Property definitions of the vault."
        (properties.map fun property => ⟨property.id, property.name⟩)
      kind := .propertyEnum }

def valueListEnum (options : Options) (list : ObjectType) : Emitting Artifact := do
  let typeName := valueListName list
  let items ← Session.fetch .schema (.items list.id)
  Session.verbose ("Generating " ++ typeName ++ " with " ++ natText items.length ++ " items")
  .done
    { path := options.modelPath typeName
      content := enumText options typeName ("Items of the value list " ++ list.nameSingular ++ ".")
        (items.map fun item => ⟨item.id, item.name⟩)
      kind := .valueListEnum }

end VaultModels.Model
