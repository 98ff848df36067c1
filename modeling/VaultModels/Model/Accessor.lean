import VaultModels.Name
import VaultModels.Resolution.Identifier
import VaultModels.RunError
import VaultModels.Text.Literal

/-!
# Accessors

The C# side of a property: its storage type, and the expressions that get and set it. Text, dates,
booleans and numbers are stored as such; a lookup is stored as the generated type of its target, a
multi-select lookup as a list of it. Other kinds have no accessor.
-/
namespace VaultModels.Model

open Schema Text

/-- Emission talks to the backend and the host and fails with run errors. -/
abbrev Emitting := Session RunError

inductive Scalar where
  | string
  | dateTime
  | bool
  | int
  | float
  deriving DecidableEq, Repr

def Scalar.typeName : Scalar → String
  | .string => "string"
  | .dateTime => "DateTime"
  | .bool => "bool"
  | .int => "int"
  | .float => "float"

/-- The generated type that a lookup points at. -/
inductive Target where
  | objectType (typeName : String)
  | valueList (typeName : String)
  deriving DecidableEq, Repr

/-- Name of the generated base of a real object type. -/
def objectTypeName (type : ObjectType) : String := "OT_" ++ Name.clean type.nameSingular

def valueListName (type : ObjectType) : String := Name.clean type.nameSingular

def Target.of (type : ObjectType) : Target :=
  if type.isReal then .objectType (objectTypeName type) else .valueList (valueListName type)

def Target.typeName : Target → String
  | .objectType name | .valueList name => name

inductive Accessor where
  | scalar (type : Scalar)
  | single (target : Target)
  | multiple (target : Target)
  deriving DecidableEq, Repr

namespace Accessor

def storageType : Accessor → String
  | .scalar type => type.typeName
  | .single target => target.typeName
  | .multiple target => "List<" ++ target.typeName ++ ">"

def getterName : Accessor → String
  | .scalar _ => "GetProperty"
  | .single (.objectType _) => "GetLookup"
  | .single (.valueList _) => "GetValueListItem"
  | .multiple (.objectType _) => "GetLookups"
  | .multiple (.valueList _) => "GetValueListItems"

def setterName : Accessor → String
  | .scalar _ => "SetProperty"
  | .single (.objectType _) => "SetLookup"
  | .single (.valueList _) => "SetValueListItem"
  | .multiple (.objectType _) => "SetLookups"
  | .multiple (.valueList _) => "SetValueListItems"

/-- The type argument of the getter: the storage type, or the type of one entry of a list. -/
def entryType : Accessor → String
  | .scalar type => type.typeName
  | .single target | .multiple target => target.typeName

/-- The expression that reads the property which `reference` names. -/
def getter (accessor : Accessor) (reference : String) : String :=
  "this." ++ accessor.getterName ++ "<" ++ accessor.entryType ++ ">(" ++ reference ++ ")"

/-- The statement that writes it, without the semicolon. -/
def setter (accessor : Accessor) (reference : String) : String :=
  "this." ++ accessor.setterName ++ "(" ++ reference ++ ", value)"

/-- The type behind a lookup's value list, which has to exist. -/
def target (list : ElementId) : Emitting Target := do
  let id ← ((Resolution.Identifier.ofId list).resolveId .objectType).mapError .resolution
  let type ← Session.fetch .schema (.objectType id)
  .done (.of type)

/-- A lookup without a value list has no accessor either. -/
def of? (property : PropertyDef) : Emitting (Option Accessor) :=
  match property.dataType, property.valueList with
  | .text, _ | .multiLineText, _ => .done (some (.scalar .string))
  | .date, _ => .done (some (.scalar .dateTime))
  | .boolean, _ => .done (some (.scalar .bool))
  | .integer, _ => .done (some (.scalar .int))
  | .floating, _ => .done (some (.scalar .float))
  | .lookup, some list => do .done (some (.single (← target list)))
  | .multiSelectLookup, some list => do .done (some (.multiple (← target list)))
  | _, _ => .done none

end Accessor

/-- The C# expression that names a property: its first alias, else its GUID, else its id. Aliases
and GUIDs survive renaming in the vault; display names do not. -/
def propertyReference (property : PropertyDef) : String :=
  match property.firstAlias? with
  | some first => quote first
  | none =>
    match property.guid.bind Guid.ofAnyForm? with
    | some guid => quote guid
    | none => int32Text property.id

end VaultModels.Model
