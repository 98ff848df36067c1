import VaultModels.Schema.ValueKind
import VaultModels.Text.Blank

/-!
# Schema elements

What a vault reports about its object types, classes, property definitions, value list items,
workflows and objects. Real object types hold objects; the other object types are static value
lists. Ids are 32-bit.
-/
namespace VaultModels.Schema

open Text

abbrev ElementId := Int32

structure ObjectType where
  id : ElementId
  nameSingular : String
  namePlural : String := ""
  isReal : Bool := false
  aliases : List String := []
  guid : Option String := none
  deriving DecidableEq, Repr

/-- A property definition attached to a class. -/
structure Association where
  propertyDef : ElementId
  required : Bool := false
  deriving DecidableEq, Repr

structure ObjectClass where
  id : ElementId
  name : String
  objectType : ElementId
  aliases : List String := []
  guid : Option String := none
  associations : List Association := []
  deriving DecidableEq, Repr

structure PropertyDef where
  id : ElementId
  name : String
  dataType : ValueKind
  valueList : Option ElementId := none
  automatic : AutomaticValue := .none
  builtin : Bool := false
  aliases : List String := []
  guid : Option String := none
  deriving DecidableEq, Repr

structure ValueListItem where
  id : ElementId
  name : String
  valueList : ElementId
  owner : Option ElementId := none
  guid : Option String := none
  deriving DecidableEq, Repr

structure WorkflowState where
  id : ElementId
  name : String
  workflow : ElementId
  aliases : List String := []
  guid : Option String := none
  deriving DecidableEq, Repr

/-- Workflows, named access lists, class groups, user groups and views share this shape. -/
structure NamedElement where
  id : ElementId
  name : String
  aliases : List String := []
  guid : Option String := none
  deriving DecidableEq, Repr

structure ObjectInstance where
  objectType : ElementId
  id : ElementId
  guid : String
  deriving DecidableEq, Repr

/-- Identity of one object; the type is absent where only a bare id is known. -/
structure ObjectRef where
  objectType : Option ElementId
  id : ElementId
  deriving DecidableEq, Repr

namespace ObjectType

def real (id : ElementId) (name : String) : ObjectType :=
  ⟨id, name, name, true, [], none⟩

def staticList (id : ElementId) (name : String) : ObjectType :=
  ⟨id, name, name, false, [], none⟩

def addAlias (type : ObjectType) (text : String) : ObjectType :=
  { type with aliases := type.aliases ++ [text] }

def setGuid (type : ObjectType) (text : String) : ObjectType := { type with guid := some text }

end ObjectType

namespace ObjectClass

def addAlias (cls : ObjectClass) (text : String) : ObjectClass :=
  { cls with aliases := cls.aliases ++ [text] }

def setGuid (cls : ObjectClass) (text : String) : ObjectClass := { cls with guid := some text }

def associate (cls : ObjectClass) (more : List Association) : ObjectClass :=
  { cls with associations := cls.associations ++ more }

end ObjectClass

namespace PropertyDef

/-- A lookup into a value list. -/
def lookupInto (id : ElementId) (name : String) (list : ElementId) : PropertyDef :=
  { id, name, dataType := .lookup, valueList := some list }

/-- A multi-select lookup into a value list. -/
def multiLookupInto (id : ElementId) (name : String) (list : ElementId) : PropertyDef :=
  { id, name, dataType := .multiSelectLookup, valueList := some list }

def addAlias (property : PropertyDef) (text : String) : PropertyDef :=
  { property with aliases := property.aliases ++ [text] }

def setGuid (property : PropertyDef) (text : String) : PropertyDef :=
  { property with guid := some text }

/-- The first alias that is not blank, without the blanks around it. -/
def firstAlias? (property : PropertyDef) : Option String :=
  (property.aliases.map trim).find? (· != "")

def isAutomatic (property : PropertyDef) : Bool := property.automatic != .none

/-- Ids from 1 to 100 belong to properties that the base wrapper handles itself. -/
def isReserved (property : PropertyDef) : Bool := 1 ≤ property.id && property.id ≤ 100

end PropertyDef

def ValueListItem.setGuid (item : ValueListItem) (text : String) : ValueListItem :=
  { item with guid := some text }

def WorkflowState.addAlias (state : WorkflowState) (text : String) : WorkflowState :=
  { state with aliases := state.aliases ++ [text] }

def WorkflowState.setGuid (state : WorkflowState) (text : String) : WorkflowState :=
  { state with guid := some text }

def NamedElement.addAlias (element : NamedElement) (text : String) : NamedElement :=
  { element with aliases := element.aliases ++ [text] }

def NamedElement.setGuid (element : NamedElement) (text : String) : NamedElement :=
  { element with guid := some text }

end VaultModels.Schema
