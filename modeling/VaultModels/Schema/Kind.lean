/-!
# Element kinds

The kinds of schema elements a reference can point at, and which lookups each kind supports.
-/
namespace VaultModels.Schema

inductive Kind where
  | objectType
  | objectClass
  | propertyDefinition
  | workflow
  | workflowState
  | namedAccessList
  | valueListItem
  | objectInstance
  | objectClassGroup
  | userGroup
  | view
  deriving DecidableEq, Repr

/-- How a bare numeric id is confirmed against the schema. -/
inductive IdCheck where
  /-- Ids are not accepted. -/
  | unsupported
  /-- Fetch by id and take the id the schema reports. -/
  | lookup
  /-- Fetch by id; a different id coming back means unresolved. -/
  | roundTrip
  /-- Fetch by id and check that the element still belongs to the expected owner. -/
  | owner
  deriving DecidableEq, Repr

structure Strategy where
  byAlias : Bool
  byGuid : Bool
  byId : IdCheck
  deriving DecidableEq, Repr

namespace Kind

def all : List Kind :=
  [.objectType, .objectClass, .propertyDefinition, .workflow, .workflowState, .namedAccessList,
   .valueListItem, .objectInstance, .objectClassGroup, .userGroup, .view]

/-- The name used in messages. -/
def name : Kind → String
  | .objectType => "ObjectType"
  | .objectClass => "ObjectClass"
  | .propertyDefinition => "PropertyDefinition"
  | .workflow => "Workflow"
  | .workflowState => "WorkflowState"
  | .namedAccessList => "NamedAccessList"
  | .valueListItem => "ValueListItem"
  | .objectInstance => "ObjectInstance"
  | .objectClassGroup => "ObjectClassGroup"
  | .userGroup => "UserGroup"
  | .view => "View"

/-- The name used in data files. -/
def wireName : Kind → String
  | .objectType => "object_type"
  | .objectClass => "object_class"
  | .propertyDefinition => "property_definition"
  | .workflow => "workflow"
  | .workflowState => "workflow_state"
  | .namedAccessList => "named_access_list"
  | .valueListItem => "value_list_item"
  | .objectInstance => "object_instance"
  | .objectClassGroup => "object_class_group"
  | .userGroup => "user_group"
  | .view => "view"

def ofWireName? (text : String) : Option Kind := all.find? (·.wireName == text)

def strategy : Kind → Strategy
  | .objectType | .objectClass | .propertyDefinition | .workflow | .namedAccessList | .userGroup =>
    ⟨true, true, .lookup⟩
  | .workflowState => ⟨true, true, .owner⟩
  | .objectClassGroup | .view => ⟨false, true, .roundTrip⟩
  | .valueListItem => ⟨false, true, .lookup⟩
  | .objectInstance => ⟨false, true, .unsupported⟩

end Kind

def IdCheck.isSupported (check : IdCheck) : Bool := check != .unsupported

end VaultModels.Schema
