import VaultModels.Schema.Element
import VaultModels.Schema.Error
import VaultModels.Text.CaseFold
import VaultModels.Text.Decimal

/-!
# Snapshots

A complete, read-only copy of a vault schema. Every lookup scans the declared order and takes the
first match. `elements` is the view that lookups share: the identities of all elements of one kind.
-/
namespace VaultModels.Schema

open Text

structure Snapshot where
  /-- Object types and value lists; `isReal` tells them apart. -/
  objectTypes : List ObjectType := []
  classes : List ObjectClass := []
  propertyDefs : List PropertyDef := []
  valueListItems : List ValueListItem := []
  workflows : List NamedElement := []
  workflowStates : List WorkflowState := []
  namedAccessLists : List NamedElement := []
  classGroups : List NamedElement := []
  userGroups : List NamedElement := []
  views : List NamedElement := []
  objects : List ObjectInstance := []
  deriving DecidableEq, Repr

/-- What identifies an element, whatever its kind. -/
structure Identity where
  id : ElementId
  aliases : List String
  guid : Option String
  deriving DecidableEq, Repr

def NamedElement.identity (element : NamedElement) : Identity :=
  ⟨element.id, element.aliases, element.guid⟩

namespace Snapshot

/-- The elements of a kind in declared order. Value list items and objects carry no aliases. -/
def elements (snapshot : Snapshot) : Kind → List Identity
  | .objectType => snapshot.objectTypes.map fun e => ⟨e.id, e.aliases, e.guid⟩
  | .objectClass => snapshot.classes.map fun e => ⟨e.id, e.aliases, e.guid⟩
  | .propertyDefinition => snapshot.propertyDefs.map fun e => ⟨e.id, e.aliases, e.guid⟩
  | .workflow => snapshot.workflows.map NamedElement.identity
  | .workflowState => snapshot.workflowStates.map fun e => ⟨e.id, e.aliases, e.guid⟩
  | .namedAccessList => snapshot.namedAccessLists.map NamedElement.identity
  | .valueListItem => snapshot.valueListItems.map fun e => ⟨e.id, [], e.guid⟩
  | .objectInstance => snapshot.objects.map fun e => ⟨e.id, [], some e.guid⟩
  | .objectClassGroup => snapshot.classGroups.map NamedElement.identity
  | .userGroup => snapshot.userGroups.map NamedElement.identity
  | .view => snapshot.views.map NamedElement.identity

end Snapshot

/-- Declared aliases are compared without the blanks around them; the request is taken as it is. -/
def Identity.answersTo (element : Identity) (request : String) : Bool :=
  element.aliases.any fun declared => sameIgnoringCase (trim declared) request

def Identity.hasGuid (element : Identity) (request : String) : Bool :=
  element.guid.any fun declared => sameIgnoringCase declared request

namespace Snapshot

def found {α : Type} (kind : Kind) (reference : String) : Option α → Except Error α
  | some a => .ok a
  | none => .error (.notFound kind reference)

def realTypes (snapshot : Snapshot) : List ObjectType :=
  snapshot.objectTypes.filter (·.isReal)

def objectType (snapshot : Snapshot) (id : ElementId) : Except Error ObjectType :=
  found .objectType (int32Text id) (snapshot.objectTypes.find? (·.id == id))

def classesOf (snapshot : Snapshot) (type : ElementId) : List ObjectClass :=
  snapshot.classes.filter (·.objectType == type)

def associations (snapshot : Snapshot) (cls : ElementId) : Except Error (List Association) :=
  found .objectClass (int32Text cls)
    ((snapshot.classes.find? (·.id == cls)).map (·.associations))

def propertyDef (snapshot : Snapshot) (id : ElementId) : Except Error PropertyDef :=
  found .propertyDefinition (int32Text id) (snapshot.propertyDefs.find? (·.id == id))

def itemsOf (snapshot : Snapshot) (list : ElementId) : List ValueListItem :=
  snapshot.valueListItems.filter (·.valueList == list)

def byAlias (snapshot : Snapshot) (kind : Kind) (request : String) : Except Error ElementId :=
  found kind request (((snapshot.elements kind).find? (·.answersTo request)).map (·.id))

def byGuid (snapshot : Snapshot) (kind : Kind) (request : String) : Except Error ElementId :=
  found kind request (((snapshot.elements kind).find? (·.hasGuid request)).map (·.id))

def verify (snapshot : Snapshot) (kind : Kind) (id : ElementId) : Except Error ElementId :=
  found kind (int32Text id) (((snapshot.elements kind).find? (·.id == id)).map (·.id))

/-- A state belongs to its workflow, an item to its owner item, a class to its object type; nothing
else has an owner. -/
def owner? (snapshot : Snapshot) : Kind → ElementId → Option ElementId
  | .workflowState, id => (snapshot.workflowStates.find? (·.id == id)).map (·.workflow)
  | .valueListItem, id => (snapshot.valueListItems.find? (·.id == id)).bind (·.owner)
  | .objectClass, id => (snapshot.classes.find? (·.id == id)).map (·.objectType)
  | _, _ => none

def ownerOf (snapshot : Snapshot) (kind : Kind) (id : ElementId) : Except Error ElementId :=
  found kind (int32Text id) (snapshot.owner? kind id)

def objectByGuid (snapshot : Snapshot) (request : String) : Except Error ObjectRef :=
  found .objectInstance request
    ((snapshot.objects.find? (sameIgnoringCase ·.guid request)).map fun o =>
      ⟨some o.objectType, o.id⟩)

end Snapshot

end VaultModels.Schema
