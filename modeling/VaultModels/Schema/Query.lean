import VaultModels.Schema.Snapshot

/-!
# Queries

The questions a run may ask of the place where the schema lives. A backend answers them one by one
and may change state in doing so; `Snapshot.answer` is the backend without state.
-/
namespace VaultModels.Schema

inductive Query where
  | objectTypes
  | valueLists
  | propertyDefs
  | objectType (id : ElementId)
  | classes (type : ElementId)
  | associations (cls : ElementId)
  | propertyDef (id : ElementId)
  | items (list : ElementId)
  | byAlias (kind : Kind) (request : String)
  | byGuid (kind : Kind) (request : String)
  | verify (kind : Kind) (id : ElementId)
  | owner (kind : Kind) (id : ElementId)
  | objectByGuid (request : String)
  deriving DecidableEq, Repr

/-- The type of the answer to a query. -/
abbrev Query.Answer : Query → Type
  | .objectTypes | .valueLists => List ObjectType
  | .propertyDefs => List PropertyDef
  | .objectType _ => ObjectType
  | .classes _ => List ObjectClass
  | .associations _ => List Association
  | .propertyDef _ => PropertyDef
  | .items _ => List ValueListItem
  | .byAlias _ _ | .byGuid _ _ | .verify _ _ | .owner _ _ => ElementId
  | .objectByGuid _ => ObjectRef

/-- What a query asks for, its arguments left out. -/
inductive Method where
  | objectTypes | valueLists | propertyDefs | objectType | classes | associations | propertyDef
  | items | byAlias | byGuid | verify | owner | objectByGuid
  deriving DecidableEq, Repr

def Query.method : Query → Method
  | .objectTypes => .objectTypes
  | .valueLists => .valueLists
  | .propertyDefs => .propertyDefs
  | .objectType _ => .objectType
  | .classes _ => .classes
  | .associations _ => .associations
  | .propertyDef _ => .propertyDef
  | .items _ => .items
  | .byAlias _ _ => .byAlias
  | .byGuid _ _ => .byGuid
  | .verify _ _ => .verify
  | .owner _ _ => .owner
  | .objectByGuid _ => .objectByGuid

def Method.all : List Method :=
  [.objectTypes, .valueLists, .objectType, .classes, .associations, .propertyDefs, .propertyDef,
   .items, .byAlias, .byGuid, .verify, .owner, .objectByGuid]

/-- The method's name in messages. -/
def Method.name : Method → String
  | .objectTypes => "list_object_types"
  | .valueLists => "list_value_lists"
  | .propertyDefs => "list_property_defs"
  | .objectType => "get_object_type"
  | .classes => "list_classes"
  | .associations => "list_associated_properties"
  | .propertyDef => "get_property_def"
  | .items => "list_static_value_list_items"
  | .byAlias => "resolve_by_alias"
  | .byGuid => "resolve_by_guid"
  | .verify => "verify_by_id"
  | .owner => "owner_of"
  | .objectByGuid => "resolve_object_by_guid"

/-- Every object type counts as a value list. -/
def Snapshot.answer (snapshot : Snapshot) : (query : Query) → Except Error query.Answer
  | .objectTypes => .ok snapshot.realTypes
  | .valueLists => .ok snapshot.objectTypes
  | .propertyDefs => .ok snapshot.propertyDefs
  | .objectType id => snapshot.objectType id
  | .classes type => .ok (snapshot.classesOf type)
  | .associations cls => snapshot.associations cls
  | .propertyDef id => snapshot.propertyDef id
  | .items list => .ok (snapshot.itemsOf list)
  | .byAlias kind request => snapshot.byAlias kind request
  | .byGuid kind request => snapshot.byGuid kind request
  | .verify kind id => snapshot.verify kind id
  | .owner kind id => snapshot.ownerOf kind id
  | .objectByGuid request => snapshot.objectByGuid request

/-- Something that answers queries, with a state that each answer may change. -/
abbrev Backend (σ : Type) := (query : Query) → σ → Except Error query.Answer × σ

def Snapshot.backend (snapshot : Snapshot) : Backend Unit :=
  fun query _ => (snapshot.answer query, ())

end VaultModels.Schema
