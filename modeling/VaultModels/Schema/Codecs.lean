import VaultModels.Json.Codec
import VaultModels.Schema.Snapshot

/-!
# Snapshots as JSON

The members of each schema element in declared order. Names, ids and references are required; the
rest may be left out.
-/
namespace VaultModels.Schema

open Json Json.Codec

def ValueKind.codec : Codec ValueKind := choice ValueKind.ofWireName? ValueKind.wireName

def AutomaticValue.codec : Codec AutomaticValue :=
  choice AutomaticValue.ofWireName? AutomaticValue.wireName

def Association.codec : Codec Association :=
  object ⟨0, false⟩
    [.required "property_def" int32 (·.propertyDef) fun e v => { e with propertyDef := v },
     .defaulted "required" bool (·.required) fun e v => { e with required := v }]

namespace ObjectType

def codec : Codec ObjectType :=
  object ⟨0, "", "", false, [], none⟩
    [.required "id" int32 (·.id) fun e v => { e with id := v },
     .required "name_singular" text (·.nameSingular) fun e v => { e with nameSingular := v },
     .defaulted "name_plural" text (·.namePlural) fun e v => { e with namePlural := v },
     .defaulted "real_object_type" bool (·.isReal) fun e v => { e with isReal := v },
     .defaulted "aliases" (list text) (·.aliases) fun e v => { e with aliases := v },
     .defaulted "guid" (optional text) (·.guid) fun e v => { e with guid := v }]

end ObjectType

namespace ObjectClass

def codec : Codec ObjectClass :=
  object ⟨0, "", 0, [], none, []⟩
    [.required "id" int32 (·.id) fun e v => { e with id := v },
     .required "name" text (·.name) fun e v => { e with name := v },
     .required "object_type" int32 (·.objectType) fun e v => { e with objectType := v },
     .defaulted "aliases" (list text) (·.aliases) fun e v => { e with aliases := v },
     .defaulted "guid" (optional text) (·.guid) fun e v => { e with guid := v },
     .defaulted "associated_properties" (list Association.codec) (·.associations)
       fun e v => { e with associations := v }]

end ObjectClass

namespace PropertyDef

def codec : Codec PropertyDef :=
  object ⟨0, "", .uninitialized, none, .none, false, [], none⟩
    [.required "id" int32 (·.id) fun e v => { e with id := v },
     .required "name" text (·.name) fun e v => { e with name := v },
     .required "data_type" ValueKind.codec (·.dataType) fun e v => { e with dataType := v },
     .defaulted "value_list" (optional int32) (·.valueList) fun e v => { e with valueList := v },
     .defaulted "automatic_value" AutomaticValue.codec (·.automatic)
       fun e v => { e with automatic := v },
     .defaulted "builtin" bool (·.builtin) fun e v => { e with builtin := v },
     .defaulted "aliases" (list text) (·.aliases) fun e v => { e with aliases := v },
     .defaulted "guid" (optional text) (·.guid) fun e v => { e with guid := v }]

end PropertyDef

namespace ValueListItem

def codec : Codec ValueListItem :=
  object ⟨0, "", 0, none, none⟩
    [.required "id" int32 (·.id) fun e v => { e with id := v },
     .required "name" text (·.name) fun e v => { e with name := v },
     .required "value_list" int32 (·.valueList) fun e v => { e with valueList := v },
     .defaulted "owner" (optional int32) (·.owner) fun e v => { e with owner := v },
     .defaulted "guid" (optional text) (·.guid) fun e v => { e with guid := v }]

end ValueListItem

namespace WorkflowState

def codec : Codec WorkflowState :=
  object ⟨0, "", 0, [], none⟩
    [.required "id" int32 (·.id) fun e v => { e with id := v },
     .required "name" text (·.name) fun e v => { e with name := v },
     .required "workflow" int32 (·.workflow) fun e v => { e with workflow := v },
     .defaulted "aliases" (list text) (·.aliases) fun e v => { e with aliases := v },
     .defaulted "guid" (optional text) (·.guid) fun e v => { e with guid := v }]

end WorkflowState

namespace NamedElement

def codec : Codec NamedElement :=
  object ⟨0, "", [], none⟩
    [.required "id" int32 (·.id) fun e v => { e with id := v },
     .required "name" text (·.name) fun e v => { e with name := v },
     .defaulted "aliases" (list text) (·.aliases) fun e v => { e with aliases := v },
     .defaulted "guid" (optional text) (·.guid) fun e v => { e with guid := v }]

end NamedElement

namespace ObjectInstance

def codec : Codec ObjectInstance :=
  object ⟨0, 0, ""⟩
    [.required "object_type" int32 (·.objectType) fun e v => { e with objectType := v },
     .required "id" int32 (·.id) fun e v => { e with id := v },
     .required "guid" text (·.guid) fun e v => { e with guid := v }]

end ObjectInstance

namespace Snapshot

def codec : Codec Snapshot :=
  object {}
    [.defaulted "object_types" (list ObjectType.codec) (·.objectTypes)
       fun e v => { e with objectTypes := v },
     .defaulted "classes" (list ObjectClass.codec) (·.classes) fun e v => { e with classes := v },
     .defaulted "property_defs" (list PropertyDef.codec) (·.propertyDefs)
       fun e v => { e with propertyDefs := v },
     .defaulted "value_list_items" (list ValueListItem.codec) (·.valueListItems)
       fun e v => { e with valueListItems := v },
     .defaulted "workflows" (list NamedElement.codec) (·.workflows)
       fun e v => { e with workflows := v },
     .defaulted "workflow_states" (list WorkflowState.codec) (·.workflowStates)
       fun e v => { e with workflowStates := v },
     .defaulted "named_access_lists" (list NamedElement.codec) (·.namedAccessLists)
       fun e v => { e with namedAccessLists := v },
     .defaulted "class_groups" (list NamedElement.codec) (·.classGroups)
       fun e v => { e with classGroups := v },
     .defaulted "user_groups" (list NamedElement.codec) (·.userGroups)
       fun e v => { e with userGroups := v },
     .defaulted "views" (list NamedElement.codec) (·.views) fun e v => { e with views := v },
     .defaulted "objects" (list ObjectInstance.codec) (·.objects)
       fun e v => { e with objects := v }]

def ofJson? (text : String) : Except Fault Snapshot := codec.parse text

def toJson (snapshot : Snapshot) : String := codec.print (.pretty 0) snapshot

end Snapshot

end VaultModels.Schema
