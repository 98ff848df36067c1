import VaultModels.Resolution.Lookup

/-!
# Object references

Naming one object: by type and id, by a bare id, or by text. Text is a 32-bit number, two numbers as
`(type-id)`, or a braced GUID; blanks around it do not count.
-/
namespace VaultModels.Resolution

open Schema Text

inductive ObjectReference where
  | typed (objectType id : ElementId)
  /-- The version plays no part in resolution. -/
  | versioned (objectType id version : ElementId)
  | bare (id : ElementId)
  | text (text : String)
  deriving DecidableEq, Repr

end VaultModels.Resolution

namespace VaultModels.Schema

open Text

def ObjectRef.display (object : ObjectRef) : String :=
  match object.objectType with
  | some type => "(" ++ int32Text type ++ "-" ++ int32Text object.id ++ ")"
  | none => int32Text object.id

end VaultModels.Schema

namespace VaultModels.Resolution

open Schema Text

namespace ObjectReference

def display : ObjectReference → String
  | .typed type id => "(" ++ int32Text type ++ "-" ++ int32Text id ++ ")"
  | .versioned type id version =>
    "(" ++ int32Text type ++ "-" ++ int32Text id ++ "-" ++ int32Text version ++ ")"
  | .bare id => int32Text id
  | .text written => written

/-- The two runs of digits of `(digits-digits)`. -/
def splitPair : List Char → Option (List Char × List Char)
  | '(' :: rest =>
    let type := rest.takeWhile isDigit
    match rest.dropWhile isDigit with
    | '-' :: tail =>
      let id := tail.takeWhile isDigit
      if type ≠ [] ∧ id ≠ [] ∧ tail.dropWhile isDigit = [')'] then some (type, id) else none
    | _ => none
  | _ => none

def resolveText (text : String) : Resolving ObjectRef :=
  let trimmed := trim text
  if trimmed = "" then .fail (.argument "object reference is empty")
  else match readInt32? trimmed.toList with
    | some id => .done ⟨none, id⟩
    | none =>
      match splitPair trimmed.toList with
      | some (type, id) =>
        match readInt32? type, readInt32? id with
        | some type, some id => .done ⟨some type, id⟩
        | _, _ => .fail (.unrecognized text)
      | none =>
        match Guid.ofBraced? trimmed with
        | some guid => Session.fetch Error.ofSchema (.objectByGuid guid)
        | none => .fail (.unrecognized text)

def resolve : ObjectReference → Resolving ObjectRef
  | .typed type id | .versioned type id _ => .done ⟨some type, id⟩
  | .bare id => .done ⟨none, id⟩
  | .text written => resolveText written

end ObjectReference

end VaultModels.Resolution
