import VaultModels.Resolution.Identifier

/-!
# References

Whatever a caller has at hand to name a schema element, and `resolve`, which turns it into the id
that the schema uses. Numbers are trusted as they are; text is classified; aliases and GUIDs are
looked up; an identifier is resolved on a copy.
-/
namespace VaultModels.Resolution

open Schema Text

inductive Reference where
  | number (id : ElementId)
  /-- The value of a generated enum member. -/
  | enumValue (id : ElementId)
  /-- A 64-bit id, which has to fit in 32 bits. -/
  | long (id : Int64)
  | text (text : String)
  | aliased (text : String)
  /-- A GUID in any of its forms. -/
  | guid (text : String)
  | identifier (identifier : Identifier)
  deriving DecidableEq, Repr

namespace Reference

def display : Reference → String
  | .number id | .enumValue id => int32Text id
  | .long id => intText id.toInt
  | .text written | .aliased written | .guid written => written
  | .identifier other => other.display

def narrow (id : Int64) : Except Error ElementId :=
  match toInt32? id.toInt with
  | some id => .ok id
  | none => .error (.unrecognized (intText id.toInt))

def resolve (kind : Kind) : Reference → Resolving ElementId
  | .number id | .enumValue id => .done id
  | .long id => Session.ofExcept (narrow id)
  | .identifier other => other.resolveId kind
  | .guid written =>
    match normalizeGuid written with
    | .ok canonical => byGuid kind canonical
    | .error error => .fail error
  | .aliased written =>
    if trim written = "" then .fail (.argument "alias is empty") else byAlias kind written
  | .text written => byText kind written

end Reference

/-- Replaces the source value. Numbers clear the alias and text clears the number; either way the
identifier is armed again. A reference that is refused changes nothing. -/
def Identifier.set (identifier : Identifier) : Reference → Except Error Identifier
  | .number id | .enumValue id => .ok (identifier.setId id)
  | .long id => (Reference.narrow id).map identifier.setId
  | .text written | .aliased written => .ok (identifier.setText written)
  | .guid written => (normalizeGuid written).map identifier.setText
  | .identifier other => .ok other

end VaultModels.Resolution
