import VaultModels.Guid
import VaultModels.Resolution.Error
import VaultModels.Schema.Element
import VaultModels.Text.Decimal

/-!
# Text references

How untyped text is read as a reference: as a 32-bit number, then as a braced GUID, then as an
alias. Blanks around a number or a GUID do not count; an alias is kept as it is written.
-/
namespace VaultModels.Resolution

open Schema Text

inductive TextForm where
  | integer (id : ElementId)
  | guid (canonical : String)
  | aliased (text : String)
  deriving DecidableEq, Repr

def classify (text : String) : Except Error TextForm :=
  let trimmed := trim text
  if trimmed = "" then .error (.argument "reference text is empty")
  else match readInt32? trimmed.toList with
    | some id => .ok (.integer id)
    | none =>
      match Guid.ofBraced? trimmed with
      | some guid => .ok (.guid guid)
      | none => .ok (.aliased text)

/-- The canonical text of a GUID in any form. -/
def normalizeGuid (text : String) : Except Error String :=
  match Guid.ofAnyForm? text with
  | some guid => .ok guid
  | none => .error (.argument ("'" ++ text ++ "' is not a valid GUID"))

end VaultModels.Resolution
