import VaultModels.Schema.Kind
import VaultModels.Text.CaseFold

/-!
# Kind names on the command line

Hyphens, underscores and case do not count.
-/
namespace VaultModels.Command

open Schema Text

def kind? (written : String) : Option Kind :=
  let bare := String.ofList (written.toList.filter fun c => c != '-' && c != '_')
  Kind.all.find? (sameIgnoringCase ·.name bare)

def unknownKindMessage (written : String) : String :=
  "unknown element kind '" ++ written ++ "' (expected one of: " ++
    String.intercalate ", " (Kind.all.map Kind.name) ++ ")"

end VaultModels.Command
