import VaultModels.Schema.Error

/-!
# Resolution errors
-/
namespace VaultModels.Resolution

open Schema

inductive Error where
  /-- Every lookup of the kind came back empty. -/
  | notFound (kind : Kind) (reference : String)
  /-- An identifier without a resolved id was taken as an id. -/
  | unresolved (kind : Option Kind) (aliasText : String)
  /-- The reference has a shape that no lookup understands. -/
  | unrecognized (reference : String)
  | argument (message : String)
  /-- The backend failed for a reason other than a missing element. -/
  | backend (message : String)
  deriving DecidableEq, Repr

def Error.message : Error → String
  | .notFound kind reference =>
    "Vault element not found. Type: " ++ kind.name ++ " Reference: " ++ reference
  | .unresolved (some kind) aliasText =>
    "Vault element not found. Type:" ++ kind.name ++ " Alias:" ++ aliasText
  | .unresolved none aliasText => "Vault element not found. Alias:" ++ aliasText
  | .unrecognized reference => "The identifier '" ++ reference ++ "' is not recognized"
  | .argument message => "Invalid argument: " ++ message
  | .backend message => "Schema backend error: " ++ message

/-- A missing element stays missing; any other schema error keeps only its message. -/
def Error.ofSchema : Schema.Error → Error
  | .notFound kind reference => .notFound kind reference
  | other => .backend other.message

def Error.isNotFound : Error → Bool
  | .notFound _ _ => true
  | _ => false

end VaultModels.Resolution
