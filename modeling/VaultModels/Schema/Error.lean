import VaultModels.Path
import VaultModels.Schema.Kind
import VaultModels.SystemError

/-!
# Schema errors
-/
namespace VaultModels.Schema

inductive Error where
  | notFound (kind : Kind) (reference : String)
  | unavailable (message : String)
  | invalidSnapshot (path : Path) (message : String)
  | unreadable (path : Path) (cause : SystemError)
  deriving DecidableEq, Repr

def Error.message : Error → String
  | .notFound kind reference => kind.name ++ " not found: " ++ reference
  | .unavailable message => "Schema unavailable: " ++ message
  | .invalidSnapshot path message =>
    "Invalid schema snapshot " ++ path.text ++ ": " ++ message
  | .unreadable path cause =>
    "Failed to read schema snapshot " ++ path.text ++ ": " ++ cause.message

end VaultModels.Schema
