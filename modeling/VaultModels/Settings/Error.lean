import VaultModels.Path
import VaultModels.SystemError

/-!
# Settings errors
-/
namespace VaultModels.Settings

inductive Error where
  | notFound (path : Path)
  | invalidToml (path : Path) (message : String)
  | invalidValue (key message : String)
  | unreadable (path : Path) (cause : SystemError)
  deriving DecidableEq, Repr

def Error.message : Error → String
  | .notFound path => "Configuration file not found: " ++ path.text
  | .invalidToml path message => "Invalid TOML in " ++ path.text ++ ": " ++ message
  | .invalidValue key message =>
    "Invalid configuration value for '" ++ key ++ "': " ++ message
  | .unreadable path cause => "Failed to read config " ++ path.text ++ ": " ++ cause.message

end VaultModels.Settings
