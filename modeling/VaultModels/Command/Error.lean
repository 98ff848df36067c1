import VaultModels.RunError
import VaultModels.Settings.Error

/-!
# Command errors

Everything that can end a command, and the exit status for it.
-/
namespace VaultModels.Command

inductive Error where
  | run (error : RunError)
  | settings (error : Settings.Error)
  /-- The command was refused before it touched the project. -/
  | validation (message : String)
  | system (cause : SystemError)
  deriving DecidableEq, Repr

namespace Error

def message : Error → String
  | .run error => error.message
  | .settings error => "Failed to load configuration: " ++ error.message
  | .validation message => "Validation failed: " ++ message
  | .system cause => "IO error: " ++ cause.message

/-- Whether a precondition was refused; a conflict is one. -/
def isValidation : Error → Bool
  | .validation _ | .run (.refused (.conflict _)) => true
  | _ => false

def status (error : Error) : UInt32 := if error.isValidation then 2 else 1

end Error

end VaultModels.Command
