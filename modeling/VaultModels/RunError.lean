import VaultModels.Model.Refusal
import VaultModels.Project.WriteError
import VaultModels.Resolution.Error

/-!
# Run errors

Everything that can end a generation run.
-/
namespace VaultModels

inductive RunError where
  | schema (error : Schema.Error)
  | resolution (error : Resolution.Error)
  | refused (refusal : Model.Refusal)
  | write (error : Project.WriteError)
  deriving DecidableEq, Repr

def RunError.message : RunError → String
  | .schema error => "Schema error: " ++ error.message
  | .resolution error => "Failed to resolve reference: " ++ error.message
  | .refused refusal => "Failed to generate artifacts: " ++ refusal.message
  | .write error => "Failed to write output: " ++ error.message

end VaultModels
