import VaultModels.Path
import VaultModels.SystemError

/-!
# Write errors
-/
namespace VaultModels.Project

inductive WriteError where
  | createDirectory (path : Path) (cause : SystemError)
  | writeFile (path : Path) (cause : SystemError)
  /-- The file may hold work done by hand. -/
  | protectedPartial (path : Path)
  deriving DecidableEq, Repr

def WriteError.message : WriteError → String
  | .createDirectory path cause =>
    "Failed to create directory " ++ path.text ++ ": " ++ cause.message
  | .writeFile path cause => "Failed to write file " ++ path.text ++ ": " ++ cause.message
  | .protectedPartial path => "Refusing to overwrite hand-editable file " ++ path.text

end VaultModels.Project
