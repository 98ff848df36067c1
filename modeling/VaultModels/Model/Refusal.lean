import VaultModels.Path

/-!
# Refusals

Why a plan is rejected or a part of it left out.
-/
namespace VaultModels.Model

inductive Refusal where
  | conflict (path : Path)
  | unsupportedValueKind (property valueKind : String)
  | duplicateTarget (path : Path)
  deriving DecidableEq, Repr

def Refusal.message : Refusal → String
  | .conflict path => "File " ++ path.text ++ " already exists, use --force to overwrite."
  | .unsupportedValueKind property valueKind =>
    "Generation of datatype " ++ valueKind ++ " not yet supported (property '" ++ property ++ "')."
  | .duplicateTarget path =>
    "Artifact target " ++ path.text ++ " is produced by more than one schema element"

end VaultModels.Model
