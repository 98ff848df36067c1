import VaultModels.Code.Layout
import VaultModels.Path
import VaultModels.Text.Blank

/-!
# Options of a run

The namespace, the layout and the file names of generated code. Generated files go to `Models`,
hand-editable partials to `Models/Partials`.
-/
namespace VaultModels.Model

open Text

structure Options where
  /-- Root namespace of the project; empty for none. -/
  rootNamespace : String := ""
  /-- Whether each class comes with a hand-editable partial. -/
  partials : Bool := false
  layout : Code.Layout := {}
  /-- Extension of generated files, without the dot. -/
  extension : String := "cs"
  deriving DecidableEq, Repr

namespace Options

/-- Generated types live in `Models` below the root namespace, whose surrounding blanks and final
dots do not count. -/
def modelNamespace (options : Options) : String :=
  match dropTail (· == '.') (trimChars options.rootNamespace.toList) with
  | [] => "Models"
  | root => String.ofList root ++ ".Models"

def fileName (options : Options) (stem : String) : Path := ⟨stem ++ "." ++ options.extension⟩

def modelPath (options : Options) (stem : String) : Path :=
  (⟨"Models"⟩ : Path).join (options.fileName stem)

def partialPath (options : Options) (stem : String) : Path :=
  ((⟨"Models"⟩ : Path).join ⟨"Partials"⟩).join (options.fileName stem)

end Options

end VaultModels.Model
