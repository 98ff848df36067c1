import VaultModels.Model.ClassFile
import VaultModels.Model.WrapperText

/-!
# Base wrapper

The shared wrapper file. It has tabs whatever the indentation, and takes only its namespace and its
line endings from the options.
-/
namespace VaultModels.Model

open Text

/-- Text split at line feeds, empty pieces included. -/
def splitLines : List Char → List (List Char)
  | [] => [[]]
  | c :: cs =>
    if c = '\n' then [] :: splitLines cs
    else match splitLines cs with
      | [] => [[c]]
      | first :: rest => (c :: first) :: rest

/-- The lines of the file; a namespace that holds line feeds takes several. -/
def wrapperLines (modelNamespace : String) : List String :=
  wrapperHead ++ (splitLines ("namespace " ++ modelNamespace).toList).map String.ofList ++
    wrapperBody

def wrapperContent (options : Options) : String :=
  String.join ((wrapperLines options.modelNamespace).map (· ++ options.layout.lineEnding.text))

def wrapper (options : Options) : Emitting Artifact := do
  Session.verbose "Generating base wrapper type"
  .done
    { path := options.modelPath wrapperName
      content := wrapperContent options
      kind := .baseWrapper }

end VaultModels.Model
