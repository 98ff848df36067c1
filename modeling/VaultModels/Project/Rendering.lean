import VaultModels.Model.Wrapper
import VaultModels.RunError

/-!
# Rendering

The walk over a schema that makes every artifact of a project: the wrapper, the property enum, each
real object type followed by its classes, then every static value list. Each artifact is passed on
to a visitor as soon as it is made. `render` is the walk that keeps the first artifact of each
target.
-/
namespace VaultModels.Project

open Model Schema

/-- What happens to an artifact once it is made. -/
abbrev Visitor (α : Type) := α → Artifact → Emitting α

variable {α : Type}

def walkClasses (options : Options) (visit : Visitor α) : α → List ObjectClass → Emitting α
  | seen, [] => .done seen
  | seen, cls :: rest => do
    let file ← classFile options cls
    let seen ← visit seen file
    let seen ← if options.partials then visit seen (classPartial options cls) else .done seen
    walkClasses options visit seen rest

def walkTypes (options : Options) (visit : Visitor α) : α → List ObjectType → Emitting α
  | seen, [] => .done seen
  | seen, type :: rest => do
    let base ← typeBase options type
    let seen ← visit seen base
    let classes ← Session.fetch .schema (.classes type.id)
    let seen ← walkClasses options visit seen classes
    walkTypes options visit seen rest

/-- Real object types are no value lists here. -/
def walkLists (options : Options) (visit : Visitor α) : α → List ObjectType → Emitting α
  | seen, [] => .done seen
  | seen, list :: rest =>
    if list.isReal then walkLists options visit seen rest
    else do
      let items ← valueListEnum options list
      let seen ← visit seen items
      walkLists options visit seen rest

def walk (options : Options) (visit : Visitor α) (start : α) : Emitting α := do
  let shared ← wrapper options
  let seen ← visit start shared
  let properties ← Session.fetch .schema .propertyDefs
  let enum ← propertyEnum options properties
  let seen ← visit seen enum
  let types ← Session.fetch .schema .objectTypes
  let seen ← walkTypes options visit seen types
  let lists ← Session.fetch .schema .valueLists
  walkLists options visit seen lists

/-- Every artifact, whatever its target. -/
def allArtifacts (options : Options) : Emitting (List Artifact) :=
  walk options (fun seen artifact => .done (seen ++ [artifact])) []

/-- Keeps an artifact unless its target is taken; then it is left out with a warning. -/
def keepFirst : Visitor (List Artifact) := fun kept artifact =>
  if kept.any fun earlier => earlier.path.same artifact.path then do
    Session.warn (Refusal.duplicateTarget artifact.path).message
    .done kept
  else .done (kept ++ [artifact])

def render (options : Options) : Emitting (List Artifact) := walk options keepFirst []

end VaultModels.Project
