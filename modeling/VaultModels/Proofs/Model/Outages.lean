import VaultModels.Model.Wrapper
import VaultModels.Proofs.Resolution.ById
import VaultModels.Proofs.Session.Outages

/-!
# Emitters surface outages

No emitter swallows a missing answer, and whatever ends one is an error of the schema or of
resolution. Resolution treats a missing answer as an element that is not there; the id that is wanted
from it is then missing too, and that is the error the emitter ends with.
-/
namespace VaultModels

/-- An error about the schema or a reference into it, not about the project. -/
def RunError.IsSchemaSide : RunError → Prop
  | .schema _ | .resolution _ => True
  | .refused _ | .write _ => False

namespace Model

open Schema

/-- Emission surfaces outages, with errors on the schema's side. -/
abbrev SurfacesOutages {α : Type} (emission : Emitting α) : Prop :=
  emission.Surfaces RunError.IsSchemaSide

theorem surfaces_schema (query : Query) :
    SurfacesOutages (Session.fetch RunError.schema query) :=
  Session.surfaces_fetch (fun _ => trivial) query

theorem resolveId_surfaces (list : ElementId) :
    ((Resolution.Identifier.ofId list).resolveId .objectType).Surfaces fun _ => True := by
  by_cases given : list = Resolution.unresolvedId
  · rw [given, Resolution.Identifier.resolveId_none]
    exact .fail trivial
  · rw [Resolution.Identifier.resolveId_some given]
    refine .ask _ (fun message => .fail trivial) fun answer => ?_
    cases answer with
    | error error => exact .fail trivial
    | ok id =>
      dsimp only
      split
      · exact .fail trivial
      · exact .done id

theorem Accessor.target_surfaces (list : ElementId) : SurfacesOutages (Accessor.target list) := by
  refine Session.Surfaces.bind (.mapError (resolveId_surfaces list)) fun id => ?_
  exact (surfaces_schema _).bind fun type => .done _

theorem Accessor.of?_surfaces (property : PropertyDef) :
    SurfacesOutages (Accessor.of? property) := by
  unfold Accessor.of?
  split
  case h_7 => exact (Accessor.target_surfaces _).bind fun _ => .done _
  case h_8 => exact (Accessor.target_surfaces _).bind fun _ => .done _
  all_goals exact .done _

theorem membersFrom_surfaces (associations : List Association) (scope : Name.Scope) :
    SurfacesOutages (membersFrom scope associations) := by
  induction associations generalizing scope with
  | nil => exact .done []
  | cons association rest ih =>
    refine (surfaces_schema _).bind fun property => ?_
    split
    · exact ih scope
    · refine (Accessor.of?_surfaces property).bind fun found => ?_
      cases found with
      | none => exact .tell _ (ih scope)
      | some accessor => exact (ih _).bind fun _ => .done _

theorem members_surfaces (cls : ObjectClass) : SurfacesOutages (members cls) :=
  (surfaces_schema _).bind fun associations => membersFrom_surfaces associations _

/-! ## Artifacts -/

variable (options : Options)

theorem wrapper_surfaces : SurfacesOutages (wrapper options) := .tell _ (.done _)

theorem propertyEnum_surfaces (properties : List PropertyDef) :
    SurfacesOutages (propertyEnum options properties) := .tell _ (.done _)

theorem typeBase_surfaces (type : ObjectType) : SurfacesOutages (typeBase options type) :=
  .tell _ (.done _)

theorem classFile_surfaces (cls : ObjectClass) : SurfacesOutages (classFile options cls) := by
  refine (surfaces_schema _).bind fun type => ?_
  exact (members_surfaces cls).bind fun found => .tell _ (.done _)

theorem valueListEnum_surfaces (list : ObjectType) :
    SurfacesOutages (valueListEnum options list) :=
  (surfaces_schema _).bind fun _ => .tell _ (.done _)

end Model

end VaultModels
