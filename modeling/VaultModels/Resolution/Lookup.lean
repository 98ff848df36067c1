import VaultModels.Resolution.TextForm
import VaultModels.Session

/-!
# Lookups

Finding an element by GUID, by alias or by untyped text. A kind without the lookup answers that
there is no such element, and the backend is not asked.
-/
namespace VaultModels.Resolution

open Schema

/-- Resolution tells the host nothing and fails with resolution errors. -/
abbrev Resolving := Session Error

def byGuid (kind : Kind) (guid : String) : Resolving ElementId :=
  if kind.strategy.byGuid then Session.fetch Error.ofSchema (.byGuid kind guid)
  else .fail (.notFound kind guid)

def byAlias (kind : Kind) (request : String) : Resolving ElementId :=
  if kind.strategy.byAlias then Session.fetch Error.ofSchema (.byAlias kind request)
  else .fail (.notFound kind request)

/-- A number stands for itself, whether such an element exists or not. -/
def byForm (kind : Kind) : TextForm → Resolving ElementId
  | .integer id => .done id
  | .guid guid => byGuid kind guid
  | .aliased text => byAlias kind text

def byText (kind : Kind) (text : String) : Resolving ElementId :=
  match classify text with
  | .ok form => byForm kind form
  | .error error => .fail error

end VaultModels.Resolution
