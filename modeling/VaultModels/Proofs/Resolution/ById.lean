import VaultModels.Resolution.Identifier

/-!
# Resolving an id to an object type

An identifier made from a bare id makes one query, and the query is all there is to its resolution:
the id that the schema reports is taken, and no report means unresolved. The id `-1` is not even asked
for. So an answer that is swallowed on the way comes back as an error in the end.
-/
namespace VaultModels.Resolution.Identifier

open Schema

/-- The error of an id that stands for no object type; an identifier made from an id has no alias to
name in it. -/
def dangling : Error := .unresolved (some .objectType) ""

theorem attempt_id {list : ElementId} (given : list ≠ unresolvedId) :
    attempt { sourceId := list, kind := some .objectType } .objectType =
      Session.tryFetch (.verify .objectType list) := by
  have no_guid : guid? { sourceId := list, kind := some .objectType } = none :=
    (by decide : Guid.ofBraced? "" = none)
  unfold attempt
  rw [no_guid]
  simp only [ne_eq, not_true_eq_false, if_false, given, not_false_eq_true, if_true]
  rfl

theorem resolveId_none : (ofId unresolvedId).resolveId .objectType = .fail dangling := rfl

theorem resolveId_some {list : ElementId} (given : list ≠ unresolvedId) :
    (ofId list).resolveId .objectType =
      .ask (.verify .objectType list) fun
        | .ok id => if id = unresolvedId then .fail dangling else .done id
        | .error _ => .fail dangling := by
  unfold resolveId resolve
  rw [if_neg (by simp [ofId])]
  dsimp only [ofId]
  rw [attempt_id given]
  refine congrArg (Session.ask (.verify .objectType list)) (funext fun answer => ?_)
  cases answer with
  | error error => rfl
  | ok id =>
    change Session.ofExcept (if id = unresolvedId then .error dangling else .ok id) = _
    dsimp only
    split <;> rfl

end VaultModels.Resolution.Identifier
