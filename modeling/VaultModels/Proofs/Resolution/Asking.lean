import VaultModels.Proofs.Session.Ends
import VaultModels.Resolution.Identifier

/-!
# What resolving can lead to

For every backend: resolving says nothing to the host, and an identifier that is resolved becomes one
of three things, whatever is answered. It stays as it is if it was resolved before, it settles on some
id, or it keeps everything but its kind and an error is reported. Which id it settles on is not the
subject here.
-/
namespace VaultModels.Resolution

open Schema

variable {allowed : Message → Prop}

theorem byGuid_tells (kind : Kind) (guid : String) : (byGuid kind guid).Tells allowed := by
  unfold byGuid
  split
  · exact Session.tells_fetch _ _
  · exact .fail _

theorem byAlias_tells (kind : Kind) (request : String) : (byAlias kind request).Tells allowed := by
  unfold byAlias
  split
  · exact Session.tells_fetch _ _
  · exact .fail _

theorem byText_tells (kind : Kind) (text : String) : (byText kind text).Tells allowed := by
  unfold byText
  split
  next form _ =>
    cases form with
    | integer id => exact .done trivial
    | guid guid => exact byGuid_tells kind guid
    | aliased request => exact byAlias_tells kind request
  · exact .fail _

namespace Identifier

/-- What resolving as `kind` can make of an identifier, and the error that is reported with it. -/
inductive Becomes (x : Identifier) (kind : Kind) : Identifier × Option Error → Prop
  | again (attempted : x.attempted = true) : Becomes x kind (x, none)
  | settled (armed : x.attempted = false) (id : ElementId) :
      Becomes x kind ({ x with kind := some kind, id, attempted := true }, none)
  | failed (armed : x.attempted = false) (error : Error) :
      Becomes x kind ({ x with kind := some kind }, some error)

theorem checkId_ends (kind : Kind) (given : ElementId) (owner : Option ElementId)
    (check : IdCheck) : (checkId kind given owner check).Ends fun _ => True := by
  cases check with
  | unsupported => exact .done trivial
  | lookup => exact Session.ends_tryFetch (.verify kind given)
  | roundTrip => exact (Session.ends_tryFetch _).bind fun _ _ => .done trivial
  | owner =>
    refine (Session.ends_tryFetch _).bind fun reported _ => ?_
    cases reported with
    | none => exact .done trivial
    | some id =>
      cases owner with
      | none => exact .done trivial
      | some expected => exact (Session.ends_tryFetch _).bind fun _ _ => .done trivial

theorem attempt_ends (x : Identifier) (kind : Kind) : (x.attempt kind).Ends fun _ => True := by
  unfold attempt
  split
  next guid _ =>
    split
    · exact Session.ends_tryFetch (.byGuid kind guid)
    · exact .done trivial
  · split
    · split
      · exact Session.ends_tryFetch (.byAlias kind x.aliasText)
      · exact .done trivial
    · split
      · exact checkId_ends _ _ _ _
      · exact .done trivial

theorem resolve_ends (x : Identifier) (kind : Kind) : (x.resolve kind).Ends (x.Becomes kind) := by
  unfold resolve
  split
  next attempted => exact .done (.again attempted)
  next armed =>
    have armed : x.attempted = false := by simpa using armed
    refine (attempt_ends _ _).bind fun found _ => ?_
    cases found with
    | some id => exact .done (.settled armed id)
    | none =>
      dsimp only
      split
      · exact .done (.settled armed unresolvedId)
      · refine (Session.ends_outcome (byText_tells _ _)).bind fun looked _ => ?_
        cases looked with
        | ok id => exact .done (.settled armed id)
        | error error => exact .done (.failed armed error)

theorem resolveId_tells (x : Identifier) (kind : Kind) : (x.resolveId kind).Tells allowed := by
  refine (resolve_ends x kind).tells.bind fun result _ => ?_
  rcases result with ⟨resolved, none | error⟩
  · exact Session.tells_ofExcept _
  · exact .fail error

end Identifier

end VaultModels.Resolution
