import VaultModels.Proofs.Resolution.Lifecycle
import VaultModels.Schema.Backend

/-!
# Resolving once

A resolution that completes is the last one: whatever is asked of the identifier after it, no backend
is asked again and nothing changes, even if it came to no id. A resolution that ends with an error
leaves nothing behind but its kind, so the next one goes as it would on a new identifier. Nothing is
assumed of the backends, which may answer otherwise or fail from call to call.
-/
namespace VaultModels.Resolution.Identifier

open Schema

variable {x y : Identifier}

/-- Resolving as one kind after the other, with the errors that are reported. -/
def resolveInTurn (x : Identifier) : List Kind → Resolving (Identifier × List (Option Error))
  | [] => .done (x, [])
  | kind :: kinds => do
    let (next, outcome) ← x.resolve kind
    let (last, outcomes) ← next.resolveInTurn kinds
    .done (last, outcome :: outcomes)

/-- The same source values and expected owner, never resolved. -/
def asNew (x : Identifier) : Identifier :=
  { aliasText := x.aliasText, sourceId := x.sourceId, expectedOwner := x.expectedOwner }

/-- Nothing is asked of an identifier that was attempted. -/
theorem resolveInTurn_attempted (attempted : x.attempted = true) (kinds : List Kind) :
    x.resolveInTurn kinds = .done (x, kinds.map fun _ => none) := by
  induction kinds with
  | nil => rfl
  | cons kind kinds ih =>
    rw [resolveInTurn, resolve_attempted attempted]
    change (x.resolveInTurn kinds >>= fun later => .done (later.1, none :: later.2)) = _
    rw [ih]
    rfl

/-- Of an identifier that was not attempted, resolving only looks at the source values and the owner. -/
theorem resolve_asNew (coherent : x.IsCoherent) (armed : x.attempted = false) (kind : Kind) :
    x.resolve kind = x.asNew.resolve kind := by
  have unresolved : x.id = unresolvedId := coherent.unresolved armed
  have started : ({ x with kind := some kind } : Identifier) = { x.asNew with kind := some kind } := by
    cases x
    cases armed
    cases unresolved
    rfl
  unfold resolve
  rw [if_neg (by simp [armed]), if_neg (by simp [asNew]), started]

/-- Resolving an attained identifier against any backend either completes, and then no call that follows
asks anything or changes a field, or reports an error, and then the next call asks, answers and leaves
what it would of the identifier as new. -/
theorem resolution_memoised (attained : x.Attained AnyCall) (kind : Kind) {σ : Type}
    (backend : Backend σ) (state : σ) :
    ∃ y outcome, ((x.resolve kind).run backend state).result = .ok (y, outcome) ∧
      (outcome = none → ∀ (kinds : List Kind) (τ : Type) (later : Backend τ) log last,
        (y.resolveInTurn kinds).run later.logged (log, last) =
          ⟨.ok (y, kinds.map fun _ => none), [], (log, last)⟩) ∧
      (outcome ≠ none → ∀ (next : Kind) (τ : Type) (later : Backend τ) log last,
        (y.resolve next).run later.logged (log, last) =
          (x.asNew.resolve next).run later.logged (log, last)) := by
  obtain ⟨⟨y, outcome⟩, ended, becomes⟩ := (resolve_ends x kind).run backend state
  have coherent : y.IsCoherent := becomes.isCoherent attained.isCoherent
  refine ⟨y, outcome, ended, ?_, ?_⟩
  · intro completed kinds τ later log last
    have attempted : y.attempted = true := by
      cases becomes with
      | again attempted => exact attempted
      | settled _ _ => rfl
      | failed _ _ => cases completed
    rw [resolveInTurn_attempted attempted]
    rfl
  · intro reported next τ later log last
    cases becomes with
    | again _ => exact absurd rfl reported
    | settled _ _ => exact absurd rfl reported
    | failed armed error => rw [resolve_asNew coherent armed]; rfl

/-- An alias of no workflow, after it was looked up. -/
def missedAlias : Identifier := { ofAlias "WF.Missing" with kind := some .workflow }

/-- The alias of no workflow is looked up again as it would be at first, and the state that was resolved
is not looked up again. -/
theorem resolution_memoised_approvals :
    ((((ofAlias "WF.Missing").resolve .workflow).run approvals.backend ()).result =
        .ok (missedAlias, some (.notFound .workflow "WF.Missing")) ∧
      (missedAlias.resolve .workflow).run approvals.backend.logged ([], ()) =
        ((ofAlias "WF.Missing").resolve .workflow).run approvals.backend.logged ([], ())) ∧
    (((draft.resolve .workflowState).run approvals.backend ()).result = .ok (resolvedDraft, none) ∧
      (resolvedDraft.resolveInTurn [.workflowState, .workflow]).run approvals.backend.logged ([], ()) =
        ⟨.ok (resolvedDraft, [none, none]), [], ([], ())⟩) := by
  constructor
  · have attained : (ofAlias "WF.Missing").Attained AnyCall := .new (.ofAlias "WF.Missing")
    have missed : (((ofAlias "WF.Missing").resolve .workflow).run approvals.backend ()).result =
        .ok (missedAlias, some (.notFound .workflow "WF.Missing")) := by decide
    obtain ⟨y, outcome, ended, -, rearmed⟩ :=
      resolution_memoised attained .workflow approvals.backend ()
    cases missed.symm.trans ended
    exact ⟨missed, rearmed nofun .workflow Unit approvals.backend [] ()⟩
  · have attained : draft.Attained AnyCall :=
      .call (.new (.ofId 201)) trivial (by nofun) (.withOwner (ofId 201) 101)
    have resolved : ((draft.resolve .workflowState).run approvals.backend ()).result =
        .ok (resolvedDraft, none) := by decide
    obtain ⟨y, outcome, ended, remembered, -⟩ :=
      resolution_memoised attained .workflowState approvals.backend ()
    cases resolved.symm.trans ended
    exact ⟨resolved, remembered rfl [.workflowState, .workflow] Unit approvals.backend [] ()⟩

end VaultModels.Resolution.Identifier
