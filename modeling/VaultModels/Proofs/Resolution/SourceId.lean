import VaultModels.Proofs.Resolution.Attempt

/-!
# Identifiers made from ids

Over a snapshot an identifier that is made from an id is resolved exactly if an element of the kind
has the id, with two exceptions: objects are not looked up by id, and a state for which an owner is
expected has to belong to that workflow. The id that stands for none is never resolved. Where the
answer is no, resolving reports no error.
-/
namespace VaultModels

namespace Schema.Snapshot

variable {snapshot : Snapshot} {kind : Kind} {id : ElementId} {owner : Option ElementId}

/-- The first state with the id belongs to the workflow. -/
def StateBelongs (snapshot : Snapshot) (id workflow : ElementId) : Prop :=
  ∃ state, snapshot.workflowStates.find? (·.id == id) = some state ∧ state.workflow = workflow

/-- What the check of each kind accepts. -/
theorem accepts_iff :
    snapshot.Accepts kind id owner kind.strategy.byId ↔
      kind ≠ .objectInstance ∧ snapshot.Holds kind id ∧
        (kind = .workflowState → ∀ expected ∈ owner, snapshot.StateBelongs id expected) := by
  cases kind with
  | workflowState => simp [Accepts, Kind.strategy, owner?, StateBelongs]
  | _ => simp [Accepts, Kind.strategy]

end Schema.Snapshot

namespace Resolution.Identifier

open Schema

variable {snapshot : Snapshot} {kind : Kind} {id : ElementId} {owner : Option ElementId}

/-- Without an alias there is the id only to go by. -/
theorem matched?_ofId :
    ({ ofId id with expectedOwner := owner } : Identifier).matched? snapshot kind =
      if id ≠ unresolvedId ∧ snapshot.Accepts kind id owner kind.strategy.byId then some id
      else none := by
  rw [matched?, guid?_of_unnamed rfl]
  exact if_neg (not_not.mpr rfl)

theorem settled_ofId :
    ({ ofId id with expectedOwner := owner } : Identifier).settled snapshot kind =
      .ok (if id ≠ unresolvedId ∧ snapshot.Accepts kind id owner kind.strategy.byId then id
        else unresolvedId) := by
  rw [settled, matched?_ofId]
  by_cases accepted : id ≠ unresolvedId ∧ snapshot.Accepts kind id owner kind.strategy.byId
  · rw [if_pos accepted, if_pos accepted]
  · rw [if_neg accepted, if_neg accepted]
    rfl

/-- Resolving an identifier that is made from an id never reports an error. It is resolved, and to that
id, exactly if the id stands for something, the kind is looked up by id, some element of it has the
id, and a state belongs to the expected owner; otherwise taking its id fails for the kind. -/
theorem ofId_resolves (snapshot : Snapshot) (kind : Kind) (id : ElementId)
    (owner : Option ElementId) :
    ∃ y, ((owner.elim (ofId id) (ofId id).withOwner).resolve kind).endOver snapshot = .ok (y, none) ∧
      (y.isResolved = true ↔ id ≠ unresolvedId ∧ kind ≠ .objectInstance ∧ snapshot.Holds kind id ∧
        (kind = .workflowState → ∀ expected ∈ owner, snapshot.StateBelongs id expected)) ∧
      (y.isResolved = true → y.tryId = .ok id) ∧
      (y.isResolved = false → y.tryId = .error (.unresolved (some kind) "")) := by
  have made : owner.elim (ofId id) (ofId id).withOwner = { ofId id with expectedOwner := owner } := by
    cases owner <;> rfl
  rw [made, resolve_first rfl, settled_ofId, ← Snapshot.accepts_iff]
  refine ⟨_, rfl, ?_⟩
  by_cases accepted : id ≠ unresolvedId ∧ snapshot.Accepts kind id owner kind.strategy.byId
  · rw [if_pos accepted]
    simp [isResolved, tryId, accepted]
  · rw [if_neg accepted]
    simp [isResolved, tryId, accepted, ofId]

/-- Of two states with one id, the first one decides on the owner. -/
example :
    let twice : Snapshot :=
      { workflowStates := [{ id := 7, name := "Draft", workflow := 101 },
          { id := 7, name := "Done", workflow := 102 }] }
    [101, 102].map (fun workflow =>
      ((((ofId 7).withOwner workflow).resolve .workflowState).endOver twice).map (·.1.isResolved)) =
        [.ok true, .ok false] := by
  decide

end Resolution.Identifier

end VaultModels
