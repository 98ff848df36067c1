import VaultModels.Proofs.Resolution.Lookup
import VaultModels.Resolution.Identifier

/-!
# Resolving an identifier over a snapshot

Over a snapshot a resolution only depends on what is there: `matched?` is what the lookup of the kind
finds for the source value, and `settled` the id that a first resolution comes to, or the error that
is reported. What a lookup finds is an element of the kind; text that is a number stands for itself.
Backends that fail or change their answers are not covered.
-/
namespace VaultModels

/-! ## Elements and owners -/

namespace Schema.Snapshot

variable {snapshot : Snapshot} {kind : Kind} {id : ElementId} {owner : Option ElementId}

/-- Some element of the kind has the id. -/
def Holds (snapshot : Snapshot) (kind : Kind) (id : ElementId) : Prop :=
  ∃ element ∈ snapshot.elements kind, element.id = id

instance : Decidable (snapshot.Holds kind id) :=
  inferInstanceAs (Decidable (∃ element ∈ snapshot.elements kind, element.id = id))

/-- The check of a kind accepts the id. -/
def Accepts (snapshot : Snapshot) (kind : Kind) (id : ElementId) (owner : Option ElementId) :
    IdCheck → Prop
  | .unsupported => False
  | .lookup | .roundTrip => snapshot.Holds kind id
  | .owner => snapshot.Holds kind id ∧ ∀ expected ∈ owner, snapshot.owner? kind id = some expected

instance (check : IdCheck) : Decidable (snapshot.Accepts kind id owner check) :=
  match check with
  | .unsupported => inferInstanceAs (Decidable False)
  | .lookup | .roundTrip => inferInstanceAs (Decidable (snapshot.Holds kind id))
  | .owner => inferInstanceAs (Decidable (snapshot.Holds kind id ∧ _))

theorem Accepts.holds {check : IdCheck} (accepts : snapshot.Accepts kind id owner check) :
    snapshot.Holds kind id := by
  cases check with
  | unsupported => exact accepts.elim
  | lookup => exact accepts
  | roundTrip => exact accepts
  | owner => exact accepts.1

/-- Whatever a lookup goes by, it finds an element. -/
theorem holds_of_find? {wanted : Identity → Bool}
    (found : ((snapshot.elements kind).find? wanted).map (·.id) = some id) :
    snapshot.Holds kind id := by
  obtain ⟨element, listed, same⟩ := Option.map_eq_some_iff.mp found
  exact ⟨element, List.mem_of_find?_eq_some listed, same⟩

theorem find?_id (snapshot : Snapshot) (kind : Kind) (id : ElementId) :
    ((snapshot.elements kind).find? (·.id == id)).map (·.id) =
      if snapshot.Holds kind id then some id else none := by
  split
  next holds =>
    obtain ⟨element, listed, same⟩ := holds
    cases found : (snapshot.elements kind).find? (·.id == id) with
    | none => simpa [same] using List.find?_eq_none.mp found element listed
    | some first => simpa using List.find?_some found
  next missing =>
    rw [Option.map_eq_none_iff, List.find?_eq_none]
    intro element listed
    simpa using fun same => missing ⟨element, listed, same⟩

end Schema.Snapshot

namespace Resolution

open Schema Text

theorem toOption_found {α : Type} (kind : Kind) (reference : String) (answer : Option α) :
    (Snapshot.found kind reference answer).toOption = answer := by
  cases answer <;> rfl

theorem tryFetch_over {ε : Type} (snapshot : Snapshot) (query : Query) :
    (Session.tryFetch query : Session ε (Option query.Answer)).endOver snapshot =
      .ok (snapshot.answer query).toOption := by
  rw [Session.tryFetch, Session.endOver_ask]
  cases snapshot.answer query <;> rfl

variable {snapshot : Snapshot} {kind : Kind} {id : ElementId}

/-! ## What lookups find -/

theorem byGuid_holds {guid : String} (ended : (byGuid kind guid).endOver snapshot = .ok id) :
    snapshot.Holds kind id := by
  obtain ⟨element, found, same⟩ := (byGuid_eq_ok (byGuid_supported kind)).mp ended
  exact ⟨element, List.mem_of_find?_eq_some found, same⟩

theorem byAlias_holds {request : String}
    (ended : (byAlias kind request).endOver snapshot = .ok id) : snapshot.Holds kind id := by
  by_cases supported : kind.strategy.byAlias = true
  · obtain ⟨element, found, same⟩ := (byAlias_eq_ok supported).mp ended
    exact ⟨element, List.mem_of_find?_eq_some found, same⟩
  · rw [byAlias, if_neg supported, Session.endOver_fail] at ended
    cases ended

/-- Text comes to an element of the kind, unless it is a number. -/
theorem byText_holds {text : String} (ended : (byText kind text).endOver snapshot = .ok id) :
    snapshot.Holds kind id ∨ readInt32? (trim text).toList = some id := by
  unfold byText classify at ended
  dsimp only at ended
  by_cases blank : trim text = ""
  · rw [if_pos blank] at ended
    cases ended
  · rw [if_neg blank] at ended
    cases number : readInt32? (trim text).toList with
    | some given =>
      rw [number] at ended
      cases ended
      exact .inr rfl
    | none =>
      rw [number] at ended
      cases braced : Guid.ofBraced? (trim text) with
      | some guid =>
        rw [braced] at ended
        exact .inl (byGuid_holds ended)
      | none =>
        rw [braced] at ended
        exact .inl (byAlias_holds ended)

/-! ## Identifiers -/

namespace Identifier

theorem checkId_over (snapshot : Snapshot) (kind : Kind) (given : ElementId)
    (owner : Option ElementId) (check : IdCheck) :
    (checkId kind given owner check).endOver snapshot =
      .ok (if snapshot.Accepts kind given owner check then some given else none) := by
  have verified : (snapshot.answer (.verify kind given)).toOption =
      if snapshot.Holds kind given then some given else none := by
    rw [← Snapshot.find?_id]
    exact toOption_found kind _ _
  have owned : (snapshot.answer (.owner kind given)).toOption = snapshot.owner? kind given :=
    toOption_found kind _ _
  cases check with
  | unsupported => rfl
  | lookup =>
    rw [checkId, tryFetch_over, verified]
    rfl
  | roundTrip =>
    rw [checkId, Session.endOver_bind, tryFetch_over, ok_bind, verified, Session.endOver_done]
    by_cases holds : snapshot.Holds kind given <;> simp [Snapshot.Accepts, holds]
  | owner =>
    rw [checkId, Session.endOver_bind, tryFetch_over, ok_bind, verified]
    by_cases holds : snapshot.Holds kind given
    · cases owner with
      | none => simp [Snapshot.Accepts, holds]
      | some expected =>
        simp only [holds, if_true]
        rw [Session.endOver_bind, tryFetch_over, ok_bind, owned, Session.endOver_done]
        simp [Snapshot.Accepts, holds]
    · simp [Snapshot.Accepts, holds]

theorem guid?_of_unnamed {identifier : Identifier} (unnamed : identifier.aliasText = "") :
    identifier.guid? = none := by
  rw [guid?, unnamed]
  decide

/-- What the lookup of the kind finds for the source value. -/
def matched? (identifier : Identifier) (snapshot : Snapshot) (kind : Kind) : Option ElementId :=
  match identifier.guid? with
  | some guid => (snapshot.byGuid kind guid).toOption
  | none =>
    if identifier.aliasText ≠ "" then
      if kind.strategy.byAlias then (snapshot.byAlias kind identifier.aliasText).toOption else none
    else if identifier.sourceId ≠ unresolvedId ∧
        snapshot.Accepts kind identifier.sourceId identifier.expectedOwner kind.strategy.byId then
      some identifier.sourceId
    else none

theorem attempt_over (identifier : Identifier) (snapshot : Snapshot) (kind : Kind) :
    (identifier.attempt kind).endOver snapshot = .ok (identifier.matched? snapshot kind) := by
  unfold attempt matched?
  cases identifier.guid? with
  | some guid =>
    dsimp only
    rw [if_pos (byGuid_supported kind), tryFetch_over]
    rfl
  | none =>
    dsimp only
    by_cases named : identifier.aliasText ≠ ""
    · rw [if_pos named, if_pos named]
      split
      · rw [tryFetch_over]
        rfl
      · rfl
    · rw [if_neg named, if_neg named]
      by_cases given : identifier.sourceId ≠ unresolvedId
      · rw [if_pos given, checkId_over]
        simp [given]
      · rw [if_neg given]
        simp [given]

/-- The id that a first resolution settles on. -/
def settled (identifier : Identifier) (snapshot : Snapshot) (kind : Kind) :
    Except Error ElementId :=
  match identifier.matched? snapshot kind with
  | some id => .ok id
  | none =>
    if identifier.aliasText = "" then .ok unresolvedId
    else (byText kind identifier.aliasText).endOver snapshot

/-- An identifier that was attempted is left as it is. -/
theorem resolve_attempted {identifier : Identifier} (attempted : identifier.attempted = true)
    (kind : Kind) : identifier.resolve kind = .done (identifier, none) := if_pos attempted

theorem resolve_again {identifier : Identifier} (attempted : identifier.attempted = true)
    (snapshot : Snapshot) (kind : Kind) :
    (identifier.resolve kind).endOver snapshot = .ok (identifier, none) := by
  rw [resolve_attempted attempted, Session.endOver_done]

theorem resolve_first {identifier : Identifier} (armed : identifier.attempted = false)
    (snapshot : Snapshot) (kind : Kind) :
    (identifier.resolve kind).endOver snapshot = .ok
      (match identifier.settled snapshot kind with
        | .ok id => ({ identifier with kind := some kind, id, attempted := true }, none)
        | .error error => ({ identifier with kind := some kind }, some error)) := by
  have tried : ({ identifier with kind := some kind }.attempt kind).endOver snapshot =
      .ok (identifier.matched? snapshot kind) := attempt_over _ snapshot kind
  unfold resolve
  rw [if_neg (by simp [armed])]
  dsimp only
  rw [Session.endOver_bind, tried, ok_bind]
  unfold settled
  cases identifier.matched? snapshot kind with
  | some id => rfl
  | none =>
    dsimp only
    by_cases unnamed : identifier.aliasText = ""
    · rw [if_pos unnamed, if_pos unnamed]
      rfl
    · rw [if_neg unnamed, if_neg unnamed, Session.endOver_bind, Session.endOver_outcome, ok_bind]
      cases (byText kind identifier.aliasText).endOver snapshot <;> rfl

/-- Resolving leaves the source value and the expected owner alone. -/
theorem resolve_frame {before after : Identifier} {outcome : Option Error}
    (ended : (before.resolve kind).endOver snapshot = .ok (after, outcome)) :
    after.aliasText = before.aliasText ∧ after.sourceId = before.sourceId ∧
      after.expectedOwner = before.expectedOwner := by
  cases attempted : before.attempted with
  | true =>
    rw [resolve_again attempted] at ended
    cases ended
    exact ⟨rfl, rfl, rfl⟩
  | false =>
    rw [resolve_first attempted] at ended
    cases found : before.settled snapshot kind with
    | error error =>
      rw [found] at ended
      cases ended
      exact ⟨rfl, rfl, rfl⟩
    | ok settled =>
      rw [found] at ended
      cases ended
      exact ⟨rfl, rfl, rfl⟩

/-- An identifier that was resolved before answers with what it remembers. -/
theorem resolveId_again {identifier : Identifier} (attempted : identifier.attempted = true) :
    (identifier.resolveId kind).endOver snapshot = .ok id ↔
      identifier.id = id ∧ id ≠ unresolvedId := by
  rw [resolveId, Session.endOver_bind, resolve_again attempted, ok_bind]
  dsimp only [tryId]
  by_cases lost : identifier.id = unresolvedId
  · simp only [lost, if_true, Session.ofExcept, Session.endOver_fail]
    exact ⟨nofun, fun ⟨same, kept⟩ => absurd same.symm kept⟩
  · simp only [lost, if_false, Session.ofExcept, Session.endOver_done, Except.ok.injEq]
    exact ⟨fun same => ⟨same, same ▸ lost⟩, And.left⟩

/-- An identifier that was not resolved before comes to the id that it settles on, unless that is the
one which stands for none. -/
theorem resolveId_first {identifier : Identifier} (armed : identifier.attempted = false) :
    (identifier.resolveId kind).endOver snapshot = .ok id ↔
      identifier.settled snapshot kind = .ok id ∧ id ≠ unresolvedId := by
  rw [resolveId, Session.endOver_bind, resolve_first armed, ok_bind]
  cases identifier.settled snapshot kind with
  | error error => simp
  | ok settled =>
    dsimp only [tryId]
    by_cases lost : settled = unresolvedId
    · subst lost
      simp only [if_true, Session.ofExcept, Session.endOver_fail, Except.ok.injEq]
      exact ⟨nofun, fun ⟨same, kept⟩ => absurd same.symm kept⟩
    · simp only [lost, if_false, Session.ofExcept, Session.endOver_done, Except.ok.injEq]
      exact ⟨fun same => ⟨same, same ▸ lost⟩, And.left⟩

end Identifier

end Resolution

end VaultModels
