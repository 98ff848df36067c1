import VaultModels.Proofs.Resolution.Attempt
import VaultModels.Proofs.Session.Trace
import VaultModels.Resolution.Reference

/-!
# The calls of a resolution

What is asked of a backend while a reference is resolved, whatever the backend answers. A reference
that needs no lookup, or has none, is answered at once; any other reference takes one call, and an
identifier two at most: its own lookup and, after that failed, the lookup of its text, or an id and
the owner of it. Listings and getters are not called. What the answers lead to is not the subject
here.
-/
namespace VaultModels.Resolution

open Schema Text

/-! ## Which calls are made -/

/-- A call that may be made while an element of the kind is resolved, after the given replies. -/
inductive MayAsk (kind : Kind) (earlier : List Reply) : Query → Prop
  | byAlias (request : String) (supported : kind.strategy.byAlias = true) :
      MayAsk kind earlier (.byAlias kind request)
  | byGuid {guid : String} (form : Guid.IsCanonical guid) : MayAsk kind earlier (.byGuid kind guid)
  | verify (id : ElementId) : MayAsk kind earlier (.verify kind id)
  /-- Only states have an owner to look up, and only those that were found by their id. -/
  | owner {given id : ElementId} (state : kind = .workflowState)
      (verified : ⟨.verify kind given, .ok id⟩ ∈ earlier) : MayAsk kind earlier (.owner kind id)

/-- Every call may be made after the replies before it. -/
inductive Orderly (kind : Kind) : List Reply → Prop
  | nil : Orderly kind []
  | call {earlier : List Reply} {query : Query} (before : Orderly kind earlier)
      (may : MayAsk kind earlier query) (answer : Except Schema.Error query.Answer) :
      Orderly kind (earlier ++ [⟨query, answer⟩])

/-- Numbers, text that is one, blank text, GUIDs that cannot be read, aliases where the kind is not
looked up by alias, and identifiers that were resolved before. -/
def Reference.IsAnsweredAtOnce (kind : Kind) : Reference → Prop
  | .number _ | .enumValue _ | .long _ => True
  | .text written =>
    trim written = "" ∨ (readInt32? (trim written).toList).isSome ∨
      (Guid.ofBraced? (trim written) = none ∧ kind.strategy.byAlias = false)
  | .aliased written => trim written = "" ∨ kind.strategy.byAlias = false
  | .guid written => Guid.ofAnyForm? written = none
  | .identifier x => x.attempted = true

section

variable {kind : Kind} {earlier more : List Reply} {query : Query} {replies : List Reply}

theorem MayAsk.mono (may : MayAsk kind earlier query) (kept : earlier ⊆ more) :
    MayAsk kind more query := by
  cases may with
  | byAlias request supported => exact .byAlias request supported
  | byGuid form => exact .byGuid form
  | verify id => exact .verify id
  | owner state verified => exact .owner state (kept verified)

theorem Orderly.append (first : Orderly kind earlier) (second : Orderly kind more) :
    Orderly kind (earlier ++ more) := by
  induction second with
  | nil => rwa [List.append_nil]
  | call _ may answer ih =>
    rw [← List.append_assoc]
    exact ih.call (may.mono (List.subset_append_right _ _)) answer

theorem orderly_single (may : MayAsk kind [] query) (answer : Except Schema.Error query.Answer) :
    Orderly kind [⟨query, answer⟩] := Orderly.nil.call may answer

end

/-! ## References -/

/-- A session that is answered at once if it is to be, and is one lookup of the kind otherwise. -/
inductive IsDirect (kind : Kind) (atOnce : Prop) : Resolving ElementId → Prop
  | answered (holds : atOnce) (result : Except Error ElementId) :
      IsDirect kind atOnce (Session.ofExcept result)
  | byGuid (asked : ¬ atOnce) {guid : String} (form : Guid.IsCanonical guid) :
      IsDirect kind atOnce (Session.fetch Error.ofSchema (.byGuid kind guid))
  | byAlias (asked : ¬ atOnce) (request : String) (supported : kind.strategy.byAlias = true) :
      IsDirect kind atOnce (Session.fetch Error.ofSchema (.byAlias kind request))

variable {α β : Type} {kind : Kind} {atOnce : Prop} {replies : List Reply} {m n : Nat}

theorem byGuid_direct (asked : ¬ atOnce) {guid : String} (form : Guid.IsCanonical guid) :
    IsDirect kind atOnce (byGuid kind guid) := by
  rw [byGuid, if_pos (byGuid_supported kind)]
  exact .byGuid asked form

theorem byAlias_direct {request : String} (exactly : atOnce ↔ kind.strategy.byAlias = false) :
    IsDirect kind atOnce (byAlias kind request) := by
  unfold byAlias
  split
  next supported => exact .byAlias (by simp [exactly, supported]) request supported
  next unsupported =>
    exact .answered (exactly.mpr (by simpa using unsupported)) (.error (.notFound kind request))

theorem byText_direct (kind : Kind) (written : String) :
    IsDirect kind ((Reference.text written).IsAnsweredAtOnce kind) (byText kind written) := by
  unfold byText classify Reference.IsAnsweredAtOnce
  dsimp only
  by_cases blank : trim written = ""
  · rw [if_pos blank]
    exact .answered (.inl blank) (.error _)
  rw [if_neg blank]
  cases number : readInt32? (trim written).toList with
  | some id => exact .answered (.inr (.inl rfl)) (.ok id)
  | none =>
    cases braced : Guid.ofBraced? (trim written) with
    | some guid => exact byGuid_direct (by simp [blank]) (Guid.isCanonical_of_ofBraced? braced)
    | none => exact byAlias_direct (by simp [blank])

/-- A reference that is no identifier is answered at once or takes one lookup. -/
theorem resolve_direct (kind : Kind) {reference : Reference}
    (plain : ∀ x, reference ≠ .identifier x) :
    IsDirect kind (reference.IsAnsweredAtOnce kind) (reference.resolve kind) := by
  cases reference with
  | number id | enumValue id => exact .answered trivial (.ok id)
  | long id => exact .answered trivial _
  | text written => exact byText_direct kind written
  | aliased written =>
    unfold Reference.resolve Reference.IsAnsweredAtOnce
    dsimp only
    split
    next blank => exact .answered (.inl blank) (.error _)
    next visible => exact byAlias_direct (or_iff_right visible)
  | guid written =>
    unfold Reference.resolve Reference.IsAnsweredAtOnce normalizeGuid
    dsimp only
    cases read : Guid.ofAnyForm? written with
    | none => exact .answered rfl (.error _)
    | some guid => exact byGuid_direct nofun (Guid.isCanonical_of_ofAnyForm? read)
  | identifier x => exact absurd rfl (plain x)

theorem IsDirect.trace {session : Resolving ElementId} (direct : IsDirect kind atOnce session)
    {result : Except Error ElementId} (trace : session.Trace replies result) :
    Orderly kind replies ∧ (atOnce → replies = []) ∧ (¬ atOnce → replies.length = 1) := by
  cases direct with
  | answered holds given =>
    obtain ⟨rfl, -⟩ := trace.of_ofExcept
    exact ⟨.nil, fun _ => rfl, absurd holds⟩
  | byGuid asked form =>
    obtain ⟨answer, rfl, -⟩ := trace.of_fetch
    exact ⟨orderly_single (.byGuid form) answer, fun holds => absurd holds asked, fun _ => rfl⟩
  | byAlias asked request supported =>
    obtain ⟨answer, rfl, -⟩ := trace.of_fetch
    exact ⟨orderly_single (.byAlias request supported) answer, fun holds => absurd holds asked,
      fun _ => rfl⟩

/-! ## Steps of an identifier -/

/-- Whatever is answered, the calls may be made in their order and are no more than so many. -/
def Asks {α : Type} (kind : Kind) (most : Nat) (session : Resolving α) : Prop :=
  ∀ replies result, session.Trace replies result → Orderly kind replies ∧ replies.length ≤ most

theorem asks_done (value : α) : Asks kind n (.done value) := by
  intro replies result trace
  obtain ⟨rfl, -⟩ := trace.of_done
  exact ⟨.nil, n.zero_le⟩

theorem asks_ofExcept (given : Except Error α) : Asks kind n (Session.ofExcept given) := by
  intro replies result trace
  obtain ⟨rfl, -⟩ := trace.of_ofExcept
  exact ⟨.nil, n.zero_le⟩

theorem asks_tryFetch {query : Query} (may : MayAsk kind [] query) :
    Asks kind (n + 1) (Session.tryFetch query) := by
  intro replies result trace
  obtain ⟨answer, rfl, -⟩ := trace.of_tryFetch
  exact ⟨orderly_single may answer, Nat.le_add_left 1 n⟩

theorem Asks.bind {first : Resolving α} {next : α → Resolving β} (asks : Asks kind m first)
    (later : ∀ value, Asks kind n (next value)) : Asks kind (m + n) (first >>= next) := by
  intro replies result trace
  rcases trace.of_bind with ⟨error, -, ended⟩ | ⟨before, after, value, rfl, ended, rest⟩
  · obtain ⟨orderly, few⟩ := asks _ _ ended
    exact ⟨orderly, by omega⟩
  · obtain ⟨orderly, few⟩ := asks _ _ ended
    obtain ⟨orderlyRest, fewRest⟩ := later value _ _ rest
    rw [List.length_append]
    exact ⟨orderly.append orderlyRest, by omega⟩

theorem Asks.outcome {session : Resolving α} (asks : Asks kind m session) :
    Asks kind m session.outcome := by
  intro replies result trace
  obtain ⟨ended, -, inner⟩ := trace.of_outcome
  exact asks _ _ inner

theorem byText_asks (kind : Kind) (written : String) : Asks kind 1 (byText kind written) := by
  intro replies result trace
  obtain ⟨orderly, none, one⟩ := (byText_direct kind written).trace trace
  refine ⟨orderly, ?_⟩
  by_cases atOnce : (Reference.text written).IsAnsweredAtOnce kind
  · simp [none atOnce]
  · exact (one atOnce).le

namespace Identifier

/-- Only states are checked for an owner. -/
theorem state_of_owner (checked : kind.strategy.byId = .owner) : kind = .workflowState := by
  cases kind with
  | workflowState => rfl
  | _ => cases checked

/-- The owner is asked for behind the answer that the id is that of a state. -/
theorem ownerCheck_asks (checked : kind.strategy.byId = .owner) (given : ElementId)
    (owner : Option ElementId) : Asks kind 2 (checkId kind given owner .owner) := by
  intro replies result trace
  -- not by `Asks.bind`: the second call is in order only behind what the first one came to
  rcases trace.of_bind with ⟨error, -, ended⟩ | ⟨before, after, value, rfl, ended, rest⟩
  · obtain ⟨answer, -, ⟨⟩⟩ := ended.of_tryFetch
  obtain ⟨answer, rfl, ⟨⟩⟩ := ended.of_tryFetch
  have verified := orderly_single (.verify given : MayAsk kind [] _) answer
  cases answer with
  | error error =>
    obtain ⟨rfl, -⟩ := rest.of_done
    exact ⟨verified, by simp⟩
  | ok id =>
    cases owner with
    | none =>
      obtain ⟨rfl, -⟩ := rest.of_done
      exact ⟨verified, by simp⟩
    | some expected =>
      rcases rest.of_bind with ⟨error, -, asked⟩ | ⟨asking, later, actual, rfl, asked, last⟩
      · obtain ⟨answer, -, ⟨⟩⟩ := asked.of_tryFetch
      obtain ⟨answer, rfl, -⟩ := asked.of_tryFetch
      obtain ⟨rfl, -⟩ := last.of_done
      have may : MayAsk kind [⟨.verify kind given, .ok id⟩] (.owner kind id) :=
        .owner (state_of_owner checked) (List.mem_singleton.mpr rfl)
      exact ⟨verified.call may answer, by simp⟩

theorem checkId_asks (kind : Kind) (given : ElementId) (owner : Option ElementId) :
    Asks kind 2 (checkId kind given owner kind.strategy.byId) := by
  cases check : kind.strategy.byId with
  | unsupported => exact asks_done none
  | lookup => exact asks_tryFetch (.verify given)
  | roundTrip =>
    exact (asks_tryFetch (.verify given)).bind (n := 1) fun reported => asks_done _
  | owner => exact ownerCheck_asks check given owner

variable {x : Identifier}

/-- An alias is looked up once, as a GUID or as itself. -/
theorem attempt_named_asks (named : x.aliasText ≠ "") : Asks kind 1 (x.attempt kind) := by
  unfold attempt
  cases braced : x.guid? with
  | some guid =>
    dsimp only
    split
    · exact asks_tryFetch (.byGuid (Guid.isCanonical_of_ofBraced? braced))
    · exact asks_done none
  | none =>
    dsimp only
    rw [if_pos named]
    split
    next supported => exact asks_tryFetch (.byAlias x.aliasText supported)
    · exact asks_done none

theorem attempt_unnamed_asks (unnamed : x.aliasText = "") : Asks kind 2 (x.attempt kind) := by
  unfold attempt
  rw [guid?_of_unnamed unnamed]
  dsimp only
  rw [if_neg (not_not.mpr unnamed)]
  split
  · exact checkId_asks kind x.sourceId x.expectedOwner
  · exact asks_done none

/-- The text of an alias is looked up behind its own lookup; there is no text behind that of an id. -/
theorem resolve_asks (x : Identifier) (kind : Kind) : Asks kind 2 (x.resolve kind) := by
  unfold resolve
  split
  · exact asks_done _
  dsimp only
  by_cases unnamed : x.aliasText = ""
  · refine (attempt_unnamed_asks unnamed).bind (n := 0) fun found => ?_
    cases found with
    | some id => exact asks_done _
    | none =>
      dsimp only
      rw [if_pos unnamed]
      exact asks_done _
  · refine (attempt_named_asks unnamed).bind (n := 1) fun found => ?_
    cases found with
    | some id => exact asks_done _
    | none =>
      dsimp only
      rw [if_neg unnamed]
      refine ((byText_asks kind x.aliasText).outcome.bind (n := 0) fun looked => ?_)
      cases looked <;> exact asks_done _

theorem resolveId_asks (x : Identifier) (kind : Kind) : Asks kind 2 (x.resolveId kind) := by
  refine (resolve_asks x kind).bind (n := 0) fun ended => ?_
  rcases ended with ⟨resolved, none | error⟩
  · exact asks_ofExcept _
  · exact asks_ofExcept (.error error)

theorem resolveId_attempted (attempted : x.attempted = true) (kind : Kind) :
    x.resolveId kind = Session.ofExcept x.tryId := by
  unfold resolveId
  rw [resolve_attempted attempted]
  rfl

end Identifier

/-! ## What passes between a resolution and its backend -/

/-- Against every backend, a reference that is answered at once takes no call, any other reference that
is no identifier takes one, and an identifier takes two at most. All of them are lookups that the kind
has, GUIDs are asked for in their canonical form, and an owner is asked for only of a state whose id
was confirmed before. -/
theorem resolve_calls {σ : Type} (backend : Backend σ) (state : σ) (kind : Kind)
    (reference : Reference) :
    let calls := ((reference.resolve kind).run backend.recorded ([], state)).state.1
    (reference.IsAnsweredAtOnce kind → calls = []) ∧
    (¬ reference.IsAnsweredAtOnce kind → (∀ x, reference ≠ .identifier x) → calls.length = 1) ∧
    (∀ x, reference = .identifier x → calls.length ≤ 2) ∧
    Orderly kind calls := by
  have trace := Session.trace_run (reference.resolve kind) backend state
  by_cases plain : ∀ x, reference ≠ .identifier x
  · obtain ⟨orderly, none, one⟩ := (resolve_direct kind plain).trace trace
    exact ⟨none, fun asked _ => one asked, fun x same => absurd same (plain x), orderly⟩
  · obtain ⟨x, rfl⟩ : ∃ x, reference = .identifier x := by simpa using plain
    obtain ⟨orderly, few⟩ := x.resolveId_asks kind _ _ trace
    refine ⟨fun attempted => ?_, fun _ plain => absurd rfl (plain x), fun _ _ => few, orderly⟩
    rw [Reference.resolve, Identifier.resolveId_attempted attempted] at trace ⊢
    exact trace.of_ofExcept.1

/-- An alias that is missing is looked up, and then once more as text. -/
example :
    (((Reference.identifier (.ofAlias "WF.Missing")).resolve .workflow).run
      ({} : Snapshot).backend.recorded ([], ())).state.1.map (·.1) =
      [.byAlias .workflow "WF.Missing", .byAlias .workflow "WF.Missing"] := by
  decide

end VaultModels.Resolution
