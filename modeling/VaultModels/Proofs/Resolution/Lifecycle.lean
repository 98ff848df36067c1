import VaultModels.Proofs.Resolution.Asking
import VaultModels.Proofs.Resolution.Remembering
import VaultModels.Resolution.IdentifierCodec

/-!
# The life of an identifier

An identifier is new, or it comes of another one by a call. `Attained` are the identifiers that any
sequence of calls comes to, against any backends; which calls are allowed is left open. Two things are
kept by every call: an id was settled by an attempt, and an attempt was for a kind. That an identifier
has one source value at most is not kept by every call: an alias that is given to an identifier made
from an id leaves that id in place, and once the alias is taken away again the id is back. Which ids
are right is not the subject here.
-/
namespace VaultModels.Resolution.Identifier

open Schema

variable {x y : Identifier} {kind : Kind} {reference : Reference}

/-! ## Setting in place -/

/-- Text as the only source value, one field after the other. -/
def assignText (text : String) : EStateM Error Identifier Unit := do
  modify (·.setAlias text)
  modify ({ · with sourceId := unresolvedId })

/-- The calls behind `set` in their order. Where one ends in an error, the identifier stays as it is by
then. -/
def assign : Reference → EStateM Error Identifier Unit
  | .number id | .enumValue id => modify (·.setId id)
  | .long id => do
    let narrowed ← liftExcept (Reference.narrow id)
    modify (·.setId narrowed)
  | .text written | .aliased written => assignText written
  | .guid written => do
    let canonical ← liftExcept (normalizeGuid written)
    assignText canonical
  | .identifier other => MonadState.set other

/-- Nothing is changed before the reference is accepted. -/
theorem assign_run (x : Identifier) (reference : Reference) :
    (assign reference).run x =
      match x.set reference with
      | .ok y => .ok () y
      | .error error => .error error x := by
  cases reference with
  | number id | enumValue id | text written | aliased written | identifier other => rfl
  | long id =>
    dsimp only [assign, set]
    cases Reference.narrow id <;> rfl
  | guid written =>
    dsimp only [assign, set]
    cases normalizeGuid written <;> rfl

/-! ## Calls -/

/-- A call that may change an identifier. -/
inductive Call where
  | withOwner (owner : ElementId)
  | setAlias (text : String)
  | set (reference : Reference)
  | resolve (kind : Kind)
  deriving DecidableEq, Repr

/-- The call can make the one identifier of the other. A reference may be refused; resolving is
answered by any backend in any state, and may report an error. -/
inductive Call.Makes : Call → Identifier → Identifier → Prop
  | withOwner (x : Identifier) (owner : ElementId) : Makes (.withOwner owner) x (x.withOwner owner)
  | setAlias (x : Identifier) (text : String) : Makes (.setAlias text) x (x.setAlias text)
  | taken {x y : Identifier} {reference : Reference} (ended : (assign reference).run x = .ok () y) :
      Makes (.set reference) x y
  | refused {x y : Identifier} {reference : Reference} {error : Error}
      (ended : (assign reference).run x = .error error y) : Makes (.set reference) x y
  | resolve {x y : Identifier} {kind : Kind} {outcome : Option Error} {σ : Type}
      (backend : Backend σ) (state : σ)
      (ended : ((x.resolve kind).run backend state).result = .ok (y, outcome)) :
      Makes (.resolve kind) x y

/-- An identifier as it is made. -/
inductive IsNew : Identifier → Prop
  | empty : IsNew empty
  | ofId (id : ElementId) : IsNew (ofId id)
  | ofAlias (text : String) : IsNew (ofAlias text)
  | ofJson {text : String} {x : Identifier} (parsed : ofJson? text = .ok x) : IsNew x

/-- The identifiers that come of any sequence of the calls that are allowed. One that is set from
another identifier needs that one to be attained too. -/
inductive Attained (allowed : Identifier → Call → Prop) : Identifier → Prop
  | new {x : Identifier} (made : IsNew x) : Attained allowed x
  | call {x y : Identifier} {call : Call} (before : Attained allowed x) (allows : allowed x call)
      (source : ∀ other, call = .set (.identifier other) → Attained allowed other)
      (makes : call.Makes x y) : Attained allowed y

/-- Every call is allowed on every identifier. -/
def AnyCall (_ : Identifier) (_ : Call) : Prop := True

theorem ofForm_cases (form : IdentifierForm) :
    (∃ text, ofForm form = ofAlias text) ∨ (∃ id, ofForm form = ofId id) ∨ ofForm form = empty := by
  unfold ofForm
  cases form.aliasText.filter (· != "") with
  | some text => exact .inl ⟨text, rfl⟩
  | none =>
    cases form.id with
    | some id => exact .inr (.inl ⟨id, rfl⟩)
    | none => exact .inr (.inr rfl)

/-- What is read was made from an alias, from an id or from nothing. -/
theorem new_cases (made : x.IsNew) :
    (∃ text, x = ofAlias text) ∨ (∃ id, x = ofId id) ∨ x = empty := by
  cases made with
  | empty => exact .inr (.inr rfl)
  | ofId id => exact .inr (.inl ⟨id, rfl⟩)
  | ofAlias text => exact .inl ⟨text, rfl⟩
  | ofJson parsed =>
    obtain ⟨form, -, rfl⟩ := map_eq_ok.mp parsed
    exact ofForm_cases form

/-- A reference that is taken leaves what `set` gives. -/
theorem set_of_assign (ended : (assign reference).run x = .ok () y) : x.set reference = .ok y := by
  rw [assign_run] at ended
  cases taken : x.set reference with
  | ok z =>
    rw [taken] at ended
    cases ended
    rfl
  | error error =>
    rw [taken] at ended
    cases ended

/-- A reference that is refused leaves the identifier as it was. -/
theorem eq_of_assign_refused {error : Error} (ended : (assign reference).run x = .error error y) :
    y = x := by
  rw [assign_run] at ended
  cases taken : x.set reference with
  | ok z =>
    rw [taken] at ended
    cases ended
  | error refusal =>
    rw [taken] at ended
    cases ended
    rfl

theorem becomes_of_run {outcome : Option Error} {σ : Type} {backend : Backend σ} {state : σ}
    (ended : ((x.resolve kind).run backend state).result = .ok (y, outcome)) :
    x.Becomes kind (y, outcome) := by
  obtain ⟨last, same, becomes⟩ := (resolve_ends x kind).run backend state
  cases ended.symm.trans same
  exact becomes

/-! ## What every call keeps -/

/-- An id was settled by an attempt, and an attempt was for a kind. -/
structure IsCoherent (x : Identifier) : Prop where
  attempted : x.id ≠ unresolvedId → x.attempted = true
  kind : x.attempted = true → ∃ kind, x.kind = some kind

/-- Without an attempt there is nothing to go together. -/
theorem IsCoherent.of_armed (armed : x.attempted = false) (unresolved : x.id = unresolvedId) :
    x.IsCoherent where
  attempted known := absurd unresolved known
  kind attempted := by simp [armed] at attempted

theorem IsCoherent.unresolved (coherent : x.IsCoherent) (armed : x.attempted = false) :
    x.id = unresolvedId := by
  by_contra known
  exact absurd (coherent.attempted known) (by simp [armed])

theorem IsNew.isCoherent (made : IsNew x) : x.IsCoherent := by
  rcases new_cases made with ⟨text, rfl⟩ | ⟨id, rfl⟩ | rfl <;> exact .of_armed rfl rfl

theorem Becomes.isCoherent {outcome : Option Error} (before : x.IsCoherent)
    (becomes : x.Becomes kind (y, outcome)) : y.IsCoherent := by
  cases becomes with
  | again _ => exact before
  | settled armed id => exact ⟨fun _ => rfl, fun _ => ⟨kind, rfl⟩⟩
  | failed armed error => exact ⟨before.attempted, fun _ => ⟨kind, rfl⟩⟩

theorem Call.Makes.isCoherent {call : Call} (makes : call.Makes x y) (before : x.IsCoherent)
    (source : ∀ other, call = .set (.identifier other) → other.IsCoherent) : y.IsCoherent := by
  cases makes with
  | withOwner _ owner => exact ⟨before.attempted, before.kind⟩
  | setAlias _ text => exact .of_armed rfl rfl
  | taken ended =>
    rcases set_cases (set_of_assign ended) with ⟨id, rfl⟩ | ⟨text, rfl⟩ | rfl
    · exact .of_armed rfl rfl
    · exact .of_armed rfl rfl
    · exact source y rfl
  | refused ended =>
    rw [eq_of_assign_refused ended]
    exact before
  | resolve backend state ended => exact (becomes_of_run ended).isCoherent before

theorem Attained.isCoherent {allowed : Identifier → Call → Prop} (attained : x.Attained allowed) :
    x.IsCoherent := by
  induction attained with
  | new made => exact made.isCoherent
  | call _ _ _ makes ih source => exact makes.isCoherent ih source

theorem tryId_eq_ok (coherent : x.IsCoherent) (id : ElementId) :
    x.tryId = .ok id ↔ x.isResolved = true ∧ x.id = id := by
  unfold tryId isResolved
  by_cases unresolved : x.id = unresolvedId
  · simp [unresolved]
  · simp [unresolved, coherent.attempted unresolved]

theorem tryId_eq_error (coherent : x.IsCoherent) (unresolved : x.isResolved = false) :
    x.tryId = .error (.unresolved x.kind x.aliasText) := by
  unfold tryId
  rw [if_pos]
  by_contra known
  simp [isResolved, known, coherent.attempted known] at unresolved

/-- Resolving always comes to an end, and where it reports an error, nothing but the kind is changed. -/
theorem resolve_reports (x : Identifier) (kind : Kind) {σ : Type} (backend : Backend σ) (state : σ) :
    ∃ y outcome, ((x.resolve kind).run backend state).result = .ok (y, outcome) ∧
      (outcome ≠ none → y = { x with kind := some kind }) := by
  obtain ⟨⟨y, outcome⟩, ended, becomes⟩ := (resolve_ends x kind).run backend state
  refine ⟨y, outcome, ended, fun reported => ?_⟩
  cases becomes with
  | again _ => exact absurd rfl reported
  | settled _ _ => exact absurd rfl reported
  | failed _ _ => rfl

/-- An identifier that is attained by any calls is coherent and coerces to an id exactly if it is
resolved. From there a refused reference changes nothing, a reference that is taken and a new alias
forget what was resolved, and resolving keeps everything but the kind if it reports an error. -/
theorem attained_lifecycle (attained : x.Attained AnyCall) :
    x.IsCoherent ∧
    (∀ id, x.tryId = .ok id ↔ x.isResolved = true ∧ x.id = id) ∧
    (x.isResolved = false → x.tryId = .error (.unresolved x.kind x.aliasText)) ∧
    (∀ reference error y, (assign reference).run x = .error error y → y = x) ∧
    (∀ reference y, (∀ other, reference ≠ .identifier other) →
      (assign reference).run x = .ok () y → y.id = unresolvedId ∧ y.attempted = false) ∧
    (∀ text, (x.setAlias text).id = unresolvedId ∧ (x.setAlias text).attempted = false) ∧
    ∀ kind (σ : Type) (backend : Backend σ) (state : σ), ∃ y outcome,
      ((x.resolve kind).run backend state).result = .ok (y, outcome) ∧
        (outcome ≠ none → y = { x with kind := some kind }) := by
  have coherent := attained.isCoherent
  refine ⟨coherent, tryId_eq_ok coherent, tryId_eq_error coherent, ?_, ?_, ?_, ?_⟩
  · intro reference error y refused
    exact eq_of_assign_refused refused
  · intro reference y plain taken
    exact (set_armed plain (set_of_assign taken)).symm
  · intro text
    exact ⟨rfl, rfl⟩
  · intro kind σ backend state
    exact resolve_reports x kind backend state

/-- A state that is read by its id, resolved as a state of its workflow. -/
theorem resolvedDraft_attained : resolvedDraft.Attained AnyCall := by
  have parsed : ofJson? "\x7b\"ID\":201\x7d" = .ok (ofId 201) := by decide
  have owned : draft.Attained AnyCall :=
    .call (.new (.ofJson parsed)) trivial (by nofun) (.withOwner (ofId 201) 101)
  have ended : ((draft.resolve .workflowState).run approvals.backend ()).result =
      .ok (resolvedDraft, none) := by decide
  exact .call owned trivial (by nofun) (.resolve approvals.backend () ended)

theorem attained_lifecycle_draft :
    resolvedDraft.Attained AnyCall ∧ resolvedDraft.IsCoherent ∧ resolvedDraft.tryId = .ok 201 ∧
      (resolvedDraft.setAlias "WFS.Draft").id = unresolvedId := by
  obtain ⟨coherent, coerces, -, -, -, renamed, -⟩ := attained_lifecycle resolvedDraft_attained
  exact ⟨resolvedDraft_attained, coherent, (coerces 201).mpr ⟨by decide, rfl⟩,
    (renamed "WFS.Draft").1⟩

/-! ## Source values -/

/-- No alias stands beside an id that the identifier was made from. -/
def HasOneSource (x : Identifier) : Prop := x.aliasText = "" ∨ x.sourceId = unresolvedId

instance (x : Identifier) : Decidable x.HasOneSource :=
  inferInstanceAs (Decidable (x.aliasText = "" ∨ x.sourceId = unresolvedId))

/-- No alias is given to an identifier that was made from an id, unless it is the empty one. -/
def KeepsApart (x : Identifier) (call : Call) : Prop :=
  ∀ text, call = .setAlias text → text = "" ∨ x.sourceId = unresolvedId

theorem IsNew.hasOneSource (made : IsNew x) : x.HasOneSource := by
  rcases new_cases made with ⟨text, rfl⟩ | ⟨id, rfl⟩ | rfl
  · exact .inr rfl
  · exact .inl rfl
  · exact .inl rfl

theorem Becomes.hasOneSource {outcome : Option Error} (before : x.HasOneSource)
    (becomes : x.Becomes kind (y, outcome)) : y.HasOneSource := by
  cases becomes with
  | again _ => exact before
  | settled _ _ => exact before
  | failed _ _ => exact before

/-- Every other call keeps source values apart. -/
theorem Call.Makes.hasOneSource_iff {call : Call} (makes : call.Makes x y) (before : x.HasOneSource)
    (source : ∀ other, call = .set (.identifier other) → other.HasOneSource) :
    y.HasOneSource ↔ KeepsApart x call := by
  cases makes with
  | setAlias _ text =>
    constructor
    · rintro apart _ ⟨⟩
      exact apart
    · intro apart
      exact apart text rfl
  | withOwner _ owner => exact iff_of_true before nofun
  | taken ended =>
    refine iff_of_true ?_ nofun
    rcases set_cases (set_of_assign ended) with ⟨id, rfl⟩ | ⟨text, rfl⟩ | rfl
    · exact .inl rfl
    · exact .inr rfl
    · exact source y rfl
  | refused ended =>
    rw [eq_of_assign_refused ended]
    exact iff_of_true before nofun
  | resolve backend state ended =>
    exact iff_of_true ((becomes_of_run ended).hasOneSource before) nofun

theorem Attained.hasOneSource (attained : x.Attained KeepsApart) : x.HasOneSource := by
  induction attained with
  | new made => exact made.hasOneSource
  | call _ allows _ makes ih source => exact (makes.hasOneSource_iff ih source).mpr allows

/-- As long as no alias is given to an identifier that was made from an id, there is one source value
at most, and a call ends that exactly if it gives one. -/
theorem sources_kept_apart (attained : x.Attained KeepsApart) :
    x.HasOneSource ∧
      ∀ call y, (∀ other, call = .set (.identifier other) → other.Attained KeepsApart) →
        call.Makes x y → (y.HasOneSource ↔ KeepsApart x call) := by
  refine ⟨attained.hasOneSource, fun call y source makes => ?_⟩
  exact makes.hasOneSource_iff attained.hasOneSource fun other same => (source other same).hasOneSource

/-- An id that takes the place of an alias stands alone; an alias that is given to it then would not. -/
theorem sources_kept_apart_switched :
    ((ofAlias "OT.Document").setId 5).Attained KeepsApart ∧
      ((ofAlias "OT.Document").setId 5).HasOneSource ∧
      (¬ (((ofAlias "OT.Document").setId 5).setAlias "OT.Customer").HasOneSource) := by
  have attained : ((ofAlias "OT.Document").setId 5).Attained KeepsApart :=
    .call (.new (.ofAlias "OT.Document")) (by nofun) (by nofun)
      (.taken (show (assign (.number 5)).run (ofAlias "OT.Document") = .ok () _ from rfl))
  obtain ⟨apart, next⟩ := sources_kept_apart attained
  refine ⟨attained, apart, ?_⟩
  rw [next (.setAlias "OT.Customer") _ nofun (.setAlias _ _)]
  intro keeps
  rcases keeps _ rfl with empty | unset
  · exact absurd empty (by decide)
  · exact absurd unset (by decide)

/-- An object type that has the id 5. -/
def customers : Snapshot := { objectTypes := [.real 5 "Customer"] }

/-- An identifier that was made from the id 5 keeps it under an alias, and without the alias it resolves
to it. -/
theorem older_id_returns :
    ((ofId 5).setAlias "OT.Customer").Attained AnyCall ∧
      ¬ ((ofId 5).setAlias "OT.Customer").HasOneSource ∧
      ((((ofId 5).setAlias "OT.Customer").setAlias "").resolve .objectType).endOver customers =
        .ok ({ ofId 5 with id := 5, attempted := true, kind := some .objectType }, none) := by
  refine ⟨.call (.new (.ofId 5)) trivial (by nofun) (.setAlias _ _), ?_, ?_⟩
  · decide
  · decide

end VaultModels.Resolution.Identifier
