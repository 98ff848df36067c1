import VaultModels.Proofs.Resolution.Form
import VaultModels.Proofs.Resolution.Memoising
import VaultModels.Proofs.Schema.FetchOnce
import VaultModels.Proofs.Session.InStep

/-!
# Resolving what was written

An identifier that was not attempted since its last change is written without its expected owner, its
kind and, beside an alias, the id that it was made from. Of these, resolving looks at the owner only.
So where no owner is expected, what is read back resolves in step with what was written, against any
backend, and reads, displays and coerces the same. What is written of a resolved identifier is not the
subject here: its source value is replaced by the id that it was resolved to.
-/
namespace VaultModels.Resolution.Identifier

open Schema

variable {x y : Identifier}

/-- What was resolved looks the same from outside, with the same error. -/
structure SameOutcome (one other : Identifier × Option Error) : Prop where
  outcome : other.2 = one.2
  id : other.1.id = one.1.id
  resolved : other.1.isResolved = one.1.isResolved
  coerced : other.1.tryId = one.1.tryId

theorem SameOutcome.refl (one : Identifier × Option Error) : SameOutcome one one :=
  ⟨rfl, rfl, rfl, rfl⟩

/-- The id that an identifier was made from shows in no outcome. -/
theorem sameOutcome_source (x : Identifier) (source : ElementId) (outcome : Option Error) :
    SameOutcome (x, outcome) ({ x with sourceId := source }, outcome) := ⟨rfl, rfl, rfl, rfl⟩

/-- An alias is looked up, and the id beside it is not. -/
theorem attempt_source (named : x.aliasText ≠ "") (source : ElementId) (kind : Kind) :
    ({ x with sourceId := source } : Identifier).attempt kind = x.attempt kind := by
  have same : ({ x with sourceId := source } : Identifier).guid? = x.guid? := rfl
  unfold attempt
  rw [same]
  cases x.guid? with
  | some guid => rfl
  | none => simp only [named, ne_eq, not_false_eq_true, if_true]

theorem resolve_source (named : x.aliasText ≠ "") (source : ElementId) (kind : Kind) :
    (x.resolve kind).InStep SameOutcome
      (({ x with sourceId := source } : Identifier).resolve kind) := by
  unfold resolve
  by_cases attempted : x.attempted = true
  · rw [if_pos attempted, if_pos attempted]
    exact .done (sameOutcome_source x source none)
  rw [if_neg attempted, if_neg attempted]
  have tried := attempt_source (x := { x with kind := some kind }) named source kind
  dsimp only at tried ⊢
  -- from here on both sides ask the same, and only what they settle keeps its own source
  rw [tried]
  refine Session.inStep_bind _ fun found => ?_
  cases found with
  | some id => exact .done (sameOutcome_source _ source none)
  | none =>
    dsimp only
    rw [if_neg named, if_neg named]
    refine Session.inStep_bind _ fun looked => ?_
    cases looked with
    | ok id => exact .done (sameOutcome_source _ source none)
    | error error => exact .done (sameOutcome_source _ source (some error))

/-! ## What is read back -/

theorem ofForm_form (unresolved : x.id = unresolvedId) :
    ofForm x.form = if x.aliasText = "" then ofId x.sourceId else ofAlias x.aliasText := by
  unfold form
  by_cases unnamed : x.aliasText = ""
  · simp [unnamed, unresolved, ofForm]
  · simp [unnamed, ofForm, Option.filter]

/-- An alias hides the id beside it, so nothing that is read off the identifier is lost. -/
theorem ofForm_form_reads (unresolved : x.id = unresolvedId) :
    (ofForm x.form).aliasText = x.aliasText ∧ (ofForm x.form).guid? = x.guid? ∧
      (ofForm x.form).isEmpty = x.isEmpty ∧ (ofForm x.form).display = x.display := by
  rw [ofForm_form unresolved]
  by_cases unnamed : x.aliasText = ""
  · rw [if_pos unnamed]
    simp [ofId, guid?, isEmpty, display, unnamed, unresolved]
  · rw [if_neg unnamed]
    simp [ofAlias, guid?, isEmpty, display, unnamed]

/-- What is read back resolves as the identifier that was written would, were it new. -/
theorem resolve_ofForm (unresolved : x.id = unresolvedId) (unowned : x.expectedOwner = none)
    (kind : Kind) : (x.asNew.resolve kind).InStep SameOutcome ((ofForm x.form).resolve kind) := by
  rw [ofForm_form unresolved]
  by_cases unnamed : x.aliasText = ""
  · have same : ofId x.sourceId = x.asNew := by
      rw [asNew, unnamed, unowned]
      rfl
    rw [if_pos unnamed, same]
    exact Session.inStep_refl .refl _
  · have same : ofAlias x.aliasText = { x.asNew with sourceId := unresolvedId } := by
      rw [asNew, unowned]
      rfl
    rw [if_neg unnamed, same]
    exact resolve_source (x := x.asNew) unnamed unresolvedId kind

/-- An identifier without an expected owner that was not attempted since its last change is read back
with its alias, its GUID, its emptiness and its text. Against every backend, what is read back makes
the calls that the identifier itself would make and comes to the same outcome. -/
theorem reread_resolves (attained : x.Attained AnyCall) (unowned : x.expectedOwner = none)
    (armed : x.attempted = false) :
    ∃ y, ofJson? x.toJson = .ok y ∧
      y.aliasText = x.aliasText ∧ y.guid? = x.guid? ∧ y.isEmpty = x.isEmpty ∧
      y.display = x.display ∧
      ∀ (kind : Kind) (σ : Type) (backend : Backend σ) (state : σ),
        let own := (x.resolve kind).run backend.recorded ([], state)
        let reread := (y.resolve kind).run backend.recorded ([], state)
        reread.state = own.state ∧
          ∃ x' y' outcome, own.result = .ok (x', outcome) ∧ reread.result = .ok (y', outcome) ∧
            y'.id = x'.id ∧ y'.isResolved = x'.isResolved ∧ y'.tryId = x'.tryId := by
  have coherent := attained.isCoherent
  have unresolved : x.id = unresolvedId := coherent.unresolved armed
  obtain ⟨spelled, guid, empty, text⟩ := ofForm_form_reads unresolved
  refine ⟨ofForm x.form, ofJson?_toJson x, spelled, guid, empty, text, ?_⟩
  intro kind σ backend state
  have steps : (x.resolve kind).InStep SameOutcome ((ofForm x.form).resolve kind) := by
    rw [resolve_asNew coherent armed]
    exact resolve_ofForm unresolved unowned kind
  obtain ⟨states, results⟩ := steps.run backend.recorded ([], state)
  obtain ⟨⟨x', outcome⟩, ended, -⟩ := (resolve_ends x kind).run backend.recorded ([], state)
  obtain ⟨⟨y', other⟩, endedOther, same⟩ := results _ ended
  obtain rfl : other = outcome := same.outcome
  exact ⟨states, x', y', other, ended, endedOther, same.id, same.resolved, same.coerced⟩

/-- The id of a workflow under an alias that none has, after the alias was looked up. -/
def mislabelled : Identifier := { (ofId 101).setAlias "WF.Missing" with kind := some .workflow }

/-- The alias alone is read back, and by it no workflow is found, as before. -/
theorem reread_resolves_mislabelled :
    mislabelled.Attained AnyCall ∧ mislabelled.expectedOwner = none ∧
      mislabelled.attempted = false ∧
      ∃ y, ofJson? mislabelled.toJson = .ok y ∧ y.aliasText = "WF.Missing" ∧
        ((y.resolve .workflow).run approvals.backend.recorded ([], ())).state.1 =
          [⟨.byAlias .workflow "WF.Missing", .error (.notFound .workflow "WF.Missing")⟩,
            ⟨.byAlias .workflow "WF.Missing", .error (.notFound .workflow "WF.Missing")⟩] := by
  have renamed : ((ofId 101).setAlias "WF.Missing").Attained AnyCall :=
    .call (.new (.ofId 101)) trivial (by nofun) (.setAlias (ofId 101) "WF.Missing")
  have ended :
      ((((ofId 101).setAlias "WF.Missing").resolve .workflow).run approvals.backend ()).result =
        .ok (mislabelled, some (.notFound .workflow "WF.Missing")) := by decide
  have attained : mislabelled.Attained AnyCall :=
    .call renamed trivial (by nofun) (.resolve approvals.backend () ended)
  obtain ⟨y, parsed, named, -, -, -, alike⟩ := reread_resolves attained rfl rfl
  refine ⟨attained, rfl, rfl, y, parsed, named, ?_⟩
  rw [(alike .workflow Unit approvals.backend ()).1]
  rfl

end VaultModels.Resolution.Identifier
