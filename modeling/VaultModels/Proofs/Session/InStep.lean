import VaultModels.Session

/-!
# Sessions in step

Two sessions are in step if they make the same calls and tell the host the same as long as they are
answered alike, and then end with related values or with one error. So against one backend their runs
differ in nothing but such values. Sessions that only come to the same in the end are not in step.
-/
namespace VaultModels.Session

open Schema

variable {ε α β γ δ σ : Type} {related : α → β → Prop} {first : Session ε α} {second : Session ε β}

/-- The sessions go alike, whatever is answered, and values that they end with are related. -/
inductive InStep (related : α → β → Prop) : Session ε α → Session ε β → Prop
  | done {value : α} {other : β} (holds : related value other) :
      InStep related (.done value) (.done other)
  | fail (error : ε) : InStep related (.fail error) (.fail error)
  | ask (query : Query) {next : Except Error query.Answer → Session ε α}
      {otherNext : Except Error query.Answer → Session ε β}
      (each : ∀ answer, InStep related (next answer) (otherNext answer)) :
      InStep related (.ask query next) (.ask query otherNext)
  | tell (message : Message) {rest : Session ε α} {otherRest : Session ε β}
      (later : InStep related rest otherRest) :
      InStep related (.tell message rest) (.tell message otherRest)

theorem inStep_refl {related : α → α → Prop} (same : ∀ value, related value value)
    (session : Session ε α) : InStep related session session := by
  induction session with
  | done value => exact .done (same value)
  | fail error => exact .fail error
  | ask query next ih => exact .ask query ih
  | tell message rest ih => exact .tell message ih

theorem InStep.bind {after : γ → δ → Prop} {next : α → Session ε γ} {otherNext : β → Session ε δ}
    (steps : InStep related first second)
    (later : ∀ value other, related value other → InStep after (next value) (otherNext other)) :
    InStep after (first >>= next) (second >>= otherNext) := by
  induction steps with
  | done holds => exact later _ _ holds
  | fail error => exact .fail error
  | ask query _ ih => exact .ask query ih
  | tell message _ ih => exact .tell message ih

/-- After a step that is the same, whatever goes in step for each of its values. -/
theorem inStep_bind {after : γ → δ → Prop} (session : Session ε α) {next : α → Session ε γ}
    {otherNext : α → Session ε δ} (later : ∀ value, InStep after (next value) (otherNext value)) :
    InStep after (session >>= next) (session >>= otherNext) := by
  have same : InStep (fun one other => one = other) session session :=
    inStep_refl (fun _ => rfl) session
  refine same.bind ?_
  rintro value _ rfl
  exact later value

/-- Against one backend, both leave it in one state and end with related values. -/
theorem InStep.run (steps : InStep related first second) (backend : Backend σ) (state : σ) :
    (second.run backend state).state = (first.run backend state).state ∧
      ∀ value, (first.run backend state).result = .ok value →
        ∃ other, (second.run backend state).result = .ok other ∧ related value other := by
  induction steps generalizing state with
  | done holds =>
    refine ⟨rfl, ?_⟩
    rintro _ ⟨⟩
    exact ⟨_, rfl, holds⟩
  | fail error =>
    refine ⟨rfl, ?_⟩
    rintro _ ⟨⟩
  | ask query _ ih => exact ih _ _
  | tell message _ ih => exact ih state

/-- The host hears the same of both. -/
theorem InStep.messages (steps : InStep related first second) (backend : Backend σ) (state : σ) :
    (second.run backend state).messages = (first.run backend state).messages := by
  induction steps generalizing state with
  | done _ => rfl
  | fail _ => rfl
  | ask query _ ih => exact ih _ _
  | tell message _ ih => exact congrArg (message :: ·) (ih state)

end VaultModels.Session
