import VaultModels.Session

/-!
# What holds on every path through a session

`Ensures` speaks about the tree of a session: every message it can send and every value it can end
with, whatever is answered on the way. A run follows one path, so both carry over to it for every
backend in every state. Which path a backend takes is not the subject here.
-/
namespace VaultModels.Session

variable {ε ε' α β σ : Type} {allowed : Message → Prop} {post : α → Prop} {session : Session ε α}

/-- Every message that the session can send is allowed, and every value that it can end with
satisfies `post`. It may fail anywhere. -/
inductive Ensures (allowed : Message → Prop) (post : α → Prop) : Session ε α → Prop
  | done {value : α} (holds : post value) : Ensures allowed post (.done value)
  | fail (error : ε) : Ensures allowed post (.fail error)
  | ask (query : Schema.Query) {next : Except Schema.Error query.Answer → Session ε α}
      (each : ∀ answer, Ensures allowed post (next answer)) : Ensures allowed post (.ask query next)
  | tell {message : Message} {rest : Session ε α} (fits : allowed message)
      (later : Ensures allowed post rest) : Ensures allowed post (.tell message rest)

/-- Only the messages are of interest. -/
abbrev Tells (allowed : Message → Prop) (session : Session ε α) : Prop :=
  session.Ensures allowed fun _ => True

/-! ## Composed sessions -/

theorem Ensures.bind {after : β → Prop} {next : α → Session ε β}
    (first : session.Ensures allowed post)
    (second : ∀ value, post value → (next value).Ensures allowed after) :
    (session >>= next).Ensures allowed after := by
  induction first with
  | done holds => exact second _ holds
  | fail error => exact .fail error
  | ask query _ ih => exact .ask query ih
  | tell fits _ ih => exact .tell fits ih

theorem Ensures.mapError (convert : ε → ε') (first : session.Ensures allowed post) :
    (session.mapError convert).Ensures allowed post := by
  induction first with
  | done holds => exact .done holds
  | fail error => exact .fail (convert error)
  | ask query _ ih => exact .ask query ih
  | tell fits _ ih => exact .tell fits ih

theorem Ensures.outcome (first : session.Ensures allowed post) :
    (session.outcome : Session ε' (Except ε α)).Tells allowed := by
  induction first with
  | done holds => exact .done trivial
  | fail error => exact .done trivial
  | ask query _ ih => exact .ask query ih
  | tell fits _ ih => exact .tell fits ih

theorem tells_fetch (convert : Schema.Error → ε) (query : Schema.Query) :
    (fetch convert query).Tells allowed := by
  refine .ask query fun answer => ?_
  cases answer with
  | error error => exact .fail _
  | ok value => exact .done trivial

theorem tells_ofExcept (result : Except ε α) : (ofExcept result).Tells allowed := by
  cases result with
  | error error => exact .fail error
  | ok value => exact .done trivial

/-! ## Runs -/

theorem Ensures.run (ensures : session.Ensures allowed post) (backend : Schema.Backend σ)
    {state : σ} {value : α} (ended : (session.run backend state).result = .ok value) :
    post value := by
  induction ensures generalizing state with
  | done holds =>
    cases ended
    exact holds
  | fail error => cases ended
  | ask query _ ih => exact ih _ ended
  | tell _ _ ih => exact ih ended

theorem Ensures.messages (ensures : session.Ensures allowed post) (backend : Schema.Backend σ)
    (state : σ) : ∀ message ∈ (session.run backend state).messages, allowed message := by
  induction ensures generalizing state with
  | done holds => simp [Session.run]
  | fail error => simp [Session.run]
  | ask query _ ih => exact ih _ _
  | tell fits _ ih =>
    simp only [Session.run, List.mem_cons, forall_eq_or_imp]
    exact ⟨fits, ih state⟩

end VaultModels.Session
