import VaultModels.Proofs.Session.Remembered

/-!
# Sessions that surface every outage

A backend may fail to answer now and then. A session surfaces outages if none is swallowed: once an
answer is missing for that reason, every way on ends in an error. What such a session ends with
otherwise, it ends with over the snapshot itself, and what is remembered on the way stays right,
however the outages fall. Backends that answer wrongly are not covered here.
-/
namespace VaultModels.Schema

/-- Each answer is the snapshot's own or missing because the backend was not available then. -/
def Backend.Falters {σ : Type} (backend : Backend σ) (snapshot : Snapshot) : Prop :=
  ∀ query state, (backend query state).1 = snapshot.answer query ∨
    ∃ message, (backend query state).1 = .error (.unavailable message)

/-- Outages on top of a snapshot leave the other answers as they are. -/
theorem Backend.interrupted_falters (snapshot : Snapshot) :
    snapshot.backend.interrupted.Falters snapshot := by
  rintro query ⟨outages, ⟨⟩⟩
  unfold interrupted Snapshot.backend
  dsimp only
  split
  · exact .inr ⟨_, rfl⟩
  · exact .inl rfl

section

variable {σ : Type} {backend : Backend σ} {snapshot : Snapshot} {cache : Cache}

/-- Behind a cache the backend falters as before, and what is remembered stays right: a missing
answer is not remembered. -/
theorem Backend.Falters.cached (falters : backend.Falters snapshot) (agrees : cache.Agrees snapshot)
    (query : Query) (state : σ) :
    ((backend.cached query (cache, state)).1 = snapshot.answer query ∨
      ∃ message, (backend.cached query (cache, state)).1 = .error (.unavailable message)) ∧
    (backend.cached query (cache, state)).2.1.Agrees snapshot := by
  unfold Backend.cached
  dsimp only
  cases remembered : cache.get? query with
  | some answer => exact ⟨.inl (agrees query answer remembered).symm, agrees⟩
  | none =>
    have asked := falters query state
    cases given : backend query state with
    | mk result next =>
      rw [given] at asked
      cases result with
      | error error => exact ⟨asked, agrees⟩
      | ok answer =>
        have own : Except.ok answer = snapshot.answer query := by simpa using asked
        refine ⟨.inl own, ?_⟩
        dsimp only
        split
        · exact agrees.cons own.symm
        · exact agrees

end

end VaultModels.Schema

namespace VaultModels.Session

open Schema

variable {ε ε' α β σ : Type} {blamed : ε → Prop} {session : Session ε α}

/-- Every path through the session ends with a blamed error. -/
inductive Fails (blamed : ε → Prop) : Session ε α → Prop
  | fail {error : ε} (holds : blamed error) : Fails blamed (.fail error)
  | ask (query : Query) {next : Except Error query.Answer → Session ε α}
      (each : ∀ answer, Fails blamed (next answer)) : Fails blamed (.ask query next)
  | tell (message : Message) {rest : Session ε α} (later : Fails blamed rest) :
      Fails blamed (.tell message rest)

/-- After a missing answer the session fails, whatever comes later, and whenever it fails, the error
is blamed. -/
inductive Surfaces (blamed : ε → Prop) : Session ε α → Prop
  | done (value : α) : Surfaces blamed (.done value)
  | fail {error : ε} (holds : blamed error) : Surfaces blamed (.fail error)
  | ask (query : Query) {next : Except Error query.Answer → Session ε α}
      (missing : ∀ message, Fails blamed (next (.error (.unavailable message))))
      (each : ∀ answer, Surfaces blamed (next answer)) : Surfaces blamed (.ask query next)
  | tell (message : Message) {rest : Session ε α} (later : Surfaces blamed rest) :
      Surfaces blamed (.tell message rest)

/-! ## Composed sessions -/

theorem Fails.bind (first : session.Fails blamed) (next : α → Session ε β) :
    (session >>= next).Fails blamed := by
  induction first with
  | fail holds => exact .fail holds
  | ask query _ ih => exact .ask query ih
  | tell message _ ih => exact .tell message ih

theorem Surfaces.bind {next : α → Session ε β} (first : session.Surfaces blamed)
    (second : ∀ value, (next value).Surfaces blamed) : (session >>= next).Surfaces blamed := by
  induction first with
  | done value => exact second value
  | fail holds => exact .fail holds
  | ask query missing _ ih => exact .ask query (fun message => (missing message).bind next) ih
  | tell message _ ih => exact .tell message ih

theorem Fails.mapError {convert : ε → ε'} {blamed : ε' → Prop}
    (first : session.Fails fun error => blamed (convert error)) :
    (session.mapError convert).Fails blamed := by
  induction first with
  | fail holds => exact .fail holds
  | ask query _ ih => exact .ask query ih
  | tell message _ ih => exact .tell message ih

theorem Surfaces.mapError {convert : ε → ε'} {blamed : ε' → Prop}
    (first : session.Surfaces fun error => blamed (convert error)) :
    (session.mapError convert).Surfaces blamed := by
  induction first with
  | done value => exact .done value
  | fail holds => exact .fail holds
  | ask query missing _ ih => exact .ask query (fun message => (missing message).mapError) ih
  | tell message _ ih => exact .tell message ih

theorem surfaces_fetch {convert : Error → ε} (holds : ∀ error, blamed (convert error))
    (query : Query) : (fetch convert query).Surfaces blamed := by
  refine .ask query (fun message => .fail (holds _)) fun answer => ?_
  cases answer with
  | error error => exact .fail (holds error)
  | ok value => exact .done value

/-! ## Runs -/

theorem Fails.run (fails : session.Fails blamed) (backend : Backend σ) (state : σ) :
    ∃ error, blamed error ∧ (session.run backend state).result = .error error := by
  induction fails generalizing state with
  | fail holds => exact ⟨_, holds, rfl⟩
  | ask query _ ih => exact ih _ _
  | tell message _ ih => exact ih state

section

variable {snapshot : Snapshot} {backend : Backend σ} {cache : Cache}

/-- What a run leaves remembered is right about the snapshot. -/
theorem run_falters_agrees (session : Session ε α) (falters : backend.Falters snapshot)
    (agrees : cache.Agrees snapshot) (state : σ) :
    (session.run backend.cached (cache, state)).state.1.Agrees snapshot := by
  induction session generalizing cache state with
  | done value => exact agrees
  | fail error => exact agrees
  | ask query next ih => exact ih _ (falters.cached agrees query state).2 _
  | tell message rest ih => exact ih agrees state

/-- A run ends and speaks as over the snapshot, or it ends with a blamed error. The first missing
answer decides: up to it both runs are on one path. -/
theorem Surfaces.run (surfaces : session.Surfaces blamed) (falters : backend.Falters snapshot)
    (agrees : cache.Agrees snapshot) (state : σ) :
    ((session.run backend.cached (cache, state)).result =
        (session.run snapshot.backend ()).result ∧
      (session.run backend.cached (cache, state)).messages =
        (session.run snapshot.backend ()).messages) ∨
    ∃ error, blamed error ∧
      (session.run backend.cached (cache, state)).result = .error error := by
  induction surfaces generalizing cache state with
  | done value => exact .inl ⟨rfl, rfl⟩
  | fail holds => exact .inr ⟨_, holds, rfl⟩
  | @ask query next missing _ ih =>
    obtain ⟨answered, kept⟩ := falters.cached agrees query state
    have step : (Session.ask query next).run backend.cached (cache, state) =
        (next (backend.cached query (cache, state)).1).run backend.cached
          (backend.cached query (cache, state)).2 := rfl
    rw [step]
    rcases answered with own | ⟨message, outage⟩
    · rw [own]
      exact ih (snapshot.answer query) kept _
    · rw [outage]
      exact .inr ((missing message).run _ _)
  | tell message _ ih =>
    rcases ih agrees state with ⟨result, messages⟩ | failed
    · exact .inl ⟨result, congrArg (message :: ·) messages⟩
    · exact .inr failed

end

end VaultModels.Session
