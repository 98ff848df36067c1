import VaultModels.Proofs.Schema.FetchOnce
import VaultModels.Session

/-!
# Traces of a session

A trace is one way through a session: the calls that are made, each with what comes back, and how the
session ends after them. What a run asks of a backend is a trace, whatever the backend answers, and
the traces of a composed session are composed of those of its steps. What the host is told is left
out.
-/
namespace VaultModels.Session

open Schema

variable {ε ε' α β σ : Type} {session : Session ε α} {replies : List Reply} {result : Except ε α}

/-- With these replies the session ends so. -/
inductive Trace : Session ε α → List Reply → Except ε α → Prop
  | done (value : α) : Trace (.done value) [] (.ok value)
  | fail (error : ε) : Trace (.fail error) [] (.error error)
  | ask (query : Query) {next : Except Error query.Answer → Session ε α}
      (answer : Except Error query.Answer) {replies : List Reply} {result : Except ε α}
      (later : Trace (next answer) replies result) :
      Trace (.ask query next) (⟨query, answer⟩ :: replies) result
  | tell (message : Message) {rest : Session ε α} {replies : List Reply} {result : Except ε α}
      (later : Trace rest replies result) : Trace (.tell message rest) replies result

/-- A run leaves the record of a trace behind what was recorded before. -/
theorem exists_trace_run (session : Session ε α) (backend : Backend σ) (record : List Reply)
    (state : σ) :
    ∃ replies, (session.run backend.recorded (record, state)).state.1 = record ++ replies ∧
      session.Trace replies (session.run backend.recorded (record, state)).result := by
  induction session generalizing record state with
  | done value => exact ⟨[], (List.append_nil record).symm, .done value⟩
  | fail error => exact ⟨[], (List.append_nil record).symm, .fail error⟩
  | ask query next ih =>
    obtain ⟨replies, recorded, trace⟩ :=
      ih (backend query state).1 (record ++ [⟨query, (backend query state).1⟩])
        (backend query state).2
    refine ⟨⟨query, (backend query state).1⟩ :: replies, ?_, .ask query _ trace⟩
    rw [List.append_cons]
    exact recorded
  | tell message rest ih =>
    obtain ⟨replies, recorded, trace⟩ := ih record state
    exact ⟨replies, recorded, .tell message trace⟩

theorem trace_run (session : Session ε α) (backend : Backend σ) (state : σ) :
    session.Trace (session.run backend.recorded ([], state)).state.1
      (session.run backend.recorded ([], state)).result := by
  obtain ⟨replies, recorded, trace⟩ := exists_trace_run session backend [] state
  rw [recorded]
  exact trace

/-! ## Composed sessions -/

/-- A trace ends in the first session, or goes on from its value in the second one. -/
theorem Trace.of_bind {next : α → Session ε β} {result : Except ε β}
    (trace : (session >>= next).Trace replies result) :
    (∃ error, result = .error error ∧ session.Trace replies (.error error)) ∨
      ∃ before after value, replies = before ++ after ∧ session.Trace before (.ok value) ∧
        (next value).Trace after result := by
  induction session generalizing replies with
  | done value => exact .inr ⟨[], replies, value, rfl, .done value, trace⟩
  | fail error =>
    cases trace
    exact .inl ⟨error, rfl, .fail error⟩
  | ask query branch ih =>
    cases trace with
    | ask _ answer later =>
      rcases ih answer later with ⟨error, ended, first⟩ | ⟨before, after, value, rfl, first, second⟩
      · exact .inl ⟨error, ended, .ask query answer first⟩
      · exact .inr ⟨_ :: before, after, value, rfl, .ask query answer first, second⟩
  | tell message rest ih =>
    cases trace with
    | tell _ later =>
      rcases ih later with ⟨error, ended, first⟩ | ⟨before, after, value, rfl, first, second⟩
      · exact .inl ⟨error, ended, .tell message first⟩
      · exact .inr ⟨before, after, value, rfl, .tell message first, second⟩

/-- An error that is taken as a value leaves the calls as they are. -/
theorem Trace.of_outcome {result : Except ε' (Except ε α)}
    (trace : (session.outcome : Session ε' (Except ε α)).Trace replies result) :
    ∃ ended, result = .ok ended ∧ session.Trace replies ended := by
  induction session generalizing replies with
  | done value =>
    cases trace
    exact ⟨_, rfl, .done value⟩
  | fail error =>
    cases trace
    exact ⟨_, rfl, .fail error⟩
  | ask query branch ih =>
    cases trace with
    | ask _ answer later =>
      obtain ⟨ended, rfl, first⟩ := ih answer later
      exact ⟨ended, rfl, .ask query answer first⟩
  | tell message rest ih =>
    cases trace with
    | tell _ later =>
      obtain ⟨ended, rfl, first⟩ := ih later
      exact ⟨ended, rfl, .tell message first⟩

/-! ## Single steps -/

theorem Trace.of_done {value : α} (trace : (.done value : Session ε α).Trace replies result) :
    replies = [] ∧ result = .ok value := by
  cases trace
  exact ⟨rfl, rfl⟩

theorem Trace.of_ofExcept {given : Except ε α}
    (trace : (ofExcept given).Trace replies result) : replies = [] ∧ result = given := by
  cases given <;> cases trace <;> exact ⟨rfl, rfl⟩

theorem Trace.of_fetch {convert : Error → ε} {query : Query} {result : Except ε query.Answer}
    (trace : (fetch convert query).Trace replies result) :
    ∃ answer, replies = [⟨query, answer⟩] ∧ result = answer.mapError convert := by
  cases trace with
  | ask _ answer later =>
    refine ⟨answer, ?_⟩
    cases answer <;> cases later <;> exact ⟨rfl, rfl⟩

/-- A query that is asked for its answer is one call. -/
theorem run_fetch (convert : Error → ε) (query : Query) (backend : Backend σ) (state : σ) :
    let answer := (backend query state).1
    let ended := (fetch convert query).run backend.recorded ([], state)
    ended.result = answer.mapError convert ∧ ended.state.1 = [⟨query, answer⟩] := by
  simp only [fetch, Session.run, Backend.recorded]
  cases (backend query state).1 <;> exact ⟨rfl, rfl⟩

/-- An answer leads on from where it leaves the backend. -/
theorem run_fetch_bind {convert : Error → ε} {query : Query} {answer : query.Answer}
    {backend : Backend σ} {state : σ} (given : (backend query state).1 = .ok answer)
    (next : query.Answer → Session ε β) :
    (fetch convert query >>= next).run backend state =
      (next answer).run backend (backend query state).2 := by
  change (Session.bind _ next).run backend state = _
  simp only [fetch, Session.bind, Session.run, given]

theorem Trace.of_tryFetch {query : Query} {result : Except ε (Option query.Answer)}
    (trace : (tryFetch query : Session ε (Option query.Answer)).Trace replies result) :
    ∃ answer, replies = [⟨query, answer⟩] ∧ result = .ok answer.toOption := by
  cases trace with
  | ask _ answer later =>
    refine ⟨answer, ?_⟩
    cases answer <;> cases later <;> exact ⟨rfl, rfl⟩

end VaultModels.Session
