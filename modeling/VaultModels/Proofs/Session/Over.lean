import VaultModels.Session

/-!
# How a session ends over a snapshot

`endOver` keeps the result of a session and leaves out what the host is told, so over a snapshot a
session computes like an `Except` value: each step has one equation. `withFault` is the shape that
such results take: a value, unless something is wrong, and then the first thing that is.
-/
namespace VaultModels

/-- The value, unless there is a fault. -/
def withFault {ε α : Type} (fault : Option ε) (value : α) : Except ε α :=
  match fault with
  | some error => .error error
  | none => .ok value

section

variable {ε α β : Type}

@[simp] theorem ok_bind (value : α) (next : α → Except ε β) :
    (Except.ok value >>= next) = next value := rfl

theorem map_eq_ok {first : Except ε α} {change : α → β} {last : β} :
    first.map change = .ok last ↔ ∃ value, first = .ok value ∧ change value = last := by
  cases first <;> simp [Except.map]

@[simp] theorem withFault_none (value : α) : withFault (none : Option ε) value = .ok value := rfl

@[simp] theorem withFault_some (error : ε) (value : α) :
    withFault (some error) value = .error error := rfl

/-- The fault of the first step hides those of the second. -/
theorem withFault_bind (first second : Option ε) {value : α} {next : α → Except ε β} {last : β}
    (continued : next value = withFault second last) :
    (withFault first value >>= next) = withFault (first.or second) last := by
  cases first with
  | none => exact continued
  | some error => rfl

theorem withFault_eq_ok {fault : Option ε} {value other : α} :
    withFault fault value = .ok other ↔ fault = none ∧ value = other := by
  cases fault <;> simp

theorem withFault_eq_error {fault : Option ε} {value : α} {error : ε} :
    withFault fault value = .error error ↔ fault = some error := by
  cases fault <;> simp

end

namespace Session

open Schema

variable {ε ε' α β : Type}

/-- How the session ends if the snapshot answers. -/
def endOver (session : Session ε α) (snapshot : Snapshot) : Except ε α :=
  (session.run snapshot.backend ()).result

variable (snapshot : Snapshot)

@[simp] theorem endOver_done (value : α) :
    (.done value : Session ε α).endOver snapshot = .ok value := rfl

@[simp] theorem endOver_fail (error : ε) :
    (.fail error : Session ε α).endOver snapshot = .error error := rfl

@[simp] theorem endOver_ask (query : Query) (next : Except Error query.Answer → Session ε α) :
    (Session.ask query next).endOver snapshot =
      (next (snapshot.answer query)).endOver snapshot := rfl

@[simp] theorem endOver_tell (message : Message) (rest : Session ε α) :
    (Session.tell message rest).endOver snapshot = rest.endOver snapshot := rfl

@[simp] theorem endOver_bind (first : Session ε α) (next : α → Session ε β) :
    (first >>= next).endOver snapshot =
      (first.endOver snapshot >>= fun value => (next value).endOver snapshot) := by
  induction first with
  | done value => rfl
  | fail error => rfl
  | ask query branch ih => exact ih (snapshot.answer query)
  | tell message rest ih => exact ih

/-- A session that gets to its end gets to the end of each step. -/
theorem endOver_bind_eq_ok {snapshot : Snapshot} {first : Session ε α} {next : α → Session ε β}
    {last : β} :
    (first >>= next).endOver snapshot = .ok last ↔
      ∃ value, first.endOver snapshot = .ok value ∧ (next value).endOver snapshot = .ok last := by
  rw [endOver_bind]
  cases first.endOver snapshot with
  | error error => exact iff_of_false (by rintro ⟨⟩) (by rintro ⟨value, ⟨⟩, -⟩)
  | ok value => simp

@[simp] theorem endOver_mapError (convert : ε → ε') (session : Session ε α) :
    (session.mapError convert).endOver snapshot =
      (session.endOver snapshot).mapError convert := by
  induction session with
  | done value => rfl
  | fail error => rfl
  | ask query branch ih => exact ih (snapshot.answer query)
  | tell message rest ih => exact ih

@[simp] theorem endOver_outcome (session : Session ε α) :
    (session.outcome : Session ε' (Except ε α)).endOver snapshot =
      .ok (session.endOver snapshot) := by
  induction session with
  | done value => rfl
  | fail error => rfl
  | ask query branch ih => exact ih (snapshot.answer query)
  | tell message rest ih => exact ih

/-- A query that the snapshot answers is a step without trace. -/
theorem endOver_fetch_bind {convert : Error → ε} {query : Query} {answer : query.Answer}
    (given : snapshot.answer query = .ok answer) (next : query.Answer → Session ε β) :
    (fetch convert query >>= next).endOver snapshot = (next answer).endOver snapshot := by
  rw [endOver_bind, fetch, endOver_ask, given]
  rfl

theorem endOver_fetch_bind_error {convert : Error → ε} {query : Query} {error : Error}
    (missing : snapshot.answer query = .error error) (next : query.Answer → Session ε β) :
    (fetch convert query >>= next).endOver snapshot = .error (convert error) := by
  rw [endOver_bind, fetch, endOver_ask, missing]
  rfl

end Session

end VaultModels
