import VaultModels.Proofs.Session.Over
import VaultModels.Proofs.Session.Paths

/-!
# What the host hears over a snapshot

`Reaches` says how a session over a snapshot ends and which messages of one sort the host hears by
then, in order. Messages of other sorts are left out, so a step that sends none of the sort has
nothing to add. Sessions that fail are not covered.
-/
namespace VaultModels.Session

open Schema

variable {ε α β : Type} {snapshot : Snapshot} {wanted : Message → Bool} {session : Session ε α}
  {told more : List Message} {value : α} {last : β}

/-- Over the snapshot the session ends with the value, and of the wanted messages the host hears
these. -/
structure Reaches (snapshot : Snapshot) (wanted : Message → Bool) (session : Session ε α)
    (told : List Message) (value : α) : Prop where
  ended : session.endOver snapshot = .ok value
  heard : (session.run snapshot.backend ()).messages.filter wanted = told

theorem reaches_done (value : α) : (.done value : Session ε α).Reaches snapshot wanted [] value :=
  ⟨rfl, rfl⟩

theorem reaches_tell (message : Message) {rest : Session ε α}
    (later : rest.Reaches snapshot wanted told value) :
    (Session.tell message rest).Reaches snapshot wanted ([message].filter wanted ++ told) value := by
  refine ⟨later.ended, ?_⟩
  rw [Session.run, ← later.heard, ← List.filter_append]
  rfl

theorem reaches_ask {query : Query} {next : Except Error query.Answer → Session ε α}
    (later : (next (snapshot.answer query)).Reaches snapshot wanted told value) :
    (Session.ask query next).Reaches snapshot wanted told value :=
  ⟨later.ended, later.heard⟩

/-- What is heard first stays in front. -/
theorem Reaches.bind {next : α → Session ε β} (first : session.Reaches snapshot wanted told value)
    (second : (next value).Reaches snapshot wanted more last) :
    (session >>= next).Reaches snapshot wanted (told ++ more) last := by
  induction session generalizing told with
  | done given =>
    obtain ⟨⟨⟩, rfl⟩ := first
    exact second
  | fail error => cases first.ended
  | ask query branch ih =>
    exact reaches_ask (ih (snapshot.answer query) ⟨first.ended, first.heard⟩)
  | tell message rest ih =>
    obtain ⟨ended, rfl⟩ := first
    have later := reaches_tell message (ih ⟨ended, rfl⟩)
    rw [← List.append_assoc, ← List.filter_append] at later
    exact later

/-- A step that is not heard adds nothing. -/
theorem Reaches.silent_bind {next : α → Session ε β}
    (first : session.Reaches snapshot wanted [] value)
    (second : (next value).Reaches snapshot wanted more last) :
    (session >>= next).Reaches snapshot wanted more last := first.bind second

/-- A session that never sends a wanted message is not heard. -/
theorem Tells.reaches (silent : session.Tells (wanted · = false))
    (ended : session.endOver snapshot = .ok value) :
    session.Reaches snapshot wanted [] value := by
  refine ⟨ended, List.filter_eq_nil_iff.mpr fun message sent => ?_⟩
  rw [silent.messages snapshot.backend () message sent]
  exact Bool.false_ne_true

theorem reaches_fetch {convert : Error → ε} {query : Query} {answer : query.Answer}
    (given : snapshot.answer query = .ok answer) :
    (fetch convert query).Reaches snapshot wanted [] answer := by
  apply reaches_ask
  rw [given]
  exact reaches_done answer

end VaultModels.Session
