import VaultModels.Schema.Backend
import VaultModels.Session

/-!
# Remembered answers of a snapshot

A cache over a snapshot holds nothing but the snapshot's own answers: it starts empty and every run
keeps it so. With such a cache a run ends and speaks as over the snapshot itself. Backends whose
answers change are not covered here.
-/
namespace VaultModels.Schema

/-- Every remembered answer is the one that the snapshot gives. -/
def Cache.Agrees (cache : Cache) (snapshot : Snapshot) : Prop :=
  ∀ query answer, cache.get? query = some answer → snapshot.answer query = .ok answer

theorem Cache.agrees_empty (snapshot : Snapshot) : Cache.Agrees [] snapshot := by
  intro query answer found
  simp [Cache.get?] at found

theorem Cache.Agrees.cons {cache : Cache} {snapshot : Snapshot} (agrees : cache.Agrees snapshot)
    {query : Query} {answer : query.Answer} (given : snapshot.answer query = .ok answer) :
    Cache.Agrees (⟨query, answer⟩ :: cache) snapshot := by
  intro asked found remembered
  simp only [Cache.get?] at remembered
  split at remembered
  next equal =>
    subst equal
    cases remembered
    exact given
  next => exact agrees asked found remembered

/-- A cached answer is the snapshot's answer, and the cache agrees afterwards too. -/
theorem Backend.cached_agrees {cache : Cache} {snapshot : Snapshot}
    (agrees : cache.Agrees snapshot) (query : Query) :
    (snapshot.backend.cached query (cache, ())).1 = snapshot.answer query ∧
      (snapshot.backend.cached query (cache, ())).2.1.Agrees snapshot := by
  unfold Backend.cached Snapshot.backend
  dsimp only
  cases remembered : cache.get? query with
  | some answer => exact ⟨(agrees query answer remembered).symm, agrees⟩
  | none =>
    cases given : snapshot.answer query with
    | error error => exact ⟨rfl, agrees⟩
    | ok answer =>
      refine ⟨rfl, ?_⟩
      dsimp only
      split
      · exact agrees.cons given
      · exact agrees

end VaultModels.Schema

namespace VaultModels.Session

open Schema

/-- Remembering changes neither the end of a run over a snapshot nor what the host is told. -/
theorem run_cached {ε α : Type} (session : Session ε α) {snapshot : Snapshot} {cache : Cache}
    (agrees : cache.Agrees snapshot) :
    ∃ after : Cache, after.Agrees snapshot ∧
      session.run snapshot.backend.cached (cache, ()) =
        ⟨(session.run snapshot.backend ()).result, (session.run snapshot.backend ()).messages,
          (after, ())⟩ := by
  induction session generalizing cache with
  | done value => exact ⟨cache, agrees, rfl⟩
  | fail error => exact ⟨cache, agrees, rfl⟩
  | ask query branch ih =>
    obtain ⟨answered, kept⟩ := Backend.cached_agrees agrees query
    obtain ⟨after, later, ended⟩ := ih (snapshot.answer query) kept
    refine ⟨after, later, ?_⟩
    simp only [Session.run, answered]
    exact ended
  | tell message rest ih =>
    obtain ⟨after, later, ended⟩ := ih agrees
    refine ⟨after, later, ?_⟩
    simp only [Session.run, ended]

end VaultModels.Session
