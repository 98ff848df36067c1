import VaultModels.Proofs.Project.Applying

/-!
# What a whole run does

Generating is planning and then applying. On a project in memory the second pass cannot fail, so a
run either stops at its plan, with the project as it was, or carries the whole plan out.
-/
namespace VaultModels.Project

open Model Schema

variable {σ : Type} {backend : Backend σ} {options : Options} {overwrite : Bool}
  {state : Cache × σ} {memory : Memory}

theorem generate_run :
    (generate backend options Memory.writer overwrite state).run memory =
      let planning := (plan backend options Memory.writer overwrite state).run memory
      match planning.1.result with
      | .error error => (⟨.error error, planning.1.messages, planning.1.state⟩, planning.2)
      | .ok accepted =>
        let applying := (accepted.apply Memory.writer).run planning.2
        (⟨applying.1.result.mapError .write, planning.1.messages ++ applying.1.messages,
          planning.1.state⟩, applying.2) := by
  rw [generate, StateT.run_bind]
  rcases (plan backend options Memory.writer overwrite state).run memory with
    ⟨⟨error | accepted, messages, last⟩, after⟩ <;> rfl

theorem generate_rejected {error : RunError}
    (ended : ((plan backend options Memory.writer overwrite state).run memory).1.result =
      .error error) :
    (generate backend options Memory.writer overwrite state).run memory =
      let planned := ((plan backend options Memory.writer overwrite state).run memory).1
      (⟨.error error, planned.messages, planned.state⟩, memory) := by
  rw [generate_run]
  dsimp only
  rw [ended, plan_memory]

theorem generate_accepted {accepted : Plan}
    (ended : ((plan backend options Memory.writer overwrite state).run memory).1.result =
      .ok accepted) :
    (generate backend options Memory.writer overwrite state).run memory =
      let planned := ((plan backend options Memory.writer overwrite state).run memory).1
      (⟨.ok (reportOf accepted.artifacts),
        planned.messages ++ accepted.artifacts.map PlannedArtifact.message, planned.state⟩,
        memory.putAll (written accepted.artifacts)) := by
  obtain ⟨artifacts, -, rendered, rfl⟩ := plan_accepted memory ended
  have unchanged : ((plan backend options Memory.writer overwrite state).run memory).2 = memory := by
    rw [plan_memory]
  rw [generate_run]
  dsimp only
  rw [ended, unchanged]
  dsimp only
  rw [apply_accept memory artifacts rendered.distinct]
  rfl

/-- Everything that the host hears while a run is planned comes before the first progress line. -/
theorem plan_messages :
    ∀ message ∈ ((plan backend options Memory.writer overwrite state).run memory).1.messages,
      message.isProgress = false := by
  rw [plan_memory]
  exact (render_ensures options).messages backend.cached state

/-- A run over a project in memory fails with exactly the errors of its planning pass. -/
theorem generate_error_iff (error : RunError) :
    ((generate backend options Memory.writer overwrite state).run memory).1.result = .error error ↔
      ((plan backend options Memory.writer overwrite state).run memory).1.result = .error error := by
  cases ended : ((plan backend options Memory.writer overwrite state).run memory).1.result with
  | error cause =>
    rw [generate_rejected ended]
    simp only [Except.error.injEq]
  | ok accepted =>
    rw [generate_accepted ended]
    simp only [reduceCtorEq]

end VaultModels.Project
