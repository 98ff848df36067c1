import VaultModels.Project.Disk
import VaultModels.Proofs.Project.PlanCall

/-!
# Looking at a project

Planning only looks. For a project that is not changed by being looked at, in memory or on disk, what
is there settles what a plan does with each artifact, and planning leaves the project as it was. What
else the writer can do plays no part in a plan.
-/
namespace VaultModels.Project

open Files Model Schema

variable {ω σ : Type}

/-- Looking at the project shows what is there and changes nothing. -/
def Writer.Sees (writer : Writer (StateM ω)) (project : ω) (there : Path → Bool) : Prop :=
  ∀ path, (writer.exists? path).run project = (there path, project)

theorem Memory.writer_sees (memory : Memory) : Memory.writer.Sees memory memory.files.has :=
  fun _ => rfl

theorem Disk.writer_sees (disk : Disk) (tree : Tree) :
    (disk.writer Tree.fileSystem).Sees tree fun path => tree.has (disk.place path) :=
  fun _ => rfl

/-- What an accepted plan does with an artifact. -/
def planFor (there : Path → Bool) (artifact : Artifact) : PlannedArtifact :=
  ⟨artifact, if artifact.kind.isHandEditable ∧ there artifact.path then .keepExisting else .write⟩

section

variable {writer : Writer (StateM ω)} {project : ω} {there : Path → Bool}

theorem inspect_sees (sees : writer.Sees project there) (artifacts : List Artifact) :
    (inspect writer artifacts).run project =
      (artifacts.map fun artifact => (artifact, there artifact.path), project) := by
  induction artifacts with
  | nil => rfl
  | cons artifact rest ih =>
    have looked := sees artifact.path
    rw [inspect, StateT.run_bind, looked]
    change ((artifact, there artifact.path) :: ((inspect writer rest).run project).1,
      ((inspect writer rest).run project).2) = _
    rw [ih]
    rfl

theorem settle_sees {overwrite : Bool} {artifacts : List Artifact} {planned : List PlannedArtifact}
    (ended : settle overwrite (artifacts.map fun artifact => (artifact, there artifact.path)) =
      .ok planned) : planned = artifacts.map (planFor there) := by
  induction artifacts generalizing planned with
  | nil =>
    cases ended
    rfl
  | cons artifact rest ih =>
    rw [List.map_cons, settle, Action.choose] at ended
    cases others : settle overwrite (rest.map fun artifact => (artifact, there artifact.path)) with
    | error refusal =>
      rw [others] at ended
      repeat' split at ended
      all_goals cases ended
    | ok later =>
      rw [others] at ended
      rw [List.map_cons, ← ih others, planFor]
      repeat' split at ended
      all_goals cases ended
      all_goals simp [*]

end

section

variable {call : PlanCall ω} {there : Path → Bool} (sees : call.writer.Sees call.project there)

include sees

theorem PlanCall.decide_sees (artifacts : List Artifact) :
    call.decide artifacts =
      (settle call.overwrite (artifacts.map fun artifact => (artifact, there artifact.path))).map
        Plan.mk := by
  rw [PlanCall.decide, inspect_sees sees]

variable {backend : Backend σ} {options : Options} {state : Cache × σ} {accepted : Plan}

/-- What is there settles the actions of an accepted plan. -/
theorem PlanCall.accepted_planned (ended : (call.run backend options state).result = .ok accepted) :
    accepted.artifacts = (accepted.artifacts.map (·.artifact)).map (planFor there) := by
  rw [PlanCall.run_eq] at ended
  dsimp only at ended
  split at ended
  · cases ended
  next artifacts made =>
    rw [PlanCall.decide_sees sees] at ended
    cases settled : settle call.overwrite
        (artifacts.map fun artifact => (artifact, there artifact.path)) with
    | error refusal =>
      rw [settled] at ended
      cases ended
    | ok planned =>
      rw [settled] at ended
      cases ended
      dsimp only
      rw [settle_sees settled]
      rw [List.map_map, List.map_map]
      rfl

end

/-- Calls that see the same come to the same. -/
theorem PlanCall.run_congr (call other : PlanCall ω) {there : Path → Bool}
    (sees : call.writer.Sees call.project there) (alike : other.writer.Sees other.project there)
    (forced : other.overwrite = call.overwrite) (backend : Backend σ) (options : Options)
    (state : Cache × σ) : other.run backend options state = call.run backend options state := by
  have decided : other.decide = call.decide := by
    funext artifacts
    rw [PlanCall.decide_sees sees, PlanCall.decide_sees alike, forced]
  rw [PlanCall.run_eq, PlanCall.run_eq, decided]

/-! ## Generating -/

section

variable {writer : Writer (StateM ω)} {project : ω} {there : Path → Bool}
  (sees : writer.Sees project there) (backend : Backend σ) (options : Options) (overwrite : Bool)
  (state : Cache × σ)

include sees

theorem plan_sees : (plan backend options writer overwrite state).run project =
    ((⟨writer, project, overwrite⟩ : PlanCall ω).run backend options state, project) := by
  refine Prod.ext rfl ?_
  unfold plan
  dsimp only
  cases ((render options).run backend.cached state).result with
  | error error => rfl
  | ok artifacts => exact congrArg Prod.snd (inspect_sees sees artifacts)

/-- What is not accepted leaves the project as it was, and what is accepted is applied to it. -/
theorem generate_sees : (generate backend options writer overwrite state).run project =
    let planned := (⟨writer, project, overwrite⟩ : PlanCall ω).run backend options state
    match planned.result with
    | .error error => (⟨.error error, planned.messages, planned.state⟩, project)
    | .ok accepted =>
      let applied := (accepted.apply writer).run project
      (⟨applied.1.result.mapError .write, planned.messages ++ applied.1.messages, planned.state⟩,
        applied.2) := by
  rw [generate, StateT.run_bind, plan_sees sees]
  rcases (⟨writer, project, overwrite⟩ : PlanCall ω).run backend options state with
    ⟨error | accepted, messages, last⟩ <;> rfl

end

end VaultModels.Project
