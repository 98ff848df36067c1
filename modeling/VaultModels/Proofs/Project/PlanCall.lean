import VaultModels.Project.Plan
import VaultModels.Proofs.Session.Remembered

/-!
# Planning calls

A planning call over a project of any kind: in memory, on disk, or anything else that can tell
whether a file is there. What is held here does not depend on what the project answers. A run over a
snapshot is rendering followed by a decision, the decision takes all artifacts or none, and it takes
them if files may be replaced.
-/
namespace VaultModels.Project

open Model Schema

/-- One planning call: the writer, the project that it looks at, and whether files may be replaced. -/
structure PlanCall (ω : Type) where
  writer : Writer (StateM ω)
  project : ω
  overwrite : Bool

variable {ω σ : Type}

/-- What the call gives an orchestrator over `backend`. -/
def PlanCall.run (call : PlanCall ω) (backend : Backend σ) (options : Options)
    (state : Cache × σ) : Finished RunError Plan (Cache × σ) :=
  ((plan backend options call.writer call.overwrite state).run call.project).1

/-- The decision on rendered artifacts, after a look at the project. -/
def PlanCall.decide (call : PlanCall ω) (artifacts : List Artifact) : Except Refusal Plan :=
  (settle call.overwrite ((inspect call.writer artifacts).run call.project).1).map Plan.mk

theorem PlanCall.run_eq (call : PlanCall ω) (backend : Backend σ) (options : Options)
    (state : Cache × σ) :
    call.run backend options state =
      let rendered := (render options).run backend.cached state
      ⟨match rendered.result with
        | .error error => .error error
        | .ok artifacts => (call.decide artifacts).mapError .refused,
        rendered.messages, rendered.state⟩ := by
  unfold PlanCall.run plan
  dsimp only
  cases (render options).run backend.cached state with
  | mk result messages after =>
    cases result with
    | error error => rfl
    | ok artifacts => rfl

/-! ## The decision -/

theorem inspect_artifacts (writer : Writer (StateM ω)) (artifacts : List Artifact) (project : ω) :
    ((inspect writer artifacts).run project).1.map (·.1) = artifacts := by
  induction artifacts generalizing project with
  | nil => rfl
  | cons artifact rest ih =>
    exact congrArg (artifact :: ·) (ih ((writer.exists? artifact.path).run project).2)

theorem settle_artifacts {overwrite : Bool} {inspected : List (Artifact × Bool)}
    {planned : List PlannedArtifact} (ended : settle overwrite inspected = .ok planned) :
    planned.map (·.artifact) = inspected.map (·.1) := by
  induction inspected generalizing planned with
  | nil =>
    cases ended
    rfl
  | cons entry rest ih =>
    rcases entry with ⟨artifact, isThere⟩
    unfold settle at ended
    cases chosen : Action.choose overwrite artifact isThere with
    | error refusal =>
      rw [chosen] at ended
      cases ended
    | ok action =>
      rw [chosen] at ended
      cases others : settle overwrite rest with
      | error refusal =>
        rw [others] at ended
        cases ended
      | ok later =>
        rw [others] at ended
        cases ended
        simp only [List.map_cons, ih others]

/-- Where files may be replaced, nothing is refused. -/
theorem settle_forced (inspected : List (Artifact × Bool)) :
    ∃ planned, settle true inspected = .ok planned := by
  induction inspected with
  | nil => exact ⟨[], rfl⟩
  | cons entry rest ih =>
    rcases entry with ⟨artifact, isThere⟩
    obtain ⟨later, others⟩ := ih
    have chosen : ∃ action, Action.choose true artifact isThere = .ok action := by
      unfold Action.choose
      split
      · exact ⟨_, rfl⟩
      · exact ⟨.write, by simp⟩
    obtain ⟨action, chosen⟩ := chosen
    exact ⟨⟨artifact, action⟩ :: later, by rw [settle, chosen, others]; rfl⟩

/-- An accepted decision takes every artifact, in order. -/
theorem PlanCall.decide_artifacts {call : PlanCall ω} {artifacts : List Artifact} {accepted : Plan}
    (ended : call.decide artifacts = .ok accepted) :
    accepted.artifacts.map (·.artifact) = artifacts := by
  unfold PlanCall.decide at ended
  cases settled : settle call.overwrite ((inspect call.writer artifacts).run call.project).1 with
  | error refusal =>
    rw [settled] at ended
    cases ended
  | ok planned =>
    rw [settled] at ended
    cases ended
    exact (settle_artifacts settled).trans (inspect_artifacts call.writer artifacts call.project)

theorem PlanCall.decide_forced {call : PlanCall ω} (forced : call.overwrite = true)
    (artifacts : List Artifact) : ∃ accepted, call.decide artifacts = .ok accepted := by
  obtain ⟨planned, settled⟩ :=
    settle_forced ((inspect call.writer artifacts).run call.project).1
  exact ⟨⟨planned⟩, by rw [PlanCall.decide, forced, settled]; rfl⟩

/-! ## Calls over a snapshot -/

variable {snapshot : Snapshot} {cache : Cache}

/-- What is remembered of a snapshot makes no difference to what a call over it gives. -/
theorem PlanCall.run_snapshot (call : PlanCall ω) (options : Options)
    (agrees : cache.Agrees snapshot) :
    (call.run snapshot.backend options (cache, ())).result =
      match ((render options).run snapshot.backend ()).result with
      | .error error => .error error
      | .ok artifacts => (call.decide artifacts).mapError .refused := by
  obtain ⟨after, -, ended⟩ := (render options).run_cached agrees
  rw [PlanCall.run_eq, ended]

/-- The host hears of a planning call what it hears of rendering. -/
theorem PlanCall.messages_snapshot (call : PlanCall ω) (options : Options)
    (agrees : cache.Agrees snapshot) :
    (call.run snapshot.backend options (cache, ())).messages =
      ((render options).run snapshot.backend ()).messages := by
  obtain ⟨after, -, ended⟩ := (render options).run_cached agrees
  rw [PlanCall.run_eq, ended]

/-- A plan accepted over a snapshot consists of what is rendered over it. -/
theorem PlanCall.rendered_of_accepted {call : PlanCall ω} {options : Options} {accepted : Plan}
    (agrees : cache.Agrees snapshot)
    (ended : (call.run snapshot.backend options (cache, ())).result = .ok accepted) :
    ((render options).run snapshot.backend ()).result =
      .ok (accepted.artifacts.map (·.artifact)) := by
  rw [PlanCall.run_snapshot call options agrees] at ended
  cases made : ((render options).run snapshot.backend ()).result with
  | error error =>
    rw [made] at ended
    cases ended
  | ok artifacts =>
    rw [made] at ended
    dsimp only at ended
    cases decided : call.decide artifacts with
    | error refusal =>
      rw [decided] at ended
      cases ended
    | ok plan =>
      rw [decided] at ended
      cases ended
      rw [PlanCall.decide_artifacts decided]

end VaultModels.Project
