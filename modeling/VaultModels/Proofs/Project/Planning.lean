import VaultModels.Proofs.Project.Rendering
import VaultModels.Proofs.Project.Walk
import VaultModels.Proofs.Session.Remembered
import VaultModels.Project.Plan

/-!
# What planning decides

A plan over a project in memory is a function of the rendered artifacts and of which of their targets
are taken: the first taken target of a generated file rejects it unless the run may overwrite, and
nothing else does. Planning never changes the project. Rendering itself may fail; its errors pass
through and are not characterised here.
-/
namespace VaultModels.Project

open Model Schema

namespace Memory

/-- A file to be edited by hand is there already. -/
def keeps (memory : Memory) (artifact : Artifact) : Bool :=
  artifact.kind == .classPartial && memory.files.has artifact.path

/-- A generated file would be replaced. -/
def clashes (memory : Memory) (artifact : Artifact) : Bool :=
  artifact.kind != .classPartial && memory.files.has artifact.path

/-- What rejects a plan: a clash, unless the run may overwrite. -/
def blocks (memory : Memory) (overwrite : Bool) (artifact : Artifact) : Bool :=
  !overwrite && memory.clashes artifact

/-- The plan that takes every artifact and keeps what hands may have changed. -/
def accept (memory : Memory) (artifacts : List Artifact) : Plan :=
  ⟨artifacts.map fun artifact =>
    ⟨artifact, if memory.keeps artifact then .keepExisting else .write⟩⟩

/-- The decision on rendered artifacts. -/
def verdict (memory : Memory) (overwrite : Bool) (artifacts : List Artifact) :
    Except Refusal Plan :=
  match artifacts.find? (memory.blocks overwrite) with
  | some artifact => .error (.conflict artifact.path)
  | none => .ok (memory.accept artifacts)

end Memory

variable (memory : Memory)

theorem inspect_memory (artifacts : List Artifact) :
    (inspect Memory.writer artifacts).run memory =
      (artifacts.map fun artifact => (artifact, memory.files.has artifact.path), memory) := by
  induction artifacts with
  | nil => rfl
  | cons artifact rest ih =>
    change ((artifact, memory.files.has artifact.path) ::
        ((inspect Memory.writer rest).run memory).1, ((inspect Memory.writer rest).run memory).2) = _
    rw [ih]
    rfl

theorem choose_memory (overwrite : Bool) (artifact : Artifact) :
    Action.choose overwrite artifact (memory.files.has artifact.path) =
      if memory.blocks overwrite artifact then .error (.conflict artifact.path)
      else .ok (if memory.keeps artifact then .keepExisting else .write) := by
  unfold Action.choose Memory.blocks Memory.clashes Memory.keeps ArtifactKind.isHandEditable bne
  cases artifact.kind == .classPartial <;> cases memory.files.has artifact.path <;>
    cases overwrite <;> rfl

/-- Artifacts are decided on one by one, so the first one that blocks is the one that is named. -/
theorem settle_memory (overwrite : Bool) (artifacts : List Artifact) :
    (settle overwrite (artifacts.map fun artifact => (artifact, memory.files.has artifact.path))).map
      Plan.mk = memory.verdict overwrite artifacts := by
  induction artifacts with
  | nil => rfl
  | cons artifact rest ih =>
    simp only [List.map_cons, settle, choose_memory, Memory.verdict] at ih ⊢
    by_cases blocked : memory.blocks overwrite artifact
    · rw [List.find?_cons_of_pos blocked, if_pos blocked]
      rfl
    · rw [List.find?_cons_of_neg blocked, if_neg blocked]
      change (settle overwrite _ >>= fun others => Except.ok (_ :: others)).map Plan.mk = _
      cases others : settle overwrite
          (rest.map fun artifact => (artifact, memory.files.has artifact.path)) with
      | error refusal =>
        rw [others] at ih
        change Except.error refusal = _ at ih ⊢
        rw [ih]
        split <;> simp_all
      | ok planned =>
        rw [others] at ih
        change Except.ok (Plan.mk planned) = _ at ih
        split at ih
        · cases ih
        · cases ih
          rfl

/-! ## The decision -/

theorem verdict_forced (artifacts : List Artifact) :
    memory.verdict true artifacts = .ok (memory.accept artifacts) := by
  have free : artifacts.find? (memory.blocks true) = none := by simp [Memory.blocks]
  rw [Memory.verdict, free]

theorem verdict_unforced (artifacts : List Artifact) :
    memory.verdict false artifacts =
      match artifacts.find? memory.clashes with
      | some artifact => .error (.conflict artifact.path)
      | none => .ok (memory.accept artifacts) := by
  have same : memory.blocks false = memory.clashes := by
    funext artifact
    simp [Memory.blocks]
  rw [Memory.verdict, same]

theorem verdict_ok {memory : Memory} {overwrite : Bool} {artifacts : List Artifact}
    {accepted : Plan}
    (ended : (memory.verdict overwrite artifacts).mapError RunError.refused = .ok accepted) :
    accepted = memory.accept artifacts := by
  unfold Memory.verdict at ended
  split at ended
  · cases ended
  · cases ended
    rfl

theorem accept_artifacts (artifacts : List Artifact) :
    (memory.accept artifacts).artifacts.map (·.artifact) = artifacts := by
  simp [Memory.accept, Function.comp_def]

theorem accept_actions (artifacts : List Artifact) :
    (memory.accept artifacts).artifacts.map (·.action) = artifacts.map fun artifact =>
      if artifact.kind = .classPartial ∧ memory.files.has artifact.path then .keepExisting
      else .write := by
  simp [Memory.accept, Memory.keeps, Function.comp_def]

/-! ## The planning pass -/

variable {σ : Type} (backend : Backend σ) (options : Options) (overwrite : Bool)
  (state : Cache × σ)

/-- A planning pass over a project in memory: what rendering leaves, and the decision on it. -/
theorem plan_memory :
    (plan backend options Memory.writer overwrite state).run memory =
      let rendered := (render options).run backend.cached state
      (⟨match rendered.result with
        | .error error => .error error
        | .ok artifacts => (memory.verdict overwrite artifacts).mapError .refused,
        rendered.messages, rendered.state⟩, memory) := by
  unfold plan
  dsimp only
  cases (render options).run backend.cached state with
  | mk result messages after =>
    cases result with
    | error error => rfl
    | ok artifacts =>
      change ((⟨((settle overwrite ((inspect Memory.writer artifacts).run memory).1).map
        Plan.mk).mapError RunError.refused, messages, after⟩ : Finished RunError Plan (Cache × σ)),
        ((inspect Memory.writer artifacts).run memory).2) = _
      rw [inspect_memory, settle_memory]

/-- An accepted plan takes everything that was rendered. -/
theorem plan_accepted {backend : Backend σ} {options : Options} {overwrite : Bool}
    {state : Cache × σ} {accepted : Plan}
    (ended : ((plan backend options Memory.writer overwrite state).run memory).1.result =
      .ok accepted) :
    ∃ artifacts, ((render options).run backend.cached state).result = .ok artifacts ∧
      Rendered options artifacts ∧ accepted = memory.accept artifacts := by
  rw [plan_memory] at ended
  dsimp only at ended
  split at ended
  · cases ended
  next artifacts made =>
    exact ⟨artifacts, made, .of_run made, verdict_ok ended⟩

/-! ## Plans over a snapshot -/

/-- The outcome of a planning pass over a snapshot of which `cache` is remembered. -/
def Memory.planOver (memory : Memory) (snapshot : Snapshot) (options : Options) (cache : Cache)
    (overwrite : Bool) : Except RunError Plan :=
  ((plan snapshot.backend options Memory.writer overwrite (cache, ())).run memory).1.result

/-- What is remembered of a snapshot makes no difference to a plan over it. -/
theorem planOver_eq {snapshot : Snapshot} {cache : Cache} (agrees : cache.Agrees snapshot)
    (options : Options) (overwrite : Bool) :
    memory.planOver snapshot options cache overwrite =
      match ((render options).run snapshot.backend ()).result with
      | .error error => .error error
      | .ok artifacts => (memory.verdict overwrite artifacts).mapError .refused := by
  obtain ⟨after, -, ended⟩ := (render options).run_cached agrees
  rw [Memory.planOver, plan_memory, ended]

theorem planOver_forced {snapshot : Snapshot} {options : Options} {artifacts : List Artifact}
    (rendered : ((render options).run snapshot.backend ()).result = .ok artifacts) {cache : Cache}
    (agrees : cache.Agrees snapshot) :
    memory.planOver snapshot options cache true = .ok (memory.accept artifacts) := by
  rw [planOver_eq memory agrees, rendered]
  dsimp only
  rw [verdict_forced]
  rfl

/-- Where rendering over a snapshot succeeds, an unforced plan is rejected exactly if a generated file
is there already, and names the first such file of the walk; a forced plan is always accepted. An
accepted plan holds all artifacts in walk order and keeps exactly the partials that are there, so
forcing changes nothing about a plan that is accepted without it. The caches stand for whatever
earlier runs over the snapshot have left. -/
theorem planOver_decision {snapshot : Snapshot} {options : Options} {artifacts : List Artifact}
    (rendered : ((render options).run snapshot.backend ()).result = .ok artifacts)
    (memory : Memory) {cache other : Cache} (agrees : cache.Agrees snapshot)
    (otherAgrees : other.Agrees snapshot) :
    (∀ artifact, artifacts.find? (fun one => one.kind != .classPartial && memory.files.has one.path) =
        some artifact →
      memory.planOver snapshot options cache false = .error (.refused (.conflict artifact.path))) ∧
    ((∀ artifact ∈ artifacts, artifact.kind = .classPartial ∨ ¬ memory.files.has artifact.path) →
      ∃ accepted, memory.planOver snapshot options cache false = .ok accepted) ∧
    (∃ accepted, memory.planOver snapshot options cache true = .ok accepted) ∧
    (∀ overwrite accepted, memory.planOver snapshot options cache overwrite = .ok accepted →
      accepted.artifacts.map (·.artifact) = artifacts ∧
      accepted.artifacts.map (·.action) = artifacts.map fun artifact =>
        if artifact.kind = .classPartial ∧ memory.files.has artifact.path then .keepExisting
        else .write) ∧
    (∀ accepted, memory.planOver snapshot options cache false = .ok accepted →
      memory.planOver snapshot options other true = .ok accepted) := by
  have unforced := planOver_eq memory agrees options false
  rw [rendered] at unforced
  dsimp only at unforced
  rw [verdict_unforced] at unforced
  refine ⟨?_, ?_, ⟨_, planOver_forced memory rendered agrees⟩, ?_, ?_⟩
  · intro artifact first
    rw [unforced, show artifacts.find? memory.clashes = some artifact from first]
    rfl
  · intro free
    have none_clashes : artifacts.find? memory.clashes = none := by
      rw [List.find?_eq_none]
      intro artifact member clash
      simp only [Memory.clashes, Bool.and_eq_true, bne_iff_ne] at clash
      rcases free artifact member with kind | absent
      · exact clash.1 kind
      · exact absent clash.2
    rw [unforced, none_clashes]
    exact ⟨_, rfl⟩
  · intro overwrite accepted ended
    rw [planOver_eq memory agrees, rendered] at ended
    rw [verdict_ok ended]
    exact ⟨accept_artifacts memory artifacts, accept_actions memory artifacts⟩
  · intro accepted ended
    rw [planOver_eq memory agrees, rendered] at ended
    rw [verdict_ok ended]
    exact planOver_forced memory rendered otherAgrees

/-! ## A sample -/

/-- Two classes whose names become one identifier. -/
def sampleSnapshot : Snapshot :=
  { objectTypes := [.real 0 "Document"]
    classes := [⟨1, "Invoice", 0, [], none, []⟩, ⟨2, "Invoice!", 0, [], none, []⟩] }

def sampleOptions : Options := { partials := true }

/-- Both files of one class are there already. -/
def sampleProject : Memory :=
  { files := [(⟨"Models/Invoice.cs"⟩, "// old"), (⟨"Models/Partials/Invoice.cs"⟩, "// by hand")] }

/-- What a run over the sample makes, in walk order. -/
def sampleArtifacts : List Artifact :=
  ((render sampleOptions).run sampleSnapshot.backend ()).result.toOption.getD []

theorem sample_rendered :
    ((render sampleOptions).run sampleSnapshot.backend ()).result = .ok sampleArtifacts := by
  have clear : sampleSnapshot.walkedAssociations.findSome? sampleSnapshot.fault? = none := by
    decide
  rw [sampleArtifacts, render_over, clear, withFault_none, Except.toOption, Option.getD_some]

theorem planOver_decision_sample :
    sampleProject.planOver sampleSnapshot sampleOptions [] false =
        .error (.refused (.conflict ⟨"Models/Invoice.cs"⟩)) ∧
      ∃ accepted, sampleProject.planOver sampleSnapshot sampleOptions [] true = .ok accepted ∧
        accepted.artifacts.map (·.action) = [.write, .write, .write, .write, .keepExisting] := by
  have agrees := Cache.agrees_empty sampleSnapshot
  obtain ⟨conflict, -, ⟨accepted, forced⟩, actions, -⟩ :=
    planOver_decision sample_rendered sampleProject agrees agrees
  have first : (sampleArtifacts.find? fun one =>
      one.kind != .classPartial && sampleProject.files.has one.path).map (·.path) =
        some ⟨"Models/Invoice.cs"⟩ := by decide +kernel
  obtain ⟨taken, found, target⟩ := Option.map_eq_some_iff.mp first
  refine ⟨?_, accepted, forced, ?_⟩
  · rw [← target]
    exact conflict taken found
  · rw [(actions true accepted forced).2]
    decide +kernel

end VaultModels.Project
