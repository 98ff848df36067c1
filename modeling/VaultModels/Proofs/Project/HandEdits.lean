import VaultModels.Proofs.Project.Generating

/-!
# Hand-edited files

A file among the partials outlives every sequence of runs with its content. Two guards share the
work: a generated file never has a path there, whatever its extension, and the writer turns a partial
away where a file is. So a plan may be as old as it likes, and the project that it was made over need
not be the one that it is applied to. Files elsewhere are not protected.
-/
namespace VaultModels

open Model Schema

/-- An artifact that replaces no file among the partials: it goes elsewhere, or the writer looks
whether there is one. -/
def Model.Artifact.Spares (artifact : Artifact) : Prop :=
  artifact.kind.isHandEditable ∨ ¬ artifact.path.InPartials

theorem Model.Artifact.IsPlaced.spares {options : Options} {artifact : Artifact}
    (placed : artifact.IsPlaced options) : artifact.Spares := by
  obtain ⟨stem, valid, target⟩ := placed
  by_cases editable : artifact.kind.isHandEditable
  · exact .inl editable
  · right
    rw [target, if_neg editable]
    exact options.not_inPartials_modelPath valid

namespace Project

/-- Some planning pass has accepted this plan, over whatever project it saw. -/
def Plan.IsMade (accepted : Plan) : Prop :=
  ∃ (σ : Type) (backend : Backend σ) (options : Options) (overwrite : Bool) (state : Cache × σ)
    (seen : Memory),
    ((plan backend options Memory.writer overwrite state).run seen).1.result = .ok accepted

theorem Plan.IsMade.spares {accepted : Plan} (made : accepted.IsMade) :
    ∀ planned ∈ accepted.artifacts, planned.artifact.Spares := by
  obtain ⟨σ, backend, options, overwrite, state, seen, ended⟩ := made
  obtain ⟨artifacts, -, rendered, rfl⟩ := plan_accepted seen ended
  intro planned member
  have inside : planned.artifact ∈ artifacts := by
    rw [← accept_artifacts seen artifacts]
    exact List.mem_map_of_mem member
  exact (rendered.placed planned.artifact inside).spares

/-! ## One file -/

section

variable {memory : Memory} {path : Path} {content : String}

/-- What the writer accepts among the partials is a new file. -/
theorem write_partial {artifact : Artifact} (spares : artifact.Spares) (inside : path.InPartials)
    (there : memory.files.get? path = some content) :
    (memory.write artifact).2.files.get? path = some content := by
  unfold Memory.write
  split
  · exact there
  next accepted =>
    change (memory.files.insert artifact.path artifact.content).get? path = some content
    rw [FileMap.get?_insert, if_neg]
    · exact there
    · intro target
      have taken : memory.files.has artifact.path := by
        simp [FileMap.has, FileMap.get?_congr target, there]
      have within : artifact.path.InPartials := by
        rwa [Path.InPartials, (Path.same_iff _ _).mp target]
      rcases spares with editable | elsewhere
      · exact accepted ⟨editable, taken⟩
      · exact elsewhere within

/-- Applying goes file by file and stops early at worst. -/
theorem applyFrom_partial {planned : List PlannedArtifact}
    (spares : ∀ one ∈ planned, one.artifact.Spares) (inside : path.InPartials)
    (there : memory.files.get? path = some content) :
    ((applyFrom Memory.writer planned).run memory).2.files.get? path = some content := by
  induction planned generalizing memory with
  | nil => exact there
  | cons head rest ih =>
    have others := fun one member => spares one (List.mem_cons_of_mem head member)
    have first := spares head List.mem_cons_self
    rcases head with ⟨artifact, action⟩
    cases action with
    | keepExisting =>
      rw [applyFrom_keep]
      exact ih others there
    | write =>
      have next : (memory.write artifact).2.files.get? path = some content :=
        write_partial first inside there
      rw [applyFrom_write, Memory.writer_write]
      generalize memory.write artifact = stored at next ⊢
      rcases stored with ⟨error | result, after⟩
      · exact next
      · exact ih others next

end

/-! ## Many runs -/

/-- What a user may let run on a project. A plan may stem from any planning pass, at any time. -/
inductive Step : Type 1 where
  | plan {σ : Type} (backend : Backend σ) (options : Options) (overwrite : Bool) (state : Cache × σ)
  | apply (accepted : Plan) (made : accepted.IsMade)
  | generate {σ : Type} (backend : Backend σ) (options : Options) (overwrite : Bool)
    (state : Cache × σ)

/-- The project after a step, whether it succeeds or not. -/
def Step.run (memory : Memory) : Step → Memory
  | .plan backend options overwrite state =>
    ((Project.plan backend options Memory.writer overwrite state).run memory).2
  | .apply accepted _ => ((accepted.apply Memory.writer).run memory).2
  | .generate backend options overwrite state =>
    ((Project.generate backend options Memory.writer overwrite state).run memory).2

/-- The project after some steps in order. -/
def Step.runAll (memory : Memory) (steps : List Step) : Memory := steps.foldl Step.run memory

theorem Step.run_partial (step : Step) {memory : Memory} {path : Path} {content : String}
    (inside : path.InPartials) (there : memory.files.get? path = some content) :
    (step.run memory).files.get? path = some content := by
  cases step with
  | plan backend options overwrite state =>
    rw [Step.run, plan_memory]
    exact there
  | apply accepted made => exact applyFrom_partial made.spares inside there
  | generate backend options overwrite state =>
    cases ended :
        ((Project.plan backend options Memory.writer overwrite state).run memory).1.result with
    | error error =>
      rw [Step.run, generate_rejected ended]
      exact there
    | ok accepted =>
      have made : accepted.IsMade := ⟨_, backend, options, overwrite, state, memory, ended⟩
      rw [Step.run, generate_run]
      dsimp only
      rw [ended, plan_memory]
      exact applyFrom_partial made.spares inside there

/-- A file among the partials has its content after every step of every sequence of runs, over any
backends, with any options, forced or not, failing or not, and with plans of any age. -/
theorem partial_outlives (steps : List Step) (memory : Memory) {path : Path} {content : String}
    (inside : path.InPartials) (there : memory.files.get? path = some content) :
    ∀ count, (Step.runAll memory (steps.take count)).files.get? path = some content := by
  induction steps generalizing memory with
  | nil =>
    intro count
    rw [List.take_nil]
    exact there
  | cons step rest ih =>
    intro count
    cases count with
    | zero => exact there
    | succ count => exact ih (step.run memory) (step.run_partial inside there) count

/-- The old plan is one to write the file: it was made when nothing was there. -/
theorem partial_outlives_old_plan :
    (⟨"Models/Partials/Invoice.cs"⟩ : Path).InPartials ∧
    ∃ (accepted : Plan) (made : accepted.IsMade),
      (accepted.artifacts.any fun planned =>
        planned.action == .write && planned.artifact.path == ⟨"Models/Partials/Invoice.cs"⟩) ∧
      ∀ count, (Step.runAll sampleProject ([
          .generate sampleSnapshot.backend sampleOptions true ([], ()),
          .apply accepted made,
          .plan sampleSnapshot.backend sampleOptions false ([], ())].take count)).files.get?
        ⟨"Models/Partials/Invoice.cs"⟩ = some "// by hand" := by
  have inside : (⟨"Models/Partials/Invoice.cs"⟩ : Path).InPartials := by decide
  have made : (({} : Memory).accept sampleArtifacts).IsMade :=
    ⟨Unit, sampleSnapshot.backend, sampleOptions, true, ([], ()), {},
      planOver_forced {} sample_rendered (Cache.agrees_empty sampleSnapshot)⟩
  exact ⟨inside, _, made, by decide +kernel, partial_outlives _ _ inside (by decide)⟩

end Project

end VaultModels
