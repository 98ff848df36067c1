import Mathlib.Algebra.Ring.Nat
import VaultModels.Proofs.Project.Files
import VaultModels.Proofs.Project.Planning

/-!
# What applying a plan does

Applying hands the artifacts of a plan to the writer one by one. `applyFrom_append` says in full what
the part of a plan that meets no protected file does to a project in memory; what comes after it
goes on from there. A plan that is applied to the project it was made for is such a part as a whole.
-/
namespace VaultModels.Project

open Model Schema

/-! ## Many files at once -/

namespace Memory

/-- The files of some artifacts, put in order. -/
def putAll (memory : Memory) (artifacts : List Artifact) : Memory :=
  artifacts.foldl (fun before artifact => before.put artifact.path artifact.content) memory

variable {memory : Memory} {artifacts : List Artifact}

@[simp] theorem putAll_nil : memory.putAll [] = memory := rfl

@[simp] theorem putAll_cons (artifact : Artifact) : memory.putAll (artifact :: artifacts) =
    (memory.put artifact.path artifact.content).putAll artifacts := rfl

theorem putAll_get?_other {path : Path}
    (elsewhere : ∀ artifact ∈ artifacts, artifact.path.same path = false) :
    (memory.putAll artifacts).files.get? path = memory.files.get? path := by
  induction artifacts generalizing memory with
  | nil => rfl
  | cons artifact rest ih =>
    have later : ((memory.put artifact.path artifact.content).putAll rest).files.get? path =
        (memory.files.insert artifact.path artifact.content).get? path :=
      ih fun one member => elsewhere one (List.mem_cons_of_mem _ member)
    exact later.trans (FileMap.get?_insert_other (elsewhere artifact (by simp)) _ _)

theorem putAll_has {path : Path} (there : memory.files.has path) :
    (memory.putAll artifacts).files.has path := by
  induction artifacts generalizing memory with
  | nil => exact there
  | cons artifact rest ih =>
    apply ih
    simp [put, FileMap.has_insert, there]

theorem putAll_holds_other {path : Path} {content : String}
    (held : memory.files.Holds path content)
    (elsewhere : ∀ artifact ∈ artifacts, path.same artifact.path = false) :
    (memory.putAll artifacts).files.Holds path content := by
  induction artifacts generalizing memory with
  | nil => exact held
  | cons artifact rest ih =>
    apply ih
    · exact held.insert_other (elsewhere artifact (by simp)) artifact.content
    · exact fun one member => elsewhere one (List.mem_cons_of_mem _ member)

/-- With distinct targets no file is written over by a later one. -/
theorem putAll_holds (distinct : DistinctTargets artifacts) :
    ∀ artifact ∈ artifacts,
      (memory.putAll artifacts).files.Holds artifact.path artifact.content := by
  induction artifacts generalizing memory with
  | nil => simp
  | cons head rest ih =>
    obtain ⟨apart, others⟩ := List.pairwise_cons.mp distinct
    intro artifact member
    rcases List.mem_cons.mp member with rfl | tail
    · have stored : (memory.put artifact.path artifact.content).files.Holds artifact.path
          artifact.content := FileMap.holds_insert _ _ _
      have kept : ((memory.put artifact.path artifact.content).putAll rest).files.Holds
          artifact.path artifact.content := putAll_holds_other stored apart
      exact kept
    · exact ih others artifact tail

theorem putAll_self
    (held : ∀ artifact ∈ artifacts, memory.files.Holds artifact.path artifact.content) :
    memory.putAll artifacts = memory := by
  induction artifacts with
  | nil => rfl
  | cons artifact rest ih =>
    have same : memory.put artifact.path artifact.content = memory := by
      rw [put, show memory.files.insert artifact.path artifact.content = memory.files from
        held artifact (by simp)]
    rw [putAll_cons, same]
    exact ih fun one member => held one (List.mem_cons_of_mem _ member)

/-- The writer turns this artifact of a plan away: its file was not there to be kept when the plan
was made, and is there now. -/
def refuses (memory : Memory) (planned : PlannedArtifact) : Bool :=
  planned.action == .write && planned.artifact.kind.isHandEditable &&
    memory.files.has planned.artifact.path

/-- A file put elsewhere does not change what is turned away. -/
theorem refuses_put {path : Path} {planned : PlannedArtifact}
    (elsewhere : path.same planned.artifact.path = false) (memory : Memory) (content : String) :
    (memory.put path content).refuses planned = memory.refuses planned := by
  simp [refuses, put, FileMap.has_insert, elsewhere]

end Memory

/-! ## The artifacts of a plan -/

def PlannedArtifact.message (planned : PlannedArtifact) : Message :=
  match planned.action with
  | .write => addingMessage planned.artifact.path
  | .keepExisting => keepingMessage planned.artifact.path

def written (planned : List PlannedArtifact) : List Artifact :=
  (planned.filter (·.action == .write)).map (·.artifact)

def keptPaths (planned : List PlannedArtifact) : List Path :=
  (planned.filter (·.action == .keepExisting)).map (·.artifact.path)

section

variable (artifact : Artifact) (rest : List PlannedArtifact)

@[simp] theorem written_nil : written [] = [] := rfl

@[simp] theorem written_write :
    written (⟨artifact, .write⟩ :: rest) = artifact :: written rest := rfl

@[simp] theorem written_keep : written (⟨artifact, .keepExisting⟩ :: rest) = written rest := rfl

theorem mem_written {artifact : Artifact} {planned : List PlannedArtifact} :
    artifact ∈ written planned ↔
      ∃ one ∈ planned, one.action = .write ∧ one.artifact = artifact := by
  simp [written, and_assoc]

end

def resultOf (artifact : Artifact) : WriteResult :=
  .written artifact.path artifact.content.utf8ByteSize

/-- What applying reports when nothing is turned away. -/
def reportOf (planned : List PlannedArtifact) : Report :=
  ⟨(written planned).map resultOf, keptPaths planned⟩

/-- One report after the other. -/
def Report.append (first second : Report) : Report :=
  ⟨first.results ++ second.results, first.kept ++ second.kept⟩

section

variable (memory : Memory) (artifacts : List Artifact)

/-- An accepted plan writes what it does not keep. -/
theorem written_accept : written (memory.accept artifacts).artifacts =
    artifacts.filter fun artifact => !memory.keeps artifact := by
  have action (artifact : Artifact) :
      ((if memory.keeps artifact then Action.keepExisting else .write) == .write) =
        !memory.keeps artifact := by
    cases memory.keeps artifact <;> rfl
  simp [written, Memory.accept, List.filter_map, Function.comp_def, action]

theorem keptPaths_accept : keptPaths (memory.accept artifacts).artifacts =
    (artifacts.filter memory.keeps).map (·.path) := by
  have action (artifact : Artifact) :
      ((if memory.keeps artifact then Action.keepExisting else .write) == .keepExisting) =
        memory.keeps artifact := by
    cases memory.keeps artifact <;> rfl
  simp [keptPaths, Memory.accept, List.filter_map, Function.comp_def, action]

end

/-! ## Applying step by step -/

section

variable {ω : Type} (writer : Writer (StateM ω)) (artifact : Artifact)
  (rest : List PlannedArtifact) (start : ω)

theorem applyFrom_keep :
    (applyFrom writer (⟨artifact, .keepExisting⟩ :: rest)).run start =
      let later := (applyFrom writer rest).run start
      (later.1.after (keepingMessage artifact.path) (Report.addKept artifact.path), later.2) := rfl

theorem applyFrom_write :
    (applyFrom writer (⟨artifact, .write⟩ :: rest)).run start =
      match (writer.write artifact).run start with
      | (.error error, next) => (⟨.error error, [addingMessage artifact.path]⟩, next)
      | (.ok result, next) =>
        let later := (applyFrom writer rest).run next
        (later.1.after (addingMessage artifact.path) (Report.addResult result), later.2) := by
  rw [applyFrom, StateT.run_bind]
  rcases (writer.write artifact).run start with ⟨error | result, next⟩ <;> rfl

end

theorem Memory.writer_write (memory : Memory) (artifact : Artifact) :
    (Memory.writer.write artifact).run memory = memory.write artifact := rfl

theorem write_free {memory : Memory} {artifact : Artifact}
    (free : memory.refuses ⟨artifact, .write⟩ = false) :
    memory.write artifact =
      (.ok (resultOf artifact), memory.put artifact.path artifact.content) := by
  unfold Memory.write
  rw [if_neg]
  · rfl
  · simpa [Memory.refuses] using free

/-- The part of a plan of which nothing is turned away is written and kept as planned, and applying
goes on with the rest from there. -/
theorem applyFrom_append (front rest : List PlannedArtifact) (memory : Memory)
    (distinct : DistinctTargets (front.map (·.artifact)))
    (free : ∀ planned ∈ front, memory.refuses planned = false) :
    (applyFrom Memory.writer (front ++ rest)).run memory =
      let later := (applyFrom Memory.writer rest).run (memory.putAll (written front))
      (⟨later.1.result.map (reportOf front).append,
        front.map PlannedArtifact.message ++ later.1.messages⟩, later.2) := by
  induction front generalizing memory with
  | nil =>
    rw [List.nil_append, written_nil, Memory.putAll_nil]
    rcases (applyFrom Memory.writer rest).run memory with ⟨⟨error | report, messages⟩, after⟩ <;> rfl
  | cons head front ih =>
    obtain ⟨apart, others⟩ := List.pairwise_cons.mp distinct
    rcases head with ⟨artifact, action⟩
    cases action with
    | keepExisting =>
      have later := ih memory others fun one member => free one (List.mem_cons_of_mem _ member)
      rw [List.cons_append, applyFrom_keep, later, written_keep]
      rcases (applyFrom Memory.writer rest).run (memory.putAll (written front)) with
        ⟨⟨error | report, messages⟩, after⟩ <;> rfl
    | write =>
      have later := ih (memory.put artifact.path artifact.content) others fun one member => by
        rw [Memory.refuses_put]
        · exact free one (List.mem_cons_of_mem _ member)
        · exact apart _ (List.mem_map_of_mem member)
      rw [List.cons_append, applyFrom_write, Memory.writer_write, write_free (free _ (by simp))]
      dsimp only
      rw [later, written_write, Memory.putAll_cons]
      rcases (applyFrom Memory.writer rest).run
        ((memory.put artifact.path artifact.content).putAll (written front)) with
        ⟨⟨error | report, messages⟩, after⟩ <;> rfl

/-! ## Plans on their own project -/

section

variable (memory : Memory) (artifacts : List Artifact)

/-- Whatever would be turned away is kept instead. -/
theorem accept_free : ∀ planned ∈ (memory.accept artifacts).artifacts,
    memory.refuses planned = false := by
  intro planned member
  obtain ⟨artifact, -, rfl⟩ := List.mem_map.mp member
  cases kept : memory.keeps artifact <;>
    simp_all [Memory.refuses, Memory.keeps, ArtifactKind.isHandEditable]

/-- Nothing stops an accepted plan on the project it was made for. -/
theorem apply_accept (distinct : DistinctTargets artifacts) :
    ((memory.accept artifacts).apply Memory.writer).run memory =
      (⟨.ok (reportOf (memory.accept artifacts).artifacts),
        (memory.accept artifacts).artifacts.map PlannedArtifact.message⟩,
        memory.putAll (written (memory.accept artifacts).artifacts)) := by
  have applied := applyFrom_append (memory.accept artifacts).artifacts [] memory
    (by rwa [accept_artifacts]) (accept_free memory artifacts)
  have nothing (last : Memory) : (applyFrom Memory.writer []).run last = (⟨.ok {}, []⟩, last) := rfl
  rw [List.append_nil, nothing] at applied
  rw [Plan.apply, applied]
  simp [reportOf, Report.append, Except.map]

end

/-- A plan that was accepted over a project in memory can be applied to it: every planned file is
written or kept as planned, no other file changes, and the report lists both in plan order with the
bytes of their UTF-8 text. Planning itself has left the project as it was. -/
theorem accepted_plan_applies {σ : Type} (backend : Backend σ) (options : Options)
    (overwrite : Bool) (state : Cache × σ) (memory : Memory) (accepted : Plan)
    (ended : ((plan backend options Memory.writer overwrite state).run memory).1.result =
      .ok accepted) :
    ((plan backend options Memory.writer overwrite state).run memory).2 = memory ∧
    ∃ report messages after,
      (accepted.apply Memory.writer).run memory = (⟨.ok report, messages⟩, after) ∧
      (∀ planned ∈ accepted.artifacts, planned.action = .write →
        after.files.get? planned.artifact.path = some planned.artifact.content) ∧
      (∀ path, (∀ planned ∈ accepted.artifacts, planned.action = .write →
          planned.artifact.path.same path = false) →
        after.files.get? path = memory.files.get? path) ∧
      report.results = (accepted.artifacts.filter (·.action == .write)).map (fun planned =>
        .written planned.artifact.path planned.artifact.content.utf8ByteSize) ∧
      report.kept = (accepted.artifacts.filter (·.action == .keepExisting)).map
        (·.artifact.path) ∧
      report.bytesWritten = ((accepted.artifacts.filter (·.action == .write)).map
        (·.artifact.content.utf8ByteSize)).sum := by
  obtain ⟨artifacts, -, rendered, rfl⟩ := plan_accepted memory ended
  have distinct : DistinctTargets (written (memory.accept artifacts).artifacts) := by
    rw [written_accept]
    exact rendered.distinct.sublist List.filter_sublist
  refine ⟨by rw [plan_memory], _, _, _, apply_accept memory artifacts rendered.distinct,
    ?_, ?_, ?_, rfl, ?_⟩
  · intro planned member write
    exact (Memory.putAll_holds distinct _ (mem_written.mpr ⟨planned, member, write, rfl⟩)).get?
  · intro path elsewhere
    apply Memory.putAll_get?_other
    intro artifact member
    obtain ⟨planned, inside, write, rfl⟩ := mem_written.mp member
    exact elsewhere planned inside write
  · simp [reportOf, written, resultOf, Function.comp_def]
  · simp [Report.bytesWritten, List.sum_eq_foldr, reportOf, written, resultOf, WriteResult.bytes,
      Function.comp_def]

theorem accepted_plan_applies_sample :
    ∃ report messages after,
      ((sampleProject.accept sampleArtifacts).apply Memory.writer).run sampleProject =
        (⟨.ok report, messages⟩, after) ∧
      report.kept = [⟨"Models/Partials/Invoice.cs"⟩] ∧
      after.files.get? ⟨"Models/Partials/Invoice.cs"⟩ = some "// by hand" := by
  have agrees := Cache.agrees_empty sampleSnapshot
  obtain ⟨-, report, messages, after, applied, -, others, -, kept, -⟩ :=
    accepted_plan_applies sampleSnapshot.backend sampleOptions true ([], ()) sampleProject _
      (planOver_forced sampleProject sample_rendered agrees)
  refine ⟨report, messages, after, applied, ?_, ?_⟩
  · rw [kept]
    decide +kernel
  · rw [others _ (by decide +kernel)]
    decide

end VaultModels.Project
