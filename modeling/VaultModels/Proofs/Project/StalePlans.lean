import Mathlib.Data.List.Pairwise
import Mathlib.Data.List.TakeWhile
import VaultModels.Proofs.Project.HandEdits

/-!
# Plans of another project

A plan may be applied to a project that is not the one it was made for, or not any more. It runs into
nothing but a partial that is there by now: what stands before the first one is written, that one is
turned away, and nothing comes after it. What the plan was to keep is left alone, be it there or not.
-/
namespace VaultModels.Project

open Model Schema

/-! ## Up to the first artifact that is turned away -/

/-- The part of a plan before the first artifact that the writer turns away. -/
def Memory.passes (memory : Memory) (planned : List PlannedArtifact) : List PlannedArtifact :=
  planned.takeWhile fun one => !memory.refuses one

section

variable {memory : Memory} {planned : List PlannedArtifact}

theorem Memory.refuses_iff {one : PlannedArtifact} :
    memory.refuses one ↔ one.action = .write ∧ one.artifact.kind = .classPartial ∧
      memory.files.has one.artifact.path := by
  simp [Memory.refuses, ArtifactKind.isHandEditable, and_assoc]

theorem Memory.passes_free : ∀ one ∈ memory.passes planned, memory.refuses one = false := by
  intro one member
  simpa using List.mem_takeWhile_imp member

theorem Memory.passes_sublist : (memory.passes planned).Sublist planned :=
  List.takeWhile_sublist _

theorem Memory.passes_all (free : planned.find? memory.refuses = none) :
    memory.passes planned = planned := by
  refine List.takeWhile_eq_self_iff.mpr fun one member => ?_
  simpa using List.find?_eq_none.mp free one member

/-- The first artifact that is turned away stands right behind those that are not. -/
theorem Memory.passes_append {failing : PlannedArtifact}
    (first : planned.find? memory.refuses = some failing) :
    memory.refuses failing ∧ ∃ back, planned = memory.passes planned ++ failing :: back := by
  obtain ⟨refused, front, back, rfl, free⟩ := List.find?_eq_some_iff_append.mp first
  refine ⟨refused, back, ?_⟩
  rw [passes, List.takeWhile_append_of_pos free,
    List.takeWhile_cons_of_neg (by simp [refused]), List.append_nil]

theorem write_refused {failing : PlannedArtifact} (refused : memory.refuses failing) :
    failing.action = .write ∧ memory.write failing.artifact =
      (.error (.protectedPartial failing.artifact.path), memory) := by
  simp only [Memory.refuses, Bool.and_eq_true, beq_iff_eq] at refused
  refine ⟨refused.1.1, ?_⟩
  rw [Memory.write, if_pos ⟨refused.1.2, refused.2⟩]

/-- The host hears one progress line for each artifact that is to be written. -/
theorem progress_messages (planned : List PlannedArtifact) :
    (planned.map PlannedArtifact.message).filter (·.isProgress) =
      (written planned).map fun artifact => addingMessage artifact.path := by
  induction planned with
  | nil => rfl
  | cons one rest ih =>
    rcases one with ⟨artifact, action⟩
    cases action with
    | write =>
      rw [List.map_cons, List.filter_cons_of_pos (by rfl), ih]
      rfl
    | keepExisting =>
      rw [List.map_cons, List.filter_cons_of_neg (by exact Bool.false_ne_true), ih]
      rfl

/-! ## Applying -/

variable (distinct : DistinctTargets (planned.map (·.artifact)))

include distinct

/-- Where nothing is turned away the whole plan is carried out. -/
theorem applyFrom_passing (free : planned.find? memory.refuses = none) :
    (applyFrom Memory.writer planned).run memory =
      (⟨.ok (reportOf planned), planned.map PlannedArtifact.message⟩,
        memory.putAll (written planned)) := by
  have all : ∀ one ∈ planned, memory.refuses one = false := by
    rw [← Memory.passes_all free]
    exact Memory.passes_free
  have applied := applyFrom_append planned [] memory distinct all
  rw [List.append_nil] at applied
  rw [applied]
  change ((⟨.ok ((reportOf planned).append {}), _ ++ []⟩ : Applied), memory.putAll _) = _
  simp [Report.append, reportOf]

/-- The first artifact that is turned away ends the run; what is before it has been written. -/
theorem applyFrom_refused {failing : PlannedArtifact}
    (first : planned.find? memory.refuses = some failing) :
    (applyFrom Memory.writer planned).run memory =
      (⟨.error (.protectedPartial failing.artifact.path),
        (memory.passes planned).map PlannedArtifact.message ++
          [addingMessage failing.artifact.path]⟩,
        memory.putAll (written (memory.passes planned))) := by
  obtain ⟨refused, back, split⟩ := Memory.passes_append first
  have apart : DistinctTargets ((memory.passes planned).map (·.artifact)) :=
    distinct.sublist (Memory.passes_sublist.map _)
  -- files that are put before it have other paths, so it is turned away after them as well
  have still : (memory.putAll (written (memory.passes planned))).refuses failing := by
    simp only [Memory.refuses, Bool.and_eq_true] at refused ⊢
    exact ⟨refused.1, Memory.putAll_has refused.2⟩
  obtain ⟨action, stopped⟩ := write_refused still
  rcases failing with ⟨artifact, _⟩
  dsimp only at action stopped
  subst action
  have applied := applyFrom_append (memory.passes planned) (⟨artifact, .write⟩ :: back) memory apart
    Memory.passes_free
  rw [applyFrom_write, Memory.writer_write, stopped, ← split] at applied
  rw [applied]
  rfl

/-- Two artifacts of a plan go to different places. -/
theorem distinct_of_ne {one other : PlannedArtifact} (first : one ∈ planned)
    (second : other ∈ planned) (different : one ≠ other) :
    one.artifact.path.same other.artifact.path = false := by
  have symmetric : Std.Symm fun one other : PlannedArtifact =>
      one.artifact.path.same other.artifact.path = false :=
    ⟨fun one other apart => by rw [Path.same_comm, apart]⟩
  exact (List.pairwise_map.mp distinct).forall first second different

/-- Writing a part of a plan goes past what the plan keeps. -/
theorem putAll_get?_kept {front : List PlannedArtifact} (part : front.Sublist planned)
    {one : PlannedArtifact} (listed : one ∈ planned) (kept : one.action = .keepExisting) :
    (memory.putAll (written front)).files.get? one.artifact.path =
      memory.files.get? one.artifact.path := by
  refine Memory.putAll_get?_other fun artifact member => ?_
  obtain ⟨other, inFront, action, rfl⟩ := mem_written.mp member
  have different : other ≠ one := by
    rintro rfl
    simp [kept] at action
  exact distinct_of_ne distinct (part.subset inFront) listed different

end

theorem Plan.IsMade.distinct {accepted : Plan} (made : accepted.IsMade) :
    DistinctTargets (accepted.artifacts.map (·.artifact)) := by
  obtain ⟨σ, backend, options, overwrite, state, seen, ended⟩ := made
  obtain ⟨artifacts, -, rendered, rfl⟩ := plan_accepted seen ended
  rw [accept_artifacts]
  exact rendered.distinct

/-- Whatever the project has become, a plan that was made for some project fails on it exactly if a
partial that is to be written is there. Then the first such partial is the one that is named, the
project has the files that come before it in the plan and is the same otherwise, and the host has
heard of them and of that partial. What the plan keeps is never written. -/
theorem stale_plan_applies {accepted : Plan} (made : accepted.IsMade) (memory : Memory) :
    let outcome := (accepted.apply Memory.writer).run memory
    ((∃ error, outcome.1.result = .error error) ↔
      ∃ planned ∈ accepted.artifacts, planned.action = .write ∧
        planned.artifact.kind = .classPartial ∧ memory.files.has planned.artifact.path) ∧
    (∀ failing, accepted.artifacts.find? memory.refuses = some failing →
      let done := written (memory.passes accepted.artifacts)
      outcome.1.result = .error (.protectedPartial failing.artifact.path) ∧
      outcome.2 = memory.putAll done ∧
      outcome.1.messages.filter (·.isProgress) =
        (done ++ [failing.artifact]).map fun artifact => addingMessage artifact.path) ∧
    (accepted.artifacts.find? memory.refuses = none →
      outcome.1.result = .ok (reportOf accepted.artifacts) ∧
      outcome.2 = memory.putAll (written accepted.artifacts) ∧
      outcome.1.messages.filter (·.isProgress) =
        (written accepted.artifacts).map fun artifact => addingMessage artifact.path) ∧
    ∀ planned ∈ accepted.artifacts, planned.action = .keepExisting →
      outcome.2.files.get? planned.artifact.path = memory.files.get? planned.artifact.path := by
  have distinct := made.distinct
  refine ⟨?_, ?_, ?_, ?_⟩
  · cases first : accepted.artifacts.find? memory.refuses with
    | none =>
      rw [Plan.apply, applyFrom_passing distinct first]
      constructor
      · rintro ⟨error, ⟨⟩⟩
      · rintro ⟨planned, listed, refused⟩
        exact absurd (Memory.refuses_iff.mpr refused) (List.find?_eq_none.mp first planned listed)
    | some failing =>
      rw [Plan.apply, applyFrom_refused distinct first]
      exact iff_of_true ⟨_, rfl⟩ ⟨failing, List.mem_of_find?_eq_some first,
        Memory.refuses_iff.mp (List.find?_some first)⟩
  · intro failing first
    rw [Plan.apply, applyFrom_refused distinct first]
    refine ⟨rfl, rfl, ?_⟩
    rw [List.filter_append, progress_messages, List.map_append]
    rfl
  · intro free
    rw [Plan.apply, applyFrom_passing distinct free]
    exact ⟨rfl, rfl, progress_messages _⟩
  · intro planned listed kept
    cases first : accepted.artifacts.find? memory.refuses with
    | none =>
      rw [Plan.apply, applyFrom_passing distinct first]
      exact putAll_get?_kept distinct (List.Sublist.refl _) listed kept
    | some failing =>
      rw [Plan.apply, applyFrom_refused distinct first]
      exact putAll_get?_kept distinct Memory.passes_sublist listed kept

/-- A plan of the empty project, on one where its partial is there; and a plan that keeps the partial,
on the empty project. -/
theorem stale_plan_applies_sample :
    let fresh := ({} : Memory).accept sampleArtifacts
    let keeping := sampleProject.accept sampleArtifacts
    fresh.IsMade ∧ keeping.IsMade ∧
    ((fresh.apply Memory.writer).run sampleProject).1.result =
      .error (.protectedPartial ⟨"Models/Partials/Invoice.cs"⟩) ∧
    ((keeping.apply Memory.writer).run {}).2.files.get? ⟨"Models/Partials/Invoice.cs"⟩ = none := by
  intro fresh keeping
  have agrees := Cache.agrees_empty sampleSnapshot
  have freshMade : fresh.IsMade :=
    ⟨Unit, sampleSnapshot.backend, sampleOptions, true, ([], ()), {},
      planOver_forced {} sample_rendered agrees⟩
  have keepingMade : keeping.IsMade :=
    ⟨Unit, sampleSnapshot.backend, sampleOptions, true, ([], ()), sampleProject,
      planOver_forced sampleProject sample_rendered agrees⟩
  refine ⟨freshMade, keepingMade, ?_, ?_⟩
  · have first : (fresh.artifacts.find? sampleProject.refuses).map (·.artifact.path) =
        some ⟨"Models/Partials/Invoice.cs"⟩ := by decide +kernel
    obtain ⟨failing, found, target⟩ := Option.map_eq_some_iff.mp first
    rw [← target]
    exact ((stale_plan_applies freshMade sampleProject).2.1 failing found).1
  · have kept : (keeping.artifacts.find? (·.action == .keepExisting)).map (·.artifact.path) =
        some ⟨"Models/Partials/Invoice.cs"⟩ := by decide +kernel
    obtain ⟨planned, found, target⟩ := Option.map_eq_some_iff.mp kept
    have action : planned.action = .keepExisting := by simpa using List.find?_some found
    rw [← target]
    exact (stale_plan_applies keepingMade {}).2.2.2 planned (List.mem_of_find?_eq_some found) action

end VaultModels.Project
