import VaultModels.Proofs.Project.Generating

/-!
# Runs after a run

What a run over a snapshot leaves is a fixed point of the forced run with the same options: every
generated file already holds what would be written, byte for byte and entry for entry, and every
partial is there to be kept. Without force the next run stops at its first artifact, the shared
wrapper. The runs may come from one orchestrator or from several.
-/
namespace VaultModels.Project

open Model Schema

/-- The project after a run that carries out its plan for `artifacts`. -/
def Memory.carryOut (memory : Memory) (artifacts : List Artifact) : Memory :=
  memory.putAll (written (memory.accept artifacts).artifacts)

variable {memory : Memory} {artifacts : List Artifact}

theorem carryOut_holds (distinct : DistinctTargets artifacts) {artifact : Artifact}
    (member : artifact ∈ artifacts) (fresh : memory.keeps artifact = false) :
    (memory.carryOut artifacts).files.Holds artifact.path artifact.content := by
  unfold Memory.carryOut
  rw [written_accept]
  apply Memory.putAll_holds (distinct.sublist List.filter_sublist)
  exact List.mem_filter.mpr ⟨member, by simp [fresh]⟩

/-- After a run every artifact has its file, written or kept. -/
theorem carryOut_has (memory : Memory) (distinct : DistinctTargets artifacts) :
    ∀ artifact ∈ artifacts, (memory.carryOut artifacts).files.has artifact.path := by
  intro artifact member
  cases kept : memory.keeps artifact with
  | true =>
    simp only [Memory.keeps, Bool.and_eq_true] at kept
    exact Memory.putAll_has kept.2
  | false =>
    have read := (carryOut_holds distinct member kept).get?
    simp [FileMap.has, read]

/-- Where all files are there, exactly the partials are kept. -/
theorem keeps_of_has (there : ∀ artifact ∈ artifacts, memory.files.has artifact.path) :
    ∀ artifact ∈ artifacts, memory.keeps artifact = (artifact.kind == .classPartial) := by
  intro artifact member
  simp [Memory.keeps, there artifact member]

/-- The second run writes over each file what it holds already. -/
theorem carryOut_again (distinct : DistinctTargets artifacts) :
    (memory.carryOut artifacts).carryOut artifacts = memory.carryOut artifacts := by
  have kept := keeps_of_has (carryOut_has memory distinct)
  apply Memory.putAll_self
  rw [written_accept]
  intro artifact member
  obtain ⟨inside, free⟩ := List.mem_filter.mp member
  apply carryOut_holds distinct inside
  rw [kept artifact inside] at free
  simp_all [Memory.keeps]

/-- Where all files are there, a plan writes the generated ones and keeps the partials. -/
theorem reportOf_again (there : ∀ artifact ∈ artifacts, memory.files.has artifact.path) :
    (reportOf (memory.accept artifacts).artifacts).kept =
        (artifacts.filter (·.kind == .classPartial)).map (·.path) ∧
      (reportOf (memory.accept artifacts).artifacts).results =
        (artifacts.filter (·.kind != .classPartial)).map resultOf := by
  have kept := keeps_of_has there
  have generated : ∀ artifact ∈ artifacts,
      (!memory.keeps artifact) = (artifact.kind != .classPartial) := by
    intro artifact member
    rw [kept artifact member]
    rfl
  unfold reportOf
  rw [keptPaths_accept, written_accept, List.filter_congr kept, List.filter_congr generated]
  exact ⟨rfl, rfl⟩

/-! ## Runs over a snapshot -/

/-- A run over a snapshot of which `cache` is remembered, and the project that it leaves. -/
def Memory.generateOver (memory : Memory) (snapshot : Snapshot) (options : Options) (cache : Cache)
    (overwrite : Bool) : Finished RunError Report (Cache × Unit) × Memory :=
  (generate snapshot.backend options Memory.writer overwrite (cache, ())).run memory

section

variable {snapshot : Snapshot} {options : Options} {cache : Cache} {overwrite : Bool}

/-- What a run over a snapshot leaves remembered is right about the snapshot. -/
theorem generateOver_remembers (memory : Memory) (options : Options) (overwrite : Bool)
    (agrees : cache.Agrees snapshot) :
    (memory.generateOver snapshot options cache overwrite).1.state.1.Agrees snapshot := by
  obtain ⟨after, fits, ended⟩ := (render options).run_cached agrees
  have kept : (memory.generateOver snapshot options cache overwrite).1.state = (after, ()) := by
    rw [Memory.generateOver, generate_run, plan_memory, ended]
    dsimp only
    split <;> rfl
  rwa [kept]

theorem generateOver_accepted
    (ended : memory.planOver snapshot options cache overwrite = .ok (memory.accept artifacts)) :
    (memory.generateOver snapshot options cache overwrite).1.result =
        .ok (reportOf (memory.accept artifacts).artifacts) ∧
      (memory.generateOver snapshot options cache overwrite).2 = memory.carryOut artifacts := by
  rw [Memory.generateOver, generate_accepted ended]
  exact ⟨rfl, rfl⟩

theorem generateOver_rejected {error : RunError}
    (ended : memory.planOver snapshot options cache overwrite = .error error) :
    (memory.generateOver snapshot options cache overwrite).1.result = .error error ∧
      (memory.generateOver snapshot options cache overwrite).2 = memory ∧
      ∀ message ∈ (memory.generateOver snapshot options cache overwrite).1.messages,
        message.isProgress = false := by
  rw [Memory.generateOver, generate_rejected ended]
  exact ⟨rfl, rfl, plan_messages⟩

theorem generateOver_ok (agrees : cache.Agrees snapshot) {report : Report}
    (ended : (memory.generateOver snapshot options cache overwrite).1.result = .ok report) :
    ∃ artifacts, ((render options).run snapshot.backend ()).result = .ok artifacts ∧
      (memory.generateOver snapshot options cache overwrite).2 = memory.carryOut artifacts := by
  cases planned : memory.planOver snapshot options cache overwrite with
  | error error =>
    rw [(generateOver_rejected planned).1] at ended
    cases ended
  | ok accepted =>
    have decided := planned
    rw [planOver_eq memory agrees] at decided
    split at decided
    · cases decided
    next artifacts made =>
      rw [verdict_ok decided] at planned
      exact ⟨artifacts, made, (generateOver_accepted planned).2⟩

/-- The forced run on the project that a run with the same artifacts has left. -/
theorem generateOver_again (memory : Memory) (agrees : cache.Agrees snapshot)
    (made : ((render options).run snapshot.backend ()).result = .ok artifacts) :
    ((memory.carryOut artifacts).generateOver snapshot options cache true).1.result =
        .ok (reportOf ((memory.carryOut artifacts).accept artifacts).artifacts) ∧
      ((memory.carryOut artifacts).generateOver snapshot options cache true).2 =
        memory.carryOut artifacts := by
  have rendered := Rendered.of_run made
  have ended := generateOver_accepted (planOver_forced (memory.carryOut artifacts) made agrees)
  rwa [carryOut_again rendered.distinct] at ended

/-- With the shared wrapper there, an unforced run is refused at once. -/
theorem planOver_wrapper_conflict (agrees : cache.Agrees snapshot)
    (made : ((render options).run snapshot.backend ()).result = .ok artifacts)
    (there : ∀ artifact ∈ artifacts, memory.files.has artifact.path) :
    memory.planOver snapshot options cache false =
      .error (.refused (.conflict ⟨"Models/ObjVerEx." ++ options.extension⟩)) := by
  have rendered := Rendered.of_run made
  obtain ⟨rest, rfl⟩ := List.head?_eq_some_iff.mp rendered.first
  have clash : memory.clashes (sharedWrapper options) := by
    rw [Memory.clashes, there (sharedWrapper options) (by simp)]
    rfl
  have target : (sharedWrapper options).path = ⟨"Models/ObjVerEx." ++ options.extension⟩ :=
    options.modelPath_text (by decide +kernel : Name.isValid wrapperName)
  rw [planOver_eq memory agrees, made]
  dsimp only
  rw [verdict_unforced, List.find?_cons_of_pos clash, ← target]
  rfl

end

/-- A run over a snapshot fails exactly with the errors of its planning pass, and then leaves the
project as it was and has sent no progress line. If it succeeds, a forced run with the same options
succeeds too, keeps every partial, writes everything else and leaves the project as it found it,
while an unforced one is refused over the shared wrapper and changes nothing. The caches stand for
whatever earlier runs over the snapshot have left. -/
theorem generateOver_twice (snapshot : Snapshot) (options : Options) (memory : Memory)
    (overwrite : Bool) (cache later : Cache) (agrees : cache.Agrees snapshot)
    (laterAgrees : later.Agrees snapshot) :
    let first := memory.generateOver snapshot options cache overwrite
    (∀ error, memory.planOver snapshot options cache overwrite = .error error ↔
      first.1.result = .error error) ∧
    (∀ error, first.1.result = .error error →
      first.2 = memory ∧ ∀ message ∈ first.1.messages, message.channel ≠ .info) ∧
    (∀ report, first.1.result = .ok report →
      ∃ artifacts, ((render options).run snapshot.backend ()).result = .ok artifacts ∧
      (∃ again, (first.2.generateOver snapshot options later true).1.result = .ok again ∧
        again.kept = (artifacts.filter (·.kind == .classPartial)).map (·.path) ∧
        again.results = (artifacts.filter (·.kind != .classPartial)).map (fun artifact =>
          .written artifact.path artifact.content.utf8ByteSize)) ∧
      (first.2.generateOver snapshot options later true).2 = first.2 ∧
      (first.2.generateOver snapshot options later false).1.result =
        .error (.refused (.conflict ⟨"Models/ObjVerEx." ++ options.extension⟩)) ∧
      (first.2.generateOver snapshot options later false).2 = first.2) := by
  intro first
  refine ⟨fun error => (generate_error_iff error).symm, ?_, ?_⟩
  · intro error failed
    obtain ⟨-, unchanged, told⟩ := generateOver_rejected ((generate_error_iff error).mp failed)
    refine ⟨unchanged, fun message member => ?_⟩
    simpa [Message.isProgress] using told message member
  · intro report succeeded
    obtain ⟨artifacts, made, left⟩ := generateOver_ok agrees succeeded
    have rendered := Rendered.of_run made
    have there := carryOut_has memory rendered.distinct
    obtain ⟨again, unchanged⟩ := generateOver_again memory laterAgrees made
    obtain ⟨refused, same, -⟩ :=
      generateOver_rejected (planOver_wrapper_conflict laterAgrees made there)
    refine ⟨artifacts, made, ?_⟩
    rw [show first.2 = memory.carryOut artifacts from left]
    exact ⟨⟨_, again, reportOf_again there⟩, unchanged, refused, same⟩

/-- The second run goes on from the cache of the first. -/
theorem generateOver_twice_sample :
    let first := sampleProject.generateOver sampleSnapshot sampleOptions [] true
    ∃ report again, first.1.result = .ok report ∧
      (first.2.generateOver sampleSnapshot sampleOptions first.1.state.1 true).1.result = .ok again ∧
      again.kept = [⟨"Models/Partials/Invoice.cs"⟩] ∧
      (first.2.generateOver sampleSnapshot sampleOptions first.1.state.1 true).2 = first.2 ∧
      (first.2.generateOver sampleSnapshot sampleOptions first.1.state.1 false).1.result =
        .error (.refused (.conflict ⟨"Models/ObjVerEx.cs"⟩)) := by
  dsimp only
  have agrees := Cache.agrees_empty sampleSnapshot
  have forced := planOver_forced sampleProject sample_rendered agrees
  obtain ⟨succeeded, -⟩ := generateOver_accepted forced
  have remembered := generateOver_remembers sampleProject sampleOptions true agrees
  obtain ⟨-, -, later⟩ :=
    generateOver_twice sampleSnapshot sampleOptions sampleProject true [] _ agrees remembered
  obtain ⟨artifacts, made, ⟨again, repeated, kept, -⟩, same, refused, -⟩ := later _ succeeded
  obtain rfl : sampleArtifacts = artifacts := Except.ok.inj (sample_rendered.symm.trans made)
  refine ⟨_, again, succeeded, repeated, ?_, same, refused⟩
  rw [kept]
  decide +kernel

end VaultModels.Project
