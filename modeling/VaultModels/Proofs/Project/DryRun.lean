import Mathlib.Data.List.Forall2
import VaultModels.Proofs.Files.Growth
import VaultModels.Proofs.Project.Applying
import VaultModels.Proofs.Project.Confinement
import VaultModels.Proofs.Project.Looking

/-!
# Dry runs

A dry run and a real run over one project on disk come to the same, as far as making directories and
writing files does not fail: the one shows what the other writes. What the real run has written by then
never turns away a later artifact, since a file goes to a place of its own, and directories are made
above files only. The extension holds no separator, or a file could be in the way of another one.
-/
namespace VaultModels

namespace Project

open Files Model Schema

variable {options : Options}

/-! ## Projects on disk -/

/-- A root in a tree in which everything is in a directory. The root need not be there, but what there is
of it is settled: it goes up from nothing that is not there. One like `new/..`, with no `new`, leads
nowhere until that directory is made, and then to whatever is around it. -/
structure DiskProject where
  tree : Tree
  root : Path
  whole : tree.Whole
  settled : tree.Settled root

namespace DiskProject

variable (project : DiskProject)

def disk (isDryRun : Bool) : Disk := ⟨project.root, isDryRun⟩

def generate {σ : Type} (isDryRun : Bool) (backend : Backend σ) (options : Options)
    (overwrite : Bool) (state : Cache × σ) : Finished RunError Report (Cache × σ) × Tree :=
  (Project.generate backend options ((project.disk isDryRun).writer Tree.fileSystem) overwrite
    state).run project.tree

/-- Where the file of an artifact goes. -/
def pathOf (artifact : Artifact) : Path := project.root.join artifact.path

def placeOf (artifact : Artifact) : Place := project.tree.placeOf (project.pathOf artifact)

/-- Less deep than the files that are edited by hand. -/
def IsAbove (place : Place) : Prop :=
  place.length < (project.tree.placeOf project.root).length + 3

def IsFileOf (artifacts : List Artifact) (place : Place) : Prop :=
  ∃ artifact ∈ artifacts, place = project.placeOf artifact

variable {project} in
theorem IsFileOf.subset {artifacts more : List Artifact} {place : Place}
    (file : project.IsFileOf artifacts place) (part : artifacts ⊆ more) :
    project.IsFileOf more place := by
  obtain ⟨artifact, member, same⟩ := file
  exact ⟨artifact, part member, same⟩

/-- What a tree may become when these artifacts are written below the root. -/
abbrev Becomes (artifacts : List Artifact) (before after : Tree) : Prop :=
  Tree.Grows project.IsAbove (project.IsFileOf artifacts) before after

end DiskProject

/-- The file system has not done what it was asked for. -/
def WriteError.isFailure : WriteError → Bool
  | .createDirectory .. | .writeFile .. => true
  | .protectedPartial _ => false

/-! ## Places of files -/

section

variable (flat : Path.separator ∉ options.extension.toList) {artifact other : Artifact}

include flat

theorem placed_steps (placed : artifact.IsPlaced options) :
    artifact.path.components = artifact.path.steps.map .name ∧
      artifact.path.isAbsolute = false ∧ ".." ∉ artifact.path.steps ∧
      artifact.path.steps.length = if artifact.kind.isHandEditable then 3 else 2 := by
  have read : ∀ names : List String, artifact.path.components = names.map .name →
      artifact.path.components = artifact.path.steps.map .name ∧
        artifact.path.isAbsolute = false ∧ ".." ∉ artifact.path.steps ∧
        artifact.path.steps.length = names.length := by
    intro names only
    obtain ⟨relative, rfl, up⟩ := Path.steps_of_components only
    exact ⟨only, relative, up, rfl⟩
  obtain ⟨stem, valid, place⟩ := placed
  cases hand : artifact.kind.isHandEditable with
  | true =>
    rw [hand, if_pos rfl] at place
    exact read ["Models", "Partials", stem ++ "." ++ options.extension]
      (by rw [place, Options.partialPath_flat flat valid]; rfl)
  | false =>
    rw [hand, if_neg Bool.false_ne_true] at place
    exact read ["Models", stem ++ "." ++ options.extension]
      (by rw [place, Options.modelPath_flat flat valid]; rfl)

variable (project : DiskProject)

theorem placeOf_eq (placed : artifact.IsPlaced options) :
    project.placeOf artifact = project.tree.placeOf project.root ++ artifact.path.steps := by
  obtain ⟨-, relative, up, -⟩ := placed_steps flat placed
  rw [DiskProject.placeOf, DiskProject.pathOf, Tree.placeOf, Tree.start,
    Path.isAbsolute_join _ relative, Path.steps_join _ relative, Tree.walk, List.foldl_append]
  exact Tree.walk_names (Tree.steps_not_idle artifact.path) up _

/-- Files at one place have one path. -/
theorem same_of_placeOf (placed : artifact.IsPlaced options) (otherPlaced : other.IsPlaced options)
    (same : project.placeOf artifact = project.placeOf other) :
    artifact.path.same other.path := by
  rw [placeOf_eq flat project placed, placeOf_eq flat project otherPlaced] at same
  rw [Path.same_iff, (placed_steps flat placed).1, (placed_steps flat otherPlaced).1,
    List.append_cancel_left same]

theorem settled_pathOf (placed : artifact.IsPlaced options) :
    project.tree.Settled (project.pathOf artifact) := by
  obtain ⟨-, relative, up, -⟩ := placed_steps flat placed
  exact project.settled.join relative up

/-- An artifact goes to no place of artifacts with other paths. -/
theorem not_isFileOf {artifacts : List Artifact} (placed : artifact.IsPlaced options)
    (others : ∀ one ∈ artifacts, one.IsPlaced options ∧ one.path.same artifact.path = false) :
    ¬ project.IsFileOf artifacts (project.placeOf artifact) := by
  rintro ⟨one, member, same⟩
  obtain ⟨onePlaced, apart⟩ := others one member
  have equal := same_of_placeOf flat project onePlaced placed same.symm
  rw [apart] at equal
  cases equal

end

/-! ## Writing one file -/

section

variable {kept : Tree → Prop} {path : Path} {tree : Tree}

theorem prepare_keeps
    (makes : ∀ parent, path.parent? = some parent →
      ∀ fuel, ∀ above ∈ ancestors fuel parent, Keeps kept (Tree.fileSystem.makeDirectory above)) :
    Keeps kept (Disk.prepare Tree.fileSystem path) := by
  unfold Disk.prepare
  split
  · exact keeps_pure _
  next parent above =>
    refine Keeps.bind (fun _ held => held) fun isThere => ?_
    split
    · exact keeps_pure _
    · exact (ensureChain_keeps (makes parent above _)).bind fun _ => keeps_pure _

theorem prepare_error {error : WriteError}
    (ended : ((Disk.prepare Tree.fileSystem path).run tree).1 = .error error) : error.isFailure := by
  unfold Disk.prepare at ended
  split at ended
  · cases ended
  · change ((if tree.has _ then _ else _ : StateM Tree (Except WriteError Unit)).run tree).1 = _
      at ended
    split at ended
    · cases ended
    next parent _ _ =>
      change ((Tree.fileSystem.makeDirectories parent).run tree).1.mapError _ = _ at ended
      cases made : ((Tree.fileSystem.makeDirectories parent).run tree).1 with
      | ok done =>
        rw [made] at ended
        cases ended
      | error cause =>
        rw [made] at ended
        cases ended
        rfl

/-- Storing a file makes directories and then writes, or fails. -/
theorem store_ends (content : String) (prepares : Keeps kept (Disk.prepare Tree.fileSystem path))
    (held : kept tree) :
    (∃ error, ((Disk.store Tree.fileSystem path content).run tree).1 = .error error ∧
      error.isFailure) ∨
    ∃ between after, kept between ∧ between.write path content = .ok after ∧
      (Disk.store Tree.fileSystem path content).run tree =
        (.ok (.written path content.utf8ByteSize), after) := by
  have still := prepares tree held
  rw [Disk.store, StateT.run_bind]
  cases prepared : (Disk.prepare Tree.fileSystem path).run tree with
  | mk result between =>
    rw [prepared] at still
    cases result with
    | error error =>
      exact .inl ⟨error, rfl, prepare_error (congrArg Prod.fst prepared)⟩
    | ok done =>
      have handed : (Tree.fileSystem.write path content).run between =
          Tree.commit (between.write path content) between := rfl
      change (∃ error, (StateT.run (Tree.fileSystem.write path content >>= _) between).1 = _ ∧ _) ∨
        ∃ _ _, _ ∧ _ ∧ StateT.run (Tree.fileSystem.write path content >>= _) between = _
      rw [StateT.run_bind, handed]
      cases stored : between.write path content with
      | error cause => exact .inl ⟨.writeFile path cause, rfl, rfl⟩
      | ok after => exact .inr ⟨between, after, still, stored, rfl⟩

end

section

variable (project : DiskProject) (flat : Path.separator ∉ options.extension.toList)
  {artifact : Artifact} {artifacts : List Artifact} {tree : Tree}

include flat

/-- Directories are made above the place of the file, and there not even a partial is. -/
theorem prepare_becomes (placed : artifact.IsPlaced options)
    (grown : project.Becomes artifacts project.tree tree) :
    Keeps (project.Becomes [] tree) (Disk.prepare Tree.fileSystem (project.pathOf artifact)) := by
  obtain ⟨-, relative, up, depth⟩ := placed_steps flat placed
  have spelled : (project.pathOf artifact).steps = project.root.steps ++ artifact.path.steps :=
    Path.steps_join project.root relative
  have shallow : artifact.path.steps.length ≤ 3 ∧ artifact.path.steps.length ≠ 0 := by
    rw [depth]
    split <;> decide
  refine prepare_keeps fun parent direct fuel above listed => makeDirectory_keeps ?_
  intro before after held done
  refine held.trans (Tree.grows_makeDirectory done ?_)
  obtain ⟨steps, rooted⟩ := Path.steps_parent direct
  obtain ⟨start, front⟩ := ancestors_steps listed
  rw [steps] at front
  have shorter : above.steps.length < (project.pathOf artifact).steps.length := by
    have length := front.length_le
    rw [List.length_dropLast] at length
    rw [spelled, List.length_append] at length ⊢
    omega
  have settled := ((settled_pathOf flat project placed).grow grown).grow held
  obtain ⟨inside, proper⟩ := settled.makeDirectory_above (start.trans rooted)
    (front.trans (List.dropLast_prefix _)) (fun same => by rw [same] at shorter; omega) done
  have place : before.placeOf (project.pathOf artifact) = project.placeOf artifact :=
    (held.placeOf _).trans (grown.placeOf _)
  rw [place] at inside proper
  have lower := lt_of_le_of_ne inside.length_le (mt inside.eq_of_length proper)
  rw [placeOf_eq flat project placed, List.length_append] at lower
  rw [DiskProject.IsAbove]
  omega

/-- One file is written at its place, in a tree that has grown out of the project's. -/
theorem store_becomes (placed : artifact.IsPlaced options)
    (grown : project.Becomes artifacts project.tree tree) :
    let outcome := (Disk.store Tree.fileSystem (project.pathOf artifact) artifact.content).run tree
    (∃ error, outcome.1 = .error error ∧ error.isFailure) ∨
    ∃ after, outcome =
        (.ok (.written (project.pathOf artifact) artifact.content.utf8ByteSize), after) ∧
      project.Becomes [artifact] tree after ∧
      after.locate (project.pathOf artifact) =
        .ok (project.placeOf artifact, .file artifact.content) := by
  have prepares := prepare_becomes project flat placed grown
  rcases store_ends artifact.content prepares (.refl _ _ tree) with failed | stored
  · exact .inl failed
  · obtain ⟨between, after, made, done, ended⟩ := stored
    have place : between.placeOf (project.pathOf artifact) = project.placeOf artifact :=
      (made.placeOf _).trans (grown.placeOf _)
    refine .inr ⟨after, ended, ?_, place ▸ Tree.locate_of_write done⟩
    have widened : project.Becomes [artifact] tree between :=
      made.mono fun place inNone => by
        obtain ⟨_, member, -⟩ := inNone
        cases member
    exact widened.trans (Tree.grows_write done ⟨artifact, List.mem_singleton_self _, place⟩)

/-- A partial that was not there is still not there when other files have been written. -/
theorem has_eq_false_of_becomes (placed : artifact.IsPlaced options)
    (hand : artifact.kind.isHandEditable)
    (others : ∀ one ∈ artifacts, one.IsPlaced options ∧ one.path.same artifact.path = false)
    (grown : project.Becomes artifacts project.tree tree)
    (absent : project.tree.has (project.pathOf artifact) = false) :
    tree.has (project.pathOf artifact) = false := by
  obtain ⟨-, -, -, depth⟩ := placed_steps flat placed
  rw [hand, if_pos rfl] at depth
  refine grown.has_eq_false project.whole (settled_pathOf flat project placed) ?_ absent
  change tree.entry? (project.placeOf artifact) = project.tree.entry? (project.placeOf artifact)
  refine grown.unchanged ?_ (not_isFileOf flat project placed others)
  rw [DiskProject.IsAbove, placeOf_eq flat project placed, List.length_append]
  omega

end

/-! ## Applying a plan -/

/-- Where no partial is there, a dry run shows the file and a real one stores it. -/
theorem Disk.write_free (disk : Disk) {artifact : Artifact} {tree : Tree}
    (free : artifact.kind.isHandEditable → tree.has (disk.place artifact.path) = false) :
    ((disk.writer Tree.fileSystem).write artifact).run tree =
      if disk.isDryRun then
        (.ok (.preview (disk.place artifact.path) artifact.content), tree)
      else (Disk.store Tree.fileSystem (disk.place artifact.path) artifact.content).run tree := by
  change StateT.run (Disk.write Tree.fileSystem disk artifact) tree = _
  unfold Disk.write
  cases hand : artifact.kind.isHandEditable with
  | false => cases disk.isDryRun <;> rfl
  | true =>
    have looked : (Tree.fileSystem.exists? (disk.place artifact.path)).run tree = (false, tree) :=
      congrArg (·, tree) (free hand)
    rw [if_pos rfl, StateT.run_bind, looked]
    cases disk.isDryRun <;> rfl

section

variable (project : DiskProject) {planned : List PlannedArtifact}

/-- No partial that is to be written is there. -/
def DiskProject.Free (planned : List PlannedArtifact) : Prop :=
  ∀ one ∈ planned, one.action = .write → one.artifact.kind.isHandEditable →
    project.tree.has (project.pathOf one.artifact) = false

/-- A dry run shows what it would write, and leaves the tree as it is. -/
theorem applyFrom_dry (free : project.Free planned) :
    (applyFrom ((project.disk true).writer Tree.fileSystem) planned).run project.tree =
      (⟨.ok ⟨(written planned).map fun artifact =>
            .preview (project.pathOf artifact) artifact.content, keptPaths planned⟩,
        planned.map PlannedArtifact.message⟩, project.tree) := by
  induction planned with
  | nil => rfl
  | cons one rest ih =>
    unfold DiskProject.Free at free ih
    rw [List.forall_mem_cons] at free
    rcases one with ⟨artifact, action⟩
    cases action with
    | keepExisting =>
      rw [applyFrom_keep, ih free.2]
      rfl
    | write =>
      have shown : (((project.disk true).writer Tree.fileSystem).write artifact).run project.tree =
          (.ok (.preview (project.pathOf artifact) artifact.content), project.tree) :=
        (project.disk true).write_free (free.1 rfl)
      rw [applyFrom_write, shown]
      dsimp only
      rw [ih free.2]
      rfl

/-- How a real run from this tree may end: the file system fails, or all that is to be written is
written, and there to be read. -/
def DiskProject.Completes (planned : List PlannedArtifact) (tree : Tree)
    (outcome : Applied × Tree) : Prop :=
  (∃ error, outcome.1.result = .error error ∧ error.isFailure) ∨
  outcome.1.result = .ok ⟨(written planned).map fun artifact =>
      .written (project.pathOf artifact) artifact.content.utf8ByteSize, keptPaths planned⟩ ∧
    project.Becomes (written planned) tree outcome.2 ∧
    ∀ artifact ∈ written planned, outcome.2.locate (project.pathOf artifact) =
      .ok (project.placeOf artifact, .file artifact.content)

section

variable {project} {artifact : Artifact} {rest : List PlannedArtifact} {tree between : Tree}
  {outcome : Applied × Tree}

theorem DiskProject.Completes.keep (later : project.Completes rest tree outcome) :
    project.Completes (⟨artifact, .keepExisting⟩ :: rest) tree
      (outcome.1.after (keepingMessage artifact.path) (Report.addKept artifact.path),
        outcome.2) := by
  rcases later with ⟨error, failed, system⟩ | ⟨ended, grows, there⟩
  · exact .inl ⟨error, by rw [Applied.after, failed]; rfl, system⟩
  · exact .inr ⟨by rw [Applied.after, ended]; rfl, grows, there⟩

/-- The file that has been written is still to be read if no later one goes to its place. -/
theorem DiskProject.Completes.write (later : project.Completes rest between outcome)
    (grows : project.Becomes [artifact] tree between)
    (there : between.locate (project.pathOf artifact) =
      .ok (project.placeOf artifact, .file artifact.content))
    (apart : ¬ project.IsFileOf (written rest) (project.placeOf artifact)) :
    project.Completes (⟨artifact, .write⟩ :: rest) tree
      (outcome.1.after (addingMessage artifact.path) (Report.addResult
          (.written (project.pathOf artifact) artifact.content.utf8ByteSize)), outcome.2) := by
  rcases later with ⟨error, failed, system⟩ | ⟨ended, growsLater, thereLater⟩
  · exact .inl ⟨error, by rw [Applied.after, failed]; rfl, system⟩
  · refine .inr ⟨by rw [Applied.after, ended]; rfl, ?_, ?_⟩
    · exact (grows.mono fun _ file => file.subset (by simp)).trans
        (growsLater.mono fun _ file => file.subset (by simp))
    · rw [written_write, List.forall_mem_cons]
      exact ⟨growsLater.locate_file there apart, thereLater⟩

end

/-- A real run from any tree that the project may have become meanwhile. The induction goes on behind
each artifact with one more that has been written. -/
theorem applyFrom_real (flat : Path.separator ∉ options.extension.toList) {done : List Artifact}
    {tree : Tree} (grown : project.Becomes done project.tree tree)
    (placed : ∀ artifact ∈ done ++ planned.map (·.artifact), artifact.IsPlaced options)
    (distinct : DistinctTargets (done ++ planned.map (·.artifact))) (free : project.Free planned) :
    project.Completes planned tree
      ((applyFrom ((project.disk false).writer Tree.fileSystem) planned).run tree) := by
  induction planned generalizing done tree with
  | nil => exact .inr ⟨rfl, .refl _ _ tree, List.forall_mem_nil _⟩
  | cons one rest ih =>
    unfold DiskProject.Free at free ih
    rw [List.forall_mem_cons] at free
    rcases one with ⟨artifact, action⟩
    cases action with
    | keepExisting =>
      have fewer : (done ++ rest.map (·.artifact)).Sublist
          (done ++ artifact :: rest.map (·.artifact)) :=
        (List.Sublist.refl done).append (List.sublist_cons_self _ _)
      rw [applyFrom_keep]
      exact (ih grown (fun one member => placed one (fewer.subset member))
        (distinct.sublist fewer) free.2).keep
    | write =>
      obtain ⟨-, ownDistinct, fromDone⟩ := List.pairwise_append.mp distinct
      have own : artifact.IsPlaced options := placed artifact (by simp)
      have others : ∀ one ∈ done, one.IsPlaced options ∧ one.path.same artifact.path = false :=
        fun one member => ⟨placed one (List.mem_append_left _ member),
          fromDone one member artifact List.mem_cons_self⟩
      have behind : ∀ one ∈ written rest,
          one.IsPlaced options ∧ one.path.same artifact.path = false := by
        intro one member
        obtain ⟨planned, inRest, -, rfl⟩ := mem_written.mp member
        have listed := List.mem_map_of_mem inRest (f := (·.artifact))
        refine ⟨placed _ (by simp [listed]), ?_⟩
        rw [Path.same_comm]
        exact (List.pairwise_cons.mp ownDistinct).1 _ listed
      have handed : (((project.disk false).writer Tree.fileSystem).write artifact).run tree =
          (Disk.store Tree.fileSystem (project.pathOf artifact) artifact.content).run tree :=
        (project.disk false).write_free fun hand =>
          has_eq_false_of_becomes project flat own hand others grown (free.1 rfl hand)
      rw [applyFrom_write, handed]
      rcases store_becomes project flat own grown with failed | stored
      · obtain ⟨error, failed, system⟩ := failed
        cases outcome : (Disk.store Tree.fileSystem (project.pathOf artifact)
            artifact.content).run tree with
        | mk result next =>
          rw [outcome] at failed
          cases failed
          exact .inl ⟨error, rfl, system⟩
      · obtain ⟨after, stored, grows, there⟩ := stored
        have wider : project.Becomes (done ++ [artifact]) project.tree after :=
          (grown.mono fun _ file => file.subset (List.subset_append_left _ _)).trans
            (grows.mono fun _ file => file.subset (List.subset_append_right _ _))
        have regrouped : done ++ (⟨artifact, .write⟩ :: rest).map (·.artifact) =
            done ++ [artifact] ++ rest.map (·.artifact) := List.append_cons _ _ _
        rw [regrouped] at placed distinct
        rw [stored]
        exact (ih wider placed distinct free.2).write grows there
          (not_isFileOf flat project own behind)

end

/-! ## Whole runs -/

theorem PlanCall.accepted_rendered {ω σ : Type} {call : PlanCall ω} {backend : Backend σ}
    {state : Cache × σ} {accepted : Plan}
    (ended : (call.run backend options state).result = .ok accepted) :
    Rendered options (accepted.artifacts.map (·.artifact)) := by
  rw [PlanCall.run_eq] at ended
  dsimp only at ended
  split at ended
  · cases ended
  next artifacts made =>
    cases decided : call.decide artifacts with
    | error refusal =>
      rw [decided] at ended
      cases ended
    | ok plan =>
      rw [decided] at ended
      cases ended
      rw [PlanCall.decide_artifacts decided]
      exact .of_run made

section

variable {σ : Type} (project : DiskProject) (backend : Backend σ) (overwrite : Bool)
  (state : Cache × σ)

theorem DiskProject.writer_sees (isDryRun : Bool) :
    ((project.disk isDryRun).writer Tree.fileSystem).Sees project.tree
      fun path => project.tree.has (project.root.join path) :=
  (project.disk isDryRun).writer_sees project.tree

/-- Planning does not depend on whether the run is a dry one. -/
def DiskProject.call (overwrite : Bool) : PlanCall Tree :=
  ⟨(project.disk true).writer Tree.fileSystem, project.tree, overwrite⟩

theorem DiskProject.generate_eq (isDryRun : Bool) :
    project.generate isDryRun backend options overwrite state =
      let planned := (project.call overwrite).run backend options state
      match planned.result with
      | .error error => (⟨.error error, planned.messages, planned.state⟩, project.tree)
      | .ok accepted =>
        let applied := (accepted.apply ((project.disk isDryRun).writer Tree.fileSystem)).run
          project.tree
        (⟨applied.1.result.mapError .write, planned.messages ++ applied.1.messages, planned.state⟩,
          applied.2) := by
  let own : PlanCall Tree :=
    ⟨(project.disk isDryRun).writer Tree.fileSystem, project.tree, overwrite⟩
  have alike : own.run backend options state = (project.call overwrite).run backend options state :=
    (project.call overwrite).run_congr own (project.writer_sees true)
      (project.writer_sees isDryRun) rfl backend options state
  rw [← alike]
  exact generate_sees (project.writer_sees isDryRun) backend options overwrite state

variable {project backend overwrite state} {accepted : Plan}

theorem DiskProject.free_of_accepted
    (ended : ((project.call overwrite).run backend options state).result = .ok accepted) :
    project.Free accepted.artifacts := by
  rw [PlanCall.accepted_planned (project.writer_sees true) ended]
  intro one member action hand
  obtain ⟨artifact, -, rfl⟩ := List.mem_map.mp member
  change project.tree.has (project.root.join artifact.path) = false
  simpa [planFor, show artifact.kind.isHandEditable from hand] using action

end

/-- A dry run is faithful: it leaves the tree as it is, and ends as a real run over the same tree does,
so far as that one's directories can be made and its files written. Both fail with one error, or
neither does. Then they keep the same partials, and the dry run shows, in order, the paths and the
contents that the real one writes: each is to be read there afterwards, and nothing else has changed but
that there are directories where nothing was. -/
theorem dry_run_faithful {σ : Type} (project : DiskProject) (backend : Backend σ)
    (flat : Path.separator ∉ options.extension.toList) (overwrite : Bool) (state : Cache × σ)
    (unfailing : ∀ error,
      (project.generate false backend options overwrite state).1.result = .error (.write error) →
        error.isFailure = false) :
    let dry := project.generate true backend options overwrite state
    let real := project.generate false backend options overwrite state
    dry.2 = project.tree ∧
    (∀ error, dry.1.result = .error error ↔ real.1.result = .error error) ∧
    ∀ shown, dry.1.result = .ok shown → ∃ done, real.1.result = .ok done ∧
      done.kept = shown.kept ∧
      List.Forall₂ (fun preview written => ∃ path content, preview = .preview path content ∧
          written = .written path content.utf8ByteSize ∧ real.2.read path = .ok content)
        shown.results done.results ∧
      ∀ place, Tree.entry? real.2 place = project.tree.entry? place ∨
        project.tree.entry? place = none ∧ Tree.entry? real.2 place = some .directory ∨
        ∃ path content, .preview path content ∈ shown.results ∧
          real.2.locate path = .ok (place, .file content) := by
  intro dry real
  have dryRun : dry = _ := project.generate_eq backend overwrite state true
  have realRun : real = _ := project.generate_eq backend overwrite state false
  dsimp only at dryRun realRun
  cases planned : ((project.call overwrite).run backend options state).result with
  | error error =>
    rw [planned] at dryRun realRun
    rw [dryRun, realRun]
    exact ⟨rfl, fun _ => Iff.rfl, by rintro _ ⟨⟩⟩
  | ok accepted =>
    rw [planned] at dryRun realRun
    dsimp only at dryRun realRun
    have rendered := PlanCall.accepted_rendered planned
    have free := DiskProject.free_of_accepted planned
    rw [Plan.apply, applyFrom_dry project free] at dryRun
    have start : project.Becomes [] project.tree project.tree := .refl _ _ _
    have outcome := applyFrom_real project flat start rendered.placed rendered.distinct free
    rw [← Plan.apply] at outcome
    rcases outcome with ⟨error, failed, system⟩ | ⟨ended, grows, there⟩
    · have refused : real.1.result = .error (.write error) := by
        rw [realRun, failed]
        rfl
      rw [unfailing error refused] at system
      cases system
    · have result := congrArg (·.1.result) realRun
      have left := congrArg Prod.snd realRun
      dsimp only at result left
      rw [ended, Except.mapError] at result
      rw [result, left, dryRun]
      refine ⟨rfl, fun error => iff_of_false (by rintro ⟨⟩) (by rintro ⟨⟩), ?_⟩
      rintro shown ⟨⟩
      refine ⟨_, rfl, rfl, ?_, fun place => ?_⟩
      · rw [List.forall₂_map_left_iff, List.forall₂_map_right_iff, List.forall₂_same]
        intro artifact member
        exact ⟨_, _, rfl, rfl, Tree.read_of_locate (there artifact member)⟩
      · rcases grows.entries place with same | ⟨-, absent, made⟩ | ⟨⟨artifact, member, same⟩, -, -⟩
        · exact .inl same
        · exact .inr (.inl ⟨absent, made⟩)
        · refine .inr (.inr ⟨_, _, List.mem_map_of_mem member, ?_⟩)
          rw [same]
          exact there artifact member

/-- One partial is there already, below the working directory. -/
def sampleDisk : DiskProject where
  tree :=
    { entries :=
        [(["shop"], .directory), (["shop", "Models"], .directory),
         (["shop", "Models", "Partials"], .directory),
         (["shop", "Models", "Partials", "Invoice.cs"], .file "// by hand")]
      working := ["shop"] }
  root := ⟨"."⟩
  whole := Tree.whole_of_entries (by decide)
  settled := Tree.settled_of_isDirectory (by decide)

theorem sampleDisk_written :
    ∃ done, (sampleDisk.generate false sampleSnapshot.backend sampleOptions true
        ([], ())).1.result = .ok done ∧ done.kept = [⟨"Models/Partials/Invoice.cs"⟩] := by
  have kept : (sampleDisk.generate false sampleSnapshot.backend sampleOptions true
      ([], ())).1.result.toOption.map (·.kept) = some [⟨"Models/Partials/Invoice.cs"⟩] := by
    decide +kernel
  cases ended : (sampleDisk.generate false sampleSnapshot.backend sampleOptions true
      ([], ())).1.result with
  | error error =>
    rw [ended] at kept
    cases kept
  | ok done =>
    rw [ended] at kept
    exact ⟨done, rfl, Option.some.inj kept⟩

/-- The partial is kept, and the rest is shown or written. -/
theorem dry_run_faithful_sample :
    let dry := sampleDisk.generate true sampleSnapshot.backend sampleOptions true ([], ())
    let real := sampleDisk.generate false sampleSnapshot.backend sampleOptions true ([], ())
    dry.2 = sampleDisk.tree ∧ ∃ shown done, dry.1.result = .ok shown ∧ real.1.result = .ok done ∧
      shown.kept = [⟨"Models/Partials/Invoice.cs"⟩] ∧ done.kept = shown.kept ∧
      shown.results.length = done.results.length := by
  obtain ⟨done, ended, kept⟩ := sampleDisk_written
  have flat : Path.separator ∉ sampleOptions.extension.toList := by decide
  obtain ⟨unchanged, alike, faithful⟩ :=
    dry_run_faithful sampleDisk sampleSnapshot.backend flat true ([], ()) fun error failed => by
      rw [ended] at failed
      cases failed
  refine ⟨unchanged, ?_⟩
  cases shown : (sampleDisk.generate true sampleSnapshot.backend sampleOptions true
      ([], ())).1.result with
  | error error =>
    have failed := (alike error).mp shown
    rw [ended] at failed
    cases failed
  | ok report =>
    obtain ⟨again, reached, same, pairs, -⟩ := faithful report shown
    rw [ended] at reached
    cases reached
    exact ⟨report, done, rfl, ended, same.symm.trans kept, same, List.Forall₂.length_eq pairs⟩

end Project

end VaultModels
