import VaultModels.Proofs.Model.AddedClass
import VaultModels.Proofs.Project.Dangling
import VaultModels.Proofs.Project.Looking
import VaultModels.Proofs.Project.Planning
import VaultModels.Proofs.Project.Targets

/-!
# Plans with a further class

A class that is added to a snapshot, under a name that no file has, adds its own files to a plan and
changes nothing else in it. Several object types may have the id that the class names; its files are
walked once for each of them and kept once. A class with the name of another file is not covered.
-/
namespace VaultModels.Project

open Model Schema

/-! ## Artifacts put among others -/

/-- The paths of `own` are apart from that of the artifact. -/
def ApartFrom (own : List Artifact) (artifact : Artifact) : Prop :=
  ∀ one ∈ own, one.path.same artifact.path = false

/-- Kept artifacts, and the same with `own` put in one place among them once it has come up. -/
structure Inserted (own : List Artifact) (met : Bool) (kept more : List Artifact) : Prop where
  apart : ∀ artifact ∈ kept, ApartFrom own artifact
  placed : ∃ front back, kept = front ++ back ∧
    more = front ++ (if met then own else []) ++ back

section

variable {own kept more : List Artifact} {met : Bool}

theorem addFirst_subset {artifact one : Artifact} (member : one ∈ addFirst kept artifact) :
    one ∈ kept ∨ one = artifact := by
  unfold addFirst at member
  split at member
  · exact .inl member
  · simpa using member

/-- An artifact of another path is taken or left out alike. -/
theorem Inserted.addFirst (inserted : Inserted own met kept more) {artifact : Artifact}
    (apart : ApartFrom own artifact) :
    Inserted own met (addFirst kept artifact) (addFirst more artifact) := by
  have keptApart : ∀ one ∈ Project.addFirst kept artifact, ApartFrom own one := by
    intro one member
    rcases addFirst_subset member with old | rfl
    · exact inserted.apart one old
    · exact apart
  obtain ⟨front, back, rfl, rfl⟩ := inserted.placed
  have blind : ((if met then own else []).any fun earlier => earlier.path.same artifact.path) =
      false := by
    cases met with
    | false => rfl
    | true => simpa [ApartFrom] using apart
  have taken : ((front ++ (if met then own else []) ++ back).any fun earlier =>
        earlier.path.same artifact.path) =
      (front ++ back).any fun earlier => earlier.path.same artifact.path := by
    rw [List.any_append, List.any_append, blind, Bool.or_false, List.any_append]
  refine ⟨keptApart, ?_⟩
  unfold Project.addFirst
  rw [taken]
  split
  · exact ⟨front, back, rfl, rfl⟩
  · exact ⟨front, back ++ [artifact], by rw [List.append_assoc], by simp only [List.append_assoc]⟩

theorem Inserted.foldl (inserted : Inserted own met kept more) {artifacts : List Artifact}
    (apart : ∀ artifact ∈ artifacts, ApartFrom own artifact) :
    Inserted own met (artifacts.foldl Project.addFirst kept)
      (artifacts.foldl Project.addFirst more) := by
  induction artifacts generalizing kept more with
  | nil => exact inserted
  | cons artifact rest ih =>
    rw [List.forall_mem_cons] at apart
    exact ih (inserted.addFirst apart.1) apart.2

/-- Artifacts of new and distinct paths are all kept. -/
theorem foldl_addFirst_fresh {artifacts : List Artifact} (distinct : DistinctTargets artifacts)
    (apart : ∀ one ∈ kept, ApartFrom artifacts one) :
    artifacts.foldl addFirst kept = kept ++ artifacts := by
  induction artifacts generalizing kept with
  | nil => rw [List.foldl_nil, List.append_nil]
  | cons artifact rest ih =>
    obtain ⟨first, others⟩ := List.pairwise_cons.mp distinct
    have new : (kept.any fun earlier => earlier.path.same artifact.path) = false := by
      simp only [List.any_eq_false, Bool.not_eq_true]
      intro earlier member
      rw [Path.same_comm]
      exact apart earlier member artifact List.mem_cons_self
    rw [List.foldl_cons, addFirst, new, if_neg Bool.false_ne_true, ih others, List.append_assoc,
      List.singleton_append]
    intro one member later inRest
    rcases List.mem_append.mp member with old | last
    · exact apart one old later (List.mem_cons_of_mem _ inRest)
    · rw [List.mem_singleton.mp last, Path.same_comm]
      exact first later inRest

/-- Artifacts whose paths are taken are all left out. -/
theorem foldl_addFirst_taken {artifacts : List Artifact} (taken : ∀ one ∈ artifacts, one ∈ kept) :
    artifacts.foldl addFirst kept = kept := by
  induction artifacts with
  | nil => rfl
  | cons artifact rest ih =>
    rw [List.forall_mem_cons] at taken
    have there : (kept.any fun earlier => earlier.path.same artifact.path) = true :=
      List.any_eq_true.mpr ⟨artifact, taken.1, Path.same_refl _⟩
    rw [List.foldl_cons, addFirst, there, if_pos rfl, ih taken.2]

/-- When they come up the artifacts are put behind what is kept, unless they have come up before. -/
theorem Inserted.meet (inserted : Inserted own met kept more) (distinct : DistinctTargets own) :
    Inserted own true kept (own.foldl Project.addFirst more) := by
  obtain ⟨front, back, split, rfl⟩ := inserted.placed
  refine ⟨inserted.apart, ?_⟩
  cases met with
  | true =>
    refine ⟨front, back, split, foldl_addFirst_taken fun one member => ?_⟩
    simp [member]
  | false =>
    refine ⟨kept, [], by rw [List.append_nil], ?_⟩
    rw [if_neg Bool.false_ne_true, List.append_nil, ← split, if_pos rfl, List.append_nil]
    exact foldl_addFirst_fresh distinct inserted.apart

/-- Groups of artifacts, and the same groups with `own` behind some of them. -/
theorem Inserted.groups {γ : Type} {group : γ → List Artifact} (meets : γ → Bool)
    (inserted : Inserted own met kept more) (distinct : DistinctTargets own) {groups : List γ}
    (apart : ∀ one ∈ groups, ∀ artifact ∈ group one, ApartFrom own artifact) :
    Inserted own (met || groups.any meets)
      ((groups.flatMap group).foldl Project.addFirst kept)
      ((groups.flatMap fun one => group one ++ if meets one then own else []).foldl
        Project.addFirst more) := by
  induction groups generalizing met kept more with
  | nil =>
    rw [List.any_nil, Bool.or_false]
    exact inserted
  | cons one rest ih =>
    rw [List.forall_mem_cons] at apart
    have grown := inserted.foldl apart.1
    rw [List.flatMap_cons, List.flatMap_cons, List.foldl_append, List.foldl_append,
      List.foldl_append, List.any_cons, ← Bool.or_assoc]
    refine ih ?_ apart.2
    cases meets one with
    | true =>
      rw [Bool.or_true, if_pos rfl]
      exact grown.meet distinct
    | false =>
      rw [Bool.or_false, if_neg Bool.false_ne_true]
      exact grown

end

/-! ## The further class -/

section

variable {snapshot : Snapshot} {cls : ObjectClass} {options : Options}
  (fresh : ∀ subject ∈ snapshot.subjects options, subject.typeName ≠ classTypeName cls)

theorem classArtifacts_path {one : Artifact} (own : one ∈ snapshot.classArtifacts options cls) :
    one.path = options.modelPath (classTypeName cls) ∨
      one.path = options.partialPath (classTypeName cls) := by
  unfold Snapshot.classArtifacts at own
  split at own
  · rcases List.mem_cons.mp own with rfl | rest
    · exact .inl (by rw [Snapshot.classArtifact])
    · exact .inr (by rw [List.mem_singleton.mp rest, classPartial])
  · exact .inl (by rw [List.mem_singleton.mp own, Snapshot.classArtifact])

theorem classArtifacts_distinct (snapshot : Snapshot) (options : Options) (cls : ObjectClass) :
    DistinctTargets (snapshot.classArtifacts options cls) := by
  have valid := isValid_classTypeName cls
  unfold Snapshot.classArtifacts
  split
  · refine List.pairwise_pair.mpr ?_
    rw [Path.same_comm, classPartial, Snapshot.classArtifact]
    dsimp only
    exact options.partialPath_same_modelPath valid valid
  · exact List.pairwise_singleton _ _

include fresh

/-- No file of the snapshot has the path of a file of the class. -/
theorem apart_of_fresh {artifact : Artifact} (listed : artifact ∈ snapshot.inventory options) :
    ApartFrom ((snapshot.addClass cls).classArtifacts options cls) artifact := by
  obtain ⟨subject, member, rfl⟩ := snapshot.exists_subject options listed
  have differs := fresh subject member
  have valid := isValid_classTypeName cls
  have validOther := subject.isValid_typeName
  have file : (options.modelPath (classTypeName cls)).same (subject.path options) = false := by
    unfold Subject.path
    split
    · rw [Path.same_comm]
      exact options.partialPath_same_modelPath validOther valid
    · rw [options.modelPath_same valid validOther]
      simpa using differs.symm
  have partialFile : (options.partialPath (classTypeName cls)).same (subject.path options) =
      false := by
    unfold Subject.path
    split
    · rw [options.partialPath_same valid validOther]
      simpa using differs.symm
    · exact options.partialPath_same_modelPath valid validOther
  intro one own
  rw [snapshot.artifactOf_path]
  rcases classArtifacts_path own with path | path
  · rw [path]
    exact file
  · rw [path]
    exact partialFile

/-- Rendering keeps what it kept, with the files of the class put in one place. -/
theorem firstOfEachTarget_addClass
    (clear : snapshot.walkedAssociations.findSome? snapshot.fault? = none)
    (stillClear : (snapshot.addClass cls).walkedAssociations.findSome?
      (snapshot.addClass cls).fault? = none) :
    Inserted ((snapshot.addClass cls).classArtifacts options cls)
      (snapshot.realTypes.any fun type => cls.objectType == type.id)
      (firstOfEachTarget (snapshot.inventory options))
      (firstOfEachTarget ((snapshot.addClass cls).inventory options)) := by
  have apart : ∀ artifact ∈ snapshot.inventory options,
      ApartFrom ((snapshot.addClass cls).classArtifacts options cls) artifact :=
    fun artifact listed => apart_of_fresh fresh listed
  unfold Snapshot.inventory at apart
  simp only [List.forall_mem_cons, List.forall_mem_append, List.forall_mem_flatMap] at apart
  obtain ⟨shared, properties, types, lists⟩ := apart
  have start : Inserted ((snapshot.addClass cls).classArtifacts options cls) false [] [] :=
    ⟨List.forall_mem_nil _, [], [], rfl, rfl⟩
  have opened := (start.addFirst shared).addFirst properties
  have walked := opened.groups (fun type => cls.objectType == type.id)
    (classArtifacts_distinct _ options cls) types
  rw [Snapshot.inventory_addClass clear stillClear, Snapshot.inventory, firstOfEachTarget,
    firstOfEachTarget, List.foldl_cons, List.foldl_cons, List.foldl_cons, List.foldl_cons,
    List.foldl_append, List.foldl_append]
  exact walked.foldl lists

omit fresh

/-- The files of a class that is walked are what its emitter makes, and its partial. -/
theorem classArtifacts_emitted (stillClear : (snapshot.addClass cls).walkedAssociations.findSome?
      (snapshot.addClass cls).fault? = none)
    (owned : ∃ type ∈ snapshot.objectTypes, type.isReal ∧ type.id = cls.objectType) :
    ∃ file, (classFile options cls).endOver (snapshot.addClass cls) = .ok file ∧
      (snapshot.addClass cls).classArtifacts options cls =
        file :: if options.partials then [classPartial options cls] else [] := by
  have declared : cls ∈ (snapshot.addClass cls).classes := List.mem_append_right _ (by simp)
  have walked : cls ∈ (snapshot.addClass cls).walkedClasses :=
    List.mem_flatMap.mpr (((snapshot.addClass cls).mem_walkedClasses cls).mpr ⟨declared, owned⟩)
  obtain ⟨type, member, -, same⟩ := owned
  refine ⟨_, ?_, rfl⟩
  rw [classFile_over options declared ⟨type, member, same⟩,
    Snapshot.classFault?_of_clear stillClear walked, withFault_none]

/-- A class is added behind the others, of any id, under a name that no file has. If both plans are
accepted, the new one is the old one with the files of the class put in one place, or with nothing
put in if the class is of no real object type. All other artifacts are the same in path, kind and
content, and stand in the same order; what is done with them is the same too, if the project is not
changed by being looked at. -/
theorem added_class_inserted {ω : Type} (call : PlanCall ω) {cache extended : Cache}
    (fresh : ∀ subject ∈ snapshot.subjects options, subject.typeName ≠ classTypeName cls)
    (agrees : cache.Agrees snapshot) (stillAgrees : extended.Agrees (snapshot.addClass cls))
    {accepted longer : Plan}
    (ended : (call.run snapshot.backend options (cache, ())).result = .ok accepted)
    (endedLonger : (call.run (snapshot.addClass cls).backend options (extended, ())).result =
      .ok longer) :
    (∃ front own back,
      accepted.artifacts.map (·.artifact) = front ++ back ∧
      longer.artifacts.map (·.artifact) = front ++ own ++ back ∧
      if ∃ type ∈ snapshot.objectTypes, type.isReal ∧ type.id = cls.objectType then
        ∃ file, (classFile options cls).endOver (snapshot.addClass cls) = .ok file ∧
          own = file :: if options.partials then [classPartial options cls] else []
      else own = []) ∧
    ∀ there, call.writer.Sees call.project there →
      accepted.artifacts.Sublist longer.artifacts := by
  have clear := PlanCall.clear_of_accepted agrees ended
  have stillClear := PlanCall.clear_of_accepted stillAgrees endedLonger
  obtain ⟨front, back, kept, more⟩ := (firstOfEachTarget_addClass fresh clear stillClear).placed
  rw [← PlanCall.accepted_artifacts agrees ended] at kept
  rw [← PlanCall.accepted_artifacts stillAgrees endedLonger] at more
  have walked : (snapshot.realTypes.any fun type => cls.objectType == type.id) ↔
      ∃ type ∈ snapshot.objectTypes, type.isReal ∧ type.id = cls.objectType := by
    simp only [Snapshot.realTypes, List.any_eq_true, List.mem_filter, beq_iff_eq, and_assoc,
      eq_comm (a := cls.objectType)]
  refine ⟨⟨front, _, back, kept, more, ?_⟩, fun there sees => ?_⟩
  · split
    next owned =>
      rw [if_pos (walked.mpr owned)]
      exact classArtifacts_emitted stillClear owned
    next nowhere => exact if_neg (mt walked.mp nowhere)
  · rw [PlanCall.accepted_planned sees ended, PlanCall.accepted_planned sees endedLonger, kept, more]
    exact ((List.sublist_append_left front _).append (List.Sublist.refl back)).map _

/-- The class has the id of one that is there already, and its partial is among its files. -/
theorem added_class_inserted_sample :
    let call : PlanCall Memory := ⟨Memory.writer, sampleProject, true⟩
    let report : ObjectClass := ⟨1, "Report", 0, [], none, []⟩
    ∃ accepted longer,
      (call.run sampleSnapshot.backend sampleOptions ([], ())).result = .ok accepted ∧
      (call.run (sampleSnapshot.addClass report).backend sampleOptions ([], ())).result =
        .ok longer ∧
      accepted.artifacts.Sublist longer.artifacts ∧
      longer.artifacts.length = accepted.artifacts.length + 2 := by
  intro call report
  have agrees := Cache.agrees_empty sampleSnapshot
  have stillAgrees := Cache.agrees_empty (sampleSnapshot.addClass report)
  obtain ⟨accepted, ended⟩ := call.forced_accepted rfl sampleOptions agrees (by decide)
  obtain ⟨longer, endedLonger⟩ := call.forced_accepted rfl sampleOptions stillAgrees (by decide)
  have fresh : ∀ subject ∈ sampleSnapshot.subjects sampleOptions,
      subject.typeName ≠ classTypeName report := by decide +kernel
  obtain ⟨⟨front, own, back, kept, more, files⟩, order⟩ :=
    added_class_inserted call fresh agrees stillAgrees ended endedLonger
  rw [if_pos (by decide)] at files
  obtain ⟨file, -, rfl⟩ := files
  refine ⟨accepted, longer, ended, endedLonger, order _ (Memory.writer_sees sampleProject), ?_⟩
  have few := congrArg List.length kept
  have many := congrArg List.length more
  simp only [sampleOptions, if_true, List.length_map, List.length_append, List.length_cons,
    List.length_nil] at few many
  omega

end

end VaultModels.Project
