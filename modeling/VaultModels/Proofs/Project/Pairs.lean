import Mathlib.Data.Set.Basic
import VaultModels.Proofs.Project.Planning
import VaultModels.Proofs.Project.References

/-!
# Class files and their partials

The two files of a class go through the choice of targets apart from each other. A class file loses
its target to the wrapper, to the property enum or to a base that comes before it; its partial can
lose its own only to the partial of a class with the same name. So no class file lacks its partial,
and the partials that lack a class file are those of the names that something else has taken.
-/
namespace VaultModels.Project

open Model Schema

/-- The type names of the class files of a plan. -/
def Plan.classNames (plan : Plan) (options : Options) : Set String :=
  {name | ∃ file ∈ plan.artifacts.map (·.artifact),
    file.kind = .objectClass ∧ file.path = options.modelPath name}

/-- The type names of its partials. -/
def Plan.partialNames (plan : Plan) (options : Options) : Set String :=
  {name | ∃ file ∈ plan.artifacts.map (·.artifact),
    file.kind = .classPartial ∧ file.path = options.partialPath name}

variable {ω : Type} {snapshot : Snapshot} {options : Options} {cache : Cache} {accepted : Plan}

section

variable {call : PlanCall ω} (agrees : cache.Agrees snapshot)
  (ended : (call.run snapshot.backend options (cache, ())).result = .ok accepted)

include agrees ended in
/-- A class name has a class file exactly if the class is the first under its name. -/
theorem PlanCall.mem_classNames (name : String) :
    name ∈ accepted.classNames options ↔
      wrapperName ≠ name ∧ propertyEnumName ≠ name ∧ snapshot.ClassFirst name := by
  constructor
  · rintro ⟨file, planned, isClass, place⟩
    obtain ⟨cls, -, rfl⟩ := PlanCall.class_of_accepted agrees ended planned isClass
    rw [(snapshot.classArtifact_declares options cls).placed] at place
    obtain rfl := options.modelPath_inj (isValid_classTypeName cls) place.symm
    have held := (PlanCall.mem_accepted agrees ended _).mp planned
    rw [(snapshot.classArtifact_declares options cls).placed,
      PlanCall.get?_modelPath agrees ended (isValid_classTypeName cls)] at held
    exact (snapshot.declaration?_class_iff options).mp ⟨_, held, isClass⟩
  · rintro ⟨unshared, unlisted, first⟩
    obtain ⟨cls, -, rfl, planned⟩ := PlanCall.class_planned agrees ended unshared unlisted first
    exact ⟨_, planned, rfl, (snapshot.classArtifact_declares options cls).placed⟩

theorem classPartial_path (cls : ObjectClass) :
    (classPartial options cls).path = options.partialPath (classTypeName cls) := by
  rw [classPartial]

include agrees ended in
/-- Every walked class has a partial, though it may share it with its namesakes. -/
theorem PlanCall.mem_partialNames (asked : options.partials) (name : String) :
    name ∈ accepted.partialNames options ↔
      ∃ cls ∈ snapshot.walkedClasses, classTypeName cls = name := by
  constructor
  · rintro ⟨file, planned, isPartial, place⟩
    rcases (snapshot.mem_inventory options file).mp
        (PlanCall.inventory_of_accepted agrees ended planned) with
      rfl | rfl | ⟨type, -, rfl⟩ | ⟨cls, walked, rfl | ⟨-, rfl⟩⟩ | ⟨list, -, rfl⟩
    case inr.inr.inr.inl.inr =>
      rw [classPartial_path] at place
      exact ⟨cls, walked, (options.partialPath_inj (isValid_classTypeName cls) place.symm).symm⟩
    all_goals cases isPartial
  · rintro ⟨cls, walked, rfl⟩
    have valid := isValid_classTypeName cls
    have listed : classPartial options cls ∈ snapshot.inventory options :=
      (snapshot.mem_inventory options _).mpr
        (.inr (.inr (.inr (.inl ⟨cls, walked, .inr ⟨asked, rfl⟩⟩))))
    cases found : accepted.get? (options.partialPath (classTypeName cls)) with
    | none =>
      rw [PlanCall.get?_accepted agrees ended, List.find?_eq_none] at found
      exact absurd (Path.same_refl _) (classPartial_path cls ▸ found _ listed)
    | some file =>
      obtain ⟨planned, equal⟩ := Plan.get?_eq_some found
      have made := Rendered.of_run (PlanCall.rendered_of_accepted agrees ended)
      obtain ⟨stem, validStem, place⟩ := made.placed file planned
      cases editable : file.kind.isHandEditable with
      | false =>
        rw [editable, if_neg Bool.false_ne_true] at place
        rw [place, Path.same_comm, options.partialPath_same_modelPath valid validStem] at equal
        cases equal
      | true =>
        rw [editable, if_pos rfl] at place
        rw [place, options.partialPath_same validStem valid, beq_iff_eq] at equal
        subst equal
        exact ⟨file, planned, by simpa [ArtifactKind.isHandEditable] using editable, place⟩

end

/-- With partials, a type name has a class file if its class is the first under it, and a partial in
any case. So the class files are among the partials, and the two go in pairs exactly if every
walked class is the first under its name. -/
theorem class_files_paired (call : PlanCall ω) (asked : options.partials)
    (agrees : cache.Agrees snapshot)
    (ended : (call.run snapshot.backend options (cache, ())).result = .ok accepted) :
    (∀ name, name ∈ accepted.classNames options ↔
      wrapperName ≠ name ∧ propertyEnumName ≠ name ∧ snapshot.ClassFirst name) ∧
    (∀ name, name ∈ accepted.partialNames options ↔
      ∃ cls ∈ snapshot.walkedClasses, classTypeName cls = name) ∧
    accepted.classNames options ⊆ accepted.partialNames options ∧
    (accepted.classNames options = accepted.partialNames options ↔
      ∀ cls ∈ snapshot.walkedClasses, wrapperName ≠ classTypeName cls ∧
        propertyEnumName ≠ classTypeName cls ∧ snapshot.ClassFirst (classTypeName cls)) := by
  have ofClasses := PlanCall.mem_classNames agrees ended
  have ofPartials := PlanCall.mem_partialNames agrees ended asked
  have among : accepted.classNames options ⊆ accepted.partialNames options := by
    intro name member
    obtain ⟨-, -, first⟩ := (ofClasses name).mp member
    obtain ⟨cls, walked, named, -⟩ := first.declared options
    exact (ofPartials name).mpr ⟨cls, walked, named⟩
  refine ⟨ofClasses, ofPartials, among, fun paired cls walked => ?_, fun firsts => ?_⟩
  · have companion := (ofPartials (classTypeName cls)).mpr ⟨cls, walked, rfl⟩
    rw [← paired] at companion
    exact (ofClasses _).mp companion
  · refine Set.Subset.antisymm among fun name member => ?_
    obtain ⟨cls, walked, rfl⟩ := (ofPartials name).mp member
    exact (ofClasses _).mpr (firsts cls walked)

/-- Two classes of one name share a pair. -/
theorem class_files_paired_sample :
    let call : PlanCall Memory := ⟨Memory.writer, {}, true⟩
    ∃ accepted, (call.run sampleSnapshot.backend sampleOptions ([], ())).result = .ok accepted ∧
      accepted.classNames sampleOptions = accepted.partialNames sampleOptions := by
  intro call
  have agrees := Cache.agrees_empty sampleSnapshot
  obtain ⟨accepted, ended⟩ := call.forced_accepted rfl sampleOptions agrees (by decide)
  obtain ⟨-, -, -, paired⟩ := class_files_paired call rfl agrees ended
  have alone : ∀ cls ∈ sampleSnapshot.walkedClasses,
      wrapperName ≠ classTypeName cls ∧ propertyEnumName ≠ classTypeName cls ∧
        ∀ type ∈ sampleSnapshot.realTypes, objectTypeName type ≠ classTypeName cls := by
    decide +kernel
  refine ⟨accepted, ended, paired.mpr fun cls walked => ?_⟩
  obtain ⟨unshared, unlisted, differs⟩ := alone cls walked
  exact ⟨unshared, unlisted, Snapshot.classFirst_of_alone ⟨cls, walked, rfl⟩ differs⟩

/-- A class has the name of the shared wrapper. -/
def orphanSnapshot : Snapshot :=
  { objectTypes := [.real 0 "Document"]
    classes := [⟨1, "ObjVerEx", 0, [], none, []⟩] }

/-- The partial of a class that has lost its file to the wrapper stays in the plan. -/
theorem partial_without_class_file :
    let call : PlanCall Memory := ⟨Memory.writer, {}, true⟩
    ∃ accepted, (call.run orphanSnapshot.backend sampleOptions ([], ())).result = .ok accepted ∧
      "ObjVerEx" ∈ accepted.partialNames sampleOptions ∧
      accepted.classNames sampleOptions ≠ accepted.partialNames sampleOptions := by
  intro call
  have agrees := Cache.agrees_empty orphanSnapshot
  obtain ⟨accepted, ended⟩ := call.forced_accepted rfl sampleOptions agrees (by decide)
  have orphan : "ObjVerEx" ∈ accepted.partialNames sampleOptions :=
    (PlanCall.mem_partialNames agrees ended rfl _).mpr (by decide)
  have missing : "ObjVerEx" ∉ accepted.classNames sampleOptions := fun member =>
    ((PlanCall.mem_classNames agrees ended _).mp member).1 rfl
  exact ⟨accepted, ended, orphan, fun paired => missing (paired ▸ orphan)⟩

end VaultModels.Project
