import VaultModels.Project.Rendering
import VaultModels.Proofs.Model.Inventory

/-!
# Rendering over a snapshot

The walk over a snapshot visits its inventory from first to last, unless an association dangles.
Rendering keeps the first artifact of each target, so it is the inventory without later artifacts
for a target that is taken, or the fault of the first association that dangles.
-/
namespace VaultModels.Project

open Model Schema

section

variable {α : Type} {options : Options} {visit : Visitor α} {next : α → Artifact → α}
  {snapshot : Snapshot}

/-- Over the snapshot the visitor does nothing but go on to `next`. -/
def Proceeds (snapshot : Snapshot) (visit : Visitor α) (next : α → Artifact → α) : Prop :=
  ∀ seen artifact, (visit seen artifact).endOver snapshot = .ok (next seen artifact)

variable (options) in
theorem walkClasses_over (proceeds : Proceeds snapshot visit next) (classes : List ObjectClass)
    (declared : ∀ cls ∈ classes, cls ∈ snapshot.classes)
    (owned : ∀ cls ∈ classes, ∃ type ∈ snapshot.objectTypes, type.id = cls.objectType) (seen : α) :
    (walkClasses options visit seen classes).endOver snapshot =
      withFault ((classes.flatMap snapshot.associationsOf).findSome? snapshot.fault?)
        ((classes.flatMap (snapshot.classArtifacts options)).foldl next seen) := by
  induction classes generalizing seen with
  | nil => rfl
  | cons cls rest ih =>
    simp only [List.mem_cons, forall_eq_or_imp] at declared owned
    have later := ih declared.2 owned.2
    rw [List.flatMap_cons, List.findSome?_append, List.flatMap_cons, List.foldl_append]
    unfold walkClasses
    rw [Session.endOver_bind, classFile_over options declared.1 owned.1]
    refine withFault_bind _ _ ?_
    rw [Session.endOver_bind, proceeds, ok_bind]
    by_cases asked : options.partials
    · have pair : snapshot.classArtifacts options cls =
          [snapshot.classArtifact options cls, classPartial options cls] := by
        simp only [Snapshot.classArtifacts, asked, if_true]
      rw [pair, if_pos asked, Session.endOver_bind, proceeds, ok_bind]
      exact later _
    · have single : snapshot.classArtifacts options cls = [snapshot.classArtifact options cls] := by
        simp only [Snapshot.classArtifacts, asked, Bool.false_eq_true, if_false]
      rw [single, if_neg asked]
      exact later _

theorem walkTypes_over (proceeds : Proceeds snapshot visit next) (types : List ObjectType)
    (declared : ∀ type ∈ types, type ∈ snapshot.objectTypes) (seen : α) :
    (walkTypes options visit seen types).endOver snapshot =
      withFault
        ((types.flatMap fun type =>
          (snapshot.classesOf type.id).flatMap snapshot.associationsOf).findSome? snapshot.fault?)
        ((types.flatMap (snapshot.typeArtifacts options)).foldl next seen) := by
  induction types generalizing seen with
  | nil => rfl
  | cons type rest ih =>
    simp only [List.mem_cons, forall_eq_or_imp] at declared
    have classes := walkClasses_over options proceeds (snapshot.classesOf type.id)
      (fun cls member => (List.mem_filter.mp member).1)
      (fun cls member => ⟨type, declared.1, (beq_iff_eq.mp (List.mem_filter.mp member).2).symm⟩)
    have given : snapshot.answer (.classes type.id) = .ok (snapshot.classesOf type.id) := rfl
    rw [List.flatMap_cons, List.findSome?_append, List.flatMap_cons, List.foldl_append]
    unfold walkTypes
    rw [Session.endOver_bind, typeBase_over, ok_bind, Session.endOver_bind, proceeds, ok_bind,
      Session.endOver_fetch_bind snapshot given, Session.endOver_bind, classes]
    exact withFault_bind _ _ (ih declared.2 _)

theorem walkLists_over (proceeds : Proceeds snapshot visit next) (lists : List ObjectType)
    (seen : α) :
    (walkLists options visit seen lists).endOver snapshot =
      .ok (((lists.filter (!·.isReal)).map (snapshot.listArtifact options)).foldl next seen) := by
  induction lists generalizing seen with
  | nil => rfl
  | cons list rest ih =>
    unfold walkLists
    by_cases real : list.isReal
    · rw [if_pos real, List.filter_cons_of_neg (by simp [real])]
      exact ih seen
    · rw [if_neg real, List.filter_cons_of_pos (by simp [real]), Session.endOver_bind,
        valueListEnum_over, ok_bind, Session.endOver_bind, proceeds, ok_bind]
      exact ih _

/-- The walk comes to the inventory, visited from first to last, or to the first association that
dangles. -/
theorem walk_over (proceeds : Proceeds snapshot visit next) (start : α) :
    (walk options visit start).endOver snapshot =
      withFault (snapshot.walkedAssociations.findSome? snapshot.fault?)
        ((snapshot.inventory options).foldl next start) := by
  have properties : snapshot.answer .propertyDefs = .ok snapshot.propertyDefs := rfl
  have types : snapshot.answer .objectTypes = .ok snapshot.realTypes := rfl
  have lists : snapshot.answer .valueLists = .ok snapshot.objectTypes := rfl
  have walked : ∀ seen, (walkTypes options visit seen snapshot.realTypes).endOver snapshot =
      withFault (snapshot.walkedAssociations.findSome? snapshot.fault?)
        ((snapshot.realTypes.flatMap (snapshot.typeArtifacts options)).foldl next seen) :=
    walkTypes_over proceeds snapshot.realTypes fun type member => (List.mem_filter.mp member).1
  unfold walk Snapshot.inventory
  rw [List.foldl_cons, List.foldl_cons, List.foldl_append]
  rw [Session.endOver_bind, wrapper_over, ok_bind, Session.endOver_bind, proceeds, ok_bind,
    Session.endOver_fetch_bind snapshot properties, Session.endOver_bind, propertyEnum_over, ok_bind,
    Session.endOver_bind, proceeds, ok_bind, Session.endOver_fetch_bind snapshot types,
    Session.endOver_bind, walked]
  cases snapshot.walkedAssociations.findSome? snapshot.fault? with
  | some error => rfl
  | none =>
    rw [withFault_none, ok_bind, Session.endOver_fetch_bind snapshot lists, walkLists_over proceeds]
    rfl

end

/-! ## The first artifact of each target -/

/-- One step of keeping the first artifact of each target. -/
def addFirst (kept : List Artifact) (artifact : Artifact) : List Artifact :=
  if kept.any fun earlier => earlier.path.same artifact.path then kept else kept ++ [artifact]

/-- The artifacts without those whose target an earlier one has taken. -/
def firstOfEachTarget (artifacts : List Artifact) : List Artifact := artifacts.foldl addFirst []

theorem keepFirst_proceeds (snapshot : Snapshot) : Proceeds snapshot keepFirst addFirst := by
  intro kept artifact
  unfold keepFirst addFirst
  split
  · rfl
  · rfl

/-- Rendering over a snapshot. -/
theorem render_over (snapshot : Snapshot) (options : Options) :
    ((render options).run snapshot.backend ()).result =
      withFault (snapshot.walkedAssociations.findSome? snapshot.fault?)
        (firstOfEachTarget (snapshot.inventory options)) :=
  walk_over (keepFirst_proceeds snapshot) []

end VaultModels.Project
