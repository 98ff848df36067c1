import Mathlib.Data.List.Basic
import Mathlib.Data.List.Induction
import VaultModels.Proofs.Project.Planning
import VaultModels.Proofs.Project.Targets
import VaultModels.Proofs.Session.Heard

/-!
# Artifacts that are left out

Rendering goes through the inventory of a snapshot once and leaves out what goes to a target that is
taken, each time with a warning. So the planned artifacts are those of the inventory that no earlier
one shares its target with, the warnings are about the others, both in walk order, and together
they account for the whole inventory. Runs that end in an error are not covered.
-/
namespace VaultModels

/-- How warnings about an artifact whose target is taken open; warnings about properties open
otherwise. -/
def duplicateOpening : List Char := "Artifact target ".toList

def Message.isDuplicate (message : Message) : Bool :=
  message.channel == .warning && duplicateOpening.isPrefixOf message.text.toList

namespace Model

open Schema

def duplicateWarning (artifact : Artifact) : Message :=
  ⟨.warning, (Refusal.duplicateTarget artifact.path).message⟩

theorem duplicateWarning_isDuplicate (artifact : Artifact) :
    (duplicateWarning artifact).isDuplicate := by
  have opens : duplicateOpening <+: (duplicateWarning artifact).text.toList := by
    unfold duplicateWarning Refusal.message
    dsimp only
    rw [String.toList_append, String.toList_append, List.append_assoc]
    exact List.prefix_append _ _
  rw [Message.isDuplicate, Bool.and_eq_true, List.isPrefixOf_iff_prefix]
  exact ⟨rfl, opens⟩

theorem gap_not_duplicate : AllowsGaps (·.isDuplicate = false) := by
  intro property valueKind
  have opens : ∃ rest, (Refusal.unsupportedValueKind property valueKind).message.toList =
      'G' :: rest := by
    unfold Refusal.message
    simp only [String.toList_append, List.append_assoc]
    exact ⟨_, rfl⟩
  obtain ⟨rest, opens⟩ := opens
  unfold Message.isDuplicate
  dsimp only
  rw [opens]
  rfl

variable {snapshot : Snapshot} (options : Options)

/-! ## Emitters are not heard -/

theorem wrapper_reaches :
    (wrapper options).Reaches snapshot Message.isDuplicate [] (sharedWrapper options) :=
  Session.reaches_tell _ (Session.reaches_done _)

theorem propertyEnum_reaches (properties : List PropertyDef) :
    (propertyEnum options properties).Reaches snapshot Message.isDuplicate []
      (propertyEnumArtifact options properties) :=
  Session.reaches_tell _ (Session.reaches_done _)

theorem typeBase_reaches (type : ObjectType) :
    (typeBase options type).Reaches snapshot Message.isDuplicate [] (typeArtifact options type) :=
  Session.reaches_tell _ (Session.reaches_done _)

theorem valueListEnum_reaches (list : ObjectType) :
    (valueListEnum options list).Reaches snapshot Message.isDuplicate []
      (snapshot.listArtifact options list) :=
  Session.reaches_ask (Session.reaches_tell _ (Session.reaches_done _))

theorem classFile_reaches {cls : ObjectClass} (declared : cls ∈ snapshot.classes)
    (owned : ∃ type ∈ snapshot.objectTypes, type.id = cls.objectType)
    (sound : snapshot.classFault? cls = none) :
    (classFile options cls).Reaches snapshot Message.isDuplicate []
      (snapshot.classArtifact options cls) := by
  have silent : (classFile options cls).Tells (·.isDuplicate = false) := by
    refine (Session.tells_fetch _ _).bind fun type _ => ?_
    refine (members_tells gap_not_duplicate cls).bind fun found _ => ?_
    exact .tell rfl (.done trivial)
  refine silent.reaches ?_
  rw [classFile_over options declared owned, sound, withFault_none]

end Model

namespace Project

open Model Schema

section

variable {α : Type} {options : Options} {visit : Visitor α} {next : α → Artifact → α}
  {warn : α → Artifact → List Message} {snapshot : Snapshot}

/-- Over the snapshot the visitor does nothing but go on to `next`, with the warnings of `warn`. -/
def Warns (snapshot : Snapshot) (visit : Visitor α) (next : α → Artifact → α)
    (warn : α → Artifact → List Message) : Prop :=
  ∀ seen artifact, (visit seen artifact).Reaches snapshot Message.isDuplicate (warn seen artifact)
    (next seen artifact)

/-- The warnings of one visit after the other. -/
def warnings (next : α → Artifact → α) (warn : α → Artifact → List Message) :
    α → List Artifact → List Message
  | _, [] => []
  | seen, artifact :: rest => warn seen artifact ++ warnings next warn (next seen artifact) rest

theorem warnings_append (first second : List Artifact) (seen : α) :
    warnings next warn seen (first ++ second) =
      warnings next warn seen first ++ warnings next warn (first.foldl next seen) second := by
  induction first generalizing seen with
  | nil => rfl
  | cons artifact rest ih => simp only [List.cons_append, warnings, ih, List.append_assoc,
      List.foldl_cons]

/-- Visiting the artifacts from first to last is all that the host hears of the walk. -/
abbrev Visited (snapshot : Snapshot) (next : α → Artifact → α)
    (warn : α → Artifact → List Message) (walked : Emitting α) (seen : α)
    (artifacts : List Artifact) : Prop :=
  walked.Reaches snapshot Message.isDuplicate (warnings next warn seen artifacts)
    (artifacts.foldl next seen)

variable (options) in
theorem walkClasses_visited (warns : Warns snapshot visit next warn) (classes : List ObjectClass)
    (declared : ∀ cls ∈ classes, cls ∈ snapshot.classes)
    (owned : ∀ cls ∈ classes, ∃ type ∈ snapshot.objectTypes, type.id = cls.objectType)
    (sound : ∀ cls ∈ classes, snapshot.classFault? cls = none) (seen : α) :
    Visited snapshot next warn (walkClasses options visit seen classes) seen
      (classes.flatMap (snapshot.classArtifacts options)) := by
  induction classes generalizing seen with
  | nil => exact Session.reaches_done seen
  | cons cls rest ih =>
    simp only [List.mem_cons, forall_eq_or_imp] at declared owned sound
    have later := ih declared.2 owned.2 sound.2
    have file := classFile_reaches options declared.1 owned.1 sound.1
    rw [List.flatMap_cons, Snapshot.classArtifacts, List.cons_append]
    refine file.silent_bind ((warns _ _).bind ?_)
    split
    · exact (warns _ _).bind (later _)
    · exact later _

variable (options) in
theorem walkTypes_visited (warns : Warns snapshot visit next warn) (types : List ObjectType)
    (declared : ∀ type ∈ types, type ∈ snapshot.objectTypes)
    (sound : ∀ type ∈ types, ∀ cls ∈ snapshot.classesOf type.id, snapshot.classFault? cls = none)
    (seen : α) :
    Visited snapshot next warn (walkTypes options visit seen types) seen
      (types.flatMap (snapshot.typeArtifacts options)) := by
  induction types generalizing seen with
  | nil => exact Session.reaches_done seen
  | cons type rest ih =>
    simp only [List.mem_cons, forall_eq_or_imp] at declared sound
    have classes := walkClasses_visited options warns (snapshot.classesOf type.id)
      (fun cls member => (List.mem_filter.mp member).1)
      (fun cls member => ⟨type, declared.1, (beq_iff_eq.mp (List.mem_filter.mp member).2).symm⟩)
      sound.1
    have given : snapshot.answer (.classes type.id) = .ok (snapshot.classesOf type.id) := rfl
    rw [List.flatMap_cons, Snapshot.typeArtifacts, List.cons_append, Visited, List.foldl_cons,
      List.foldl_append, warnings, warnings_append]
    refine (typeBase_reaches options type).silent_bind ((warns _ _).bind ?_)
    exact (Session.reaches_fetch given).silent_bind ((classes _).bind (ih declared.2 sound.2 _))

theorem walkLists_visited (warns : Warns snapshot visit next warn) (lists : List ObjectType)
    (seen : α) :
    Visited snapshot next warn (walkLists options visit seen lists) seen
      ((lists.filter (!·.isReal)).map (snapshot.listArtifact options)) := by
  induction lists generalizing seen with
  | nil => exact Session.reaches_done seen
  | cons list rest ih =>
    unfold walkLists
    by_cases real : list.isReal
    · rw [if_pos real, List.filter_cons_of_neg (by simp [real])]
      exact ih seen
    · rw [if_neg real, List.filter_cons_of_pos (by simp [real])]
      exact (valueListEnum_reaches options list).silent_bind ((warns _ _).bind (ih _))

/-- Unless an association dangles, the walk visits the inventory from first to last, and the host
hears of nothing else. -/
theorem walk_visited (warns : Warns snapshot visit next warn)
    (clear : snapshot.walkedAssociations.findSome? snapshot.fault? = none) (start : α) :
    Visited snapshot next warn (walk options visit start) start (snapshot.inventory options) := by
  have sound : ∀ type ∈ snapshot.realTypes, ∀ cls ∈ snapshot.classesOf type.id,
      snapshot.classFault? cls = none := fun type real cls owned =>
    Snapshot.classFault?_of_clear clear (List.mem_flatMap.mpr ⟨type, real, owned⟩)
  have properties : snapshot.answer .propertyDefs = .ok snapshot.propertyDefs := rfl
  have types : snapshot.answer .objectTypes = .ok snapshot.realTypes := rfl
  have lists : snapshot.answer .valueLists = .ok snapshot.objectTypes := rfl
  have walked := walkTypes_visited options warns snapshot.realTypes
    (fun type member => (List.mem_filter.mp member).1) sound
  rw [Visited, Snapshot.inventory, List.foldl_cons, List.foldl_cons, List.foldl_append, warnings,
    warnings, warnings_append]
  refine (wrapper_reaches options).silent_bind ((warns _ _).bind ?_)
  refine (Session.reaches_fetch properties).silent_bind ?_
  refine (propertyEnum_reaches options _).silent_bind ((warns _ _).bind ?_)
  refine (Session.reaches_fetch types).silent_bind ((walked _).bind ?_)
  exact (Session.reaches_fetch lists).silent_bind (walkLists_visited warns snapshot.objectTypes _)

end

/-! ## Kept and left out -/

/-- What the host is told when an artifact comes to those that are kept. -/
def warnTaken (kept : List Artifact) (artifact : Artifact) : List Message :=
  if kept.any fun earlier => earlier.path.same artifact.path then [duplicateWarning artifact] else []

theorem keepFirst_warns (snapshot : Snapshot) : Warns snapshot keepFirst addFirst warnTaken := by
  intro kept artifact
  unfold keepFirst addFirst warnTaken
  split
  · have heard : [duplicateWarning artifact].filter Message.isDuplicate =
        [duplicateWarning artifact] := by
      rw [List.filter_cons_of_pos (duplicateWarning_isDuplicate artifact), List.filter_nil]
    have done : (.done kept : Emitting (List Artifact)).Reaches snapshot Message.isDuplicate []
        kept := Session.reaches_done kept
    have told := Session.reaches_tell (duplicateWarning artifact) done
    rwa [heard] at told
  · exact Session.reaches_done _

/-- Whether an artifact, at its place in the list, comes after another one for its target. -/
def isRepeat (artifacts : List Artifact) (entry : Artifact × Nat) : Bool :=
  (artifacts.take entry.2).any fun earlier => earlier.path.same entry.1.path

/-- The artifacts that come first for their targets. -/
def firsts (artifacts : List Artifact) : List Artifact :=
  (artifacts.zipIdx.filter (!isRepeat artifacts ·)).map (·.1)

/-- The artifacts that come after another one for their target. -/
def repeats (artifacts : List Artifact) : List Artifact :=
  (artifacts.zipIdx.filter (isRepeat artifacts)).map (·.1)

section

variable (artifacts : List Artifact) (artifact : Artifact)

/-- An artifact that is put behind the others does not make a repeat of any. -/
theorem isRepeat_append {entry : Artifact × Nat} (member : entry ∈ artifacts.zipIdx) :
    isRepeat (artifacts ++ [artifact]) entry = isRepeat artifacts entry := by
  have inside := List.snd_lt_of_mem_zipIdx member
  rw [isRepeat, isRepeat, List.take_append_of_le_length (by omega)]

theorem isRepeat_last : isRepeat (artifacts ++ [artifact]) (artifact, artifacts.length) =
    artifacts.any fun earlier => earlier.path.same artifact.path := by
  rw [isRepeat, List.take_left]

theorem firsts_append : firsts (artifacts ++ [artifact]) =
    if artifacts.any fun earlier => earlier.path.same artifact.path then firsts artifacts
    else firsts artifacts ++ [artifact] := by
  have early : artifacts.zipIdx.filter (!isRepeat (artifacts ++ [artifact]) ·) =
      artifacts.zipIdx.filter (!isRepeat artifacts ·) :=
    List.filter_congr fun entry member => by rw [isRepeat_append artifacts artifact member]
  rw [firsts, List.zipIdx_append, List.filter_append, List.map_append, early, ← firsts]
  simp only [List.zipIdx_singleton, Nat.zero_add, List.filter_cons, isRepeat_last]
  split <;> simp_all

theorem repeats_append : repeats (artifacts ++ [artifact]) =
    if artifacts.any fun earlier => earlier.path.same artifact.path then
      repeats artifacts ++ [artifact]
    else repeats artifacts := by
  have early : artifacts.zipIdx.filter (isRepeat (artifacts ++ [artifact])) =
      artifacts.zipIdx.filter (isRepeat artifacts) :=
    List.filter_congr fun entry member => isRepeat_append artifacts artifact member
  rw [repeats, List.zipIdx_append, List.filter_append, List.map_append, early, ← repeats]
  simp only [List.zipIdx_singleton, Nat.zero_add, List.filter_cons, isRepeat_last]
  split <;> simp

end

/-- A target is taken among the kept artifacts exactly if it is taken at all. -/
theorem any_firstOfEachTarget (artifacts : List Artifact) (path : Path) :
    ((firstOfEachTarget artifacts).any fun earlier => earlier.path.same path) =
      artifacts.any fun earlier => earlier.path.same path := by
  rw [← List.isSome_find?, ← List.isSome_find?, find?_firstOfEachTarget]

theorem firstOfEachTarget_append (artifacts : List Artifact) (artifact : Artifact) :
    firstOfEachTarget (artifacts ++ [artifact]) =
      addFirst (firstOfEachTarget artifacts) artifact := by
  rw [firstOfEachTarget, List.foldl_append]
  rfl

/-- Going through the list once keeps what comes first for its target. -/
theorem firstOfEachTarget_eq (artifacts : List Artifact) :
    firstOfEachTarget artifacts = firsts artifacts := by
  induction artifacts using List.reverseRecOn with
  | nil => rfl
  | append_singleton artifacts artifact ih =>
    rw [firstOfEachTarget_append, firsts_append, addFirst, any_firstOfEachTarget, ih]

/-- And it warns of everything else. -/
theorem warnings_eq (artifacts : List Artifact) :
    warnings addFirst warnTaken [] artifacts = (repeats artifacts).map duplicateWarning := by
  induction artifacts using List.reverseRecOn with
  | nil => rfl
  | append_singleton artifacts artifact ih =>
    have kept : artifacts.foldl addFirst [] = firstOfEachTarget artifacts := rfl
    rw [warnings_append, ih, kept, repeats_append]
    simp only [warnings, warnTaken, any_firstOfEachTarget, List.append_nil]
    split
    · rw [List.map_append, List.map_singleton]
    · rw [List.append_nil]

theorem firsts_sublist (artifacts : List Artifact) : (firsts artifacts).Sublist artifacts := by
  have all : artifacts.zipIdx.map (·.1) = artifacts := List.zipIdx_map_fst 0 artifacts
  conv => rhs; rw [← all]
  exact List.filter_sublist.map _

/-- Every artifact is either kept or left out. -/
theorem length_firsts_add_repeats (artifacts : List Artifact) :
    (firsts artifacts).length + (repeats artifacts).length = artifacts.length := by
  have parts : artifacts.zipIdx.length =
      (artifacts.zipIdx.filter (isRepeat artifacts)).length +
        (artifacts.zipIdx.filter (!isRepeat artifacts ·)).length :=
    List.length_eq_length_filter_add (isRepeat artifacts)
  rw [List.length_zipIdx] at parts
  rw [firsts, repeats, List.length_map, List.length_map]
  omega

/-- Rendering over a snapshot comes to the artifacts that are first for their targets, and the
warnings about targets that are taken name the others. -/
theorem render_reaches {snapshot : Snapshot} {options : Options}
    (clear : snapshot.walkedAssociations.findSome? snapshot.fault? = none) :
    (render options).Reaches snapshot Message.isDuplicate
      ((repeats (snapshot.inventory options)).map duplicateWarning)
      (firsts (snapshot.inventory options)) := by
  have visited : Visited snapshot addFirst warnTaken (walk options keepFirst []) []
      (snapshot.inventory options) := walk_visited (keepFirst_warns snapshot) clear []
  rwa [Visited, warnings_eq, ← firstOfEachTarget, firstOfEachTarget_eq] at visited

/-- Where rendering over a snapshot succeeds, it makes the part of the inventory that comes first for
its targets, in walk order and with distinct targets, and a planning call warns once, in walk order,
of each artifact of the inventory that is left out. If the plan is accepted, it holds exactly what is
made. So the planned artifacts and the warnings account for the whole inventory. -/
theorem inventory_accounted {ω : Type} (call : PlanCall ω) {snapshot : Snapshot} {options : Options}
    {cache : Cache} (agrees : cache.Agrees snapshot) {artifacts : List Artifact}
    (rendered : ((render options).run snapshot.backend ()).result = .ok artifacts) :
    let inventory := snapshot.inventory options
    let heard := (call.run snapshot.backend options (cache, ())).messages.filter Message.isDuplicate
    artifacts = firsts inventory ∧ artifacts.Sublist inventory ∧ DistinctTargets artifacts ∧
      heard = (repeats inventory).map duplicateWarning ∧
      artifacts.length + heard.length = inventory.length ∧
      ∀ accepted, (call.run snapshot.backend options (cache, ())).result = .ok accepted →
        accepted.artifacts.map (·.artifact) = artifacts := by
  intro inventory heard
  have made := rendered
  rw [render_over, withFault_eq_ok] at made
  obtain ⟨clear, kept⟩ := made
  rw [firstOfEachTarget_eq] at kept
  have told : heard = (repeats inventory).map duplicateWarning := by
    rw [← (render_reaches clear).heard, ← call.messages_snapshot options agrees]
  refine ⟨kept.symm, kept ▸ firsts_sublist _, (Rendered.of_run rendered).distinct, told, ?_, ?_⟩
  · rw [told, List.length_map, ← kept]
    exact length_firsts_add_repeats inventory
  · intro accepted ended
    rw [PlanCall.accepted_artifacts agrees ended, firstOfEachTarget_eq, kept]

/-- The second class of one name loses both its files, and the host hears of both. -/
theorem inventory_accounted_sample :
    let call : PlanCall Memory := ⟨Memory.writer, sampleProject, false⟩
    sampleArtifacts.length = 5 ∧
      (call.run sampleSnapshot.backend sampleOptions ([], ())).messages.filter Message.isDuplicate =
        (repeats (sampleSnapshot.inventory sampleOptions)).map duplicateWarning ∧
      (repeats (sampleSnapshot.inventory sampleOptions)).map (·.path) =
        [⟨"Models/Invoice.cs"⟩, ⟨"Models/Partials/Invoice.cs"⟩] := by
  intro call
  obtain ⟨-, -, -, told, account, -⟩ :=
    inventory_accounted call (Cache.agrees_empty sampleSnapshot) sample_rendered
  have left : (repeats (sampleSnapshot.inventory sampleOptions)).map (·.path) =
      [⟨"Models/Invoice.cs"⟩, ⟨"Models/Partials/Invoice.cs"⟩] := by decide +kernel
  refine ⟨?_, told, left⟩
  have walked : (sampleSnapshot.inventory sampleOptions).length = 7 := by decide
  have lost : (repeats (sampleSnapshot.inventory sampleOptions)).length = 2 := by
    simpa using congrArg List.length left
  rw [told, List.length_map, walked, lost] at account
  omega

end Project

end VaultModels
