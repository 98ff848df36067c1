import VaultModels.Proofs.Model.LineEndings
import VaultModels.Proofs.Project.Dangling
import VaultModels.Proofs.Project.Planning
import VaultModels.Proofs.Project.Targets
import VaultModels.Proofs.Session.InStep

/-!
# Plans under either line ending

Which line ending is chosen makes no difference to what a planning call asks, tells and decides: all
of that depends on where artifacts go and of what kind they are. What it makes of a snapshot differs
in contents only, and there in nothing but the carriage returns.
-/
namespace VaultModels.Project

open Model Schema

variable {ω : Type}

/-! ## Other contents -/

def PlannedArtifact.map (change : Artifact → Artifact) (planned : PlannedArtifact) :
    PlannedArtifact :=
  { planned with artifact := change planned.artifact }

def Plan.map (change : Artifact → Artifact) (plan : Plan) : Plan :=
  ⟨plan.artifacts.map (PlannedArtifact.map change)⟩

section

variable {change : Artifact → Artifact} (paths : ∀ artifact, (change artifact).path = artifact.path)

include paths

/-- Which artifacts are kept depends on their paths alone. -/
theorem firstOfEachTarget_map (artifacts : List Artifact) :
    firstOfEachTarget (artifacts.map change) = (firstOfEachTarget artifacts).map change := by
  rw [firstOfEachTarget, List.foldl_map]
  change List.foldl _ (List.map change []) artifacts = _
  refine List.foldl_hom (List.map change) fun kept artifact => ?_
  simp only [addFirst, List.any_map, Function.comp_def, paths]
  split
  · rfl
  · rw [List.map_append, List.map_singleton]

theorem inspect_map (writer : Writer (StateM ω)) (artifacts : List Artifact) (project : ω) :
    ((inspect writer (artifacts.map change)).run project).1 =
      ((inspect writer artifacts).run project).1.map (Prod.map change id) := by
  induction artifacts generalizing project with
  | nil => rfl
  | cons artifact rest ih =>
    change (change artifact, ((writer.exists? (change artifact).path).run project).1) ::
      ((inspect writer (rest.map change)).run _).1 = _
    rw [paths, ih]
    rfl

variable (kinds : ∀ artifact, (change artifact).kind = artifact.kind)

include kinds

theorem settle_map (overwrite : Bool) (inspected : List (Artifact × Bool)) :
    settle overwrite (inspected.map (Prod.map change id)) =
      (settle overwrite inspected).map (List.map (PlannedArtifact.map change)) := by
  induction inspected with
  | nil => rfl
  | cons entry rest ih =>
    rcases entry with ⟨artifact, isThere⟩
    have chosen : Action.choose overwrite (change artifact) isThere =
        Action.choose overwrite artifact isThere := by
      rw [Action.choose, Action.choose, paths, kinds]
    simp only [List.map_cons, Prod.map, id_eq, settle, chosen, ih]
    cases Action.choose overwrite artifact isThere with
    | error refusal => rfl
    | ok action => cases settle overwrite rest <;> rfl

theorem PlanCall.decide_map (call : PlanCall ω) (artifacts : List Artifact) :
    call.decide (artifacts.map change) = (call.decide artifacts).map (Plan.map change) := by
  rw [PlanCall.decide, PlanCall.decide, inspect_map paths, settle_map paths kinds]
  cases settle call.overwrite ((inspect call.writer artifacts).run call.project).1 <;> rfl

end

/-! ## The walk under either line ending -/

/-- Artifacts that go to one place. -/
def SamePath (one other : Artifact) : Prop := other.path = one.path

section

variable {α : Type} {related : α → α → Prop} {visit : Visitor α} (options : Options)
  (one other : Code.LineEnding)

open Session

/-- The visitor goes alike for artifacts that go to one place. -/
def Visitor.GoesAlike (visit : Visitor α) (related : α → α → Prop) : Prop :=
  ∀ seen others first second, related seen others → SamePath first second →
    (visit seen first).InStep related (visit others second)

theorem wrapper_inStep :
    (wrapper (options.withLineEnding one)).InStep SamePath
      (wrapper (options.withLineEnding other)) := .tell _ (.done rfl)

theorem propertyEnum_inStep (properties : List PropertyDef) :
    (propertyEnum (options.withLineEnding one) properties).InStep SamePath
      (propertyEnum (options.withLineEnding other) properties) := .tell _ (.done rfl)

theorem typeBase_inStep (type : ObjectType) :
    (typeBase (options.withLineEnding one) type).InStep SamePath
      (typeBase (options.withLineEnding other) type) := .tell _ (.done rfl)

theorem classFile_inStep (cls : ObjectClass) :
    (classFile (options.withLineEnding one) cls).InStep SamePath
      (classFile (options.withLineEnding other) cls) :=
  inStep_bind _ fun _ => inStep_bind _ fun _ => .tell _ (.done rfl)

theorem classPartial_samePath (cls : ObjectClass) :
    SamePath (classPartial (options.withLineEnding one) cls)
      (classPartial (options.withLineEnding other) cls) := rfl

theorem valueListEnum_inStep (list : ObjectType) :
    (valueListEnum (options.withLineEnding one) list).InStep SamePath
      (valueListEnum (options.withLineEnding other) list) :=
  inStep_bind _ fun _ => .tell _ (.done rfl)

variable (alike : visit.GoesAlike related) {seen others : α}

include alike

theorem walkClasses_inStep (classes : List ObjectClass) (start : related seen others) :
    (walkClasses (options.withLineEnding one) visit seen classes).InStep related
      (walkClasses (options.withLineEnding other) visit others classes) := by
  induction classes generalizing seen others with
  | nil => exact .done start
  | cons cls rest ih =>
    refine (classFile_inStep options one other cls).bind fun _ _ same => ?_
    refine (alike _ _ _ _ start same).bind fun _ _ next => ?_
    change Session.InStep related (if options.partials then _ else _)
      (if options.partials then _ else _)
    split
    · have placed := alike _ _ _ _ next (classPartial_samePath options one other cls)
      exact placed.bind fun _ _ last => ih last
    · exact ih next

theorem walkTypes_inStep (types : List ObjectType) (start : related seen others) :
    (walkTypes (options.withLineEnding one) visit seen types).InStep related
      (walkTypes (options.withLineEnding other) visit others types) := by
  induction types generalizing seen others with
  | nil => exact .done start
  | cons type rest ih =>
    refine (typeBase_inStep options one other type).bind fun _ _ same => ?_
    refine (alike _ _ _ _ start same).bind fun _ _ next => ?_
    refine inStep_bind _ fun classes => ?_
    exact (walkClasses_inStep options one other alike classes next).bind fun _ _ last => ih last

theorem walkLists_inStep (lists : List ObjectType) (start : related seen others) :
    (walkLists (options.withLineEnding one) visit seen lists).InStep related
      (walkLists (options.withLineEnding other) visit others lists) := by
  induction lists generalizing seen others with
  | nil => exact .done start
  | cons list rest ih =>
    unfold walkLists
    split
    · exact ih start
    · refine (valueListEnum_inStep options one other list).bind fun _ _ same => ?_
      exact (alike _ _ _ _ start same).bind fun _ _ next => ih next

theorem walk_inStep (start : related seen others) :
    (walk (options.withLineEnding one) visit seen).InStep related
      (walk (options.withLineEnding other) visit others) := by
  refine (wrapper_inStep options one other).bind fun _ _ same => ?_
  refine (alike _ _ _ _ start same).bind fun _ _ shared => ?_
  refine inStep_bind _ fun properties => ?_
  refine (propertyEnum_inStep options one other properties).bind fun _ _ same => ?_
  refine (alike _ _ _ _ shared same).bind fun _ _ named => ?_
  refine inStep_bind _ fun types => ?_
  refine (walkTypes_inStep options one other alike types named).bind fun _ _ walked => ?_
  exact inStep_bind _ fun lists => walkLists_inStep options one other alike lists walked

end

theorem keepFirst_goesAlike : keepFirst.GoesAlike (List.Forall₂ SamePath) := by
  intro kept others first second pairs same
  have taken : (others.any fun earlier => earlier.path.same second.path) =
      kept.any fun earlier => earlier.path.same first.path := by
    rw [same]
    induction pairs with
    | nil => rfl
    | cons path _ ih => rw [List.any_cons, List.any_cons, path, ih]
  unfold keepFirst
  rw [taken, same]
  split
  · exact .tell _ (.done pairs)
  · exact .done (List.rel_append pairs (.cons same .nil))

/-! ## Calls over a snapshot -/

variable {snapshot : Snapshot} {cache others : Cache}

/-- Line endings are a matter of presentation. Planning under either of them tells the host the same
and fails alike; accepted plans agree but for contents, and there the one has a carriage return in
front of each line feed where the other has no carriage return at all. -/
theorem line_endings_presentational (call : PlanCall ω) {options : Options}
    (root : IsUnbroken options.rootNamespace) (agrees : cache.Agrees snapshot)
    (othersAgree : others.Agrees snapshot) :
    let lf := call.run snapshot.backend (options.withLineEnding .lf) (cache, ())
    let crlf := call.run snapshot.backend (options.withLineEnding .crlf) (others, ())
    crlf.messages = lf.messages ∧
      crlf.result = lf.result.map (Plan.map Artifact.withReturns) ∧
      ∀ accepted, lf.result = .ok accepted → ∀ planned ∈ accepted.artifacts,
        '\r' ∉ planned.artifact.content.toList := by
  intro lf crlf
  have steps := walk_inStep options .lf .crlf keepFirst_goesAlike .nil
  refine ⟨?_, ?_, ?_⟩
  · rw [call.messages_snapshot _ othersAgree, call.messages_snapshot _ agrees]
    exact steps.messages snapshot.backend ()
  · rw [call.run_snapshot _ othersAgree, call.run_snapshot _ agrees, render_over, render_over]
    cases clear : snapshot.walkedAssociations.findSome? snapshot.fault? with
    | some error => rfl
    | none =>
      obtain ⟨inventory, -⟩ := Snapshot.inventory_withReturns clear root
      rw [withFault_none, withFault_none, inventory,
        firstOfEachTarget_map Artifact.withReturns_path]
      dsimp only
      rw [call.decide_map Artifact.withReturns_path Artifact.withReturns_kind]
      cases call.decide (firstOfEachTarget (snapshot.inventory (options.withLineEnding .lf))) <;> rfl
  · intro accepted ended planned listed
    have clear := PlanCall.clear_of_accepted agrees ended
    obtain ⟨-, free⟩ := Snapshot.inventory_withReturns clear root
    exact free _ (PlanCall.inventory_of_accepted agrees ended (List.mem_map_of_mem listed))

/-- The name of the root holds a line separator, and that of a class a line feed. -/
theorem line_endings_presentational_sample :
    let call : PlanCall Memory := ⟨Memory.writer, sampleProject, true⟩
    let options : Options := { rootNamespace := "Ac\u2028me" }
    let snapshot : Snapshot :=
      { objectTypes := [.real 0 "Document"], classes := [⟨1, "In\r\nvoice", 0, [], none, []⟩] }
    IsUnbroken options.rootNamespace ∧ ∃ accepted,
      (call.run snapshot.backend (options.withLineEnding .lf) ([], ())).result = .ok accepted ∧
      (call.run snapshot.backend (options.withLineEnding .crlf) ([], ())).result =
        .ok (accepted.map Artifact.withReturns) := by
  intro call options snapshot
  have agrees := Cache.agrees_empty snapshot
  have root : IsUnbroken options.rootNamespace := (by decide : IsUnbroken "Ac\u2028me")
  obtain ⟨accepted, ended⟩ := call.forced_accepted rfl (options.withLineEnding .lf) agrees
    (by decide)
  obtain ⟨-, same, -⟩ := line_endings_presentational call root agrees agrees
  refine ⟨root, accepted, ended, ?_⟩
  rw [same, ended]
  rfl

end VaultModels.Project
