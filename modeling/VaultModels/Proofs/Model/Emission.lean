import VaultModels.Model.Wrapper
import VaultModels.Proofs.Model.FilePath
import VaultModels.Proofs.Resolution.Asking

/-!
# What emitting an artifact can lead to

For every backend: where the artifact that an emitter makes goes, and which channels the host hears
of on the way. Resolving a reference says nothing at all; emitting has warnings and details but no
progress lines. What an artifact contains is not the subject here.
-/
namespace VaultModels

/-- A line about a file that is being written. -/
def Message.isProgress (message : Message) : Bool := message.channel == .info

namespace Model

variable {allowed : Message → Prop} (options : Options)

/-! ## Accessors -/

theorem Accessor.target_tells (list : Schema.ElementId) : (Accessor.target list).Tells allowed := by
  refine ((Resolution.Identifier.resolveId_tells _ _).mapError _).bind fun id _ => ?_
  exact (Session.tells_fetch _ _).bind fun type _ => .done trivial

theorem Accessor.of?_tells (property : Schema.PropertyDef) :
    (Accessor.of? property).Tells allowed := by
  unfold Accessor.of?
  split
  case h_7 => exact (Accessor.target_tells _).bind fun _ _ => .done trivial
  case h_8 => exact (Accessor.target_tells _).bind fun _ _ => .done trivial
  all_goals exact .done trivial

/-- Warnings about properties of an unsupported kind are allowed. Members send nothing else. -/
abbrev AllowsGaps (allowed : Message → Prop) : Prop :=
  ∀ property valueKind, allowed ⟨.warning, (Refusal.unsupportedValueKind property valueKind).message⟩

theorem membersFrom_tells (gaps : AllowsGaps allowed) (associations : List Schema.Association)
    (scope : Name.Scope) : (membersFrom scope associations).Tells allowed := by
  induction associations generalizing scope with
  | nil => exact .done trivial
  | cons association rest ih =>
    refine (Session.tells_fetch _ _).bind fun property _ => ?_
    split
    · exact ih scope
    · refine (Accessor.of?_tells property).bind fun found _ => ?_
      cases found with
      | none => exact .tell (gaps _ _) (ih scope)
      | some accessor => exact (ih _).bind fun _ _ => .done trivial

theorem members_tells (gaps : AllowsGaps allowed) (cls : Schema.ObjectClass) :
    (members cls).Tells allowed :=
  (Session.tells_fetch _ _).bind fun associations _ => membersFrom_tells gaps associations _

/-! ## Artifacts -/

/-- The artifact goes to the file of a valid name: among the partials if it may be edited by hand,
and directly below `Models` otherwise. -/
def Artifact.IsPlaced (artifact : Artifact) : Prop :=
  ∃ stem, Name.isValid stem ∧ artifact.path =
    if artifact.kind.isHandEditable then options.partialPath stem else options.modelPath stem

theorem isPlaced_generated {stem content : String} {kind : ArtifactKind}
    (valid : Name.isValid stem) (generated : kind.isHandEditable = false) :
    Artifact.IsPlaced options ⟨options.modelPath stem, content, kind⟩ := by
  refine ⟨stem, valid, ?_⟩
  simp only [generated, Bool.false_eq_true, if_false]

/-- Emission sends no progress line, and what it makes is placed. -/
abbrev EmitsPlaced (emission : Emitting Artifact) : Prop :=
  emission.Ensures (·.isProgress = false) (·.IsPlaced options)

/-- The shared wrapper as a run emits it. -/
def sharedWrapper : Artifact :=
  { path := options.modelPath wrapperName
    content := wrapperContent options
    kind := .baseWrapper }

theorem wrapper_eq : wrapper options =
    .tell ⟨.verbose, "Generating base wrapper type"⟩ (.done (sharedWrapper options)) := rfl

theorem isValid_wrapperName : Name.isValid wrapperName := by decide

theorem sharedWrapper_placed : (sharedWrapper options).IsPlaced options :=
  isPlaced_generated options isValid_wrapperName rfl

theorem isValid_propertyEnumName : Name.isValid propertyEnumName := by decide

theorem propertyEnum_emits (properties : List Schema.PropertyDef) :
    EmitsPlaced options (propertyEnum options properties) :=
  .tell rfl (.done (isPlaced_generated options isValid_propertyEnumName rfl))

theorem isValid_objectTypeName (type : Schema.ObjectType) : Name.isValid (objectTypeName type) := by
  have opens : "OT_".toList = 'O' :: ['T', '_'] := by decide
  exact Name.isValid_append opens (by decide) (by decide) (by decide +kernel)
    (Name.isValid_clean type.nameSingular)

theorem typeBase_emits (type : Schema.ObjectType) : EmitsPlaced options (typeBase options type) :=
  .tell rfl (.done (isPlaced_generated options (isValid_objectTypeName type) rfl))

theorem isValid_classTypeName (cls : Schema.ObjectClass) : Name.isValid (classTypeName cls) :=
  Name.isValid_clean cls.name

theorem classFile_emits (cls : Schema.ObjectClass) :
    EmitsPlaced options (classFile options cls) := by
  refine (Session.tells_fetch _ _).bind fun type _ => ?_
  refine (members_tells (fun _ _ => rfl) cls).bind fun found _ => ?_
  exact .tell rfl (.done (isPlaced_generated options (isValid_classTypeName cls) rfl))

theorem classPartial_placed (cls : Schema.ObjectClass) :
    (classPartial options cls).IsPlaced options :=
  ⟨classTypeName cls, isValid_classTypeName cls,
    by simp only [classPartial, ArtifactKind.isHandEditable, beq_self_eq_true, if_true]⟩

theorem isValid_valueListName (list : Schema.ObjectType) : Name.isValid (valueListName list) :=
  Name.isValid_clean list.nameSingular

theorem valueListEnum_emits (list : Schema.ObjectType) :
    EmitsPlaced options (valueListEnum options list) := by
  refine (Session.tells_fetch _ _).bind fun items _ => ?_
  exact .tell rfl (.done (isPlaced_generated options (isValid_valueListName list) rfl))

end Model

end VaultModels
