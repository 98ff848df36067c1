import Mathlib.Data.List.Nodup
import VaultModels.Proofs.Project.Planning
import VaultModels.Proofs.Project.References

/-!
# Types that are declared once

Files are kept apart by their places, and the place of a generated file tells the one type that it is
named for. So no two files are named for one type. The wrapper's file declares two support types
besides, and nothing holds their names back: a class or a value list that has one of them gets a file
of its own, and the plan then declares the type twice. No other type is ever declared twice. Partials
declare nothing here, and types nested in other types are not looked at.
-/
namespace VaultModels

/-- The name of a generated file without its extension: the text behind `Models/`, up to the first
dot. -/
def Path.stem (path : Path) : String :=
  String.ofList ((path.text.toList.drop "Models/".length).takeWhile (· != '.'))

theorem Model.Options.stem_modelPath (options : Options) {stem : String}
    (valid : Name.isValid stem) : (options.modelPath stem).stem = stem := by
  have undotted : ∀ c ∈ stem.toList, c != '.' := by
    intro c member
    rw [bne_iff_ne]
    rintro rfl
    exact (Name.isValid_plain valid).2 member
  have behind : (options.modelPath stem).text.toList.drop "Models/".length =
      stem.toList ++ '.' :: options.extension.toList := by
    rw [options.modelPath_text valid]
    simp only [String.toList_append, List.append_assoc]
    rfl
  rw [Path.stem, behind, List.takeWhile_append_of_pos undotted,
    List.takeWhile_cons_of_neg (by simp), List.append_nil, String.ofList_toList]

namespace Model

open Code

/-- The support types of the shared wrapper, each with the line that declares it. -/
def supportDeclarations : List (String × String) :=
  [("MetaStructureClassAttribute", "public class MetaStructureClassAttribute : Attribute"),
   ("MetaStructureExtensions", "public static class MetaStructureExtensions")]

def supportTypes : List String := supportDeclarations.map (·.1)

theorem isValid_supportType {name : String} (support : name ∈ supportTypes) :
    Name.isValid name := by
  have valid : ∀ name ∈ supportTypes, Name.isValid name := by decide
  exact valid name support

/-- The types that a file declares below its namespace. A partial only continues one. -/
def Artifact.declaredTypes (artifact : Artifact) : List String :=
  match artifact.kind with
  | .baseWrapper => wrapperName :: supportTypes
  | .classPartial => []
  | _ => [artifact.path.stem]

/-- The file has a line that declares the type. -/
def Artifact.HasDeclaration (options : Options) (artifact : Artifact) (typeName : String) : Prop :=
  ∃ header, (artifact.kind.IsHeader typeName header ∨
      artifact.kind = .baseWrapper ∧ (typeName, header) ∈ supportDeclarations) ∧
    options.layout.HasLine artifact.content header

theorem Artifact.Declares.hasDeclaration {options : Options} {artifact : Artifact}
    {typeName : String} (declares : artifact.Declares options typeName) :
    artifact.HasDeclaration options typeName := by
  obtain ⟨header, shape, line⟩ := declares.declared
  exact ⟨header, .inl shape, line⟩

theorem sharedWrapper_hasDeclaration (options : Options) {typeName : String}
    (support : typeName ∈ supportTypes) :
    (sharedWrapper options).HasDeclaration options typeName := by
  obtain ⟨⟨name, header⟩, listed, rfl⟩ := List.mem_map.mp support
  have inBody : ∀ entry ∈ supportDeclarations, "\t" ++ entry.2 ∈ wrapperBody := by
    simp only [supportDeclarations, List.forall_mem_cons]
    decide_cbv
  refine ⟨header, .inr ⟨rfl, listed⟩, wrapperLines options.modelNamespace, "\t", ?_, ?_, by simp⟩
  · dsimp only [sharedWrapper]
    rw [wrapperContent]
  · exact List.mem_append_right _ (inBody _ listed)

end Model

namespace Schema.Snapshot

open Model

variable (snapshot : Snapshot) (options : Options) {name : String}

/-! ## Names with a file -/

theorem typeDeclaration?_isSome (type : ObjectType) :
    (snapshot.typeDeclaration? options name type).isSome ↔
      objectTypeName type = name ∨
        ∃ cls ∈ snapshot.classesOf type.id, classTypeName cls = name := by
  unfold typeDeclaration?
  by_cases same : objectTypeName type = name
  · simp [same]
  · simp [same]

/-- A name has a file exactly if something of the schema, or of the run itself, has the name. -/
theorem declaration?_isSome :
    (snapshot.declaration? options name).isSome ↔
      snapshot.Taken name ∨ ∃ list ∈ snapshot.staticLists, valueListName list = name := by
  have types : (snapshot.realTypes.findSome? (snapshot.typeDeclaration? options name)).isSome ↔
      (∃ type ∈ snapshot.realTypes, objectTypeName type = name) ∨
        ∃ cls ∈ snapshot.walkedClasses, classTypeName cls = name := by
    simp only [List.findSome?_isSome_iff, typeDeclaration?_isSome, walkedClasses, List.mem_flatMap]
    constructor
    · rintro ⟨type, real, base | ⟨cls, owned, same⟩⟩
      · exact .inl ⟨type, real, base⟩
      · exact .inr ⟨cls, ⟨type, real, owned⟩, same⟩
    · rintro (⟨type, real, base⟩ | ⟨cls, ⟨type, real, owned⟩, same⟩)
      · exact ⟨type, real, .inl base⟩
      · exact ⟨type, real, .inr ⟨cls, owned, same⟩⟩
  unfold declaration? Taken
  by_cases shared : wrapperName = name
  · simp [shared]
  by_cases enum : propertyEnumName = name
  · simp [shared, enum]
  rw [if_neg shared, if_neg enum, Option.isSome_or, Bool.or_eq_true, types, Option.isSome_map,
    List.find?_isSome]
  simp only [shared, enum, false_or, beq_iff_eq]

/-- A support type has a file of its own exactly if a class or a value list has its name. -/
theorem declaration?_support (support : name ∈ supportTypes) :
    (snapshot.declaration? options name).isSome ↔
      (∃ cls ∈ snapshot.walkedClasses, classTypeName cls = name) ∨
        ∃ list ∈ snapshot.staticLists, valueListName list = name := by
  have unlike : ∀ support ∈ supportTypes, wrapperName ≠ support ∧ propertyEnumName ≠ support ∧
      support.toList.take 3 ≠ "OT_".toList := by
    simp [supportTypes, supportDeclarations, wrapperName, propertyEnumName]
  obtain ⟨unshared, unlisted, opens⟩ := unlike name support
  have no_base : ¬ ∃ type ∈ snapshot.realTypes, objectTypeName type = name := by
    rintro ⟨type, -, same⟩
    exact objectTypeName_ne type opens same.symm
  simp only [declaration?_isSome, Taken, unshared, unlisted, no_base, false_or]

end Schema.Snapshot

namespace Project

open Model Schema

/-- The types that the files of a plan declare, with repetitions. -/
def Plan.declaredTypes (plan : Plan) : List String :=
  (plan.artifacts.map (·.artifact)).flatMap (·.declaredTypes)

/-- The types that files are named for. -/
def namedTypes (artifacts : List Artifact) : List String :=
  (artifacts.filter (!·.kind.isHandEditable)).map (·.path.stem)

theorem namedTypes_eq_flatMap (artifacts : List Artifact) :
    namedTypes artifacts = artifacts.flatMap fun artifact =>
      if artifact.kind.isHandEditable then [] else [artifact.path.stem] := by
  induction artifacts with
  | nil => rfl
  | cons artifact rest ih =>
    rw [List.flatMap_cons, ← ih, namedTypes, List.filter_cons]
    cases artifact.kind.isHandEditable <;> rfl

/-- With distinct targets no two files are named for one type. -/
theorem Rendered.namedTypes_nodup {options : Options} {artifacts : List Artifact}
    (rendered : Rendered options artifacts) : (namedTypes artifacts).Nodup := by
  have generated : ∀ artifact ∈ artifacts.filter (!·.kind.isHandEditable),
      artifact.path = options.modelPath artifact.path.stem := by
    intro artifact member
    obtain ⟨listed, kind⟩ := List.mem_filter.mp member
    obtain ⟨stem, valid, place⟩ := rendered.placed artifact listed
    rw [if_neg (by simpa using kind)] at place
    rw [place, options.stem_modelPath valid]
  have apart : DistinctTargets (artifacts.filter (!·.kind.isHandEditable)) :=
    rendered.distinct.sublist List.filter_sublist
  refine List.pairwise_map.mpr (apart.imp_of_mem ?_)
  intro earlier later first second differs equal
  rw [generated earlier first, generated later second, equal, Path.same_refl] at differs
  cases differs

variable {ω : Type} {snapshot : Snapshot} {options : Options} {cache : Cache} {accepted : Plan}

section

variable {call : PlanCall ω} (agrees : cache.Agrees snapshot)
  (ended : (call.run snapshot.backend options (cache, ())).result = .ok accepted)

include agrees ended

theorem PlanCall.mem_namedTypes {name : String} (valid : Name.isValid name) :
    name ∈ namedTypes (accepted.artifacts.map (·.artifact)) ↔
      (snapshot.declaration? options name).isSome := by
  have rendered := Rendered.of_run (PlanCall.rendered_of_accepted agrees ended)
  constructor
  · intro member
    obtain ⟨artifact, listed, rfl⟩ := List.mem_map.mp member
    obtain ⟨planned, kind⟩ := List.mem_filter.mp listed
    obtain ⟨stem, validStem, place⟩ := rendered.placed artifact planned
    rw [if_neg (by simpa using kind)] at place
    have found := PlanCall.declaration?_of_planned agrees ended validStem planned place
    rw [place, options.stem_modelPath validStem, found]
    rfl
  · intro found
    rw [← PlanCall.get?_modelPath agrees ended valid] at found
    obtain ⟨artifact, found⟩ := Option.isSome_iff_exists.mp found
    obtain ⟨planned, equal⟩ := Plan.get?_eq_some found
    obtain ⟨stem, validStem, place⟩ := rendered.placed artifact planned
    cases editable : artifact.kind.isHandEditable with
    | true =>
      rw [editable, if_pos rfl] at place
      rw [place, options.partialPath_same_modelPath validStem valid] at equal
      cases equal
    | false =>
      rw [editable, if_neg Bool.false_ne_true] at place
      rw [place, options.modelPath_same validStem valid, beq_iff_eq] at equal
      subst equal
      refine List.mem_map.mpr ⟨artifact, List.mem_filter.mpr ⟨planned, by simp [editable]⟩, ?_⟩
      rw [place, options.stem_modelPath validStem]

/-- A file is named for a support type exactly if a class or a value list has the name. -/
theorem PlanCall.mem_namedTypes_support {name : String} (support : name ∈ supportTypes) :
    name ∈ namedTypes (accepted.artifacts.map (·.artifact)) ↔
      (∃ cls ∈ snapshot.walkedClasses, classTypeName cls = name) ∨
        ∃ list ∈ snapshot.staticLists, valueListName list = name := by
  rw [PlanCall.mem_namedTypes agrees ended (isValid_supportType support),
    snapshot.declaration?_support options support]

/-- The wrapper's file comes first, and no other file is of its kind. -/
theorem PlanCall.accepted_shape :
    ∃ rest, accepted.artifacts.map (·.artifact) = sharedWrapper options :: rest ∧
      ∀ artifact ∈ rest, artifact.kind ≠ .baseWrapper := by
  have rendered := Rendered.of_run (PlanCall.rendered_of_accepted agrees ended)
  obtain ⟨rest, files⟩ := List.head?_eq_some_iff.mp rendered.first
  refine ⟨rest, files, fun artifact member => ?_⟩
  have fresh : (sharedWrapper options).path.same artifact.path = false := by
    have distinct := rendered.distinct
    rw [files] at distinct
    exact (List.pairwise_cons.mp distinct).1 artifact member
  have planned : artifact ∈ accepted.artifacts.map (·.artifact) := by simp [files, member]
  rcases (snapshot.mem_inventory options artifact).mp
      (PlanCall.inventory_of_accepted agrees ended planned) with
    rfl | rfl | ⟨type, -, rfl⟩ | ⟨cls, -, rfl | ⟨-, rfl⟩⟩ | ⟨list, -, rfl⟩
  case inl => simp at fresh
  all_goals exact fun kind => by cases kind

/-- Besides the support types a plan declares the types that its files are named for. -/
theorem PlanCall.declaredTypes_perm :
    accepted.declaredTypes.Perm
      (supportTypes ++ namedTypes (accepted.artifacts.map (·.artifact))) := by
  obtain ⟨rest, files, others⟩ := PlanCall.accepted_shape agrees ended
  have shared : (sharedWrapper options).declaredTypes = wrapperName :: supportTypes := rfl
  have stem : (sharedWrapper options).path.stem = wrapperName := by
    rw [sharedWrapper]
    exact options.stem_modelPath isValid_wrapperName
  have named : namedTypes (sharedWrapper options :: rest) = wrapperName :: namedTypes rest := by
    rw [namedTypes, List.filter_cons_of_pos rfl, List.map_cons, stem]
    rfl
  have later : rest.flatMap (·.declaredTypes) = namedTypes rest := by
    rw [namedTypes_eq_flatMap]
    refine List.flatMap_congr fun artifact member => ?_
    have unshared := others artifact member
    unfold Artifact.declaredTypes ArtifactKind.isHandEditable
    cases kind : artifact.kind <;> simp_all
  rw [Plan.declaredTypes, files, List.flatMap_cons, shared, later, named]
  exact List.perm_middle.symm

/-- Every type that a file of the plan declares has a line in it. -/
theorem PlanCall.hasDeclaration {artifact : Artifact}
    (planned : artifact ∈ accepted.artifacts.map (·.artifact)) {typeName : String}
    (declared : typeName ∈ artifact.declaredTypes) :
    artifact.HasDeclaration options typeName := by
  have ofFile : ∀ {stem}, artifact.Declares options stem → Name.isValid stem →
      typeName ∈ [artifact.path.stem] → artifact.HasDeclaration options typeName := by
    intro stem declares valid member
    rw [declares.placed, options.stem_modelPath valid, List.mem_singleton] at member
    exact member ▸ declares.hasDeclaration
  rcases (snapshot.mem_inventory options artifact).mp
      (PlanCall.inventory_of_accepted agrees ended planned) with
    rfl | rfl | ⟨type, -, rfl⟩ | ⟨cls, -, rfl | ⟨-, rfl⟩⟩ | ⟨list, -, rfl⟩
  · rcases List.mem_cons.mp declared with rfl | support
    · exact (sharedWrapper_declares options).hasDeclaration
    · exact sharedWrapper_hasDeclaration options support
  · exact ofFile (propertyEnumArtifact_declares options _) isValid_propertyEnumName declared
  · exact ofFile (typeArtifact_declares options type) (isValid_objectTypeName type) declared
  · exact ofFile (snapshot.classArtifact_declares options cls) (isValid_classTypeName cls) declared
  · cases declared
  · exact ofFile (snapshot.listArtifact_declares options list) (isValid_valueListName list) declared

end

/-- Every type that a plan declares has a line that declares it, and no type is declared twice apart
from the support types of the wrapper. A plan declares each type once exactly if no class of a real
object type and no value list has the name of a support type. -/
theorem types_declared_once (call : PlanCall ω) (options : Options) (agrees : cache.Agrees snapshot)
    (ended : (call.run snapshot.backend options (cache, ())).result = .ok accepted) :
    (∀ file ∈ accepted.artifacts.map (·.artifact), ∀ name ∈ file.declaredTypes,
      file.HasDeclaration options name) ∧
    (accepted.declaredTypes.filter (· ∉ supportTypes)).Nodup ∧
    (accepted.declaredTypes.Nodup ↔
      (∀ cls ∈ snapshot.walkedClasses, classTypeName cls ∉ supportTypes) ∧
        ∀ list ∈ snapshot.staticLists, valueListName list ∉ supportTypes) := by
  have declared := PlanCall.declaredTypes_perm agrees ended
  have named := (Rendered.of_run (PlanCall.rendered_of_accepted agrees ended)).namedTypes_nodup
  refine ⟨fun file planned name => PlanCall.hasDeclaration agrees ended planned, ?_, ?_⟩
  · have apart : supportTypes.filter (· ∉ supportTypes) = [] := by simp
    rw [(declared.filter _).nodup_iff, List.filter_append, apart, List.nil_append]
    exact named.filter _
  · have support : supportTypes.Nodup := by decide
    rw [declared.nodup_iff, List.nodup_append']
    constructor
    · rintro ⟨-, -, disjoint⟩
      refine ⟨fun cls walked member => ?_, fun list static member => ?_⟩
      · exact disjoint member
          ((PlanCall.mem_namedTypes_support agrees ended member).mpr (.inl ⟨cls, walked, rfl⟩))
      · exact disjoint member
          ((PlanCall.mem_namedTypes_support agrees ended member).mpr (.inr ⟨list, static, rfl⟩))
    · rintro ⟨classes, lists⟩
      refine ⟨support, named, fun name member file => ?_⟩
      rcases (PlanCall.mem_namedTypes_support agrees ended member).mp file with
        ⟨cls, walked, rfl⟩ | ⟨list, static, rfl⟩
      · exact classes cls walked member
      · exact lists list static member

theorem types_declared_once_sample :
    let call : PlanCall Memory := ⟨Memory.writer, {}, true⟩
    ∃ accepted, (call.run sampleSnapshot.backend sampleOptions ([], ())).result = .ok accepted ∧
      accepted.declaredTypes.Nodup := by
  intro call
  have agrees := Cache.agrees_empty sampleSnapshot
  obtain ⟨accepted, ended⟩ := call.forced_accepted rfl sampleOptions agrees (by decide)
  obtain ⟨-, -, once⟩ := types_declared_once call sampleOptions agrees ended
  exact ⟨accepted, ended, once.mpr ⟨by decide +kernel, by decide +kernel⟩⟩

/-- A class has the name of a support type. -/
def supportSnapshot : Snapshot :=
  { objectTypes := [.real 0 "Document"]
    classes := [⟨1, "MetaStructureExtensions", 0, [], none, []⟩] }

/-- Two files declare the support type: the wrapper's, and that of the class. -/
theorem support_type_declared_twice :
    let call : PlanCall Memory := ⟨Memory.writer, {}, true⟩
    ∃ accepted, (call.run supportSnapshot.backend {} ([], ())).result = .ok accepted ∧
      accepted.declaredTypes.count "MetaStructureExtensions" = 2 ∧
      ¬ accepted.declaredTypes.Nodup := by
  intro call
  have agrees := Cache.agrees_empty supportSnapshot
  obtain ⟨accepted, ended⟩ := call.forced_accepted rfl {} agrees (by decide)
  have support : "MetaStructureExtensions" ∈ supportTypes := by simp [supportTypes, supportDeclarations]
  have ofClass : "MetaStructureExtensions" ∈ namedTypes (accepted.artifacts.map (·.artifact)) :=
    (PlanCall.mem_namedTypes_support agrees ended support).mpr
      (.inl ⟨_, List.mem_singleton_self _, Name.clean_of_isValid (isValid_supportType support)⟩)
  have named := (Rendered.of_run (PlanCall.rendered_of_accepted agrees ended)).namedTypes_nodup
  have twice : accepted.declaredTypes.count "MetaStructureExtensions" = 2 := by
    rw [(PlanCall.declaredTypes_perm agrees ended).count_eq, List.count_append,
      List.count_eq_one_of_mem named ofClass]
    rfl
  refine ⟨accepted, ended, twice, fun once => ?_⟩
  have single := List.nodup_iff_count_le_one.mp once "MetaStructureExtensions"
  omega

end Project

end VaultModels
