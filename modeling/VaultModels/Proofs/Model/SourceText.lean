import VaultModels.Proofs.Code.SourceLines
import VaultModels.Proofs.Model.Members
import VaultModels.Proofs.Model.Subjects

/-!
# Schema text in files

Some text of a schema stands in a file encoded but not cleaned: display names in comments, summaries
and attributes, and aliases in the accessors of the properties that they name. Everything else in a
file is fixed text, a cleaned name, a number or a GUID, and ends no line. So the terminators in the
lines of a file are those that the encodings pass on.
-/
namespace VaultModels

namespace Model

open Code Schema Text

variable {snapshot : Snapshot}

/-! ## Accessors -/

/-- The alias that names a property in the code, if one does. -/
theorem terminators_propertyReference (property : PropertyDef) :
    terminators (propertyReference property) = property.firstAlias?.toList.flatMap passedOn := by
  unfold propertyReference
  cases property.firstAlias? with
  | some first => simp [terminators_quote]
  | none =>
    cases stored : property.guid.bind Guid.ofAnyForm? with
    | some guid =>
      obtain ⟨written, -, read⟩ := Option.bind_eq_some_iff.mp stored
      have plain := Guid.isOneLine_of_isCanonical (Guid.isCanonical_of_ofAnyForm? read)
      exact (terminators_quote guid).trans (passedOn_eq_nil plain)
    | none => exact terminators_plain (isOneLine_int32Text property.id)

theorem isOneLine_target (type : ObjectType) : isOneLine (Target.of type).typeName := by
  unfold Target.of
  split
  · exact isOneLine_of_isValid (isValid_objectTypeName type)
  · exact isOneLine_of_isValid (isValid_valueListName type)

/-- Types of accessors are built-in types or cleaned names. -/
theorem Accessor.isOneLine_entryType {property : PropertyDef} {accessor : Accessor}
    (mapped : snapshot.accessorFor? property = some accessor) : isOneLine accessor.entryType := by
  have scalars : ∀ type : Scalar, isOneLine type.typeName := by
    intro type
    cases type <;> decide
  unfold Snapshot.accessorFor? at mapped
  split at mapped
  case h_7 | h_8 =>
    obtain ⟨type, -, rfl⟩ := Option.map_eq_some_iff.mp mapped
    exact isOneLine_target type
  all_goals
    cases mapped
    try exact scalars _

theorem Accessor.terminators_storageType (accessor : Accessor) :
    terminators accessor.storageType = terminators accessor.entryType := by
  cases accessor with
  | scalar _ => rfl
  | single _ => rfl
  | multiple target => simp (disch := decide) [storageType, entryType]

theorem Accessor.terminators_getter (accessor : Accessor) (reference : String) :
    terminators (accessor.getter reference) =
      terminators accessor.entryType ++ terminators reference := by
  have named : isOneLine accessor.getterName := by
    unfold getterName
    split <;> decide
  -- fixed text is looked through by `decide`, and what varies is known to be one line
  simp (disch := first | assumption | decide) [getter]

theorem Accessor.terminators_setter (accessor : Accessor) (reference : String) :
    terminators (accessor.setter reference) = terminators reference := by
  have named : isOneLine accessor.setterName := by
    unfold setterName
    split <;> decide
  simp (disch := first | assumption | decide) [setter]

/-! ## Files -/

@[simp] theorem terminators_summary (text : String) :
    Item.terminators (summary text) = terminators text := by
  simp (disch := decide) [summary]

/-- A member tells the display name in a comment, and the alias once in each accessor. -/
def memberTexts (property : PropertyDef) : List String :=
  property.name :: (property.firstAlias?.toList ++ property.firstAlias?.toList)

theorem Member.terminators_items {property : PropertyDef} {member : Member}
    (isOf : member.IsOf snapshot property) (valid : Name.isValid member.name) :
    Item.terminators member.items = (memberTexts property).flatMap passedOn := by
  have typed := Accessor.isOneLine_entryType isOf.accessor
  have named := isOneLine_of_isValid valid
  simp (disch := first | assumption | decide) [items, Item.blank, Accessor.terminators_storageType,
    Accessor.terminators_getter, Accessor.terminators_setter, isOf.displayName, isOf.reference,
    terminators_propertyReference, memberTexts]

theorem terminators_members {definitions : List PropertyDef} {found : List Member}
    (isOf : List.Forall₂ (Member.IsOf snapshot) definitions found)
    (valid : ∀ member ∈ found, Name.isValid member.name) :
    (found.flatMap fun member => Item.terminators member.items) =
      (definitions.flatMap memberTexts).flatMap passedOn := by
  induction isOf with
  | nil => rfl
  | cons first _ ih =>
    rw [List.forall_mem_cons] at valid
    rw [List.flatMap_cons, Member.terminators_items first valid.1, ih valid.2, List.flatMap_cons,
      List.flatMap_append]

theorem terminators_constructorItems {typeName : String} (plain : isOneLine typeName) :
    Item.terminators (constructorItems typeName) = [] := by
  have fixed : ∀ shape ∈ constructors, isOneLine shape.parameters ∧ isOneLine shape.arguments := by
    simp only [constructors, List.forall_mem_cons, List.not_mem_nil, false_implies, implies_true,
      and_true]
    and_intros <;> exact isOneLine_ofList rfl
  have each : ∀ shape ∈ constructors, Item.terminators (shape.items typeName) = [] := by
    intro shape listed
    obtain ⟨parameters, arguments⟩ := fixed shape listed
    simp (disch := first | assumption | decide) [Constructor.items]
  have between : Item.terminators [Item.blank] = [] := by decide
  simp only [constructors, List.forall_mem_cons, List.not_mem_nil, false_implies, implies_true,
    and_true] at each
  simp only [constructorItems, constructors, List.map_cons, List.map_nil,
    List.intersperse_cons_cons, List.intersperse_singleton, List.flatten_cons, List.flatten_nil,
    Item.terminators_append, between, each, List.append_nil]

theorem terminators_enumMembers (scope : Name.Scope) (isFirst : Bool) (entries : List EnumEntry) :
    Item.terminators (enumMembers scope isFirst entries) =
      entries.flatMap fun entry => passedOn entry.displayName := by
  induction entries generalizing scope isFirst with
  | nil => rfl
  | cons entry rest ih =>
    -- whatever the display name is, the name that is handed out for it is an identifier
    have named : Name.isValid (scope.claim (Name.clean entry.displayName)).1 :=
      (scope.pick_handsOut _).isValid (Name.isValid_clean entry.displayName)
    have plain := isOneLine_of_isValid named
    have numbered := isOneLine_int32Text entry.id
    have first : Item.terminators (if isFirst then [] else [Item.blank]) = [] := by
      cases isFirst <;> decide
    simp (disch := first | assumption | decide) [enumMembers, EnumEntry.items, first,
      EnumEntry.describe, EnumEntry.define, ih]

theorem terminators_enumItems {modelNamespace typeName about : String} {entries : List EnumEntry}
    (root : isOneLine modelNamespace) (plain : isOneLine typeName) :
    Item.terminators (enumItems modelNamespace typeName about entries) =
      passedOn about ++ entries.flatMap fun entry => passedOn entry.displayName := by
  have usings := Item.terminators_usings ["System.ComponentModel"] (by decide)
  simp (disch := first | assumption | decide) [enumItems, usings, enumBody, terminators_enumMembers]

theorem terminators_typeBaseItems {modelNamespace : String} (root : isOneLine modelNamespace)
    (type : ObjectType) :
    Item.terminators (typeBaseItems modelNamespace type) = passedOn type.nameSingular := by
  have usings := Item.terminators_usings ["System", "MFilesAPI"] (by decide)
  have plain := isOneLine_of_isValid (isValid_objectTypeName type)
  simp (disch := first | assumption | decide) [typeBaseItems, usings, terminators_constructorItems]

theorem terminators_classItems {modelNamespace base : String} {partials : Bool}
    {cls : ObjectClass} {members : List Member} (root : isOneLine modelNamespace)
    (derived : isOneLine base) :
    Item.terminators (classItems modelNamespace partials cls base members) =
      passedOn cls.name ++ members.flatMap fun member => Item.terminators member.items := by
  have usings := Item.terminators_usings ["System", "System.Collections.Generic", "MFilesAPI"]
    (by decide)
  have plain := isOneLine_of_isValid (isValid_classTypeName cls)
  have modifier : isOneLine (if partials then "public partial class" else "public class") := by
    cases partials <;> decide
  simp (disch := first | assumption | decide) [classItems, usings, terminators_constructorItems,
    Item.terminators_flatMap]

theorem terminators_classPartialItems {modelNamespace : String} (root : isOneLine modelNamespace)
    (cls : ObjectClass) : Item.terminators (classPartialItems modelNamespace cls) = [] := by
  have usings := Item.terminators_usings ["System", "MFilesAPI"] (by decide)
  have plain := isOneLine_of_isValid (isValid_classTypeName cls)
  simp (disch := first | assumption | decide) [classPartialItems, usings]

/-! ## The shared wrapper -/

theorem splitLines_of_free {cs : List Char} (free : '\n' ∉ cs) : splitLines cs = [cs] := by
  induction cs with
  | nil => rfl
  | cons c rest ih =>
    rw [List.mem_cons, not_or] at free
    rw [splitLines, if_neg (Ne.symm free.1), ih free.2]

theorem isOneLine_wrapperHead : ∀ line ∈ wrapperHead, isOneLine line := by
  unfold wrapperHead
  repeat refine List.forall_mem_cons.mpr ⟨isOneLine_ofList rfl, ?_⟩
  exact List.forall_mem_nil _

theorem isOneLine_wrapperBody : ∀ line ∈ wrapperBody, isOneLine line := by
  -- line by line, since the text as a whole is too long to be looked through at once
  unfold wrapperBody
  repeat refine List.forall_mem_cons.mpr ⟨isOneLine_ofList rfl, ?_⟩
  exact List.forall_mem_nil _

theorem isOneLine_wrapperLines {modelNamespace : String} (root : isOneLine modelNamespace) :
    ∀ line ∈ wrapperLines modelNamespace, isOneLine line := by
  have header : isOneLine ("namespace " ++ modelNamespace) := by
    rw [← terminators_eq_nil, terminators_append, terminators_plain root]
    decide
  have whole : splitLines ("namespace " ++ modelNamespace).toList =
      [("namespace " ++ modelNamespace).toList] := by
    refine splitLines_of_free fun ends => ?_
    simpa [lineTerminators] using List.all_eq_true.mp header _ ends
  rw [wrapperLines, whole]
  intro line listed
  rcases List.mem_append.mp listed with front | behind
  · rcases List.mem_append.mp front with head | middle
    · exact isOneLine_wrapperHead line head
    · rw [List.mem_singleton.mp middle, String.ofList_toList]
      exact header
  · exact isOneLine_wrapperBody line behind

/-- The namespace of the models has its characters from the root, but for those of its last part. -/
theorem Options.mem_modelNamespace {options : Options} {c : Char}
    (member : c ∈ options.modelNamespace.toList) :
    c ∈ options.rootNamespace.toList ∨ c ∈ ".Models".toList := by
  unfold Options.modelNamespace at member
  split at member
  next => exact .inr (List.mem_cons_of_mem _ member)
  next root _ =>
    rw [String.toList_append, String.toList_ofList] at member
    exact (List.mem_append.mp member).imp_left fun inside =>
      trimChars_subset _ (dropTail_subset _ _ inside)

theorem Options.isOneLine_modelNamespace {options : Options}
    (root : isOneLine options.rootNamespace) : isOneLine options.modelNamespace := by
  have fixed : isOneLine ".Models" := by decide
  rw [isOneLine, List.all_eq_true] at root fixed ⊢
  intro c member
  exact (mem_modelNamespace member).elim (root c) (fixed c)

end Model

namespace Schema.Snapshot

/-! ## All subjects -/

open Code Model Text

variable (snapshot : Snapshot) (options : Options)

/-- The items that the file of a subject is printed from. The shared wrapper comes with its
indentation. -/
def fileItems : Subject → List Item
  | .wrapper => (wrapperLines options.modelNamespace).map .line
  | .properties =>
    enumItems options.modelNamespace propertyEnumName "Property definitions of the vault."
      (snapshot.propertyDefs.map fun property => ⟨property.id, property.name⟩)
  | .objectType type => typeBaseItems options.modelNamespace type
  | .objectClass cls =>
    classItems options.modelNamespace options.partials cls (snapshot.baseName cls)
      (snapshot.membersOf cls)
  | .classPartial cls => classPartialItems options.modelNamespace cls
  | .valueList list =>
    enumItems options.modelNamespace (valueListName list)
      ("Items of the value list " ++ list.nameSingular ++ ".")
      ((snapshot.itemsOf list.id).map fun item => ⟨item.id, item.name⟩)

/-- The lines of a subject's file, without their endings. -/
def sourceLines (subject : Subject) : List String :=
  (Item.lines 0 (snapshot.fileItems options subject)).map options.layout.indented

/-- The texts of the schema that are encoded into the file of a subject, as often as they are. -/
def embeddedTexts : Subject → List String
  | .wrapper | .classPartial _ => []
  | .properties => snapshot.propertyDefs.map (·.name)
  | .objectType type => [type.nameSingular]
  | .objectClass cls => cls.name :: (snapshot.memberDefinitions cls).flatMap memberTexts
  | .valueList list => list.nameSingular :: (snapshot.itemsOf list.id).map (·.name)

theorem artifactOf_content (subject : Subject) :
    (snapshot.artifactOf options subject).content =
      options.layout.print (snapshot.fileItems options subject) := by
  cases subject with
  | wrapper =>
    simp only [artifactOf, sharedWrapper, wrapperContent, fileItems, Code.Layout.print_flat]
  | _ =>
    simp only [artifactOf, propertyEnumArtifact, typeArtifact, classArtifact, classPartial,
      listArtifact, enumText, fileItems]

theorem sourceLines_join (subject : Subject) :
    (snapshot.artifactOf options subject).content =
      String.join ((snapshot.sourceLines options subject).map
        (· ++ options.layout.lineEnding.text)) := by
  rw [artifactOf_content, Code.Layout.print_lines, sourceLines]

variable {snapshot options}

theorem walked_of_subject {cls : ObjectClass}
    (listed : .objectClass cls ∈ snapshot.subjects options) : cls ∈ snapshot.walkedClasses := by
  simp only [subjects, List.mem_cons, List.mem_append, List.mem_flatMap, List.mem_map, reduceCtorEq,
    false_or, and_false, exists_false, or_false] at listed
  obtain ⟨type, real, other, owned, own⟩ := listed
  unfold classSubjects at own
  obtain rfl : cls = other := by split at own <;> simpa using own
  exact List.mem_flatMap.mpr ⟨type, real, owned⟩

/-- A class whose file is rendered has a member for each of its definitions that gets one. -/
theorem membersOf_isOf {cls : ObjectClass} (walked : cls ∈ snapshot.walkedClasses)
    (clear : snapshot.walkedAssociations.findSome? snapshot.fault? = none) :
    List.Forall₂ (Member.IsOf snapshot) (snapshot.memberDefinitions cls)
        (snapshot.membersOf cls) ∧
      ∀ member ∈ snapshot.membersOf cls, Name.isValid member.name := by
  obtain ⟨type, -, owned⟩ := List.mem_flatMap.mp walked
  exact members_isOf
    (members_of_sound (List.mem_filter.mp owned).1 (classFault?_of_clear clear walked))

theorem isOneLine_baseName (cls : ObjectClass) : isOneLine (snapshot.baseName cls) := by
  unfold baseName
  cases snapshot.objectTypes.find? (·.id == cls.objectType) with
  | none => decide
  | some type => exact isOneLine_of_isValid (isValid_objectTypeName type)

/-- The terminators in the lines of a file are those that the encodings pass on. -/
theorem terminators_sourceLines {subject : Subject}
    (listed : subject ∈ snapshot.subjects options)
    (clear : snapshot.walkedAssociations.findSome? snapshot.fault? = none)
    (root : isOneLine options.rootNamespace) :
    (snapshot.sourceLines options subject).flatMap terminators =
      (snapshot.embeddedTexts subject).flatMap passedOn := by
  have modelRoot := Options.isOneLine_modelNamespace root
  rw [sourceLines, Code.Layout.terminators_lines]
  cases subject with
  | wrapper =>
    have plain := isOneLine_wrapperLines modelRoot
    rw [fileItems, embeddedTexts, List.flatMap_nil, Item.terminators, List.flatMap_map]
    exact List.flatMap_eq_nil_iff.mpr fun line inside => terminators_plain (plain line inside)
  | properties =>
    have plain : isOneLine propertyEnumName := by decide
    have about : passedOn "Property definitions of the vault." = [] := by decide
    rw [fileItems, terminators_enumItems modelRoot plain, about, List.nil_append, embeddedTexts,
      List.flatMap_map, List.flatMap_map]
  | objectType type =>
    rw [fileItems, terminators_typeBaseItems modelRoot, embeddedTexts, List.flatMap_singleton]
  | objectClass cls =>
    obtain ⟨isOf, valid⟩ := membersOf_isOf (walked_of_subject listed) clear
    rw [fileItems, terminators_classItems modelRoot (isOneLine_baseName cls),
      terminators_members isOf valid, embeddedTexts, List.flatMap_cons]
  | classPartial cls =>
    rw [fileItems, terminators_classPartialItems modelRoot, embeddedTexts, List.flatMap_nil]
  | valueList list =>
    have about : passedOn ("Items of the value list " ++ list.nameSingular ++ ".") =
        passedOn list.nameSingular := by
      have front : passedOn "Items of the value list " = [] := by decide
      have back : passedOn "." = [] := by decide
      rw [passedOn_append, passedOn_append, front, back, List.nil_append, List.append_nil]
    have plain := isOneLine_of_isValid (isValid_valueListName list)
    rw [fileItems, terminators_enumItems modelRoot plain, about, embeddedTexts, List.flatMap_cons,
      List.flatMap_map, List.flatMap_map]

section

variable {subject : Subject} (listed : subject ∈ snapshot.subjects options)
  (clear : snapshot.walkedAssociations.findSome? snapshot.fault? = none)
  (root : isOneLine options.rootNamespace)

include listed clear root

/-- The encodings take each carriage return and each line feed out of what they encode. -/
theorem sourceLines_unbroken :
    ∀ line ∈ snapshot.sourceLines options subject, '\r' ∉ line.toList ∧ '\n' ∉ line.toList := by
  have traced : ∀ c ∈ lineTerminators, ∀ line ∈ snapshot.sourceLines options subject,
      c ∈ line.toList → c ∈ passedTerminators := by
    intro c ends line inside member
    have found : c ∈ (snapshot.sourceLines options subject).flatMap terminators :=
      List.mem_flatMap.mpr ⟨line, inside, mem_terminators.mpr ⟨member, ends⟩⟩
    rw [terminators_sourceLines listed clear root] at found
    obtain ⟨text, -, passed⟩ := List.mem_flatMap.mp found
    exact (mem_passedOn.mp passed).2
  intro line inside
  exact ⟨fun member => absurd (traced '\r' (by decide) line inside member) (by decide),
    fun member => absurd (traced '\n' (by decide) line inside member) (by decide)⟩

/-- The other three terminators are in a file exactly if they are in a text that it embeds. -/
theorem mem_content_iff {c : Char} (passed : c ∈ passedTerminators) :
    c ∈ (snapshot.artifactOf options subject).content.toList ↔
      ∃ text ∈ snapshot.embeddedTexts subject, c ∈ text.toList := by
  have ends : c ∈ lineTerminators := List.mem_cons_of_mem _ (List.mem_cons_of_mem _ passed)
  have apart : c ∉ options.layout.lineEnding.text.toList := by
    have endings : ∀ ending : LineEnding, passedOn ending.text = [] := by
      intro ending
      cases ending <;> decide
    intro member
    have found := mem_passedOn.mpr ⟨member, passed⟩
    rw [endings] at found
    cases found
  have found : c ∈ (snapshot.sourceLines options subject).flatMap terminators ↔
      c ∈ (snapshot.embeddedTexts subject).flatMap passedOn := by
    rw [terminators_sourceLines listed clear root]
  rw [List.mem_flatMap, List.mem_flatMap] at found
  simp only [mem_terminators, mem_passedOn, ends, passed, and_true] at found
  rw [sourceLines_join, String.toList_join, ← found]
  simp [apart]

end

end Schema.Snapshot

end VaultModels
