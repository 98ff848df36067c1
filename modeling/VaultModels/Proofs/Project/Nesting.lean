import VaultModels.Proofs.Code.Nesting
import VaultModels.Proofs.Project.LineEndings
import VaultModels.Proofs.Project.References

/-!
# Nesting of planned files

Every file that is printed from items is built of closed blocks: a namespace with one type in it, and
the constructors and members of the type inside. However many members there are and whatever text of
the schema stands on their lines, a reader of braces gets back to depth 0. The shared wrapper comes
with its own indentation and is left out.
-/
namespace VaultModels

namespace Model

open Code Schema Text

/-! ## Items of files -/

theorem isNested_banner : Item.IsNested Item.banner := .plain (by decide)

theorem isNested_usings (namespaces : List String) : Item.IsNested (Item.usings namespaces) := by
  have plain : ∀ name, Item.isPlain (.line ("using " ++ name ++ ";")) := by
    intro name
    rw [Item.isPlain, hasInk_back _ (by decide), Bool.or_true]
  refine .append (.plain ?_) (.plain (by decide))
  rw [List.all_map, List.all_eq_true]
  exact fun name _ => plain name

/-- A file with one namespace. -/
theorem isNested_namespace (modelNamespace : String) {front body : List Item}
    (before : Item.IsNested front) (inside : Item.IsNested body) :
    Item.IsNested (front ++ [.line ("namespace " ++ modelNamespace)] ++ Item.block body) :=
  .append (.append before (.inked (hasInk_front (by decide) _) .nil)) (.block inside)

theorem isNested_summary (text : String) : Item.IsNested (summary text) :=
  .inked (by decide) (.inked (hasInk_front (by decide) text) (.inked (by decide) .nil))

theorem Constructor.isNested_items (typeName : String) (shape : Constructor) :
    Item.IsNested (shape.items typeName) :=
  .append (.inked (hasInk_back _ (by decide)) (.inked (hasInk_back _ (by decide)) .nil))
    (.block .nil)

theorem isNested_constructorItems (typeName : String) :
    Item.IsNested (constructorItems typeName) := by
  refine .separated (.plain (by decide)) fun part listed => ?_
  obtain ⟨shape, -, rfl⟩ := List.mem_map.mp listed
  exact shape.isNested_items typeName

/-- An attribute and a definition for each entry. -/
theorem isNested_enumMembers (scope : Name.Scope) (isFirst : Bool) (entries : List EnumEntry) :
    Item.IsNested (enumMembers scope isFirst entries) := by
  induction entries generalizing scope isFirst with
  | nil => exact .nil
  | cons entry rest ih =>
    have between : Item.IsNested (if isFirst then [] else [Item.blank]) := by
      cases isFirst <;> exact .plain (by decide)
    have written : Item.IsNested [.line entry.describe,
        .line (entry.define (scope.claim (Name.clean entry.displayName)).1)] :=
      .inked (hasInk_back _ (by decide)) (.inked (hasInk_back _ (by decide)) .nil)
    exact .append (.append between written) (ih _ _)

theorem isNested_enumItems (modelNamespace typeName about : String) (entries : List EnumEntry) :
    Item.IsNested (enumItems modelNamespace typeName about entries) := by
  refine isNested_namespace modelNamespace (.append isNested_banner (isNested_usings _)) ?_
  refine .append (.append (isNested_summary _) (.inked (hasInk_front (by decide) _) .nil)) ?_
  exact .block (isNested_enumMembers _ _ entries)

theorem isNested_typeBaseItems (modelNamespace : String) (type : ObjectType) :
    Item.IsNested (typeBaseItems modelNamespace type) := by
  refine isNested_namespace modelNamespace (.append isNested_banner (isNested_usings _)) ?_
  refine .append (.append (isNested_summary _) (.inked (hasInk_back _ (by decide)) .nil)) ?_
  exact .block (isNested_constructorItems _)

/-- A comment and a declaration in front of the two accessors. -/
theorem Member.isNested_items (member : Member) : Item.IsNested member.items := by
  have comment := hasInk_back ("// Binding property for " ++ commentText member.displayName)
    (by decide : hasInk ".")
  have declaration : hasInk ("public " ++ member.accessor.storageType ++ " " ++ member.name) :=
    hasInk_front (hasInk_front (hasInk_front (by decide) _) _) _
  have accessors : Item.IsNested
      [.line ("get \x7b return " ++ member.accessor.getter member.reference ++ "; \x7d"),
       .line ("set \x7b " ++ member.accessor.setter member.reference ++ "; \x7d")] :=
    .inked (hasInk_back _ (by decide)) (.inked (hasInk_back _ (by decide)) .nil)
  have blank : Item.IsNested [Item.blank] := .plain (by decide)
  exact .append (.append blank (.inked comment (.inked declaration .nil))) (.block accessors)

theorem isNested_classItems (modelNamespace : String) (partials : Bool) (cls : ObjectClass)
    (base : String) (members : List Member) :
    Item.IsNested (classItems modelNamespace partials cls base members) := by
  refine isNested_namespace modelNamespace (.append isNested_banner (isNested_usings _)) ?_
  have header := hasInk_front (hasInk_back
    ((if partials then "public partial class" else "public class") ++ " " ++ classTypeName cls)
    (by decide : hasInk " : ")) base
  have each : Item.IsNested (members.flatMap Member.items) := by
    rw [List.flatMap_def]
    refine .flatten fun part listed => ?_
    obtain ⟨member, -, rfl⟩ := List.mem_map.mp listed
    exact member.isNested_items
  exact .append (.inked (hasInk_back _ (by decide)) (.inked header .nil))
    (.block (.append (isNested_constructorItems _) each))

theorem isNested_classPartialItems (modelNamespace : String) (cls : ObjectClass) :
    Item.IsNested (classPartialItems modelNamespace cls) :=
  isNested_namespace modelNamespace (isNested_usings _)
    (.append (.inked (hasInk_front (by decide) _) .nil) (.block .nil))

end Model

namespace Schema.Snapshot

open Code Model

variable {snapshot : Snapshot} {options : Options} {subject : Subject}

theorem isNested_fileItems (other : subject ≠ .wrapper) :
    Item.IsNested (snapshot.fileItems options subject) := by
  cases subject with
  | wrapper => exact absurd rfl other
  | properties => exact isNested_enumItems _ _ _ _
  | objectType type => exact isNested_typeBaseItems _ type
  | objectClass cls => exact isNested_classItems _ _ cls _ _
  | classPartial cls => exact isNested_classPartialItems _ cls
  | valueList list => exact isNested_enumItems _ _ _ _

end Schema.Snapshot

namespace Project

open Model Schema

variable {ω : Type} {call : PlanCall ω} {snapshot : Snapshot} {options : Options} {cache : Cache}
  {accepted : Plan}

/-- Where the root namespace holds no carriage return and no line feed, the braces of every planned file
but the shared wrapper are read from depth 0 to depth 0, each in its column and each other line
indented as deep as it stands. -/
theorem files_nested (agrees : cache.Agrees snapshot)
    (ended : (call.run snapshot.backend options (cache, ())).result = .ok accepted)
    (root : IsUnbroken options.rootNamespace) {artifact : Artifact}
    (planned : artifact ∈ accepted.artifacts.map (·.artifact))
    (other : artifact.kind ≠ .baseWrapper) :
    options.layout.readDepth artifact.content = some 0 := by
  obtain ⟨subject, listed, rfl⟩ :=
    snapshot.exists_subject options (PlanCall.inventory_of_accepted agrees ended planned)
  have clear := PlanCall.clear_of_accepted agrees ended
  have unshared : subject ≠ .wrapper := by
    rintro rfl
    exact other (snapshot.artifactOf_kind options .wrapper)
  rw [snapshot.artifactOf_content]
  exact options.layout.readDepth_print (Snapshot.isNested_fileItems unshared)
    (Snapshot.sourceLines_isUnbroken_of_root listed clear root)

/-- Braces and line feeds in the names of a schema. -/
def bracedSnapshot : Snapshot :=
  { objectTypes := [.real 0 "Docu\n\x7d\nment", .staticList 200 "\x7b"]
    classes := [⟨5, "\x7d\n\x7d", 0, [], none, [⟨1001, false⟩]⟩]
    propertyDefs := [{ id := 1001, name := "\n\x7b", dataType := .floating, aliases := ["\x7b"] }]
    valueListItems := [{ id := 1, name := "\x7d\nOpen", valueList := 200 }] }

theorem files_nested_braced :
    let call : PlanCall Memory := ⟨Memory.writer, {}, true⟩
    let options : Options :=
      { rootNamespace := "Acme\x7d", partials := true
        layout := { indent := .tabs, lineEnding := .lf } }
    let properties := propertyEnumArtifact options bracedSnapshot.propertyDefs
    ∃ accepted, (call.run bracedSnapshot.backend options ([], ())).result = .ok accepted ∧
      properties ∈ accepted.artifacts.map (·.artifact) ∧ properties.kind ≠ .baseWrapper ∧
      options.layout.readDepth properties.content = some 0 := by
  intro call options properties
  have agrees := Cache.agrees_empty bracedSnapshot
  obtain ⟨accepted, ended⟩ := call.forced_accepted rfl options agrees (by decide)
  have root : IsUnbroken options.rootNamespace := (by decide : IsUnbroken "Acme\x7d")
  have first : bracedSnapshot.declaration? options propertyEnumName = some properties := by
    have unshared : wrapperName ≠ propertyEnumName := by decide
    rw [Snapshot.declaration?, if_neg unshared, if_pos rfl]
  have planned : properties ∈ accepted.artifacts.map (·.artifact) :=
    PlanCall.mem_of_declaration? agrees ended isValid_propertyEnumName first
      (propertyEnumArtifact_declares options _)
  have other : properties.kind ≠ .baseWrapper :=
    (by decide : ArtifactKind.propertyEnum ≠ .baseWrapper)
  exact ⟨accepted, ended, planned, other, files_nested agrees ended root planned other⟩

end Project

end VaultModels
