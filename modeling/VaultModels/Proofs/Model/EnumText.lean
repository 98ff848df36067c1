import VaultModels.Proofs.Model.CodeLines
import VaultModels.Proofs.Model.MemberNames
import VaultModels.Proofs.Model.SourceText
import VaultModels.Proofs.Session.Trace
import VaultModels.Proofs.Text.Numeral

/-!
# Enumerations read back

A reader of enums that knows nothing of how they are written: it looks for a line that describes a
member and is directly followed by one that names a member and gives its value. What it finds in the
file of an enum are the entries that the file was made from, each once and in their order, whatever
their display names hold. So a file belongs to one list of entries. The namespace, the name of the enum
and its summary are not read, and it is not held that C# reads the file so.
-/
namespace VaultModels.Model

open Code Schema Text

/-! ## The reader -/

/-- The display name in an attribute. -/
def readDescription? (line : List Char) : Option String := do
  let argument ← "[Description(".toList.isPrefixOf? line
  let (body, rest) ← scanLiteral argument
  let name ← unescape body
  if rest = ")]".toList then some (String.ofList name) else none

/-- The name of a member and its value. -/
def readDefinition? (line : List Char) : Option (String × ElementId) := do
  let value ← " = ".toList.isPrefixOf? (line.dropWhile (· != ' '))
  let id ← readInt32? value.dropLast
  if value.getLast? = some ',' then some (String.ofList (line.takeWhile (· != ' ')), id) else none

/-- Every line that opens no member is passed over. -/
def readMembers : List (List Char) → List (EnumEntry × String)
  | first :: second :: rest =>
    match readDescription? first, readDefinition? second with
    | some displayName, some (name, id) => (⟨id, displayName⟩, name) :: readMembers rest
    | _, _ => readMembers (second :: rest)
  | _ => []

def readEnum (text : String) : List (EnumEntry × String) := readMembers (readCode text)

/-! ## Lines of a member -/

theorem readDescription?_describe (entry : EnumEntry) :
    readDescription? entry.describe.toList = some entry.displayName := by
  have spelled : "[Description(".toList ++ ((quote entry.displayName).toList ++ ")]".toList) =
      entry.describe.toList := by simp [EnumEntry.describe]
  have argument := List.isPrefixOf?_eq_some_iff_append_eq.mpr spelled
  have body : unescape (escapeLiteral entry.displayName).toList = some entry.displayName.toList := by
    rw [escapeLiteral, String.toList_ofList, unescape_escapeChars]
  simp only [readDescription?, argument, Option.bind_eq_bind, Option.bind_some, scanLiteral_quote,
    body, if_true, String.ofList_toList]

/-- The name of a member ends where the first space is. -/
theorem readDefinition?_define (entry : EnumEntry) {name : String} (valid : Name.isValid name) :
    readDefinition? (entry.define name).toList = some (name, entry.id) := by
  have spaceless : ∀ c ∈ name.toList, (c != ' ') = true := by
    intro c member
    have part := ((Name.isValid_iff name).mp valid).parts_only c member
    have differs : c ≠ ' ' := by
      rintro rfl
      exact absurd part (by decide +kernel)
    simpa using differs
  have spelled : (entry.define name).toList =
      name.toList ++ (" = ".toList ++ ((int32Text entry.id).toList ++ [','])) := by
    simp [EnumEntry.define]
  have behind : (entry.define name).toList.dropWhile (· != ' ') =
      " = ".toList ++ ((int32Text entry.id).toList ++ [',']) := by
    rw [spelled, List.dropWhile_append_of_pos spaceless]
    rfl
  have front : (entry.define name).toList.takeWhile (· != ' ') = name.toList := by
    rw [spelled, List.takeWhile_append_of_pos spaceless]
    exact List.append_nil _
  have value := List.isPrefixOf?_eq_some_iff_append_eq.mpr behind.symm
  simp only [readDefinition?, value, Option.bind_eq_bind, Option.bind_some, List.dropLast_concat,
    readInt32?_int32Text, List.getLast?_concat, if_true, front, String.ofList_toList]

/-- An attribute opens with its bracket. -/
theorem readDescription?_eq_none {line : List Char} (other : line.head? ≠ some '[') :
    readDescription? line = none := by
  have mismatch : "[Description(".toList.isPrefixOf? line = none := by
    rw [Option.eq_none_iff_forall_ne_some]
    intro rest opens
    rw [List.isPrefixOf?_eq_some_iff_append_eq] at opens
    exact other (opens ▸ rfl)
  rw [readDescription?, mismatch]
  rfl

/-! ## Lines of a file -/

theorem readMembers_cons {line : List Char} (other : line.head? ≠ some '[')
    (rest : List (List Char)) : readMembers (line :: rest) = readMembers rest := by
  cases rest with
  | nil => rfl
  | cons second rest =>
    rw [readMembers, readDescription?_eq_none other]

theorem readMembers_member (entry : EnumEntry) {name : String} (valid : Name.isValid name)
    (rest : List (List Char)) :
    readMembers (entry.describe.toList :: (entry.define name).toList :: rest) =
      (entry, name) :: readMembers rest := by
  rw [readMembers, readDescription?_describe, readDefinition?_define entry valid]

/-- The texts of the items, as they are read. -/
def itemLines (items : List Item) : List (List Char) := items.map fun item => item.text.toList

theorem itemLines_append (items more : List Item) :
    itemLines (items ++ more) = itemLines items ++ itemLines more := List.map_append

/-- Items that open with no bracket are passed over. -/
theorem readMembers_items {items : List Item}
    (plain : ∀ item ∈ items, IsLine ('[' :: indentation) item.text) (rest : List (List Char)) :
    readMembers (itemLines items ++ rest) = readMembers rest := by
  induction items with
  | nil => rfl
  | cons item items ih =>
    obtain ⟨first, later⟩ := List.forall_mem_cons.mp plain
    refine (readMembers_cons ?_ _).trans (ih later)
    exact fun bracket => first.opens _ bracket List.mem_cons_self

/-- What stands between two members. -/
theorem isLine_between (isFirst : Bool) :
    ∀ item ∈ (if isFirst then [] else [Item.blank]), IsLine ('[' :: indentation) item.text := by
  have blank : IsLine ('[' :: indentation) Item.blank.text := isLine_ofList rfl
  cases isFirst <;> simp [blank]

theorem readMembers_written {pairs : List (EnumEntry × String)}
    (valid : ∀ pair ∈ pairs, Name.isValid pair.2) (isFirst : Bool) (rest : List (List Char)) :
    readMembers (itemLines (writtenMembers isFirst pairs) ++ rest) = pairs ++ readMembers rest := by
  induction pairs generalizing isFirst with
  | nil => rfl
  | cons pair pairs ih =>
    obtain ⟨named, others⟩ := List.forall_mem_cons.mp valid
    rw [writtenMembers, EnumEntry.items, itemLines_append, itemLines_append, List.append_assoc,
      List.append_assoc, readMembers_items (isLine_between isFirst)]
    refine (readMembers_member pair.1 named _).trans ?_
    exact congrArg (pair :: ·) (ih others false)

/-! ## Texts of the items -/

theorem isUnbroken_of_isValid {name : String} (valid : Name.isValid name) : IsUnbroken name :=
  isUnbroken_of_isOneLine (isOneLine_of_isValid valid)

theorem isLine_of_isValid {name : String} (valid : Name.isValid name) : IsLine indentation name where
  unbroken := isUnbroken_of_isValid valid
  opens := by
    have blank : indentation.all (!Name.isPart ·) := by decide +kernel
    intro c first listed
    have part := ((Name.isValid_iff name).mp valid).parts_only c (List.mem_of_mem_head? first)
    have strange := List.all_eq_true.mp blank c listed
    simp [part] at strange

theorem isLine_describe (entry : EnumEntry) : IsLine indentation entry.describe := by
  rw [EnumEntry.describe, String.append_assoc]
  refine isLine_append (isLine_ofList rfl) (by decide) ?_
  exact isUnbroken_append (isUnbroken_quote entry.displayName) (by decide)

theorem isLine_define (entry : EnumEntry) {name : String} (valid : Name.isValid name) :
    IsLine indentation (entry.define name) := by
  have named : name ≠ "" := by
    rintro rfl
    exact Name.isValid_ne_nil valid rfl
  rw [EnumEntry.define, String.append_assoc, String.append_assoc]
  refine isLine_append (isLine_of_isValid valid) named ?_
  exact isUnbroken_append (by decide)
    (isUnbroken_append (isUnbroken_of_isOneLine (isOneLine_int32Text entry.id)) (by decide))

theorem isLine_written {pairs : List (EnumEntry × String)}
    (valid : ∀ pair ∈ pairs, Name.isValid pair.2) (isFirst : Bool) :
    ∀ item ∈ writtenMembers isFirst pairs, IsLine indentation item.text := by
  induction pairs generalizing isFirst with
  | nil => simp [writtenMembers]
  | cons pair pairs ih =>
    obtain ⟨named, others⟩ := List.forall_mem_cons.mp valid
    have between : ∀ item ∈ (if isFirst then [] else [Item.blank]), IsLine indentation item.text :=
      fun item inside => (isLine_between isFirst item inside).weaken (List.subset_cons_self _ _)
    rw [writtenMembers, EnumEntry.items]
    simp only [List.forall_mem_append, List.forall_mem_cons]
    exact ⟨⟨between, isLine_describe pair.1, isLine_define pair.1 named, List.forall_mem_nil _⟩,
      ih others false⟩

theorem isUnbroken_modelNamespace {options : Options} (root : IsUnbroken options.rootNamespace) :
    IsUnbroken options.modelNamespace := by
  constructor
  · intro member
    exact (options.mem_modelNamespace member).elim root.1 (by decide)
  · intro member
    exact (options.mem_modelNamespace member).elim root.2 (by decide)

/-- What stands in front of the members. -/
def enumHead (modelNamespace typeName about : String) : List Item :=
  Item.banner ++ Item.usings ["System.ComponentModel"] ++
    [.line ("namespace " ++ modelNamespace), .opening] ++ summary (docText about) ++
    [.line ("public enum " ++ typeName), .opening]

section

variable {modelNamespace typeName : String} (about : String)

theorem enumItems_eq (entries : List EnumEntry) :
    enumItems modelNamespace typeName about entries =
      enumHead modelNamespace typeName about ++ enumBody typeName entries ++ [.closing, .closing] := by
  simp [enumItems, enumHead, Item.block]

/-- No line in front of the members opens like an attribute. -/
theorem isLine_enumHead (root : IsUnbroken modelNamespace) (valid : Name.isValid typeName) :
    ∀ item ∈ enumHead modelNamespace typeName about, IsLine ('[' :: indentation) item.text := by
  have banner : ∀ item ∈ Item.banner, IsLine ('[' :: indentation) item.text := by
    unfold Item.banner
    repeat refine List.forall_mem_cons.mpr ⟨isLine_ofList rfl, ?_⟩
    exact List.forall_mem_nil _
  have included : IsLine ('[' :: indentation) ("using " ++ "System.ComponentModel" ++ ";") :=
    isLine_append (isLine_append (isLine_ofList rfl) (by decide) (by decide)) (by decide) (by decide)
  have blank : IsLine ('[' :: indentation) Item.blank.text := isLine_ofList rfl
  have inside : IsLine ('[' :: indentation) ("namespace " ++ modelNamespace) :=
    isLine_append (isLine_ofList rfl) (by decide) root
  have told : IsLine ('[' :: indentation) ("/// " ++ docText about) :=
    isLine_append (isLine_ofList rfl) (by decide) (isUnbroken_docText about)
  have declared : IsLine ('[' :: indentation) ("public enum " ++ typeName) :=
    isLine_append (isLine_ofList rfl) (by decide) (isUnbroken_of_isValid valid)
  have opening : IsLine ('[' :: indentation) Item.opening.text := isLine_ofList rfl
  simp only [enumHead, summary, Item.usings, List.map_cons, List.map_nil, List.forall_mem_append,
    List.forall_mem_cons, List.not_mem_nil, false_implies, implies_true, and_true]
  exact ⟨⟨⟨⟨banner, included, blank⟩, inside, opening⟩, isLine_ofList rfl, told, isLine_ofList rfl⟩, declared,
    opening⟩

/-- What is read of an enum: its entries, under the names of its members. -/
theorem readEnum_enumText {options : Options} (root : IsUnbroken options.rootNamespace)
    (valid : Name.isValid typeName) (entries : List EnumEntry) :
    readEnum (enumText options typeName about entries) =
      entries.zip (Name.memberNames typeName (entries.map (·.displayName))) := by
  have named : ∀ pair ∈ entries.zip (Name.memberNames typeName (entries.map (·.displayName))),
      Name.isValid pair.2 := by
    intro pair listed
    exact Name.isValid_of_mem_memberNames (List.of_mem_zip listed).2
  have head := isLine_enumHead about (isUnbroken_modelNamespace root) valid
  have flush : ∀ item ∈ enumItems options.modelNamespace typeName about entries,
      IsLine indentation item.text := by
    have closing : IsLine indentation Item.closing.text := isLine_ofList rfl
    rw [enumItems_eq, enumBody_eq]
    simp only [List.forall_mem_append]
    refine ⟨⟨fun item inside => ?_, isLine_written named true⟩, by simp [closing]⟩
    exact (head item inside).weaken (List.subset_cons_self _ _)
  rw [readEnum, enumText, readCode_print options.layout flush, ← itemLines, enumItems_eq,
    itemLines_append, itemLines_append, List.append_assoc, List.append_assoc,
    readMembers_items head, enumBody_eq, readMembers_written named]
  exact List.append_nil _

theorem entries_of_enumText {options : Options} (root : IsUnbroken options.rootNamespace)
    (valid : Name.isValid typeName) (entries : List EnumEntry) :
    (readEnum (enumText options typeName about entries)).map (·.1) = entries := by
  rw [readEnum_enumText about root valid]
  exact List.map_fst_zip (by simp [Name.length_memberNames])

end

/-! ## What is read back -/

theorem propertyEnum_run {σ : Type} (options : Options) (properties : List PropertyDef)
    (backend : Backend σ) (state : σ) :
    ((propertyEnum options properties).run backend state).result =
      .ok (propertyEnumArtifact options properties) := rfl

theorem valueListEnum_run {σ : Type} {backend : Backend σ} {state : σ} {list : ObjectType}
    {items : List ValueListItem} (listed : (backend (.items list.id) state).1 = .ok items)
    (options : Options) :
    ((valueListEnum options list).run backend state).result =
      .ok
        { path := options.modelPath (valueListName list)
          content := enumText options (valueListName list)
            ("Items of the value list " ++ list.nameSingular ++ ".")
            (items.map fun item => ⟨item.id, item.name⟩)
          kind := .valueListEnum } := by
  rw [valueListEnum]
  exact congrArg Finished.result (Session.run_fetch_bind listed _)

/-- The file of an enum has the lines of each entry, in order, and is the file of no other entries; and
the files of the properties and of a value list have every one of their elements. -/
theorem enumText_reads_back {options : Options} (root : IsUnbroken options.rootNamespace) :
    (∀ (typeName about : String) (entries : List EnumEntry), Name.isValid typeName →
      readEnum (enumText options typeName about entries) =
          entries.zip (Name.memberNames typeName (entries.map (·.displayName))) ∧
        (readEnum (enumText options typeName about entries)).map (·.1) = entries) ∧
    (∀ (other : Options) (typeName otherName about otherAbout : String)
        (entries others : List EnumEntry), IsUnbroken other.rootNamespace →
      Name.isValid typeName → Name.isValid otherName →
      enumText options typeName about entries = enumText other otherName otherAbout others →
      entries = others) ∧
    ∀ {σ : Type} (backend : Backend σ) (state : σ),
      (∀ properties : List PropertyDef, ∃ artifact,
        ((propertyEnum options properties).run backend state).result = .ok artifact ∧
        (readEnum artifact.content).map (·.1) =
          properties.map fun property => ⟨property.id, property.name⟩) ∧
      ∀ (list : ObjectType) (items : List ValueListItem),
        (backend (.items list.id) state).1 = .ok items → ∃ artifact,
          ((valueListEnum options list).run backend state).result = .ok artifact ∧
          (readEnum artifact.content).map (·.1) = items.map fun item => ⟨item.id, item.name⟩ := by
  refine ⟨?_, ?_, ?_⟩
  · intro typeName about entries valid
    exact ⟨readEnum_enumText about root valid entries, entries_of_enumText about root valid entries⟩
  · intro other typeName otherName about otherAbout entries others otherRoot valid otherValid same
    rw [← entries_of_enumText about root valid entries, same,
      entries_of_enumText otherAbout otherRoot otherValid others]
  · intro σ backend state
    refine ⟨fun properties => ?_, fun list items listed => ?_⟩
    · refine ⟨_, propertyEnum_run options properties backend state, ?_⟩
      rw [propertyEnumArtifact, entries_of_enumText _ root isValid_propertyEnumName]
    · refine ⟨_, valueListEnum_run listed options, ?_⟩
      rw [entries_of_enumText _ root (isValid_valueListName list)]

/-- Items whose names look like the end of an attribute, like another member and like an attribute, and
two that are named by one keyword. -/
def disguised : Snapshot :=
  { valueListItems :=
      [{ id := 1, name := "a\")]\r\nb = 7,", valueList := 200 },
       { id := -2, name := "[Description(\"b\")]", valueList := 200 },
       { id := 7, name := "class", valueList := 200 },
       { id := 7, name := "class", valueList := 200 }] }

def disguisedEntries : List EnumEntry :=
  [⟨1, "a\")]\r\nb = 7,"⟩, ⟨-2, "[Description(\"b\")]"⟩, ⟨7, "class"⟩, ⟨7, "class"⟩]

theorem enumText_reads_back_disguised :
    let options : Options := { rootNamespace := "Acme", layout := ⟨.tabs, .lf⟩ }
    IsUnbroken options.rootNamespace ∧ Name.isValid "Rate" ∧
    readEnum (enumText options "Rate" "Rates" disguisedEntries) =
      disguisedEntries.zip ["ab7", "Descriptionb", "_class", "_class_2"] ∧
    (∀ others, enumText options "Rate" "Rates" disguisedEntries =
      enumText options "Rate" "Rates" others → disguisedEntries = others) ∧
    ∃ artifact, ((valueListEnum options (.staticList 200 "Rate")).run disguised.backend ()).result =
        .ok artifact ∧
      (readEnum artifact.content).map (·.1) = disguisedEntries := by
  intro options
  have root : IsUnbroken options.rootNamespace := by decide
  have valid : Name.isValid "Rate" := by decide
  obtain ⟨read, told, listed⟩ := enumText_reads_back root
  have names : Name.memberNames "Rate" (disguisedEntries.map (·.displayName)) =
      ["ab7", "Descriptionb", "_class", "_class_2"] := by decide +kernel
  obtain ⟨whole, -⟩ := read "Rate" "Rates" disguisedEntries valid
  refine ⟨root, valid, names ▸ whole, fun others same => ?_, ?_⟩
  · exact told options _ _ _ _ _ others root valid valid same
  · exact (listed disguised.backend ()).2 (.staticList 200 "Rate") disguised.valueListItems rfl

end VaultModels.Model
