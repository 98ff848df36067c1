import VaultModels.Proofs.Model.Headers

/-!
# Artifacts of one name

Several elements of a schema may call for a type of one name. The file of that name goes to the first
artifact of the inventory that declares it: the wrapper and the property enum before all others, a
base before the classes of its type, types in declared order, value lists last. So a base can lose
its file only to a class of an earlier type, and a value list to anything else.
-/
namespace VaultModels.Schema.Snapshot

open Model

variable (snapshot : Snapshot) (options : Options) {name : String}

/-- What an object type with its classes calls for under a name. -/
def typeDeclaration? (name : String) (type : ObjectType) : Option Artifact :=
  if objectTypeName type = name then some (typeArtifact options type)
  else ((snapshot.classesOf type.id).find? (classTypeName · == name)).map
    (snapshot.classArtifact options)

/-- The first artifact for a name. -/
def declaration? (name : String) : Option Artifact :=
  if wrapperName = name then some (sharedWrapper options)
  else if propertyEnumName = name then some (propertyEnumArtifact options snapshot.propertyDefs)
  else (snapshot.realTypes.findSome? (snapshot.typeDeclaration? options name)).or
    ((snapshot.staticLists.find? (valueListName · == name)).map (snapshot.listArtifact options))

/-- A class has the name, and no base that comes before it has. -/
def ClassFirst (name : String) : Prop :=
  ∃ front back, snapshot.realTypes = front ++ back ∧
    (∀ type ∈ front, objectTypeName type ≠ name) ∧
    ∃ type ∈ front, ∃ cls ∈ snapshot.classesOf type.id, classTypeName cls = name

/-! ## The first artifact for a name -/

theorem find?_classArtifacts (valid : Name.isValid name) (classes : List ObjectClass) :
    (classes.flatMap (snapshot.classArtifacts options)).find?
        (·.path.same (options.modelPath name)) =
      (classes.find? (classTypeName · == name)).map (snapshot.classArtifact options) := by
  induction classes with
  | nil => rfl
  | cons cls rest ih =>
    have file : (snapshot.classArtifact options cls).path.same (options.modelPath name) =
        (classTypeName cls == name) := by
      rw [classArtifact, options.modelPath_same (isValid_classTypeName cls) valid]
    have companion : (classPartial options cls).path.same (options.modelPath name) = false := by
      rw [classPartial, options.partialPath_same_modelPath (isValid_classTypeName cls) valid]
    rw [List.flatMap_cons, List.find?_append, ih, List.find?_cons]
    unfold classArtifacts
    rw [List.find?_cons, file]
    cases classTypeName cls == name with
    | true => rfl
    | false =>
      cases options.partials with
      | true => simp [companion]
      | false => simp

theorem find?_typeArtifacts (valid : Name.isValid name) (type : ObjectType) :
    (snapshot.typeArtifacts options type).find? (·.path.same (options.modelPath name)) =
      snapshot.typeDeclaration? options name type := by
  have base : (typeArtifact options type).path.same (options.modelPath name) =
      (objectTypeName type == name) := by
    rw [typeArtifact, options.modelPath_same (isValid_objectTypeName type) valid]
  unfold typeArtifacts typeDeclaration?
  by_cases same : objectTypeName type = name
  · rw [List.find?_cons_of_pos (by simpa [base] using same), if_pos same]
  · rw [List.find?_cons_of_neg (by simpa [base] using same), if_neg same,
      snapshot.find?_classArtifacts options valid]

theorem find?_lists (valid : Name.isValid name) (lists : List ObjectType) :
    (lists.map (snapshot.listArtifact options)).find? (·.path.same (options.modelPath name)) =
      (lists.find? (valueListName · == name)).map (snapshot.listArtifact options) := by
  have file : ∀ list, (snapshot.listArtifact options list).path.same (options.modelPath name) =
      (valueListName list == name) := by
    intro list
    rw [listArtifact, options.modelPath_same (isValid_valueListName list) valid]
  rw [List.find?_map]
  simp only [Function.comp_def, file]

/-- The inventory has for a name what is declared under it. -/
theorem find?_inventory (valid : Name.isValid name) :
    (snapshot.inventory options).find? (·.path.same (options.modelPath name)) =
      snapshot.declaration? options name := by
  have wrapper : (sharedWrapper options).path.same (options.modelPath name) =
      (wrapperName == name) := by
    rw [sharedWrapper, options.modelPath_same isValid_wrapperName valid]
  have properties : (propertyEnumArtifact options snapshot.propertyDefs).path.same
      (options.modelPath name) = (propertyEnumName == name) := by
    rw [propertyEnumArtifact, options.modelPath_same isValid_propertyEnumName valid]
  have types : (snapshot.realTypes.flatMap (snapshot.typeArtifacts options)).find?
      (·.path.same (options.modelPath name)) =
        snapshot.realTypes.findSome? (snapshot.typeDeclaration? options name) := by
    rw [List.find?_flatMap]
    simp only [snapshot.find?_typeArtifacts options valid]
  unfold inventory declaration?
  by_cases shared : wrapperName = name
  · rw [List.find?_cons_of_pos (by simpa [wrapper] using shared), if_pos shared]
  · rw [List.find?_cons_of_neg (by simpa [wrapper] using shared), if_neg shared]
    by_cases enum : propertyEnumName = name
    · rw [List.find?_cons_of_pos (by simpa [properties] using enum), if_pos enum]
    · rw [List.find?_cons_of_neg (by simpa [properties] using enum), if_neg enum,
        List.find?_append, types, snapshot.find?_lists options valid]

/-! ## Which artifact that is -/

theorem typeDeclaration?_eq_none {type : ObjectType}
    (missing : snapshot.typeDeclaration? options name type = none) :
    objectTypeName type ≠ name := by
  intro same
  simp [typeDeclaration?, same] at missing

theorem typeDeclaration?_class {type : ObjectType} {artifact : Artifact}
    (differs : objectTypeName type ≠ name)
    (found : snapshot.typeDeclaration? options name type = some artifact) :
    ∃ cls ∈ snapshot.classesOf type.id, classTypeName cls = name ∧
      artifact = snapshot.classArtifact options cls := by
  rw [typeDeclaration?, if_neg differs, Option.map_eq_some_iff] at found
  obtain ⟨cls, first, rfl⟩ := found
  exact ⟨cls, List.mem_of_find?_eq_some first, by simpa using List.find?_some first, rfl⟩

theorem mem_walkedClasses_of {type : ObjectType} {cls : ObjectClass}
    (real : type ∈ snapshot.realTypes) (owned : cls ∈ snapshot.classesOf type.id) :
    cls ∈ snapshot.walkedClasses := List.mem_flatMap.mpr ⟨type, real, owned⟩

/-- Among the object types a name goes to a base, or to a class if one comes first. -/
theorem findSome?_typeDeclaration? {artifact : Artifact}
    (found : snapshot.realTypes.findSome? (snapshot.typeDeclaration? options name) =
      some artifact) :
    (∃ type ∈ snapshot.realTypes, objectTypeName type = name ∧
      artifact = typeArtifact options type) ∨
    (snapshot.ClassFirst name ∧ ∃ cls ∈ snapshot.walkedClasses, classTypeName cls = name ∧
      artifact = snapshot.classArtifact options cls) := by
  obtain ⟨front, type, back, cut, here, earlier⟩ := List.findSome?_eq_some_iff.mp found
  have real : type ∈ snapshot.realTypes := by simp [cut]
  by_cases same : objectTypeName type = name
  · rw [typeDeclaration?, if_pos same] at here
    exact .inl ⟨type, real, same, (Option.some.inj here).symm⟩
  · obtain ⟨cls, owned, named, file⟩ := snapshot.typeDeclaration?_class options same here
    refine .inr ⟨⟨front ++ [type], back, by simp [cut], ?_, type, by simp, cls, owned, named⟩,
      cls, snapshot.mem_walkedClasses_of real owned, named, file⟩
    intro other member
    rcases List.mem_append.mp member with old | last
    · exact snapshot.typeDeclaration?_eq_none options (earlier other old)
    · rw [List.mem_singleton.mp last]
      exact same

/-- Without a base of its name a class comes first. -/
theorem classFirst_of_alone {snapshot : Snapshot}
    (named : ∃ cls ∈ snapshot.walkedClasses, classTypeName cls = name)
    (alone : ∀ type ∈ snapshot.realTypes, objectTypeName type ≠ name) :
    snapshot.ClassFirst name := by
  obtain ⟨cls, walked, same⟩ := named
  obtain ⟨type, real, owned⟩ := List.mem_flatMap.mp walked
  exact ⟨snapshot.realTypes, [], (List.append_nil _).symm, alone, type, real, cls, owned, same⟩

/-- A class that comes first has its file. -/
theorem ClassFirst.declared {snapshot : Snapshot} (first : snapshot.ClassFirst name) :
    ∃ cls ∈ snapshot.walkedClasses, classTypeName cls = name ∧
      snapshot.realTypes.findSome? (snapshot.typeDeclaration? options name) =
        some (snapshot.classArtifact options cls) := by
  obtain ⟨front, back, cut, differ, type, inside, cls, owned, named⟩ := first
  cases found : front.findSome? (snapshot.typeDeclaration? options name) with
  | none =>
    have missing := List.findSome?_eq_none_iff.mp found type inside
    rw [typeDeclaration?, if_neg (differ type inside), Option.map_eq_none_iff] at missing
    simpa [named] using List.find?_eq_none.mp missing cls owned
  | some artifact =>
    obtain ⟨earlier, member, here⟩ := List.exists_of_findSome?_eq_some found
    obtain ⟨other, listed, same, rfl⟩ :=
      snapshot.typeDeclaration?_class options (differ earlier member) here
    refine ⟨other, snapshot.mem_walkedClasses_of (by simp [cut, member]) listed, same, ?_⟩
    rw [cut, List.findSome?_append, found]
    rfl

/-- The file of a name is a class file exactly if a class comes first. -/
theorem declaration?_class_iff :
    (∃ artifact, snapshot.declaration? options name = some artifact ∧
        artifact.kind = .objectClass) ↔
      wrapperName ≠ name ∧ propertyEnumName ≠ name ∧ snapshot.ClassFirst name := by
  unfold declaration?
  constructor
  · rintro ⟨artifact, found, kind⟩
    split at found
    · cases found
      cases kind
    next unshared =>
      split at found
      · cases found
        cases kind
      next unlisted =>
        refine ⟨unshared, unlisted, ?_⟩
        rcases Option.or_eq_some_iff.mp found with inTypes | ⟨-, inLists⟩
        · rcases snapshot.findSome?_typeDeclaration? options inTypes with
            ⟨type, -, -, rfl⟩ | ⟨first, -⟩
          · cases kind
          · exact first
        · obtain ⟨list, -, rfl⟩ := Option.map_eq_some_iff.mp inLists
          cases kind
  · rintro ⟨unshared, unlisted, first⟩
    obtain ⟨cls, -, -, found⟩ := first.declared options
    rw [if_neg unshared, if_neg unlisted, found]
    exact ⟨_, rfl, rfl⟩

/-! ## Names that are referred to -/

/-- Something of the schema that comes before the value lists has the name. -/
def Taken (name : String) : Prop :=
  wrapperName = name ∨ propertyEnumName = name ∨
    (∃ type ∈ snapshot.realTypes, objectTypeName type = name) ∨
    ∃ cls ∈ snapshot.walkedClasses, classTypeName cls = name

theorem objectTypeName_ne (type : ObjectType) {other : String}
    (differs : other.toList.take 3 ≠ "OT_".toList) : other ≠ objectTypeName type := by
  rintro rfl
  exact differs (by simp [objectTypeName])

/-- The base of a real object type is declared, by its own file or by that of a class. -/
theorem base_declared {type : ObjectType} (real : type ∈ snapshot.realTypes) :
    ∃ artifact, snapshot.declaration? options (objectTypeName type) = some artifact ∧
      artifact.Declares options (objectTypeName type) ∧
      (artifact.kind = .objectType ∨
        artifact.kind = .objectClass ∧ snapshot.ClassFirst (objectTypeName type)) := by
  unfold declaration?
  rw [if_neg (objectTypeName_ne type (by decide)), if_neg (objectTypeName_ne type (by decide))]
  cases found : snapshot.realTypes.findSome?
      (snapshot.typeDeclaration? options (objectTypeName type)) with
  | none =>
    have missing := List.findSome?_eq_none_iff.mp found type real
    exact absurd rfl (snapshot.typeDeclaration?_eq_none options missing)
  | some artifact =>
    refine ⟨artifact, rfl, ?_⟩
    rcases snapshot.findSome?_typeDeclaration? options found with
      ⟨other, -, same, rfl⟩ | ⟨first, cls, -, same, rfl⟩
    · exact ⟨same ▸ typeArtifact_declares options other, .inl rfl⟩
    · exact ⟨same ▸ snapshot.classArtifact_declares options cls, .inr ⟨rfl, first⟩⟩

/-- A static value list is declared, by its own file or by that of what has taken its name. -/
theorem list_declared {list : ObjectType} (static : list ∈ snapshot.staticLists) :
    ∃ artifact, snapshot.declaration? options (valueListName list) = some artifact ∧
      artifact.Declares options (valueListName list) ∧
      (artifact.kind = .valueListEnum ∨ snapshot.Taken (valueListName list)) := by
  unfold declaration?
  by_cases shared : wrapperName = valueListName list
  · rw [if_pos shared]
    exact ⟨_, rfl, shared ▸ sharedWrapper_declares options, .inr (.inl shared)⟩
  by_cases enum : propertyEnumName = valueListName list
  · rw [if_neg shared, if_pos enum]
    exact ⟨_, rfl, enum ▸ propertyEnumArtifact_declares options _, .inr (.inr (.inl enum))⟩
  rw [if_neg shared, if_neg enum]
  cases found : snapshot.realTypes.findSome?
      (snapshot.typeDeclaration? options (valueListName list)) with
  | some artifact =>
    refine ⟨artifact, rfl, ?_⟩
    rcases snapshot.findSome?_typeDeclaration? options found with
      ⟨type, real, same, rfl⟩ | ⟨-, cls, walked, same, rfl⟩
    · exact ⟨same ▸ typeArtifact_declares options type,
        .inr (.inr (.inr (.inl ⟨type, real, same⟩)))⟩
    · exact ⟨same ▸ snapshot.classArtifact_declares options cls,
        .inr (.inr (.inr (.inr ⟨cls, walked, same⟩)))⟩
  | none =>
    cases listed : snapshot.staticLists.find? (valueListName · == valueListName list) with
    | none => simpa using List.find?_eq_none.mp listed list static
    | some other =>
      have same : valueListName other = valueListName list := by simpa using List.find?_some listed
      exact ⟨_, rfl, same ▸ snapshot.listArtifact_declares options other, .inl rfl⟩

end VaultModels.Schema.Snapshot
