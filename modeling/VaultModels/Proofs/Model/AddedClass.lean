import VaultModels.Proofs.Model.Appending
import VaultModels.Proofs.Model.Subjects

/-!
# A further class

A class that is put behind the other classes of a snapshot is walked behind those of its object type,
and no other file is made from it: lookups by id find the classes that were there first, and nothing
else in a file depends on classes. Classes that are put between others are not covered.
-/
namespace VaultModels

open Model

namespace Schema.Snapshot

variable {snapshot : Snapshot} {cls : ObjectClass} {options : Options}

/-- The snapshot with one more class, behind the others. -/
def addClass (snapshot : Snapshot) (cls : ObjectClass) : Snapshot :=
  snapshot.withClasses (snapshot.classes ++ [cls])

theorem classesOf_addClass (snapshot : Snapshot) (cls : ObjectClass) (type : ElementId) :
    (snapshot.addClass cls).classesOf type =
      snapshot.classesOf type ++ if cls.objectType == type then [cls] else [] := by
  rw [classesOf, addClass, withClasses, List.filter_append, List.filter_singleton, classesOf]
  cases cls.objectType == type <;> rfl

/-- A class that is there keeps its associations, whatever the id of the further class is. -/
theorem associations_addClass {other : ObjectClass} (declared : other ∈ snapshot.classes) :
    (snapshot.addClass cls).associations other.id = snapshot.associations other.id := by
  have found : (snapshot.classes.find? (·.id == other.id)).isSome :=
    List.find?_isSome.mpr ⟨other, declared, by simp⟩
  obtain ⟨first, front⟩ := Option.isSome_iff_exists.mp found
  rw [associations, associations, addClass, withClasses, List.find?_append, front, Option.some_or]

end Schema.Snapshot

namespace Model

open Schema

variable {snapshot : Snapshot}

/-- The definitions that are gone through settle the members, if accessors are the same. -/
theorem Lists.unique {changed : Snapshot} {scope : Name.Scope} {definitions : List PropertyDef}
    {found other : List Member} {told heard : List Message}
    (alike : ∀ property, changed.accessorFor? property = snapshot.accessorFor? property)
    (lists : Lists snapshot scope definitions found told)
    (again : Lists changed scope definitions other heard) : other = found := by
  have forth : found <+: other := lists.isPrefix alike (by rwa [List.append_nil])
  have back : other <+: found :=
    again.isPrefix (fun property => (alike property).symm) (by rwa [List.append_nil])
  exact back.eq_of_length_le forth.length_le

end Model

namespace Schema.Snapshot

variable {snapshot : Snapshot} {cls : ObjectClass} {options : Options}
  (clear : snapshot.walkedAssociations.findSome? snapshot.fault? = none)
  (stillClear : (snapshot.addClass cls).walkedAssociations.findSome?
    (snapshot.addClass cls).fault? = none)

theorem declared_of_walked {other : ObjectClass} (walked : other ∈ snapshot.walkedClasses) :
    other ∈ snapshot.classes := by
  obtain ⟨type, -, owned⟩ := List.mem_flatMap.mp walked
  exact (List.mem_filter.mp owned).1

theorem walked_addClass {other : ObjectClass} (walked : other ∈ snapshot.walkedClasses) :
    other ∈ (snapshot.addClass cls).walkedClasses := by
  obtain ⟨type, real, owned⟩ := List.mem_flatMap.mp walked
  refine List.mem_flatMap.mpr ⟨type, real, ?_⟩
  rw [classesOf_addClass]
  exact List.mem_append_left _ owned

include clear stillClear

/-- A class that is there keeps its members. -/
theorem membersOf_addClass {other : ObjectClass} (walked : other ∈ snapshot.walkedClasses) :
    (snapshot.addClass cls).membersOf other = snapshot.membersOf other := by
  have still : other ∈ (snapshot.addClass cls).walkedClasses := walked_addClass walked
  have ended := members_of_sound (declared_of_walked walked) (classFault?_of_clear clear walked)
  have again := members_of_sound (declared_of_walked still) (classFault?_of_clear stillClear still)
  obtain ⟨first, definitions, told, given, listed, lists, -⟩ := members_lists ended
  obtain ⟨second, others, heard, regiven, relisted, relists, -⟩ := members_lists again
  rw [associations_addClass (declared_of_walked walked), given] at regiven
  cases regiven
  have known : others = definitions :=
    List.map_injective_iff.mpr (fun _ _ => Option.some.inj) (relisted.symm.trans listed)
  rw [known] at relists
  exact lists.unique (snapshot.accessorFor?_withClasses _) relists

theorem classArtifacts_addClass {other : ObjectClass} (walked : other ∈ snapshot.walkedClasses) :
    (snapshot.addClass cls).classArtifacts options other =
      snapshot.classArtifacts options other := by
  have same : (snapshot.addClass cls).classArtifact options other =
      snapshot.classArtifact options other := by
    rw [classArtifact, classArtifact, membersOf_addClass clear stillClear walked]
    rfl
  rw [classArtifacts, classArtifacts, same]

/-- The files of an object type are those that it had, and behind them those of the further class if
it is of that type. -/
theorem typeArtifacts_addClass {type : ObjectType} (real : type ∈ snapshot.realTypes) :
    (snapshot.addClass cls).typeArtifacts options type =
      snapshot.typeArtifacts options type ++
        if cls.objectType == type.id then (snapshot.addClass cls).classArtifacts options cls
        else [] := by
  have others : (snapshot.classesOf type.id).flatMap
        ((snapshot.addClass cls).classArtifacts options) =
      (snapshot.classesOf type.id).flatMap (snapshot.classArtifacts options) :=
    List.flatMap_congr fun other owned => classArtifacts_addClass clear stillClear
      (List.mem_flatMap.mpr ⟨type, real, owned⟩)
  rw [typeArtifacts, typeArtifacts, classesOf_addClass, List.flatMap_append, others, List.cons_append]
  cases cls.objectType == type.id with
  | true => rw [if_pos rfl, if_pos rfl, List.flatMap_singleton]
  | false => rfl

/-- The inventory with a further class. -/
theorem inventory_addClass :
    (snapshot.addClass cls).inventory options =
      sharedWrapper options :: propertyEnumArtifact options snapshot.propertyDefs ::
        ((snapshot.realTypes.flatMap fun type => snapshot.typeArtifacts options type ++
            if cls.objectType == type.id then (snapshot.addClass cls).classArtifacts options cls
            else []) ++
          snapshot.staticLists.map (snapshot.listArtifact options)) := by
  have types : (snapshot.addClass cls).realTypes.flatMap
      ((snapshot.addClass cls).typeArtifacts options) = _ :=
    List.flatMap_congr fun type real => typeArtifacts_addClass clear stillClear real
  rw [inventory, types]
  rfl

end Schema.Snapshot

end VaultModels
