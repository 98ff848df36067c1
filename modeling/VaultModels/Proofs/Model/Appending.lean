import VaultModels.Proofs.Model.MemberNames

/-!
# Appended members

What is appended to a list of entries, or to the associations of a class, gets the names that are left.
The members that were there before keep their names, and everything else that is told of them, and stay
in front. Nothing is held of entries or associations that are put in between.
-/
namespace VaultModels

open Name

namespace Schema.Snapshot

variable {snapshot : Snapshot} {before after : List ObjectClass} {owner : ObjectClass}

/-- The snapshot with other classes. -/
def withClasses (snapshot : Snapshot) (classes : List ObjectClass) : Snapshot :=
  { snapshot with classes }

/-- What a property gets for an accessor is no matter of the classes. -/
theorem accessorFor?_withClasses (snapshot : Snapshot) (classes : List ObjectClass)
    (property : PropertyDef) :
    (snapshot.withClasses classes).accessorFor? property = snapshot.accessorFor? property := rfl

/-- What is appended to a class is appended to the answer for its id, and to no other answer. -/
theorem associations_prefix {id : ElementId} {more first second : List Association}
    (classes : snapshot.classes = before ++ owner :: after)
    (given : snapshot.associations id = .ok first)
    (changed : (snapshot.withClasses (before ++ owner.associate more :: after)).associations id =
      .ok second) : first <+: second := by
  obtain ⟨cls, declared, rfl⟩ := Option.map_eq_some_iff.mp (Resolution.found_eq_ok.mp given)
  obtain ⟨other, redeclared, rfl⟩ := Option.map_eq_some_iff.mp (Resolution.found_eq_ok.mp changed)
  rw [classes, List.find?_append] at declared
  rw [withClasses, List.find?_append] at redeclared
  cases front : before.find? (·.id == id) with
  | some earlier =>
    rw [front] at declared redeclared
    cases declared
    cases redeclared
    exact List.prefix_rfl
  | none =>
    rw [front, Option.none_or] at declared redeclared
    have kept : (owner.associate more).id = owner.id := rfl
    rw [List.find?_cons] at declared
    rw [List.find?_cons, kept] at redeclared
    cases own : owner.id == id with
    | true =>
      rw [own] at declared redeclared
      cases declared
      cases redeclared
      exact List.prefix_append _ _
    | false =>
      rw [own] at declared redeclared
      rw [declared] at redeclared
      cases redeclared
      exact List.prefix_rfl

end Schema.Snapshot

namespace Model

open Schema

variable {snapshot : Snapshot}

/-- Going further through the definitions adds members behind, if accessors are the same. -/
theorem Lists.isPrefix {changed : Snapshot} {scope : Scope} {definitions later : List PropertyDef}
    {found longer : List Member} {told heard : List Message}
    (alike : ∀ property, changed.accessorFor? property = snapshot.accessorFor? property)
    (lists : Lists snapshot scope definitions found told)
    (again : Lists changed scope (definitions ++ later) longer heard) : found <+: longer := by
  induction lists generalizing longer heard with
  | done => exact List.nil_prefix
  | hidden hidden _ ih =>
    cases again with
    | hidden _ rest => exact ih rest
    | gap shown => simp [hidden] at shown
    | member shown => simp [hidden] at shown
  | gap shown unmapped _ ih =>
    cases again with
    | hidden hidden => simp [hidden] at shown
    | gap _ _ rest => exact ih rest
    | member _ mapped => simp [alike, unmapped] at mapped
  | member shown mapped _ ih =>
    cases again with
    | hidden hidden => simp [hidden] at shown
    | gap _ unmapped => simp [alike, mapped] at unmapped
    | member _ remapped rest =>
      rw [alike, mapped] at remapped
      cases remapped
      exact (List.prefix_cons_inj _).mpr (ih rest)

theorem members_prefix {before after : List ObjectClass} {owner cls : ObjectClass}
    {more : List Association} {found longer : List Member}
    (classes : snapshot.classes = before ++ owner :: after)
    (ended : (members cls).endOver snapshot = .ok found)
    (again : (members (cls.associate more)).endOver
      (snapshot.withClasses (before ++ owner.associate more :: after)) = .ok longer) :
    found <+: longer := by
  obtain ⟨first, definitions, told, given, listed, lists, -⟩ := members_lists ended
  obtain ⟨second, others, heard, regiven, relisted, relists, -⟩ := members_lists again
  obtain ⟨appended, rfl⟩ := Snapshot.associations_prefix classes given regiven
  -- no definition depends on the classes
  rw [List.map_append] at relisted
  obtain ⟨earlier, later, rfl, same, -⟩ := List.map_eq_append_iff.mp relisted.symm
  have known : earlier = definitions :=
    List.map_injective_iff.mpr (fun _ _ => Option.some.inj) (same.trans listed)
  rw [known] at relists
  exact lists.isPrefix (snapshot.accessorFor?_withClasses _) relists

/-- The names of an enum's members are the front of the names that they have with more behind them. -/
theorem memberNames_append (typeName : String) (displayNames later : List String) :
    ∃ more, more.length = later.length ∧
      memberNames typeName (displayNames ++ later) = memberNames typeName displayNames ++ more := by
  let left := ((Scope.empty.reserve typeName).claimAll (displayNames.map clean)).2
  refine ⟨(left.claimAll (later.map clean)).1, ?_, ?_⟩
  · rw [Scope.length_claimAll, List.length_map]
  · rw [memberNames, List.map_append, Scope.claimAll_append]
    rfl

/-- What an enum names its members does not depend on what is appended to its entries, and what a class
has for its members does not depend on what is appended to its associations. -/
theorem appending_keeps_members :
    (∀ (typeName : String) (entries : List EnumEntry), ∃ names, names.length = entries.length ∧
      enumBody typeName entries = writtenMembers true (entries.zip names) ∧
      ∀ later : List EnumEntry, ∃ more, more.length = later.length ∧
        enumBody typeName (entries ++ later) =
          writtenMembers true ((entries ++ later).zip (names ++ more))) ∧
    ∀ (snapshot : Snapshot) (before after : List ObjectClass) (owner cls : ObjectClass)
      (more : List Association) (found longer : List Member),
      snapshot.classes = before ++ owner :: after →
      (members cls).endOver snapshot = .ok found →
      (members (cls.associate more)).endOver
        (snapshot.withClasses (before ++ owner.associate more :: after)) = .ok longer →
      found <+: longer := by
  constructor
  · intro typeName entries
    refine ⟨_, ?_, enumBody_eq typeName entries, fun later => ?_⟩
    · rw [length_memberNames, List.length_map]
    · obtain ⟨more, length, named⟩ := memberNames_append typeName
        (entries.map (·.displayName)) (later.map (·.displayName))
      refine ⟨more, by rw [length, List.length_map], ?_⟩
      rw [enumBody_eq, List.map_append, named]
  · intro snapshot before after owner cls more found longer classes ended again
    exact members_prefix classes ended again

/-- Its two properties have one name, and the numbered name of the second is a third property's own. -/
def order : ObjectClass := ⟨7, "Order", 0, [], none, [⟨1001, false⟩, ⟨1002, false⟩]⟩

def orderSnapshot : Snapshot :=
  { classes := [order]
    propertyDefs :=
      [{ id := 1001, name := "Amount", dataType := .floating },
       { id := 1002, name := "Amount!", dataType := .integer },
       { id := 1003, name := "Amount_2", dataType := .text }] }

theorem appending_keeps_members_order :
    ∃ found longer, (members order).endOver orderSnapshot = .ok found ∧
      (members (order.associate [⟨1003, false⟩])).endOver
        (orderSnapshot.withClasses [order.associate [⟨1003, false⟩]]) = .ok longer ∧
      found.map (·.name) = ["Amount", "Amount_2"] ∧
      longer.map (·.name) = ["Amount", "Amount_2", "Amount_2_2"] ∧ found <+: longer := by
  let more : List Association := [⟨1003, false⟩]
  let changed := orderSnapshot.withClasses [order.associate more]
  have declared : order ∈ orderSnapshot.classes := List.mem_cons_self
  have redeclared : order.associate more ∈ changed.classes := List.mem_cons_self
  have ended := members_of_sound declared (by decide)
  have again := members_of_sound redeclared (by decide)
  refine ⟨_, _, ended, again, by decide +kernel, by decide +kernel, ?_⟩
  exact appending_keeps_members.2 orderSnapshot [] [] order order more _ _ rfl ended again

end Model

end VaultModels
