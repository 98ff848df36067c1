import VaultModels.Proofs.Json.Codec

/-!
# Objects read back

Reading an object starts from a blank one and sets the members as they come. What is written of an
object holds them in declared order, so reading it sets one member after the other, until the object is
the one that was written. Objects with their members in another order, with unknown ones, or written as
lists are read too; they are left open here.
-/
namespace VaultModels.Json

variable {α ρ : Type} {blanks closing : List Char} {source before after : ρ} {member : Member ρ}
  {members done todo : List (Member ρ)} {given : List String}

/-- Reading the members that are written of `source`, in this order, turns an object into `source`.
What is not written has to be there already. -/
inductive Restoring (source : ρ) : ρ → List (Member ρ) → Prop where
  | done : Restoring source source []
  | given {member : Member ρ} {before after : ρ} {members : List (Member ρ)}
      (restored : ∀ spacing, ∃ value, member.write spacing source = some value ∧
        ∀ {blanks rest}, AllBlank blanks → Closes rest →
          member.read before (blanks ++ (value ++ rest)) = .ok (after, rest))
      (rest : Restoring source after members) : Restoring source before (member :: members)
  | absent {member : Member ρ} {before : ρ} {members : List (Member ρ)}
      (unwritten : ∀ spacing, member.write spacing source = none)
      (free : member.isRequired = false)
      (rest : Restoring source before members) : Restoring source before (member :: members)

namespace Restoring

variable {codec : Codec α} {key : String} {get : ρ → α} {set : ρ → α → ρ}

theorem readInto_written (lawful : codec.IsLawful) (set : ρ → α → ρ) (before : ρ) (spacing : Spacing)
    (value : α) {rest : List Char} (blank : AllBlank blanks) (closes : Closes rest) :
    Member.readInto codec set before (blanks ++ (codec.write spacing value ++ rest)) =
      .ok (set before value, rest) := by
  rw [Member.readInto, lawful.reads spacing value blank closes]
  rfl

theorem required (lawful : codec.IsLawful)
    (rest : Restoring source (set before (get source)) members) :
    Restoring source before (.required key codec get set :: members) :=
  .given (fun spacing => ⟨codec.write spacing (get source), rfl,
    readInto_written lawful set before spacing (get source)⟩) rest

theorem defaulted (lawful : codec.IsLawful)
    (rest : Restoring source (set before (get source)) members) :
    Restoring source before (.defaulted key codec get set :: members) :=
  .given (fun spacing => ⟨codec.write spacing (get source), rfl,
    readInto_written lawful set before spacing (get source)⟩) rest

/-- A member without a value has none in the object yet. -/
theorem whenPresent {get : ρ → Option α} {set : ρ → Option α → ρ}
    (lawful : codec.optional.IsLawful) (unset : set before none = before)
    (rest : Restoring source (set before (get source)) members) :
    Restoring source before (.whenPresent key codec get set :: members) := by
  cases present : get source with
  | none =>
    rw [present, unset] at rest
    refine .absent (fun spacing => ?_) rfl rest
    simp only [Member.whenPresent, present, Option.map_none]
  | some value =>
    rw [present] at rest
    refine .given (fun spacing => ⟨codec.write spacing value, ?_, ?_⟩) rest
    · simp only [Member.whenPresent, present, Option.map_some]
    · exact readInto_written lawful set before spacing (some value)

end Restoring

/-! ## Members between brackets -/

theorem mark_colon (spacing : Spacing) :
    ∃ gap, AllBlank gap ∧ ∀ rest, mark ':' (spacing.colon ++ rest) = .ok (gap ++ rest) := by
  cases spacing with
  | compact => exact ⟨[], allBlank_nil, fun _ => rfl⟩
  | pretty depth => exact ⟨[' '], by simp [AllBlank, isBlank], fun _ => rfl⟩

theorem nextKey_closing (blank : AllBlank blanks) (isFirst : Bool) (rest : List Char) :
    Codec.nextKey isFirst (blanks ++ '\x7d' :: rest) = .ok (none, rest) := by
  rw [Codec.nextKey, dropBlanks_append blank]
  rfl

theorem readKey_written (key : String) (rest : List Char) :
    (readBody (key.toList.flatMap writeChar ++ '"' :: rest)).map
      (fun read => (some (String.ofList read.1), read.2)) = .ok (some key, rest) := by
  rw [readBody_written]
  exact congrArg (fun text => Except.ok (some text, rest)) String.ofList_toList

theorem nextKey_separated (spacing : Spacing) (isFirst : Bool) (key : String) (tail : List Char)
    (pieces : List (List Char)) (rest : List Char) :
    Codec.nextKey isFirst
        (separated spacing isFirst ((writeText key ++ tail) :: pieces) ++ rest) =
      .ok (some key, tail ++ (separated spacing false pieces ++ rest)) := by
  have line := allBlank_newline spacing
  have keyed := readKey_written key (tail ++ (separated spacing false pieces ++ rest))
  cases isFirst with
  | true =>
    simp only [separated, if_true, List.nil_append, List.append_assoc]
    rw [Codec.nextKey, dropBlanks_append line, writeText_append, dropBlanks_cons rfl]
    exact keyed
  | false =>
    simp only [separated, Bool.false_eq_true, if_false, List.append_assoc, List.cons_append,
      List.nil_append]
    rw [Codec.nextKey, dropBlanks_cons rfl]
    split
    next same => exact absurd (List.cons.inj same).1 (by decide)
    next same =>
      obtain ⟨_, rfl⟩ := List.cons.inj same
      rw [if_neg Bool.false_ne_true, dropBlanks_append line, writeText_append, dropBlanks_cons rfl]
      exact keyed
    next other => exact absurd rfl (other _)

/-- The keys that have been read, where the members up to here are done. -/
structure AreGiven (done : List (Member ρ)) (given : List String) : Prop where
  among : ∀ key ∈ given, key ∈ done.map (·.key)
  required : ∀ member ∈ done, member.isRequired = true → member.key ∈ given

namespace AreGiven

theorem add (keys : AreGiven done given) (member : Member ρ) :
    AreGiven (done ++ [member]) (member.key :: given) where
  among key isGiven := by
    rcases List.mem_cons.mp isGiven with rfl | earlier
    · simp
    · simp [keys.among key earlier]
  required other member_of needed := by
    rcases List.mem_append.mp member_of with earlier | last
    · exact List.mem_cons_of_mem _ (keys.required other earlier needed)
    · rw [List.mem_singleton.mp last]
      exact List.mem_cons_self

theorem pass (keys : AreGiven done given) (free : member.isRequired = false) :
    AreGiven (done ++ [member]) given where
  among key isGiven := by simp [keys.among key isGiven]
  required other member_of needed := by
    rcases List.mem_append.mp member_of with earlier | last
    · exact keys.required other earlier needed
    · rw [List.mem_singleton.mp last, free] at needed
      cases needed

/-- Where all members are done, none that is required is missing. -/
theorem complete (keys : AreGiven members given) :
    (members.all fun member => !member.isRequired || given.contains member.key) = true := by
  rw [List.all_eq_true]
  intro member member_of
  cases needed : member.isRequired with
  | false => rfl
  | true => simpa using keys.required member member_of needed

end AreGiven

theorem key_not_done (distinct : ((done ++ member :: todo).map (·.key)).Nodup) :
    member.key ∉ done.map (·.key) := by
  rw [List.map_append, List.nodup_append] at distinct
  exact fun earlier => distinct.2.2 _ earlier _ List.mem_cons_self rfl

theorem find?_key (distinct : ((done ++ member :: todo).map (·.key)).Nodup) :
    (done ++ member :: todo).find? (·.key == member.key) = some member := by
  refine List.find?_eq_some_iff_append.mpr ⟨beq_self_eq_true _, done, todo, rfl, ?_⟩
  intro other earlier
  have apart : other.key ≠ member.key := fun same =>
    key_not_done distinct (same ▸ List.mem_map_of_mem earlier)
  simpa using apart

/-- The members that are left are read from what is written of them: each is found under its key, and
its key is new. -/
theorem readMembers_separated (spacing : Spacing) (blank : AllBlank closing) (rest : List Char)
    (restoring : Restoring source before todo) (keys : AreGiven done given)
    (distinct : ((done ++ todo).map (·.key)).Nodup) {fuel : Nat}
    (enough : (todo.filterMap (Member.writeWithKey spacing source)).length < fuel)
    (isFirst : Bool) :
    Codec.readMembers (done ++ todo) fuel isFirst given before
        (separated spacing isFirst (todo.filterMap (Member.writeWithKey spacing source)) ++
          (closing ++ '\x7d' :: rest)) =
      .ok (source, rest) := by
  induction restoring generalizing done given fuel isFirst with
  | done =>
    obtain ⟨fuel, rfl⟩ := Nat.exists_eq_succ_of_ne_zero (Nat.ne_zero_of_lt enough)
    rw [List.append_nil, List.filterMap_nil, separated, List.nil_append, Codec.readMembers,
      nextKey_closing blank]
    dsimp only [bind, Except.bind]
    rw [if_pos keys.complete]
  | @given member before after todo restored restoring ih =>
    obtain ⟨value, written, read⟩ := restored spacing
    obtain ⟨gap, blank_gap, colon⟩ := mark_colon spacing
    have piece : Member.writeWithKey spacing source member =
        some (writeText member.key ++ (spacing.colon ++ value)) := by
      rw [Member.writeWithKey, written, Option.map_some, List.append_assoc]
    rw [List.filterMap_cons_some piece] at enough ⊢
    obtain ⟨fuel, rfl⟩ := Nat.exists_eq_succ_of_ne_zero (Nat.ne_zero_of_lt enough)
    have fresh : member.key ∉ given := fun twice => key_not_done distinct (keys.among _ twice)
    rw [Codec.readMembers, nextKey_separated]
    dsimp only [bind, Except.bind]
    rw [find?_key distinct]
    dsimp only
    rw [if_neg (by simp [fresh]), List.append_assoc, colon]
    dsimp only
    rw [read blank_gap (closes_separated blank (.inr rfl) spacing _ rest)]
    have behind := ih (keys.add member) (List.append_cons done member todo ▸ distinct)
      (Nat.lt_of_succ_lt_succ enough) false
    rwa [List.append_assoc, List.singleton_append] at behind
  | @absent member before todo unwritten free restoring ih =>
    have piece : Member.writeWithKey spacing source member = none := by
      rw [Member.writeWithKey, unwritten, Option.map_none]
    rw [List.filterMap_cons_none piece] at enough ⊢
    have behind := ih (keys.pass free) (List.append_cons done member todo ▸ distinct) enough isFirst
    rwa [List.append_assoc, List.singleton_append] at behind

/-- An object is read back if its members can be set one after the other. -/
theorem Codec.object_lawful {blank : ρ}
    (restoring : ∀ source, Restoring source blank members)
    (distinct : (members.map (·.key)).Nodup) : (object blank members).IsLawful where
  opens spacing source := by
    obtain ⟨closing, _, written⟩ := writeBetween_eq '\x7b' '\x7d' spacing
      (members.filterMap (Member.writeWithKey spacing.inner source))
    exact ⟨'\x7b', _, written, by decide⟩
  reads {blanks} spacing source {rest} blank_before _ := by
    obtain ⟨closing, line, written⟩ := writeBetween_eq '\x7b' '\x7d' spacing
      (members.filterMap (Member.writeWithKey spacing.inner source))
    have enough := length_le_separated spacing.inner true
      (members.filterMap (Member.writeWithKey spacing.inner source))
    have keys : AreGiven ([] : List (Member ρ)) [] := ⟨nofun, nofun⟩
    simp only [object]
    rw [written, dropBlanks_append blank_before, List.cons_append, dropBlanks_cons rfl,
      List.append_assoc, List.append_assoc, List.singleton_append]
    refine readMembers_separated spacing.inner line rest (restoring source) keys distinct ?_ true
    simp only [List.length_append, List.length_cons]
    omega

end VaultModels.Json
