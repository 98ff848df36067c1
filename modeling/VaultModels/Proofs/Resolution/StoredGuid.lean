import VaultModels.Proofs.Guid.Forms
import VaultModels.Proofs.Resolution.Lookup
import VaultModels.Resolution.Reference

/-!
# Finding elements by their own GUIDs

A requested GUID is put into its canonical form and stored GUIDs are compared as they are written. So
of the elements with the requested value, those that are not stored in braces are passed over: an
element is found by its own GUID exactly if the first one in braces has the id of the first one.
-/
namespace VaultModels

namespace Schema

/-- The number that the stored GUID denotes, in whichever form it is stored. -/
def Identity.guidValue? (element : Identity) : Option (BitVec 128) := element.guid.bind Guid.value?

def Identity.isBraced (element : Identity) : Bool := (element.guid.bind Guid.ofBraced?).isSome

/-- The elements of a kind whose GUIDs denote the number, in declared order. -/
def Snapshot.guidMatches (snapshot : Snapshot) (kind : Kind) (number : BitVec 128) :
    List Identity :=
  (snapshot.elements kind).filter (·.guidValue? = some number)

variable {snapshot : Snapshot} {kind : Kind} {element : Identity}

theorem Snapshot.mem_guidMatches {number : BitVec 128} :
    element ∈ snapshot.guidMatches kind number ↔
      element ∈ snapshot.elements kind ∧ element.guidValue? = some number := by
  rw [guidMatches, List.mem_filter, decide_eq_true_eq]

/-- The stored text compares equal to a canonical one exactly if it denotes the same number in
braces. -/
theorem Identity.hasGuid_iff {guid canonical : String} {number : BitVec 128}
    (read : Guid.ofAnyForm? guid = some canonical) (denoted : Guid.value? guid = some number) :
    element.hasGuid canonical ↔ element.guidValue? = some number ∧ element.isBraced := by
  rw [hasGuid, guidValue?, isBraced, ← denoted]
  cases element.guid with
  | none => simp
  | some declared =>
    rw [Option.any_some, Option.bind_some, Option.bind_some]
    exact (Guid.value?_eq_and_braced_iff read).symm

/-- A canonical text finds the first braced GUID among those of its value. -/
theorem Snapshot.find?_hasGuid {guid canonical : String} {number : BitVec 128}
    (read : Guid.ofAnyForm? guid = some canonical) (denoted : Guid.value? guid = some number) :
    (snapshot.elements kind).find? (·.hasGuid canonical) =
      (snapshot.guidMatches kind number).find? (·.isBraced) := by
  rw [guidMatches, List.find?_filter]
  congr 1
  funext element
  rw [Bool.eq_iff_iff, Identity.hasGuid_iff read denoted]
  simp

end Schema

namespace Resolution

open Schema

variable {snapshot : Snapshot} {kind : Kind} {element : Identity} {guid canonical : String}

/-- A GUID that is accepted is looked up as the first braced one of its value. -/
theorem resolve_guid (snapshot : Snapshot) (kind : Kind) {number : BitVec 128}
    (read : Guid.ofAnyForm? guid = some canonical)
    (denoted : Guid.value? guid = some number) :
    ((Reference.guid guid).resolve kind).endOver snapshot =
      match (snapshot.guidMatches kind number).find? (·.isBraced) with
      | some braced => .ok braced.id
      | none => .error (.notFound kind canonical) := by
  rw [Reference.resolve, Guid.normalizeGuid_eq_ok.mpr read]
  dsimp only
  rw [byGuid, if_pos (byGuid_supported kind), fetch_over, Snapshot.answer, Snapshot.byGuid,
    Snapshot.find?_hasGuid read denoted]
  cases (snapshot.guidMatches kind number).find? (·.isBraced) <;> rfl

/-- An element's own GUID finds the first element in braces among those whose GUIDs have the same
value, and with it the first of all exactly if the two have one id. -/
theorem ownGuid_resolves (declared : element ∈ snapshot.elements kind)
    (stored : element.guid = some guid) (accepted : normalizeGuid guid = .ok canonical) :
    ∃ number first, Guid.value? guid = some number ∧
      (snapshot.guidMatches kind number).head? = some first ∧
      ((Reference.guid guid).resolve kind).endOver snapshot =
        (match (snapshot.guidMatches kind number).find? (·.isBraced) with
        | some braced => .ok braced.id
        | none => .error (.notFound kind canonical)) ∧
      (((Reference.guid guid).resolve kind).endOver snapshot = .ok first.id ↔
        ∃ braced, (snapshot.guidMatches kind number).find? (·.isBraced) = some braced ∧
          braced.id = first.id) := by
  have read := Guid.normalizeGuid_eq_ok.mp accepted
  obtain ⟨number, denoted⟩ := Guid.exists_value read
  have own : element ∈ snapshot.guidMatches kind number := by
    rw [Snapshot.mem_guidMatches, Identity.guidValue?, stored]
    exact ⟨declared, denoted⟩
  obtain ⟨first, leads⟩ :=
    Option.isSome_iff_exists.mp (List.isSome_head?.mpr (List.ne_nil_of_mem own))
  have resolved := resolve_guid snapshot kind read denoted
  refine ⟨number, first, denoted, leads, resolved, ?_⟩
  rw [resolved]
  cases (snapshot.guidMatches kind number).find? (·.isBraced) <;> simp

/-- One GUID is stored twice: in braces, and later as bare digits. -/
def sharedSnapshot : Snapshot :=
  { views :=
      [{ id := 7, name := "Mine", guid := some "{ABCDEF00-2222-3333-4444-555555555555}" },
       { id := 8, name := "Ours", guid := some "abcdef00222233334444555555555555" }] }

theorem ownGuid_resolves_shared :
    ⟨8, [], some "abcdef00222233334444555555555555"⟩ ∈ sharedSnapshot.elements .view ∧
      normalizeGuid "abcdef00222233334444555555555555" =
        .ok "{ABCDEF00-2222-3333-4444-555555555555}" ∧
      sharedSnapshot.guidMatches .view 0xabcdef00222233334444555555555555 =
        sharedSnapshot.elements .view ∧
      ((Reference.guid "abcdef00222233334444555555555555").resolve .view).endOver sharedSnapshot =
        .ok 7 := by
  have declared : ⟨8, [], some "abcdef00222233334444555555555555"⟩ ∈
      sharedSnapshot.elements .view := by decide
  have accepted : normalizeGuid "abcdef00222233334444555555555555" =
      .ok "{ABCDEF00-2222-3333-4444-555555555555}" := by decide
  have both : sharedSnapshot.guidMatches .view 0xabcdef00222233334444555555555555 =
      sharedSnapshot.elements .view := by decide
  refine ⟨declared, accepted, both, ?_⟩
  obtain ⟨number, first, denoted, -, resolved, -⟩ := ownGuid_resolves declared rfl accepted
  have same : Guid.value? "abcdef00222233334444555555555555" =
      some 0xabcdef00222233334444555555555555 := by decide
  cases denoted.symm.trans same
  rw [resolved, both]
  decide

/-- A GUID that is stored without braces. -/
def bareView : Identity := ⟨7, [], some "11111111-2222-3333-4444-555555555555"⟩

def bareSnapshot : Snapshot :=
  { views := [{ id := 7, name := "Mine", guid := some "11111111-2222-3333-4444-555555555555" }] }

/-- The element is the first with its value, but its own GUID does not find it. -/
theorem ownGuid_missed :
    bareView ∈ bareSnapshot.elements .view ∧
      normalizeGuid "11111111-2222-3333-4444-555555555555" =
        .ok "{11111111-2222-3333-4444-555555555555}" ∧
      Guid.value? "11111111-2222-3333-4444-555555555555" =
        some 0x11111111222233334444555555555555 ∧
      (bareSnapshot.guidMatches .view 0x11111111222233334444555555555555).head? = some bareView ∧
      ((Reference.guid "11111111-2222-3333-4444-555555555555").resolve .view).endOver bareSnapshot =
        .error (.notFound .view "{11111111-2222-3333-4444-555555555555}") := by
  exact ⟨by decide, by decide, by decide, by decide, by decide⟩

end Resolution

end VaultModels
