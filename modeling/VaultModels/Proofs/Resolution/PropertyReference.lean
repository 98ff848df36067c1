import Mathlib.Data.List.Nodup
import Mathlib.Data.List.Pairwise
import VaultModels.Model.Accessor
import VaultModels.Proofs.Resolution.Lookup
import VaultModels.Proofs.Text.Literal
import VaultModels.Resolution.Reference

/-!
# References to properties

Generated code names a property by its first alias, else by its GUID in canonical form, else by its
id, and text is resolved as a number, then as a braced GUID, then as an alias. Where no two
properties share an id, an alias or a GUID, the reference leads back to the property unless its text
is taken for something else: an alias that is the number of another id or a GUID that the property is
not stored with, or a GUID that is stored in a form which lookups do not compare equal. Nothing is
held of vaults with shared aliases, and which property a misread reference leads to, if any, is left
open.
-/
namespace VaultModels

namespace Schema

open Text

namespace PropertyDef

/-- The aliases that are not blank, without the blanks around them. -/
def names (property : PropertyDef) : List String := (property.aliases.map trim).filter (· != "")

/-- Some alias of the one is an alias of the other, up to case. -/
def sharesAlias (first second : PropertyDef) : Bool :=
  first.names.any fun one => second.names.any fun other => sameIgnoringCase one other

/-- The GUIDs of both have one value, in whatever form they are stored. -/
def sharesGuid (first second : PropertyDef) : Bool :=
  (first.guid.bind Guid.ofAnyForm?).any fun one => second.guid.bind Guid.ofAnyForm? == some one

/-- The property as lookups see it. -/
def identity (property : PropertyDef) : Identity := ⟨property.id, property.aliases, property.guid⟩

variable {property other : PropertyDef}

theorem sharesAlias_comm (first second : PropertyDef) :
    first.sharesAlias second = second.sharesAlias first := by
  rw [Bool.eq_iff_iff]
  simp only [sharesAlias, List.any_eq_true]
  constructor
  · rintro ⟨one, inFirst, other, inSecond, same⟩
    exact ⟨other, inSecond, one, inFirst, sameIgnoringCase_comm one other ▸ same⟩
  · rintro ⟨one, inSecond, other, inFirst, same⟩
    exact ⟨other, inFirst, one, inSecond, sameIgnoringCase_comm one other ▸ same⟩

theorem sharesGuid_comm (first second : PropertyDef) :
    first.sharesGuid second = second.sharesGuid first := by
  unfold sharesGuid
  cases first.guid.bind Guid.ofAnyForm? <;> cases second.guid.bind Guid.ofAnyForm? <;>
    simp [eq_comm]

theorem firstAlias?_eq_some {first : String} (leads : property.firstAlias? = some first) :
    first ∈ property.names ∧ trim first = first ∧ first ≠ "" := by
  have named : first ≠ "" := by simpa using List.find?_some leads
  have listed := List.mem_of_find?_eq_some leads
  obtain ⟨declared, -, rfl⟩ := List.mem_map.mp listed
  exact ⟨List.mem_filter.mpr ⟨listed, by simpa using named⟩, trim_idem declared, named⟩

/-- A property answers to what is the same as one of its aliases. -/
theorem answersTo_iff {request : String} (named : request ≠ "") :
    property.identity.answersTo request ↔
      ∃ one ∈ property.names, sameIgnoringCase one request := by
  simp only [Identity.answersTo, identity, names, List.any_eq_true, List.mem_filter, List.mem_map,
    bne_iff_ne]
  constructor
  · rintro ⟨declared, listed, same⟩
    refine ⟨trim declared, ⟨⟨declared, listed, rfl⟩, fun blank => named ?_⟩, same⟩
    rw [blank, sameIgnoringCase_iff] at same
    exact String.toList_eq_nil_iff.mp (List.map_eq_nil_iff.mp same.symm)
  · rintro ⟨_, ⟨⟨declared, listed, rfl⟩, -⟩, same⟩
    exact ⟨declared, listed, same⟩

/-- A property is found by a canonical GUID exactly if it is stored with its braced form. -/
theorem hasGuid_iff {guid : String} (form : Guid.IsCanonical guid) :
    property.identity.hasGuid guid ↔ property.guid.bind Guid.ofBraced? = some guid := by
  simp only [Identity.hasGuid, identity]
  cases property.guid with
  | none => simp
  | some stored => simp [Guid.ofBraced?_eq_some form]

end PropertyDef

/-- No two property definitions share an id, an alias or a GUID. -/
structure Snapshot.DistinctProperties (snapshot : Snapshot) : Prop where
  ids : (snapshot.propertyDefs.map (·.id)).Nodup
  aliases : snapshot.propertyDefs.Pairwise fun first second => first.sharesAlias second = false
  guids : snapshot.propertyDefs.Pairwise fun first second => first.sharesGuid second = false

namespace Snapshot.DistinctProperties

variable {snapshot : Snapshot} {property other : PropertyDef}
  (distinct : snapshot.DistinctProperties) (declared : property ∈ snapshot.propertyDefs)
  (declaredOther : other ∈ snapshot.propertyDefs)

include distinct declared declaredOther

theorem eq_of_id (same : other.id = property.id) : other = property :=
  List.inj_on_of_nodup_map distinct.ids declaredOther declared same

theorem eq_of_alias (shared : other.sharesAlias property) : other = property := by
  by_contra differs
  have : Std.Symm fun first second : PropertyDef => first.sharesAlias second = false :=
    ⟨fun first second apart => by rw [PropertyDef.sharesAlias_comm, apart]⟩
  have apart := distinct.aliases.forall declaredOther declared differs
  simp [apart] at shared

theorem eq_of_guid (shared : other.sharesGuid property) : other = property := by
  by_contra differs
  have : Std.Symm fun first second : PropertyDef => first.sharesGuid second = false :=
    ⟨fun first second apart => by rw [PropertyDef.sharesGuid_comm, apart]⟩
  have apart := distinct.guids.forall declaredOther declared differs
  simp [apart] at shared

end Snapshot.DistinctProperties

end Schema

namespace Resolution

open Schema Text

variable {snapshot : Snapshot} {property : PropertyDef}

theorem elements_propertyDefinition :
    snapshot.elements .propertyDefinition = snapshot.propertyDefs.map PropertyDef.identity := rfl

/-- A property is found if no other one matches. -/
theorem find?_identity {wanted : Identity → Bool} (holds : wanted property.identity)
    (declared : property ∈ snapshot.propertyDefs)
    (only : ∀ other ∈ snapshot.propertyDefs, wanted other.identity → other = property) :
    (snapshot.elements .propertyDefinition).find? wanted = some property.identity := by
  rw [elements_propertyDefinition, List.find?_map]
  cases found : snapshot.propertyDefs.find? (wanted ∘ PropertyDef.identity) with
  | none => exact absurd holds (List.find?_eq_none.mp found property declared)
  | some other =>
    have matched := List.find?_some found
    rw [only other (List.mem_of_find?_eq_some found) matched]
    rfl

/-- What is found comes from some property. -/
theorem exists_of_find?_identity {wanted : Identity → Bool} {element : Identity}
    (found : (snapshot.elements .propertyDefinition).find? wanted = some element) :
    ∃ other ∈ snapshot.propertyDefs, other.identity = element ∧ wanted other.identity := by
  have matched := List.find?_some found
  obtain ⟨other, listed, rfl⟩ := List.mem_map.mp (List.mem_of_find?_eq_some found)
  exact ⟨other, listed, rfl, matched⟩

variable (distinct : snapshot.DistinctProperties) (declared : property ∈ snapshot.propertyDefs)

include distinct declared

theorem byAlias_own {name : String} (listed : name ∈ property.names) :
    (byAlias .propertyDefinition name).endOver snapshot = .ok property.id := by
  have named : name ≠ "" := by simpa using (List.mem_filter.mp listed).2
  rw [byAlias_eq_ok rfl]
  refine ⟨property.identity, find?_identity ?_ declared ?_, rfl⟩
  · exact (PropertyDef.answersTo_iff named).mpr ⟨name, listed, sameIgnoringCase_refl name⟩
  · intro other declaredOther answers
    obtain ⟨one, inOther, same⟩ := (PropertyDef.answersTo_iff named).mp answers
    apply distinct.eq_of_alias declared declaredOther
    exact List.any_eq_true.mpr ⟨one, inOther, List.any_eq_true.mpr ⟨name, listed, same⟩⟩

/-- A canonical GUID leads to a property exactly if the property is stored with its braced form. -/
theorem byGuid_own {guid : String} (form : Guid.IsCanonical guid) :
    (byGuid .propertyDefinition guid).endOver snapshot = .ok property.id ↔
      property.guid.bind Guid.ofBraced? = some guid := by
  have inAnyForm : ∀ {one : PropertyDef}, one.guid.bind Guid.ofBraced? = some guid →
      one.guid.bind Guid.ofAnyForm? = some guid := by
    intro one braced
    obtain ⟨stored, given, read⟩ := Option.bind_eq_some_iff.mp braced
    exact Option.bind_eq_some_iff.mpr ⟨stored, given, Guid.ofAnyForm?_of_ofBraced? read⟩
  rw [byGuid_eq_ok rfl]
  constructor
  · rintro ⟨element, found, same⟩
    obtain ⟨other, declaredOther, rfl, matched⟩ := exists_of_find?_identity found
    rw [← distinct.eq_of_id declared declaredOther same]
    exact (PropertyDef.hasGuid_iff form).mp matched
  · intro braced
    refine ⟨property.identity, find?_identity ((PropertyDef.hasGuid_iff form).mpr braced) declared ?_,
      rfl⟩
    intro other declaredOther matched
    apply distinct.eq_of_guid declared declaredOther
    have shared := inAnyForm ((PropertyDef.hasGuid_iff form).mp matched)
    rw [PropertyDef.sharesGuid, shared, inAnyForm braced]
    simp

end Resolution

namespace Model

open Resolution Schema Text

/-- The expression is the id of the property, or a literal whose text resolves to the id. -/
def NamesProperty (snapshot : Snapshot) (property : PropertyDef) (expression : String) : Prop :=
  expression = int32Text property.id ∨
    ∃ text, expression = quote text ∧
      (Reference.resolve .propertyDefinition (.text text)).endOver snapshot = .ok property.id

/-- The text in the reference is taken for what it was made from: the first alias is neither the
number of another id nor a GUID that the property is not stored with, and a GUID that stands in for an
alias is stored in braces. -/
def readsBack (property : PropertyDef) : Bool :=
  match property.firstAlias? with
  | some first =>
    match classify first with
    | .ok (.integer id) => id == property.id
    | .ok (.guid guid) => property.guid.bind Guid.ofBraced? == some guid
    | _ => true
  | none =>
    (property.guid.bind Guid.ofAnyForm?).all fun guid =>
      property.guid.bind Guid.ofBraced? == some guid

variable {snapshot : Snapshot} {property : PropertyDef}

/-- A literal stands for its text and for nothing else. -/
theorem namesProperty_quote (text : String) :
    NamesProperty snapshot property (quote text) ↔
      (byText .propertyDefinition text).endOver snapshot = .ok property.id := by
  constructor
  · rintro (number | ⟨other, same, resolved⟩)
    · exact absurd number (quote_ne_int32Text text property.id)
    · rw [quote_inj same]
      exact resolved
  · exact fun resolved => .inr ⟨text, rfl, resolved⟩

/-- With distinct properties, the reference of a property names it exactly if the reference reads
back. -/
theorem propertyReference_names (distinct : snapshot.DistinctProperties)
    (declared : property ∈ snapshot.propertyDefs) :
    NamesProperty snapshot property (propertyReference property) ↔ readsBack property := by
  unfold propertyReference readsBack
  cases leads : property.firstAlias? with
  | some first =>
    obtain ⟨listed, trimmed, named⟩ := PropertyDef.firstAlias?_eq_some leads
    dsimp only
    rw [namesProperty_quote, byText, classify_trimmed trimmed named]
    cases readInt32? first.toList with
    | some id => simp [byForm]
    | none =>
      cases braced : Guid.ofBraced? first with
      | some guid =>
        exact (byGuid_own distinct declared (Guid.isCanonical_of_ofBraced? braced)).trans
          beq_iff_eq.symm
      | none => exact iff_of_true (byAlias_own distinct declared listed) rfl
  | none =>
    dsimp only
    cases stored : property.guid.bind Guid.ofAnyForm? with
    | some guid =>
      obtain ⟨written, -, read⟩ := Option.bind_eq_some_iff.mp stored
      have form := Guid.isCanonical_of_ofAnyForm? read
      dsimp only
      rw [namesProperty_quote, byText, classify_canonical form]
      exact (byGuid_own distinct declared form).trans beq_iff_eq.symm
    | none => exact iff_of_true (.inl rfl) rfl

/-- One property each that is named by an alias, by a GUID and by its id. -/
def plainSnapshot : Snapshot :=
  { propertyDefs :=
      [{ id := 1001, name := "Amount", dataType := .floating, aliases := [" ", " PD.Amount "] },
       { id := 1020, name := "Customer", dataType := .text,
         guid := some "{ABCDEF00-2222-3333-4444-555555555555}" },
       { id := 1021, name := "Note", dataType := .text }] }

theorem propertyReference_names_plain :
    plainSnapshot.DistinctProperties ∧
      ∀ property ∈ plainSnapshot.propertyDefs,
        NamesProperty plainSnapshot property (propertyReference property) := by
  have distinct : plainSnapshot.DistinctProperties :=
    ⟨by decide, by decide, by decide⟩
  have readBack : ∀ property ∈ plainSnapshot.propertyDefs, readsBack property := by decide
  exact ⟨distinct, fun property declared =>
    (propertyReference_names distinct declared).mpr (readBack property declared)⟩

/-- An alias is the number of another property. -/
def amount : PropertyDef :=
  { id := 1001, name := "Amount", dataType := .floating, aliases := ["1020"] }

/-- A GUID is stored without braces. -/
def note : PropertyDef :=
  { id := 1021, name := "Note", dataType := .text,
    guid := some "11111111-2222-3333-4444-555555555555" }

def misreadSnapshot : Snapshot :=
  { propertyDefs := [amount, { id := 1020, name := "Customer", dataType := .text }, note] }

/-- The reference of the one property leads to another, and that of the other leads nowhere. -/
theorem propertyReference_misread :
    misreadSnapshot.DistinctProperties ∧
      (amount ∈ misreadSnapshot.propertyDefs ∧
        ¬ NamesProperty misreadSnapshot amount (propertyReference amount) ∧
        NamesProperty misreadSnapshot ⟨1020, "Customer", .text, none, .none, false, [], none⟩
          (propertyReference amount)) ∧
      note ∈ misreadSnapshot.propertyDefs ∧
        ¬ NamesProperty misreadSnapshot note (propertyReference note) := by
  have distinct : misreadSnapshot.DistinctProperties :=
    ⟨by decide, by decide, by decide⟩
  have ofAmount : propertyReference amount = quote "1020" := by decide
  have ofNote : propertyReference note = quote "{11111111-2222-3333-4444-555555555555}" := by
    decide
  rw [ofAmount, ofNote]
  simp only [namesProperty_quote]
  refine ⟨distinct, ⟨by decide, ?_, ?_⟩, by decide, ?_⟩
  · decide
  · decide
  · decide

end Model

end VaultModels
