import VaultModels.Proofs.Resolution.Attempt
import VaultModels.Resolution.Reference

/-!
# Identifiers made from text

An identifier that is made from text looks the text up as a GUID or as an alias before it reads it as
untyped text is read. Over a snapshot this makes a difference in two cases only: the text is a
number and an element carries it as an alias, or the id that is found is `-1`, which an identifier
takes for none. Only the ids are compared here, and not the errors or the queries.
-/
namespace VaultModels

namespace Schema.Snapshot

open Text

/-- The first element of the kind that carries the text as an alias although it is a number. -/
def numberedAlias? (snapshot : Snapshot) (kind : Kind) (text : String) : Option ElementId :=
  if (readInt32? (trim text).toList).isSome && kind.strategy.byAlias then
    ((snapshot.elements kind).find? (·.answersTo text)).map (·.id)
  else none

end Schema.Snapshot

namespace Resolution

open Schema Text

variable {snapshot : Snapshot} {kind : Kind} {text : String} {id : ElementId}

/-- Declared aliases are compared without blanks, so a request with blanks around it meets none. -/
theorem trim_of_answersTo {element : Identity} (answers : element.answersTo text) :
    trim text = text := by
  obtain ⟨declared, -, same⟩ := List.any_eq_true.mp answers
  exact trim_of_sameIgnoringCase same

/-- Text that some element answers to is looked up as an alias, unless it is a number or a GUID. -/
theorem classify_alias {element : Identity} (answers : element.answersTo text) (named : text ≠ "")
    (unbraced : Guid.ofBraced? text = none) :
    classify text = .ok
      (match readInt32? (trim text).toList with
        | some id => .integer id
        | none => .aliased text) := by
  have trimmed := trim_of_answersTo answers
  rw [trimmed]
  cases number : readInt32? text.toList with
  | some id => rw [classify_trimmed trimmed named, number]
  | none => rw [classify_trimmed trimmed named, number, unbraced]

/-- A number that is an alias too is read as the number. -/
theorem byText_of_numberedAlias {own : ElementId}
    (shadowed : snapshot.numberedAlias? kind text = some own) :
    ∃ id, (byText kind text).endOver snapshot = .ok id := by
  unfold Snapshot.numberedAlias? at shadowed
  split at shadowed
  next numbered =>
    obtain ⟨number, -⟩ := Bool.and_eq_true_iff.mp numbered
    obtain ⟨id, read⟩ := Option.isSome_iff_exists.mp number
    have visible : trim text ≠ "" := by
      intro blank
      rw [blank] at read
      cases read
    refine ⟨id, ?_⟩
    unfold byText classify
    dsimp only
    rw [if_neg visible, read]
    rfl
  · cases shadowed

/-- A braced GUID is looked up as such, and as nothing else. -/
theorem byText_braced {guid : String} (braced : Guid.ofBraced? text = some guid) :
    (byText kind text).endOver snapshot =
      (snapshot.byGuid kind guid).mapError Error.ofSchema := by
  rw [byText, classify_braced braced]
  dsimp only [byForm]
  rw [byGuid, if_pos (byGuid_supported kind), fetch_over]
  rfl

theorem numberedAlias?_braced {guid : String} (braced : Guid.ofBraced? text = some guid) :
    snapshot.numberedAlias? kind text = none := by
  rw [Snapshot.numberedAlias?, Guid.trim_of_ofBraced? braced, Guid.readInt32?_of_ofBraced? braced]
  rfl

namespace Identifier

/-- What an identifier that is made from text settles on. -/
theorem settled_ofAlias (snapshot : Snapshot) (kind : Kind) (named : text ≠ "") :
    (ofAlias text).settled snapshot kind =
      match snapshot.numberedAlias? kind text with
      | some own => .ok own
      | none => (byText kind text).endOver snapshot := by
  have source : (ofAlias text).guid? = Guid.ofBraced? text := rfl
  have spelled : (ofAlias text).aliasText = text := rfl
  unfold settled matched?
  rw [source, spelled]
  simp only [named, ne_eq, not_false_eq_true, if_true, if_false]
  cases braced : Guid.ofBraced? text with
  | some guid =>
    rw [numberedAlias?_braced braced, byText_braced braced]
    dsimp only
    -- the lookup that found nothing is made once more, with the same answer
    cases snapshot.byGuid kind guid <;> rfl
  | none =>
    dsimp only [Snapshot.numberedAlias?]
    by_cases supported : kind.strategy.byAlias = true
    · rw [if_pos supported, Snapshot.byAlias, toOption_found]
      cases found : (snapshot.elements kind).find? (·.answersTo text) with
      | none => simp
      | some element =>
        have answers : element.answersTo text := by simpa using List.find?_some found
        have ended : (byAlias kind text).endOver snapshot = .ok element.id :=
          (byAlias_eq_ok supported).mpr ⟨element, found, rfl⟩
        rw [byText, classify_alias answers named braced]
        cases readInt32? (trim text).toList with
        | some id => simp [supported]
        | none => simp [byForm, ended]
    · simp [supported]

/-- The ids to which an identifier that is made from text resolves. -/
theorem resolveId_ofAlias (snapshot : Snapshot) (kind : Kind) (named : text ≠ "") (id : ElementId) :
    ((ofAlias text).resolveId kind).endOver snapshot = .ok id ↔ id ≠ unresolvedId ∧
      match snapshot.numberedAlias? kind text with
      | some own => id = own
      | none => (Reference.resolve kind (.text text)).endOver snapshot = .ok id := by
  rw [resolveId_first rfl, settled_ofAlias snapshot kind named, and_comm]
  cases snapshot.numberedAlias? kind text with
  | none => rfl
  | some own => simp [eq_comm]

end Identifier

/-- An identifier that is made from text resolves to the id to which the text itself resolves, apart from
two cases: where the text is a number and an alias too it resolves to the element with the alias, and
where the id would be `-1` it has none. So the two agree exactly where the text does not resolve to
`-1` and a number that is an alias too is the id of the element with the alias. -/
theorem ofAlias_resolves (snapshot : Snapshot) (kind : Kind) (named : text ≠ "") :
    let memoised := ((Identifier.ofAlias text).resolveId kind).endOver snapshot
    let direct := (Reference.resolve kind (.text text)).endOver snapshot
    (∀ id, memoised = .ok id ↔ id ≠ unresolvedId ∧
      match snapshot.numberedAlias? kind text with
      | some own => id = own
      | none => direct = .ok id) ∧
    ((∀ id, memoised = .ok id ↔ direct = .ok id) ↔
      direct ≠ .ok unresolvedId ∧
        ∀ own ∈ snapshot.numberedAlias? kind text, direct = .ok own) := by
  intro memoised direct
  have ids := Identifier.resolveId_ofAlias snapshot kind named
  cases shadowed : snapshot.numberedAlias? kind text with
  | none =>
    have found : ∀ id, memoised = .ok id ↔ id ≠ unresolvedId ∧ direct = .ok id := by
      simpa only [shadowed] using ids
    refine ⟨found, ?_⟩
    simp only [found]
    constructor
    · intro agree
      exact ⟨fun lost => ((agree unresolvedId).mpr lost).1 rfl, by simp⟩
    · rintro ⟨kept, -⟩ id
      exact and_iff_right_of_imp fun found same => kept (same ▸ found)
  | some own =>
    have found : ∀ id, memoised = .ok id ↔ id ≠ unresolvedId ∧ id = own := by
      simpa only [shadowed] using ids
    obtain ⟨number, read⟩ : ∃ number, direct = .ok number := byText_of_numberedAlias shadowed
    refine ⟨found, ?_⟩
    simp only [found, read, Except.ok.injEq, Option.mem_some_iff, ne_eq, forall_eq']
    constructor
    · intro agree
      exact (agree number).mpr rfl
    · rintro ⟨kept, rfl⟩ id
      exact ⟨fun same => same.2.symm, fun same => ⟨same ▸ kept, same.symm⟩⟩

/-- An object type with an alias, one whose alias is a number, and one with the id that stands for
none. -/
def aliasedTypes : Snapshot :=
  { objectTypes :=
      [{ id := 0, nameSingular := "Document", isReal := true, aliases := [" OT.Document "] },
       { id := 7, nameSingular := "Answer", isReal := true, aliases := ["42"] },
       { id := -1, nameSingular := "Minus", isReal := true, aliases := ["OT.Minus"] }] }

/-- In another case than it is declared in, the alias leads to the same id both ways. -/
theorem ofAlias_resolves_document :
    "ot.document" ≠ "" ∧
      ((Identifier.ofAlias "ot.document").resolveId .objectType).endOver aliasedTypes = .ok 0 ∧
      (Reference.resolve .objectType (.text "ot.document")).endOver aliasedTypes = .ok 0 := by
  have named : "ot.document" ≠ "" := by decide
  have direct : (Reference.resolve .objectType (.text "ot.document")).endOver aliasedTypes =
      .ok 0 := by decide
  have unnumbered : aliasedTypes.numberedAlias? .objectType "ot.document" = none := by decide
  have agree := (ofAlias_resolves aliasedTypes .objectType named).2.mpr
  exact ⟨named, (agree ⟨by rw [direct]; decide, by simp [unnumbered]⟩ 0).mpr direct, direct⟩

/-- The number that is an alias leads to the element with the alias one way and stands for itself the
other way, and the element with the id `-1` is found one way only. -/
theorem ofAlias_disagrees :
    (((Identifier.ofAlias "42").resolveId .objectType).endOver aliasedTypes = .ok 7 ∧
      (Reference.resolve .objectType (.text "42")).endOver aliasedTypes = .ok 42) ∧
    (((Identifier.ofAlias "OT.Minus").resolveId .objectType).endOver aliasedTypes =
        .error (.unresolved (some .objectType) "OT.Minus") ∧
      (Reference.resolve .objectType (.text "OT.Minus")).endOver aliasedTypes = .ok (-1)) := by
  decide

end Resolution

end VaultModels
