import VaultModels.Proofs.Guid.Canonical
import VaultModels.Proofs.Session.Over
import VaultModels.Resolution.Lookup

/-!
# Lookups over a snapshot

What a lookup finds is the first element that answers to the request; where the kind has no such
lookup it finds nothing. How text is classified is held for the two kinds of text that are made here:
canonical GUIDs, and text without blanks around it. Errors are told apart elsewhere.
-/
namespace VaultModels.Resolution

open Schema Text

variable {snapshot : Snapshot} {kind : Kind} {request : String} {id : ElementId}

/-! ## What is found -/

theorem found_eq_ok {α : Type} {kind : Kind} {reference : String} {answer : Option α} {value : α} :
    Snapshot.found kind reference answer = .ok value ↔ answer = some value := by
  cases answer <;> simp [Snapshot.found]

/-- A query that is asked for its answer ends with the snapshot's answer, if there is one. -/
theorem fetch_eq_ok {ε : Type} {convert : Schema.Error → ε} {query : Query} {answer : query.Answer} :
    (Session.fetch convert query).endOver snapshot = .ok answer ↔
      snapshot.answer query = .ok answer := by
  rw [Session.fetch, Session.endOver_ask]
  cases snapshot.answer query <;> simp

theorem fetch_over {ε : Type} (convert : Schema.Error → ε) (query : Query) :
    (Session.fetch convert query).endOver snapshot = (snapshot.answer query).mapError convert := by
  rw [Session.fetch, Session.endOver_ask]
  cases snapshot.answer query <;> rfl

/-- Every kind is looked up by GUID. -/
theorem byGuid_supported (kind : Kind) : kind.strategy.byGuid = true := by cases kind <;> rfl

theorem byGuid_eq_ok (supported : kind.strategy.byGuid) :
    (byGuid kind request).endOver snapshot = .ok id ↔
      ∃ element, (snapshot.elements kind).find? (·.hasGuid request) = some element ∧
        element.id = id := by
  rw [byGuid, if_pos supported, fetch_eq_ok, Snapshot.answer, Snapshot.byGuid, found_eq_ok,
    Option.map_eq_some_iff]

theorem byAlias_eq_ok (supported : kind.strategy.byAlias) :
    (byAlias kind request).endOver snapshot = .ok id ↔
      ∃ element, (snapshot.elements kind).find? (·.answersTo request) = some element ∧
        element.id = id := by
  rw [byAlias, if_pos supported, fetch_eq_ok, Snapshot.answer, Snapshot.byAlias, found_eq_ok,
    Option.map_eq_some_iff]

/-- An alias leads to the first element that answers to it, where the kind is looked up by alias. -/
theorem byAlias_over (snapshot : Snapshot) (kind : Kind) (request : String) :
    (byAlias kind request).endOver snapshot =
      match if kind.strategy.byAlias then
          (snapshot.elements kind).find? (·.answersTo request) else none with
      | some element => .ok element.id
      | none => .error (.notFound kind request) := by
  rw [byAlias]
  split
  · rw [fetch_over, Snapshot.answer, Snapshot.byAlias]
    cases (snapshot.elements kind).find? (·.answersTo request) <;> rfl
  · rfl

/-! ## How text is read -/

/-- Text without blanks around it that is no number and no braced GUID is an alias. -/
theorem classify_trimmed {text : String} (trimmed : trim text = text) (named : text ≠ "") :
    classify text = .ok
      (match readInt32? text.toList with
        | some id => .integer id
        | none =>
          match Guid.ofBraced? text with
          | some guid => .guid guid
          | none => .aliased text) := by
  unfold classify
  rw [trimmed]
  dsimp only
  rw [if_neg named]
  cases readInt32? text.toList with
  | some id => rfl
  | none => cases Guid.ofBraced? text <;> rfl

/-- A braced GUID is read in its canonical form. -/
theorem classify_braced {text guid : String} (braced : Guid.ofBraced? text = some guid) :
    classify text = .ok (.guid guid) := by
  have named : text ≠ "" := by
    rintro rfl
    have unbraced : Guid.ofBraced? "" = none := by decide
    cases unbraced.symm.trans braced
  rw [classify_trimmed (Guid.trim_of_ofBraced? braced) named,
    Guid.readInt32?_of_ofBraced? braced, braced]

theorem classify_canonical {guid : String} (form : Guid.IsCanonical guid) :
    classify guid = .ok (.guid guid) := classify_braced form.ofBraced?

end VaultModels.Resolution
