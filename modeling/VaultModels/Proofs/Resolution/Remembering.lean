import VaultModels.Proofs.Resolution.Attempt
import VaultModels.Resolution.Reference

/-!
# What identifiers remember

An identifier keeps the id of its first completed resolution until it gets a new source value, and
answers with it whatever is asked later. So over a snapshot the id is that of an element of the kind
that the remembered resolution was for, and the owner of a state was checked if that resolution was
for a state and the owner was expected by then. An owner that is expected later is not checked, and
nothing is held of it here.
-/
namespace VaultModels.Resolution.Identifier

open Schema Text

/-- Resolving over the snapshot, with or without an error, makes the one identifier of the other. -/
def ResolvesOver (snapshot : Snapshot) (before : Identifier) (kind : Kind) (after : Identifier) :
    Prop :=
  ∃ outcome, (before.resolve kind).endOver snapshot = .ok (after, outcome)

/-- The identifiers that come of any sequence of operations, given what resolving may make of them. A
refused `set` changes nothing and is left out. The owner is late while it is younger than the resolution
that is remembered. -/
inductive Reached (resolves : Identifier → Kind → Identifier → Prop) :
    Identifier → (late : Bool) → Prop
  | empty : Reached resolves empty false
  | ofId (id : ElementId) : Reached resolves (ofId id) false
  | ofAlias (text : String) : Reached resolves (ofAlias text) false
  /-- To expect an owner does not arm the identifier again. -/
  | withOwner {x : Identifier} {late : Bool} (before : Reached resolves x late)
      (owner : ElementId) : Reached resolves (x.withOwner owner) x.attempted
  | setAlias {x : Identifier} {late : Bool} (before : Reached resolves x late) (text : String) :
      Reached resolves (x.setAlias text) false
  | set {x y : Identifier} {late : Bool} (before : Reached resolves x late) {reference : Reference}
      (plain : ∀ other, reference ≠ .identifier other) (taken : x.set reference = .ok y) :
      Reached resolves y false
  /-- An identifier that is set from another one takes everything over from it. -/
  | copy {x other y : Identifier} {late lateOther : Bool} (before : Reached resolves x late)
      (source : Reached resolves other lateOther) (taken : x.set (.identifier other) = .ok y) :
      Reached resolves y lateOther
  | resolve {x y : Identifier} {late : Bool} (before : Reached resolves x late) (kind : Kind)
      (step : resolves x kind y) : Reached resolves y late

variable {snapshot : Snapshot} {kind : Kind} {id owner : ElementId} {x y : Identifier} {late : Bool}

/-! ## What a first resolution settles on -/

theorem matched?_holds (found : x.matched? snapshot kind = some id) : snapshot.Holds kind id := by
  unfold matched? at found
  cases guid : x.guid? with
  | some canonical =>
    rw [guid] at found
    dsimp only at found
    rw [Snapshot.byGuid, toOption_found] at found
    exact Snapshot.holds_of_find? found
  | none =>
    rw [guid] at found
    dsimp only at found
    split at found
    · split at found
      · rw [Snapshot.byAlias, toOption_found] at found
        exact Snapshot.holds_of_find? found
      · cases found
    · split at found
      next given =>
        cases found
        exact given.2.holds
      · cases found

/-- An element of the kind, or the number that the alias is. -/
theorem settled_holds (ended : x.settled snapshot kind = .ok id) (known : id ≠ unresolvedId) :
    snapshot.Holds kind id ∨ readInt32? (trim x.aliasText).toList = some id := by
  unfold settled at ended
  cases found : x.matched? snapshot kind with
  | some matched =>
    rw [found] at ended
    cases ended
    exact .inl (matched?_holds found)
  | none =>
    rw [found] at ended
    dsimp only at ended
    split at ended
    · cases ended
      exact absurd rfl known
    · exact byText_holds ended

/-- A state that is found by its id belongs to the expected owner. -/
theorem settled_owned (unnamed : x.aliasText = "")
    (ended : x.settled snapshot .workflowState = .ok id) (known : id ≠ unresolvedId) :
    ∀ owner ∈ x.expectedOwner, snapshot.owner? .workflowState id = some owner := by
  unfold settled matched? at ended
  rw [guid?_of_unnamed unnamed] at ended
  simp only [unnamed, ne_eq, not_true_eq_false, if_false, if_true] at ended
  split at ended
  next found =>
    cases ended
    split at found
    next given =>
      cases found
      exact given.2.2
    · cases found
  · cases ended
    exact absurd rfl known

/-! ## The invariant -/

/-- What is remembered, if anything is. -/
structure Sound (snapshot : Snapshot) (x : Identifier) (late : Bool) : Prop where
  armed : x.attempted = false → x.id = unresolvedId ∧ late = false
  kept : x.attempted = true → x.id ≠ unresolvedId → ∃ kind, x.kind = some kind ∧
    (snapshot.Holds kind x.id ∨ readInt32? (trim x.aliasText).toList = some x.id)
  owned : x.attempted = true → x.id ≠ unresolvedId → late = false → x.aliasText = "" →
    x.kind = some .workflowState →
    ∀ owner ∈ x.expectedOwner, snapshot.owner? .workflowState x.id = some owner

/-- Nothing is remembered. -/
theorem Sound.of_armed (armed : x.attempted = false) (unresolved : x.id = unresolvedId) :
    Sound snapshot x false where
  armed _ := ⟨unresolved, rfl⟩
  kept attempted := by simp [armed] at attempted
  owned attempted := by simp [armed] at attempted

theorem Sound.withOwner (sound : Sound snapshot x late) (owner : ElementId) :
    Sound snapshot (x.withOwner owner) x.attempted where
  armed armed := ⟨(sound.armed armed).1, armed⟩
  kept := sound.kept
  owned attempted _ armed := by
    rw [show x.attempted = true from attempted] at armed
    cases armed

/-- What a source value makes of an identifier, unless it is refused. -/
theorem set_cases {reference : Reference} (taken : x.set reference = .ok y) :
    (∃ id, y = x.setId id) ∨ (∃ text, y = x.setText text) ∨ reference = .identifier y := by
  cases reference with
  | number id | enumValue id =>
    cases taken
    exact .inl ⟨id, rfl⟩
  | text written | aliased written =>
    cases taken
    exact .inr (.inl ⟨written, rfl⟩)
  | long id =>
    obtain ⟨narrowed, -, rfl⟩ := map_eq_ok.mp taken
    exact .inl ⟨narrowed, rfl⟩
  | guid written =>
    obtain ⟨canonical, -, rfl⟩ := map_eq_ok.mp taken
    exact .inr (.inl ⟨canonical, rfl⟩)
  | identifier other =>
    cases taken
    exact .inr (.inr rfl)

/-- Any other source value than an identifier arms the identifier again. -/
theorem set_armed {reference : Reference} (plain : ∀ other, reference ≠ .identifier other)
    (taken : x.set reference = .ok y) : y.attempted = false ∧ y.id = unresolvedId := by
  rcases set_cases taken with ⟨id, rfl⟩ | ⟨text, rfl⟩ | copied
  · exact ⟨rfl, rfl⟩
  · exact ⟨rfl, rfl⟩
  · exact absurd copied (plain y)

theorem Sound.resolve (sound : Sound snapshot x late) (step : ResolvesOver snapshot x kind y) :
    Sound snapshot y late := by
  obtain ⟨outcome, ended⟩ := step
  cases attempted : x.attempted with
  | true =>
    rw [resolve_again attempted] at ended
    cases ended
    exact sound
  | false =>
    obtain ⟨unresolved, rfl⟩ := sound.armed attempted
    rw [resolve_first attempted] at ended
    cases found : x.settled snapshot kind with
    | error error =>
      rw [found] at ended
      cases ended
      exact .of_armed attempted unresolved
    | ok settled =>
      rw [found] at ended
      cases ended
      constructor
      · rintro ⟨⟩
      · exact fun _ known => ⟨kind, rfl, settled_holds found known⟩
      · rintro - known - unnamed ⟨⟩
        exact settled_owned unnamed found known

theorem Reached.sound (reached : x.Reached (ResolvesOver snapshot) late) :
    Sound snapshot x late := by
  induction reached with
  | empty => exact .of_armed rfl rfl
  | ofId id => exact .of_armed rfl rfl
  | ofAlias text => exact .of_armed rfl rfl
  | withOwner _ owner ih => exact ih.withOwner owner
  | setAlias _ text => exact .of_armed rfl rfl
  | set _ plain taken =>
    obtain ⟨armed, unresolved⟩ := set_armed plain taken
    exact .of_armed armed unresolved
  | copy _ _ taken _ source =>
    cases taken
    exact source
  | resolve _ kind step ih => exact ih.resolve step

/-- The kind that an answer is for: that of the resolution that is remembered, else the one that is
asked for. -/
def answeredKind (identifier : Identifier) (asked : Kind) : Option Kind :=
  if identifier.attempted then identifier.kind else some asked

/-- Where an identifier of the snapshot resolves to an id, and its alias is no number, the snapshot holds
an element with the id that is of the kind that the answer is for. -/
theorem reached_holds (reached : x.Reached (ResolvesOver snapshot) late)
    (textual : readInt32? (trim x.aliasText).toList = none)
    (ended : (Reference.resolve kind (.identifier x)).endOver snapshot = .ok id) :
    ∃ actual, x.answeredKind kind = some actual ∧ snapshot.Holds actual id := by
  have resolved : (x.resolveId kind).endOver snapshot = .ok id := ended
  unfold answeredKind
  cases attempted : x.attempted with
  | true =>
    obtain ⟨rfl, known⟩ := (resolveId_again attempted).mp resolved
    obtain ⟨actual, remembered, holds⟩ := reached.sound.kept attempted known
    exact ⟨actual, remembered, holds.resolve_right (by simp [textual])⟩
  | false =>
    obtain ⟨found, known⟩ := (resolveId_first attempted).mp resolved
    refine ⟨kind, rfl, ?_⟩
    exact (settled_holds found known).resolve_right (by simp [textual])

/-- A state whose id is that of a workflow too, and a workflow of its own. -/
def approvals : Snapshot :=
  { workflows := [{ id := 101, name := "Approval" }, { id := 201, name := "Review" }],
    workflowStates := [{ id := 201, name := "Draft", workflow := 101 }] }

/-- The id 101, resolved as that of a workflow. -/
def approval : Identifier :=
  { sourceId := 101, id := 101, attempted := true, kind := some .workflow }

theorem approval_reached : approval.Reached (ResolvesOver approvals) false :=
  .resolve (.ofId 101) .workflow ⟨none, by decide⟩

/-- What is remembered of a workflow answers for an object type, and is that of a workflow. -/
theorem reached_holds_approval :
    approval.Reached (ResolvesOver approvals) false ∧
      readInt32? (trim approval.aliasText).toList = none ∧
      (Reference.resolve .objectType (.identifier approval)).endOver approvals = .ok 101 ∧
      ∃ actual, approval.answeredKind .objectType = some actual ∧ approvals.Holds actual 101 := by
  have textual : readInt32? (trim approval.aliasText).toList = none := by decide
  have ended : (Reference.resolve .objectType (.identifier approval)).endOver approvals =
      .ok 101 := by decide
  exact ⟨approval_reached, textual, ended, reached_holds approval_reached textual ended⟩

/-- The answer for an object type is the id of no object type: once it is what is remembered of a
workflow, and once it is a number with blanks around it. -/
theorem reached_elsewhere :
    (approval.Reached (ResolvesOver approvals) false ∧ readInt32? approval.aliasText.toList = none ∧
      (Reference.resolve .objectType (.identifier approval)).endOver approvals = .ok 101 ∧
      ¬ approvals.Holds .objectType 101) ∧
    ((ofAlias " 42 ").Reached (ResolvesOver approvals) false ∧
      readInt32? (ofAlias " 42 ").aliasText.toList = none ∧
      (Reference.resolve .objectType (.identifier (ofAlias " 42 "))).endOver approvals = .ok 42 ∧
      ¬ approvals.Holds .objectType 42) := by
  refine ⟨⟨approval_reached, ?_⟩, .ofAlias " 42 ", ?_⟩
  · decide
  · decide

/-- Once an identifier of the snapshot without an alias is resolved as a state, the state belongs to the
expected owner, unless the owner is late or another kind is remembered. -/
theorem owner_enforced (reached : x.Reached (ResolvesOver snapshot) false)
    (unnamed : x.aliasText = "") (expected : x.expectedOwner = some owner)
    (ended : (x.resolve .workflowState).endOver snapshot = .ok (y, none))
    (resolved : y.isResolved) (state : y.kind = some .workflowState) :
    snapshot.ownerOf .workflowState y.id = .ok owner := by
  have sound : Sound snapshot y false := (reached.resolve .workflowState ⟨none, ended⟩).sound
  obtain ⟨named, -, owned⟩ := resolve_frame ended
  obtain ⟨known, attempted⟩ : y.id ≠ unresolvedId ∧ y.attempted = true := by
    simpa [isResolved] using resolved
  rw [Snapshot.ownerOf, found_eq_ok]
  exact sound.owned attempted known rfl (named.trans unnamed) state owner (owned.trans expected)

/-- The state by its id, expected to belong to its workflow. -/
def draft : Identifier := (ofId 201).withOwner 101

def resolvedDraft : Identifier :=
  { draft with id := 201, attempted := true, kind := some .workflowState }

theorem owner_enforced_draft :
    draft.Reached (ResolvesOver approvals) false ∧ draft.aliasText = "" ∧
      draft.expectedOwner = some 101 ∧
      (draft.resolve .workflowState).endOver approvals = .ok (resolvedDraft, none) ∧
      resolvedDraft.isResolved ∧ resolvedDraft.kind = some .workflowState ∧
      approvals.ownerOf .workflowState resolvedDraft.id = .ok 101 := by
  have reached : draft.Reached (ResolvesOver approvals) false := .withOwner (.ofId 201) 101
  have ended : (draft.resolve .workflowState).endOver approvals = .ok (resolvedDraft, none) := by
    decide
  have resolved : resolvedDraft.isResolved := by decide
  exact ⟨reached, rfl, rfl, ended, resolved, rfl,
    owner_enforced reached rfl rfl ended resolved rfl⟩

/-- The state by its id, resolved as a workflow while another owner was expected. -/
def draftAsWorkflow : Identifier :=
  { sourceId := 201, id := 201, attempted := true, kind := some .workflow,
    expectedOwner := some 102 }

/-- The state by its id, resolved as a state before another owner was expected. -/
def draftBeforeOwner : Identifier :=
  { sourceId := 201, id := 201, attempted := true, kind := some .workflowState,
    expectedOwner := some 102 }

/-- Resolved once more as a state, both stay resolved, although the state belongs to another owner. -/
theorem owner_not_enforced :
    (draftAsWorkflow.Reached (ResolvesOver approvals) false ∧
      draftBeforeOwner.Reached (ResolvesOver approvals) true) ∧
    ∀ x ∈ [draftAsWorkflow, draftBeforeOwner],
      x.aliasText = "" ∧ x.expectedOwner = some 102 ∧
      (x.resolve .workflowState).endOver approvals = .ok (x, none) ∧ x.isResolved ∧
      approvals.ownerOf .workflowState x.id = .ok 101 := by
  refine ⟨⟨?_, ?_⟩, ?_⟩
  · exact .resolve (.withOwner (.ofId 201) 102) .workflow ⟨none, by decide⟩
  · have resolved : ({ draftBeforeOwner with expectedOwner := none } : Identifier).Reached
        (ResolvesOver approvals) false :=
      .resolve (.ofId 201) .workflowState ⟨none, by decide⟩
    exact resolved.withOwner 102
  · decide

end VaultModels.Resolution.Identifier
