import VaultModels.Proofs.Name.Search

/-!
# Scopes in use

Reservations and claims on one scope, in any order: a name with a number may be claimed as it stands,
before or after the base that would get it, or be a base itself. What happened so far decides the next
claim, so the calls are written down with what they came to. Every claim comes to a name, the one that
`HandsOut` gives for all names before it; hence no name is handed out twice, and none that was reserved
before. Names count once, and the counter of the search asks for fewer than `2 ^ 31` of them.
-/
namespace VaultModels.Name.Scope

inductive Call
  | reserve (name : String)
  | claim (base : String)
  deriving DecidableEq, Repr

/-- What a call came to. -/
inductive Event
  | reserved (name : String)
  | handedOut (base name : String)
  deriving DecidableEq, Repr

namespace Event

def name : Event → String
  | reserved name => name
  | handedOut _ name => name

def given? : Event → Option String
  | reserved _ => none
  | handedOut _ name => some name

end Event

/-- The names that were reserved or handed out. -/
def names (events : List Event) : List String := events.map Event.name

def handedOut (events : List Event) : List String := events.filterMap Event.given?

structure Record where
  scope : Scope
  /-- The latest first. -/
  events : List Event

def Record.call (before : Record) : Call → Record
  | .reserve name => ⟨before.scope.reserve name, .reserved name :: before.events⟩
  | .claim base =>
    let (name, next) := before.scope.claim base
    ⟨next, .handedOut base name :: before.events⟩

def record (calls : List Call) : Record := calls.foldl Record.call ⟨.empty, []⟩

/-- What the calls on a new scope come to, one after the other; the latest stands first. -/
def history (calls : List Call) : List Event := (record calls).events

/-- What may happen on a scope: any name is reserved, and a claim gets its name by what happened
before. -/
inductive Happens : List Event → Prop
  | start : Happens []
  | reserve {events : List Event} (earlier : Happens events) (name : String) :
      Happens (.reserved name :: events)
  | claim {events : List Event} {base name : String} (earlier : Happens events)
      (given : HandsOut (names events) base name) : Happens (.handedOut base name :: events)

variable {before : List Call} {events later earlier : List Event} {event : Event}
  {base name : String}

/-! ## Names in a history -/

theorem names_subset (older : earlier <:+ events) : names earlier ⊆ names events :=
  List.map_subset _ older.subset

theorem mem_names_of_mem_handedOut (member : name ∈ handedOut events) : name ∈ names events := by
  obtain ⟨event, listed, given⟩ := List.mem_filterMap.mp member
  cases event with
  | reserved => cases given
  | handedOut base other =>
    cases given
    exact List.mem_map.mpr ⟨_, listed, rfl⟩

/-- A name that is handed out is none of those before it. -/
theorem Happens.fresh (happens : Happens (later ++ earlier)) :
    ∀ name ∈ handedOut later, name ∉ names earlier := by
  induction later with
  | nil => nofun
  | cons event later ih =>
    intro name member known
    cases happens with
    | reserve happens => exact ih happens name member known
    | claim happens given =>
      rcases List.mem_cons.mp member with rfl | afterwards
      · exact given.free (names_subset (List.suffix_append later earlier) known)
      · exact ih happens name afterwards known

theorem Happens.nodup (happens : Happens events) : (handedOut events).Nodup := by
  induction happens with
  | start => exact List.nodup_nil
  | reserve _ _ ih => exact ih
  | claim _ given ih =>
    exact List.nodup_cons.mpr ⟨fun again => given.free (mem_names_of_mem_handedOut again), ih⟩

/-- A name that is handed out is one more. -/
theorem card_names_lt (free : name ∉ names earlier)
    (older : .handedOut base name :: earlier <:+ events) :
    (names earlier).toFinset.card < (names events).toFinset.card := by
  have kept := names_subset ((List.suffix_cons _ _).trans older)
  have within : (names earlier).toFinset ⊆ (names events).toFinset := by
    intro other known
    rw [List.mem_toFinset] at known ⊢
    exact kept known
  refine Finset.card_lt_card ((Finset.ssubset_iff_of_subset within).mpr ⟨name, ?_, ?_⟩)
  · exact List.mem_toFinset.mpr (names_subset older List.mem_cons_self)
  · exact fun known => free (List.mem_toFinset.mp known)

/-! ## Histories of calls -/

theorem record_concat (calls : List Call) (call : Call) :
    record (calls ++ [call]) = (record calls).call call :=
  List.foldl_concat _ _ _ _

/-- A scope knows the names of its history and no others. -/
theorem scope_record (calls : List Call) : (record calls).scope = ⟨names (history calls)⟩ := by
  induction calls using List.reverseRecOn with
  | nil => rfl
  | append_singleton calls call ih =>
    rw [history, record_concat]
    cases call with
    | reserve name =>
      rw [Record.call, ih]
      rfl
    | claim base =>
      rw [Record.call, ih]
      rfl

theorem history_reserve (calls : List Call) (name : String) :
    history (calls ++ [.reserve name]) = .reserved name :: history calls := by
  rw [history, record_concat]
  rfl

theorem history_claim (calls : List Call) (base : String) :
    history (calls ++ [.claim base]) =
      .handedOut base (pick ⟨names (history calls)⟩ base) :: history calls := by
  rw [← scope_record, history, record_concat]
  rfl

theorem history_happens (calls : List Call) : Happens (history calls) := by
  induction calls using List.reverseRecOn with
  | nil => exact .start
  | append_singleton calls call ih =>
    cases call with
    | reserve name =>
      rw [history_reserve]
      exact ih.reserve name
    | claim base =>
      rw [history_claim]
      exact ih.claim (pick_handsOut _ base)

theorem Record.call_isSuffix (before : Record) (call : Call) :
    before.events <:+ (before.call call).events := by
  cases call with
  | reserve name => exact List.suffix_cons _ _
  | claim base => exact List.suffix_cons _ _

/-- Later calls change nothing about what happened. -/
theorem history_isSuffix (calls more : List Call) : history calls <:+ history (calls ++ more) := by
  induction more using List.reverseRecOn with
  | nil => rw [List.append_nil]
  | append_singleton more call ih =>
    refine ih.trans ?_
    rw [← List.append_assoc, history, history, record_concat]
    exact Record.call_isSuffix _ _

/-- What a call came to stays in front of what happened before it. -/
theorem exists_later {call : Call} (after : List Call)
    (came : history (before ++ [call]) = event :: history before) :
    ∃ later, history (before ++ call :: after) = later ++ event :: history before := by
  obtain ⟨later, same⟩ := history_isSuffix (before ++ [call]) after
  rw [came, List.append_assoc] at same
  exact ⟨later, same.symm⟩

/-- While a scope has fewer than `2 ^ 31` names, with those handed out, the search of every claim ends,
and it ends with the base if that was neither reserved nor handed out before, and else with the base and
the least number from two on for which that is so. The names handed out are distinct, differ from those
reserved before them, and are identifiers where their bases are. -/
theorem claims_served (calls : List Call)
    (few : (names (history calls)).toFinset.card < 2 ^ 31) :
    (∀ before base after, calls = before ++ .claim base :: after →
      ∃ later name, history calls = later ++ .handedOut base name :: history before ∧
        (∃ turns ≤ (names (history before)).toFinset.card + 1,
          Search.after (names (history before)) base turns = .found name) ∧
        HandsOut (names (history before)) base name ∧
        (isValid base → isValid name)) ∧
      (∀ before name after, calls = before ++ .reserve name :: after →
        ∃ later, history calls = later ++ .reserved name :: history before ∧
          name ∉ handedOut later) ∧
      (handedOut (history calls)).Nodup := by
  refine ⟨?_, ?_, (history_happens calls).nodup⟩
  · rintro before base after rfl
    obtain ⟨later, same⟩ := exists_later after (history_claim before base)
    have given := pick_handsOut ⟨names (history before)⟩ base
    have older := same ▸ List.suffix_append later _
    have counted := Nat.lt_of_le_of_lt (card_names_lt given.free older) few
    obtain ⟨name, found, turns⟩ := Search.finds base counted
    obtain rfl := given.unique found
    exact ⟨later, _, same, turns, given, given.isValid⟩
  · rintro before name after rfl
    obtain ⟨later, same⟩ := exists_later after (history_reserve before name)
    have happens := history_happens (before ++ .reserve name :: after)
    rw [same] at happens
    exact ⟨later, same, fun again => happens.fresh name again List.mem_cons_self⟩

/-- `Draft_2` is claimed before `Draft` is, and `Draft_4` is reserved before a claim of `Draft` gets
that far. -/
def drafts : List Call :=
  [.reserve "Invoice", .claim "Draft_2", .claim "Draft", .claim "Draft", .claim "Invoice",
   .reserve "Draft_4", .claim "Draft", .claim "Draft_2"]

/-- The third claim of `Draft` passes over three numbers. -/
theorem claims_served_drafts :
    (names (history drafts)).toFinset.card < 2 ^ 31 ∧
      handedOut (history drafts) =
        ["Draft_2_2", "Draft_5", "Invoice_2", "Draft_3", "Draft", "Draft_2"] ∧
      (∃ turns ≤ 7,
        Search.after (names (history (drafts.take 6))) "Draft" turns = .found "Draft_5") ∧
      HandsOut (names (history (drafts.take 6))) "Draft" "Draft_5" ∧
      isValid "Draft_5" ∧
      (∃ later, history drafts = later ++ .reserved "Draft_4" :: history (drafts.take 5) ∧
        "Draft_4" ∉ handedOut later) ∧
      (handedOut (history drafts)).Nodup := by
  have few : (names (history drafts)).toFinset.card < 2 ^ 31 :=
    Nat.lt_of_le_of_lt (List.toFinset_card_le _) (by decide)
  obtain ⟨claims, reservations, distinct⟩ := claims_served drafts few
  obtain ⟨-, name, -, ends, given, valid⟩ := claims (drafts.take 6) "Draft" [.claim "Draft_2"] rfl
  obtain rfl : "Draft_5" = name :=
    (show pick ⟨names (history (drafts.take 6))⟩ "Draft" = "Draft_5" by decide).symm.trans
      given.pick_eq
  have six : (names (history (drafts.take 6))).toFinset.card + 1 = 7 := by decide
  rw [six] at ends
  exact ⟨few, by decide, ends, given, valid (by decide),
    reservations (drafts.take 5) "Draft_4" [.claim "Draft", .claim "Draft_2"] rfl, distinct⟩

end VaultModels.Name.Scope
