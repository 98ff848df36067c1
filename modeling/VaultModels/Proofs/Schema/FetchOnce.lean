import Mathlib.Data.List.Induction
import VaultModels.Schema.Backend

/-!
# Listings fetched once

Calls to a cached backend, seen from both sides: what the caller is told, and which calls reach the
inner backend. The replies so far decide what becomes of the next call. If it is for a listing and
one of them was an answer to it, that answer is given again and the inner backend is not asked;
every other call is passed on. So the calls for one listing reach the inner backend up to the first
answer, whatever is called in between. Nothing is assumed of the inner backend, which may answer
otherwise or fail from call to call.
-/
namespace VaultModels.Schema

/-! ## Replies -/

/-- A call and what came back. -/
abbrev Reply := (query : Query) × Except Error query.Answer

def Snapshot.reply (snapshot : Snapshot) (query : Query) : Reply := ⟨query, snapshot.answer query⟩

/-- What came back, if this was the call. -/
def Reply.to? (query : Query) (reply : Reply) : Option (Except Error query.Answer) :=
  if same : reply.1 = query then some (same ▸ reply.2) else none

/-- What came back of the calls of one query, in order. -/
def repliesTo (query : Query) (replies : List Reply) : List (Except Error query.Answer) :=
  replies.filterMap (Reply.to? query)

/-- The first answer to a listing; lookups are not remembered. -/
def remembered? (query : Query) (replies : List Reply) : Option query.Answer :=
  if query.isListing then (repliesTo query replies).findSome? Except.toOption else none

/-- The calls that reach the inner backend fail up to the first answer and end with it. What is given
is the same, and then the answer again for every later call. -/
inductive FetchedOnce {α : Type} : (reached given : List (Except Error α)) → Prop
  | failing (failures : List Error) :
      FetchedOnce (failures.map .error) (failures.map .error)
  | fetched (failures : List Error) (answer : α) (again : Nat) :
      FetchedOnce (failures.map .error ++ [.ok answer])
        (failures.map .error ++ .ok answer :: List.replicate again (.ok answer))

section

variable {query : Query} {replies : List Reply} {reply : Reply}

@[simp] theorem Reply.to?_same (came : Except Error query.Answer) :
    Reply.to? query ⟨query, came⟩ = some came := by simp [Reply.to?]

theorem Reply.to?_eq_some {came : Except Error query.Answer} :
    Reply.to? query reply = some came ↔ ∃ same : reply.1 = query, same ▸ reply.2 = came := by
  unfold Reply.to?
  split <;> simp_all

theorem Reply.to?_other (differs : reply.1 ≠ query) : Reply.to? query reply = none := by
  simp [Reply.to?, differs]

theorem repliesTo_append (query : Query) (replies more : List Reply) :
    repliesTo query (replies ++ more) = repliesTo query replies ++ repliesTo query more :=
  List.filterMap_append

@[simp] theorem repliesTo_same (came : Except Error query.Answer) :
    repliesTo query [⟨query, came⟩] = [came] := by simp [repliesTo]

theorem repliesTo_other (differs : reply.1 ≠ query) : repliesTo query [reply] = [] := by
  simp [repliesTo, Reply.to?_other differs]

/-- An earlier answer goes before a later one. -/
theorem remembered?_append (query : Query) (replies more : List Reply) :
    remembered? query (replies ++ more) =
      (remembered? query replies).or (remembered? query more) := by
  unfold remembered?
  split
  · rw [repliesTo_append, List.findSome?_append]
  · rfl

theorem remembered?_same (came : Except Error query.Answer) :
    remembered? query [⟨query, came⟩] = if query.isListing then came.toOption else none := by
  simp [remembered?]

theorem remembered?_other (differs : reply.1 ≠ query) : remembered? query [reply] = none := by
  simp [remembered?, repliesTo_other differs]

/-- What is remembered came back once. -/
theorem mem_of_remembered? {answer : query.Answer}
    (found : remembered? query replies = some answer) : ⟨query, .ok answer⟩ ∈ replies := by
  unfold remembered? at found
  split at found
  · obtain ⟨came, listed, read⟩ := List.exists_of_findSome?_eq_some found
    obtain ⟨⟨asked, reply⟩, member, same⟩ := List.mem_filterMap.mp listed
    obtain ⟨equal, rfl⟩ := Reply.to?_eq_some.mp same
    dsimp only at equal
    subst equal
    cases reply with
    | error error => cases read
    | ok value =>
      cases read
      exact member
  · cases found

end

/-! ## The two sides of a sequence of calls -/

structure Exchange (σ : Type) where
  /-- What the caller was told. -/
  given : List Reply
  /-- The calls that reached the inner backend, with what it said. -/
  reached : List Reply
  /-- How they left the inner backend. -/
  state : σ

namespace Exchange

variable {σ : Type}

def start (state : σ) : Exchange σ := ⟨[], [], state⟩

/-- One more call: a listing that was answered before is answered the same, anything else is passed
on. -/
def call (inner : Backend σ) (before : Exchange σ) (query : Query) : Exchange σ :=
  match remembered? query before.given with
  | some answer => { before with given := before.given ++ [⟨query, .ok answer⟩] }
  | none =>
    let (answer, next) := inner query before.state
    ⟨before.given ++ [⟨query, answer⟩], before.reached ++ [⟨query, answer⟩], next⟩

/-- Every call has its reply. The calls that reach the inner backend do so in order, those for a
listing up to its first answer, and those for anything else each once. -/
structure IsFaithful (exchange : Exchange σ) (calls : List Query) : Prop where
  replied : exchange.given.map (·.1) = calls
  ordered : exchange.reached.Sublist exchange.given
  listing : ∀ query, query.isListing = true →
    FetchedOnce (repliesTo query exchange.reached) (repliesTo query exchange.given)
  lookup : ∀ query, query.isListing = false →
    repliesTo query exchange.given = repliesTo query exchange.reached

end Exchange

namespace Backend

variable {σ : Type}

/-- Replies to one more call. -/
def answerNext (backend : Backend σ) (served : List Reply × σ) (query : Query) : List Reply × σ :=
  let (answer, next) := backend query served.2
  (served.1 ++ [⟨query, answer⟩], next)

/-- The replies to calls that are made one after the other, and the state after them. -/
def serve (backend : Backend σ) (calls : List Query) (state : σ) : List Reply × σ :=
  calls.foldl backend.answerNext ([], state)

/-- Keeps a record of the calls that reach the backend. -/
def recorded (inner : Backend σ) : Backend (List Reply × σ) :=
  fun query (record, state) =>
    let (answer, next) := inner query state
    (answer, (record ++ [⟨query, answer⟩], next))

/-- What passes on both sides of a cache that starts empty. -/
def exchange (inner : Backend σ) (calls : List Query) (state : σ) : Exchange σ :=
  let served := inner.recorded.cached.serve calls ([], [], state)
  ⟨served.1, served.2.2.1, served.2.2.2⟩

end Backend

/-! ## The cache keeps the first answers -/

/-- The cache holds of the replies exactly the first answers to listings. -/
def Cache.Recalls (cache : Cache) (replies : List Reply) : Prop :=
  ∀ query, cache.get? query = remembered? query replies

/-- The cache after a reply from the inner backend. -/
def Cache.learn (cache : Cache) : Reply → Cache
  | ⟨query, .ok answer⟩ => if query.isListing then ⟨query, answer⟩ :: cache else cache
  | ⟨_, .error _⟩ => cache

namespace Cache

variable {cache : Cache} {replies : List Reply} {query : Query}

theorem recalls_nil : Recalls [] [] := by
  intro query
  simp [get?, remembered?, repliesTo]

/-- Only the query that was answered is learnt. -/
theorem get?_learn (asked : Query) (came : Except Error query.Answer)
    (unknown : cache.get? query = none) :
    (cache.learn ⟨query, came⟩).get? asked =
      (cache.get? asked).or (remembered? asked [⟨query, came⟩]) := by
  by_cases same : query = asked
  · subst same
    rw [unknown, Option.none_or, remembered?_same]
    cases came with
    | error error => simp [learn, unknown, Except.toOption]
    | ok answer =>
      by_cases listing : query.isListing
      · simp [learn, get?, listing, Except.toOption]
      · simp [learn, listing, unknown]
  · rw [remembered?_other same, Option.or_none]
    cases came with
    | error error => rfl
    | ok answer =>
      by_cases listing : query.isListing
      · simp [learn, get?, listing, same]
      · simp [learn, listing]

theorem Recalls.learn (recalls : cache.Recalls replies) (came : Except Error query.Answer)
    (unknown : remembered? query replies = none) :
    (cache.learn ⟨query, came⟩).Recalls (replies ++ [⟨query, came⟩]) := by
  intro asked
  rw [get?_learn asked came ((recalls query).trans unknown), recalls asked, remembered?_append]

/-- An answer that was remembered teaches nothing. -/
theorem Recalls.again (recalls : cache.Recalls replies) {answer : query.Answer}
    (known : remembered? query replies = some answer) :
    cache.Recalls (replies ++ [⟨query, .ok answer⟩]) := by
  intro asked
  rw [recalls asked, remembered?_append]
  by_cases same : query = asked
  · subst same
    rw [known, Option.some_or]
  · rw [remembered?_other same, Option.or_none]

end Cache

namespace Backend

variable {σ : Type} {inner : Backend σ} {cache : Cache} {query : Query}

theorem cached_hit {answer : query.Answer} (known : cache.get? query = some answer) (state : σ) :
    inner.cached query (cache, state) = (.ok answer, (cache, state)) := by
  unfold cached
  dsimp only
  rw [known]

theorem cached_miss (unknown : cache.get? query = none) (state : σ) :
    inner.cached query (cache, state) =
      ((inner query state).1,
        (cache.learn ⟨query, (inner query state).1⟩, (inner query state).2)) := by
  unfold cached
  dsimp only
  rw [unknown]
  cases inner query state with
  | mk came next =>
    cases came with
    | error error => rfl
    | ok answer => rfl

end Backend

/-! ## The cached backend is a view that fetches once -/

section

variable {σ : Type} (inner : Backend σ)

/-- A cached backend that served some calls is at this point of the exchange. -/
structure Exchange.Stands (exchange : Exchange σ)
    (served : List Reply × Cache × List Reply × σ) : Prop where
  given : served.1 = exchange.given
  recalls : served.2.1.Recalls exchange.given
  reached : served.2.2.1 = exchange.reached
  state : served.2.2.2 = exchange.state

/-- One more call keeps both in step. -/
theorem Exchange.Stands.call {exchange : Exchange σ}
    {served : List Reply × Cache × List Reply × σ} (stands : exchange.Stands served)
    (query : Query) :
    (exchange.call inner query).Stands (inner.recorded.cached.answerNext served query) := by
  obtain ⟨given, cache, record, state⟩ := served
  obtain ⟨rfl, recalls, rfl, rfl⟩ := stands
  unfold Exchange.call Backend.answerNext
  cases known : remembered? query exchange.given with
  | some answer =>
    rw [Backend.cached_hit ((recalls query).trans known)]
    exact ⟨rfl, recalls.again known, rfl, rfl⟩
  | none =>
    rw [Backend.cached_miss ((recalls query).trans known)]
    exact ⟨rfl, recalls.learn _ known, rfl, rfl⟩

/-- What passes on both sides of the cache is what passes where listings are fetched once. -/
theorem Backend.exchange_eq (calls : List Query) (state : σ) :
    inner.exchange calls state = calls.foldl (Exchange.call inner) (.start state) := by
  have stands : (calls.foldl (Exchange.call inner) (.start state)).Stands
      (inner.recorded.cached.serve calls ([], [], state)) := by
    refine List.foldl_rel ⟨rfl, Cache.recalls_nil, rfl, rfl⟩ ?_
    intro query _ served exchange stands
    exact stands.call inner query
  unfold Backend.exchange
  dsimp only
  rw [stands.given, stands.reached, stands.state]

end

/-! ## What fetching once comes to -/

section

variable {α : Type} {reached given : List (Except Error α)}

/-- Failures hold no answer. -/
theorem findSome?_failures (failures : List Error) (rest : List (Except Error α)) :
    (failures.map Except.error ++ rest).findSome? Except.toOption =
      rest.findSome? Except.toOption := by
  induction failures with
  | nil => rfl
  | cons error failures ih => exact ih

/-- A call for a listing without an answer reaches the inner backend. -/
theorem FetchedOnce.passed (once : FetchedOnce reached given)
    (unknown : given.findSome? Except.toOption = none) (came : Except Error α) :
    FetchedOnce (reached ++ [came]) (given ++ [came]) := by
  cases once with
  | failing failures =>
    cases came with
    | error error =>
      have grown : failures.map Except.error ++ [Except.error error] =
          (failures ++ [error]).map (Except.error : Error → Except Error α) := by simp
      rw [grown]
      exact .failing _
    | ok answer => exact .fetched failures answer 0
  | fetched failures answer again =>
    rw [findSome?_failures] at unknown
    cases unknown

/-- A call for a listing with an answer is given it again. -/
theorem FetchedOnce.repeated (once : FetchedOnce reached given) {answer : α}
    (known : given.findSome? Except.toOption = some answer) :
    FetchedOnce reached (given ++ [.ok answer]) := by
  cases once with
  | failing failures =>
    rw [← List.append_nil (failures.map _), findSome?_failures] at known
    cases known
  | fetched failures first again =>
    rw [findSome?_failures] at known
    cases known
    have grown : Except.ok answer :: List.replicate again (.ok answer) ++ [.ok answer] =
        (.ok answer :: List.replicate (again + 1) (.ok answer) : List (Except Error α)) := by
      rw [List.replicate_succ', List.cons_append]
    rw [List.append_assoc, grown]
    exact .fetched failures answer (again + 1)

end

namespace Exchange

variable {σ : Type} {inner : Backend σ} {exchange : Exchange σ} {calls : List Query}

theorem start_faithful (state : σ) : (start state).IsFaithful [] where
  replied := rfl
  ordered := .slnil
  listing _ _ := .failing []
  lookup _ _ := rfl

/-- A reply from memory. -/
theorem IsFaithful.repeated (faithful : exchange.IsFaithful calls) {query : Query}
    {answer : query.Answer} (known : remembered? query exchange.given = some answer) :
    IsFaithful { exchange with given := exchange.given ++ [⟨query, .ok answer⟩] }
      (calls ++ [query]) where
  replied := by simp [faithful.replied]
  ordered := faithful.ordered.trans (List.sublist_append_left _ _)
  listing asked isListing := by
    have before := faithful.listing asked isListing
    rw [repliesTo_append]
    by_cases same : query = asked
    · subst same
      rw [remembered?, if_pos isListing] at known
      rw [repliesTo_same]
      exact before.repeated known
    · rw [repliesTo_other same, List.append_nil]
      exact before
  lookup asked isLookup := by
    have differs : query ≠ asked := by
      rintro rfl
      simp [remembered?, isLookup] at known
    rw [repliesTo_append, repliesTo_other differs, List.append_nil]
    exact faithful.lookup asked isLookup

/-- A reply from the inner backend. -/
theorem IsFaithful.passed (faithful : exchange.IsFaithful calls) {query : Query}
    (unknown : remembered? query exchange.given = none) (came : Except Error query.Answer)
    (next : σ) :
    IsFaithful ⟨exchange.given ++ [⟨query, came⟩], exchange.reached ++ [⟨query, came⟩], next⟩
      (calls ++ [query]) where
  replied := by simp [faithful.replied]
  ordered := faithful.ordered.append (.refl _)
  listing asked isListing := by
    have before := faithful.listing asked isListing
    rw [repliesTo_append, repliesTo_append]
    by_cases same : query = asked
    · subst same
      rw [remembered?, if_pos isListing] at unknown
      rw [repliesTo_same]
      exact before.passed unknown came
    · rw [repliesTo_other same, List.append_nil, List.append_nil]
      exact before
  lookup asked isLookup := by
    rw [repliesTo_append, repliesTo_append, faithful.lookup asked isLookup]

theorem IsFaithful.call (faithful : exchange.IsFaithful calls) (query : Query) :
    (exchange.call inner query).IsFaithful (calls ++ [query]) := by
  unfold Exchange.call
  cases known : remembered? query exchange.given with
  | some answer => exact faithful.repeated known
  | none => exact faithful.passed known _ _

/-- However many calls there are, and in whatever order. -/
theorem foldl_faithful (inner : Backend σ) (calls : List Query) (state : σ) :
    (calls.foldl (call inner) (.start state)).IsFaithful calls := by
  induction calls using List.reverseRecOn with
  | nil => exact start_faithful state
  | append_singleton calls query ih =>
    rw [List.foldl_append]
    exact ih.call query

/-- What is remembered of a snapshot's replies is the snapshot's answer. -/
theorem given_call_snapshot {snapshot : Snapshot} {before : Exchange Unit}
    (own : before.given = calls.map snapshot.reply) (query : Query) :
    (before.call snapshot.backend query).given = (calls ++ [query]).map snapshot.reply := by
  rw [List.map_append, List.map_singleton, ← own]
  unfold Exchange.call
  cases known : remembered? query before.given with
  | some answer =>
    have listed := mem_of_remembered? known
    rw [own] at listed
    obtain ⟨asked, -, same⟩ := List.mem_map.mp listed
    obtain ⟨rfl, given⟩ := Sigma.mk.inj same
    rw [Snapshot.reply, eq_of_heq given]
  | none => rfl

theorem given_snapshot (snapshot : Snapshot) (calls : List Query) :
    (calls.foldl (call snapshot.backend) (.start ())).given = calls.map snapshot.reply := by
  induction calls using List.reverseRecOn with
  | nil => rfl
  | append_singleton calls query ih =>
    rw [List.foldl_append]
    exact given_call_snapshot ih query

end Exchange

/-- From outside, a cached backend is one that fetches listings once: each call does what the replies
so far say, and so the calls for a listing reach the inner backend up to its first answer, those for
anything else each once, and no call matters to those of another query. Over a snapshot every call
gets the snapshot's own answer. -/
theorem listings_fetched_once {σ : Type} (inner : Backend σ) (calls : List Query) (state : σ) :
    inner.exchange calls state = calls.foldl (Exchange.call inner) (.start state) ∧
      (inner.exchange calls state).IsFaithful calls ∧
      ∀ snapshot : Snapshot,
        (snapshot.backend.exchange calls ()).given = calls.map snapshot.reply := by
  refine ⟨inner.exchange_eq calls state, ?_, fun snapshot => ?_⟩
  · rw [inner.exchange_eq calls state]
    exact Exchange.foldl_faithful inner calls state
  · rw [snapshot.backend.exchange_eq calls ()]
    exact Exchange.given_snapshot snapshot calls

end VaultModels.Schema
