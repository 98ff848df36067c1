import VaultModels.Schema.Query

/-!
# Backends around backends

Three ways to wrap a backend: one that keeps a log of the queries it passes on, one that is down for
some calls, and one that remembers listings. The last fetches each listing on first use and serves
it from memory afterwards; errors and lookups are never remembered.
-/
namespace VaultModels.Schema

namespace Backend

/-- Logs every query before it is answered, oldest first. -/
def logged {σ : Type} (inner : Backend σ) : Backend (List Query × σ) :=
  fun query (log, s) =>
    let (answer, next) := inner query s
    (answer, (log ++ [query], next))

end Backend

/-- Calls of a method that are still to fail; no number means all of them. -/
structure Outage where
  method : Method
  calls : Option Nat
  deriving DecidableEq, Repr

/-- Whether a call fails now, and the outages left after it. -/
def Outage.strike (method : Method) : List Outage → Bool × List Outage
  | [] => (false, [])
  | outage :: rest =>
    if outage.method = method then
      match outage.calls with
      | none => (true, outage :: rest)
      | some 0 => (false, outage :: rest)
      | some (n + 1) => (true, ⟨method, some n⟩ :: rest)
    else
      let (down, left) := strike method rest
      (down, outage :: left)

namespace Backend

/-- A call that falls into an outage does not reach the inner backend. -/
def interrupted {σ : Type} (inner : Backend σ) : Backend (List Outage × σ) :=
  fun query (outages, s) =>
    match Outage.strike query.method outages with
    | (true, left) => (.error (.unavailable (query.method.name ++ " failed")), (left, s))
    | (false, left) =>
      let (answer, next) := inner query s
      (answer, (left, next))

end Backend

/-- Listings and getters are remembered; lookups of single elements are not. -/
def Query.isListing : Query → Bool
  | .objectTypes | .valueLists | .propertyDefs | .objectType _ | .classes _ | .associations _
  | .propertyDef _ | .items _ => true
  | .byAlias _ _ | .byGuid _ _ | .verify _ _ | .owner _ _ | .objectByGuid _ => false

/-- Remembered answers, each under its query. -/
abbrev Cache := List ((query : Query) × query.Answer)

def Cache.get? : Cache → (query : Query) → Option query.Answer
  | [], _ => none
  | ⟨asked, answer⟩ :: rest, query =>
    if h : asked = query then some (h ▸ answer) else get? rest query

namespace Backend

def cached {σ : Type} (inner : Backend σ) : Backend (Cache × σ) :=
  fun query (cache, s) =>
    match cache.get? query with
    | some answer => (.ok answer, (cache, s))
    | none =>
      match inner query s with
      | (.ok answer, next) =>
        (.ok answer, (if query.isListing then ⟨query, answer⟩ :: cache else cache, next))
      | (.error error, next) => (.error error, (cache, next))

end Backend

end VaultModels.Schema
