import VaultModels.Toml.Number

/-!
# TOML values

Values of a TOML document, and how a document's tables grow. How a table came about decides what may
be added to it later: no key is given twice, no table is defined twice, and arrays and inline tables
are complete as they are written.
-/
namespace VaultModels.Toml

/-- How a table came about. -/
inductive Origin where
  /-- By a header of its own. -/
  | header
  /-- As the parent of a header. -/
  | implied
  /-- As the parent of a dotted key. -/
  | dotted
  | inline
  deriving DecidableEq, Repr

inductive Value where
  | text (value : String)
  | number (value : Number)
  | boolean (value : Bool)
  | dateTime (written : String)
  | array (items : List Value)
  | table (origin : Origin) (entries : List (String × Value))
  /-- Tables that share a header in double brackets. -/
  | tables (rows : List (List (String × Value)))

abbrev Entries := List (String × Value)

mutual

/-- Whether each number in it has a value. -/
def Value.isReadable : Value → Bool
  | .text _ | .boolean _ | .dateTime _ => true
  | .number value => value.hasValue
  | .array items => areReadable items
  | .table _ entries => entriesAreReadable entries
  | .tables rows => rowsAreReadable rows

def areReadable : List Value → Bool
  | [] => true
  | value :: rest => value.isReadable && areReadable rest

def entriesAreReadable : List (String × Value) → Bool
  | [] => true
  | (_, value) :: rest => value.isReadable && entriesAreReadable rest

def rowsAreReadable : List (List (String × Value)) → Bool
  | [] => true
  | row :: rest => entriesAreReadable row && rowsAreReadable rest

end

namespace Entries

/-- Puts a new value at a key that is there. -/
def replace : Entries → String → Value → Entries
  | [], _, _ => []
  | (head, old) :: rest, key, value =>
    if head = key then (head, value) :: rest else (head, old) :: replace rest key value

def add (entries : Entries) (key : String) (value : Value) : Option Entries :=
  if (entries.lookup key).isSome then none else some (entries ++ [(key, value)])

/-- Changes the entries of the table at the end of a path. Tables that are missing on the way are
created with origin `made`; a shared header stands for its last table. -/
def change (made : Origin) (update : Origin → Entries → Option Entries) :
    List String → Origin → Entries → Option Entries
  | [], origin, entries => update origin entries
  | key :: path, _, entries =>
    match entries.lookup key with
    | none => do
      let inner ← change made update path made []
      some (entries ++ [(key, .table made inner)])
    | some (.table origin inner) =>
      if origin = .inline ∨ (made = .dotted ∧ origin = .header) then none
      else do
        let inner ← change made update path origin inner
        some (entries.replace key (.table origin inner))
    | some (.tables rows) => do
      let last ← rows.getLast?
      let last ← change made update path .header last
      some (entries.replace key (.tables (rows.dropLast ++ [last])))
    | some _ => none

/-- Gives a value to a dotted key. A table takes plain keys or dotted ones from above, not both. -/
def assign (path : List String) (key : String) (value : Value) (origin : Origin)
    (entries : Entries) : Option Entries :=
  change .dotted
    (fun reached inner =>
      if (reached = .dotted) ↔ path ≠ [] then inner.add key value else none)
    path origin entries

/-- Opens the table of a header. -/
def openTable (path : List String) (key : String) (entries : Entries) : Option Entries :=
  change .implied
    (fun _ inner =>
      match inner.lookup key with
      | none => some (inner ++ [(key, .table .header [])])
      | some (.table .implied kept) => some (inner.replace key (.table .header kept))
      | some _ => none)
    path .header entries

/-- Opens another table of a shared header. -/
def openRow (path : List String) (key : String) (entries : Entries) : Option Entries :=
  change .implied
    (fun _ inner =>
      match inner.lookup key with
      | none => some (inner ++ [(key, .tables [[]])])
      | some (.tables rows) => some (inner.replace key (.tables (rows ++ [[]])))
      | some _ => none)
    path .header entries

end Entries

end VaultModels.Toml
