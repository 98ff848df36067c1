import VaultModels.Resolution.Lookup

/-!
# Identifiers

An identifier is a source value (an alias, which may be a braced GUID, or a numeric id) together
with what resolving it gave. Resolution runs once; a new source value arms it again. The id `-1`
stands for "none" throughout.
-/
namespace VaultModels.Resolution

open Schema Text

def unresolvedId : ElementId := -1

structure Identifier where
  aliasText : String := ""
  /-- The resolved id. -/
  id : ElementId := unresolvedId
  /-- The id that the identifier was made from. -/
  sourceId : ElementId := unresolvedId
  attempted : Bool := false
  /-- The kind of the last resolution. -/
  kind : Option Kind := none
  expectedOwner : Option ElementId := none
  deriving DecidableEq, Repr

namespace Identifier

def empty : Identifier := {}

/-- The id still has to be confirmed by `resolve`. -/
def ofId (id : ElementId) : Identifier := { sourceId := id }

def ofAlias (aliasText : String) : Identifier := { aliasText }

/-- Elements looked up by id have to belong to this owner. -/
def withOwner (identifier : Identifier) (owner : ElementId) : Identifier :=
  { identifier with expectedOwner := some owner }

def setAlias (identifier : Identifier) (aliasText : String) : Identifier :=
  { identifier with aliasText, id := unresolvedId, attempted := false }

def setId (identifier : Identifier) (id : ElementId) : Identifier :=
  { identifier with aliasText := "", sourceId := id, id := unresolvedId, attempted := false }

/-- Text as the only source value. -/
def setText (identifier : Identifier) (text : String) : Identifier :=
  { identifier.setAlias text with sourceId := unresolvedId }

/-- The canonical GUID, if the alias is a braced one. -/
def guid? (identifier : Identifier) : Option String := Guid.ofBraced? identifier.aliasText

def isEmpty (identifier : Identifier) : Bool :=
  identifier.sourceId == unresolvedId && identifier.aliasText == ""

def isResolved (identifier : Identifier) : Bool :=
  identifier.id != unresolvedId && identifier.attempted

def tryId (identifier : Identifier) : Except Error ElementId :=
  if identifier.id = unresolvedId then .error (.unresolved identifier.kind identifier.aliasText)
  else .ok identifier.id

/-- The alias, else the id it was made from, else the resolved id, else nothing. -/
def display (identifier : Identifier) : String :=
  if identifier.aliasText ≠ "" then identifier.aliasText
  else if identifier.sourceId ≠ unresolvedId then int32Text identifier.sourceId
  else if identifier.id = unresolvedId then ""
  else int32Text identifier.id

/-- The id the schema reports for `given`, if the check of the kind accepts it. -/
def checkId (kind : Kind) (given : ElementId) (owner : Option ElementId) :
    IdCheck → Resolving (Option ElementId)
  | .unsupported => .done none
  | .lookup => Session.tryFetch (.verify kind given)
  | .roundTrip => do
    let reported ← Session.tryFetch (.verify kind given)
    .done (reported.filter (· == given))
  | .owner => do
    match ← Session.tryFetch (.verify kind given), owner with
    | some id, some expected =>
      let actual ← Session.tryFetch (.owner kind id)
      .done (if actual = some expected then some id else none)
    | reported, _ => .done reported

/-- The lookup that the kind has for the source value. Errors of the backend count as not found. -/
def attempt (identifier : Identifier) (kind : Kind) : Resolving (Option ElementId) :=
  match identifier.guid? with
  | some guid =>
    if kind.strategy.byGuid then Session.tryFetch (.byGuid kind guid) else .done none
  | none =>
    if identifier.aliasText ≠ "" then
      if kind.strategy.byAlias then Session.tryFetch (.byAlias kind identifier.aliasText)
      else .done none
    else if identifier.sourceId ≠ unresolvedId then
      checkId kind identifier.sourceId identifier.expectedOwner kind.strategy.byId
    else .done none

def settle (identifier : Identifier) (id : ElementId) : Identifier :=
  { identifier with id, attempted := true }

/-- Resolves as an element of `kind`; nothing happens after the first completed attempt. Where the
kind's own lookup finds nothing and there is an alias, the alias is looked up once more as text.
Only an error of that lookup is reported, and it leaves the identifier unattempted. -/
def resolve (identifier : Identifier) (kind : Kind) : Resolving (Identifier × Option Error) :=
  if identifier.attempted then .done (identifier, none)
  else do
    let started := { identifier with kind := some kind }
    match ← started.attempt kind with
    | some id => .done (started.settle id, none)
    | none =>
      if started.aliasText = "" then .done (started.settle unresolvedId, none)
      else match ← (byText kind started.aliasText).outcome with
        | .ok id => .done (started.settle id, none)
        | .error error => .done (started, some error)

/-- Resolves and takes the result as an id. -/
def resolveId (identifier : Identifier) (kind : Kind) : Resolving ElementId := do
  match ← identifier.resolve kind with
  | (_, some error) => .fail error
  | (resolved, none) => Session.ofExcept resolved.tryId

end Identifier

end VaultModels.Resolution
