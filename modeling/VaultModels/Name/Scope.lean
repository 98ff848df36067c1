import VaultModels.Text.Decimal
import VaultModels.Name

/-!
# Scopes

Identifiers unique within one generated type. The first claim of a name gets it verbatim; a later
one gets the least suffix from `_2` on that is still free, so the names handed out depend on
declared order alone.
-/
namespace VaultModels.Name

open Text

structure Scope where
  used : List String
  deriving DecidableEq, Repr

namespace Scope

def empty : Scope := ⟨[]⟩

def reserve (scope : Scope) (name : String) : Scope := ⟨name :: scope.used⟩

def suffixed (base : String) (n : Nat) : String := base ++ "_" ++ natText n

/-- The least `m ≥ n` whose suffix is free, provided one of the next `tries` numbers or the one
after them is. -/
def freeSuffix (used : List String) (base : String) : (tries : Nat) → (n : Nat) → Nat
  | 0, n => n
  | tries + 1, n =>
    if used.contains (suffixed base n) then freeSuffix used base tries (n + 1) else n

/-- As many tries as there are used names always reach a free one. -/
def pick (scope : Scope) (base : String) : String :=
  if scope.used.contains base then
    suffixed base (freeSuffix scope.used base scope.used.length 2)
  else base

def claim (scope : Scope) (base : String) : String × Scope :=
  let name := scope.pick base
  (name, scope.reserve name)

/-- Claims a list of names in order. -/
def claimAll : Scope → List String → List String × Scope
  | scope, [] => ([], scope)
  | scope, base :: rest =>
    let (name, next) := scope.claim base
    let (names, last) := claimAll next rest
    (name :: names, last)

end Scope

end VaultModels.Name
