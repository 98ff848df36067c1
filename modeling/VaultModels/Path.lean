/-!
# Paths

Paths are text with `/` between segments. Two paths are the same place when their components agree:
repeated and trailing separators and inner `.` segments do not count, a leading `.` and every `..`
do. Text keeps the spelling, `components` is the view that comparison uses.
-/
namespace VaultModels

structure Path where
  text : String
  deriving DecidableEq, Repr

namespace Path

inductive Component where
  | root
  | current
  | parent
  | name (text : String)
  deriving DecidableEq, Repr

def separator : Char := '/'

/-- The text between separators, empty segments included. -/
def segments : List Char → List (List Char)
  | [] => [[]]
  | c :: cs =>
    if c = separator then [] :: segments cs
    else match segments cs with
      | [] => [[c]]
      | first :: rest => (c :: first) :: rest

/-- Segments that name no component. -/
def isFiller (segment : List Char) : Bool := segment == [] || segment == ['.']

def component? (segment : List Char) : Option Component :=
  if isFiller segment then none
  else if segment = ['.', '.'] then some .parent
  else some (.name (String.ofList segment))

def isAbsolute (path : Path) : Bool := path.text.toList.head? == some separator

def components (path : Path) : List Component :=
  match segments path.text.toList with
  | [] :: rest =>
    if path.isAbsolute then .root :: rest.filterMap component? else rest.filterMap component?
  | ['.'] :: rest => .current :: rest.filterMap component?
  | all => all.filterMap component?

/-- Whether two paths name the same place. -/
def same (left right : Path) : Bool := left.components == right.components

def Component.rank : Component → Nat
  | .root => 0
  | .current => 1
  | .parent => 2
  | .name _ => 3

/-- The root first, then `.`, then `..`, then names in the order of their code points. -/
def Component.before : Component → Component → Bool
  | .name left, .name right => left < right
  | left, right => left.rank < right.rank

def componentsBefore : List Component → List Component → Bool
  | _, [] => false
  | [], _ :: _ => true
  | x :: xs, y :: ys => if x = y then componentsBefore xs ys else x.before y

/-- Component by component; a path comes before its extensions. -/
def before (left right : Path) : Bool := componentsBefore left.components right.components

/-- An absolute right side stands for itself. -/
def join (left right : Path) : Path :=
  if right.isAbsolute then right
  else
    let base := left.text.toList
    if base = [] ∨ base.getLast? = some separator then ⟨left.text ++ right.text⟩
    else ⟨left.text ++ "/" ++ right.text⟩

def dropFillers (segments : List (List Char)) : List (List Char) :=
  (segments.reverse.dropWhile isFiller).reverse

/-- All segments before the last one that is no filler. -/
def dropLastName (segments : List (List Char)) : Option (List (List Char)) :=
  match dropFillers segments with
  | [] => none
  | kept => some (dropFillers kept.dropLast)

def withSeparators (segments : List (List Char)) : List Char :=
  segments.flatMap (separator :: ·)

/-- The path without its last component, in the spelling it has here. The root and the empty path
have no parent. -/
def parent? (path : Path) : Option Path :=
  match segments path.text.toList with
  | [] :: rest =>
    (dropLastName rest).map fun kept =>
      ⟨String.ofList (if kept = [] then [separator] else withSeparators kept)⟩
  | ['.'] :: rest =>
    match dropLastName rest with
    | none => some ⟨""⟩
    | some kept => some ⟨String.ofList ('.' :: withSeparators kept)⟩
  | all => (dropLastName all).map fun kept => ⟨String.ofList ((withSeparators kept).drop 1)⟩

end Path

end VaultModels
