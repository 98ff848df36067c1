import VaultModels.Json.Number
import VaultModels.Json.Text

/-!
# Passing over JSON values

Values of unknown members are passed over, whatever their size or depth. A value of another kind
than the one asked for is refused: a scalar at its end, a list or an object at its opening bracket.
-/
namespace VaultModels.Json

inductive Bracket where
  | list
  | object
  deriving DecidableEq, Repr

/-- Where a skip stands between two tokens. -/
inductive Expected where
  | value
  /-- A value, or the end of a list that has just been opened. -/
  | firstElement
  /-- A key, or the end of an object that has just been opened. -/
  | firstKey
  | key
  /-- A comma, or the end of the innermost bracket. -/
  | more
  deriving DecidableEq, Repr

def skipScalar : List Char → Except Fault (List Char)
  | 'n' :: rest => word ['u', 'l', 'l'] rest
  | 't' :: rest => word ['r', 'u', 'e'] rest
  | 'f' :: rest => word ['a', 'l', 's', 'e'] rest
  | '"' :: rest => skipBody rest
  | cs => skipNumber cs

def skipKey (cs : List Char) : Except Fault (List Char) := do mark ':' (← skipBody cs)

/-- Inside the given brackets, innermost first. Each round takes at least one character. -/
def skipFrom : Nat → List Bracket → Expected → List Char → Except Fault (List Char)
  | 0, _, _, _ => .error .unfinished
  | fuel + 1, brackets, expected, cs =>
    match expected, brackets, dropBlanks cs with
    | .more, [], _ => .ok cs
    | _, _, [] => .error .unfinished
    | .more, .list :: outer, ']' :: rest
    | .firstElement, .list :: outer, ']' :: rest
    | .more, .object :: outer, '\x7d' :: rest
    | .firstKey, .object :: outer, '\x7d' :: rest => skipFrom fuel outer .more rest
    | .more, .list :: outer, ',' :: rest => skipFrom fuel (.list :: outer) .value rest
    | .more, .object :: outer, ',' :: rest => skipFrom fuel (.object :: outer) .key rest
    | .more, _, _ => .error .malformed
    | .key, _, '"' :: rest
    | .firstKey, _, '"' :: rest => do
      let rest ← skipKey rest
      skipFrom fuel brackets .value rest
    | .key, _, _
    | .firstKey, _, _ => .error .malformed
    | _, _, '[' :: rest => skipFrom fuel (.list :: brackets) .firstElement rest
    | _, _, '\x7b' :: rest => skipFrom fuel (.object :: brackets) .firstKey rest
    | _, _, scalar => do
      let rest ← skipScalar scalar
      skipFrom fuel brackets .more rest

/-- A value of any kind, after blanks. -/
def skip (cs : List Char) : Except Fault (List Char) := skipFrom (cs.length + 1) [] .value cs

/-- The fault of a scalar that is read only to be refused. -/
def refused {α : Type} : Except Fault α → Fault
  | .ok _ => .mismatched
  | .error fault => fault

/-- The fault of a value that is of another kind than the one asked for. -/
def mismatch : List Char → Fault
  | [] => .unfinished
  | 'n' :: rest => refused (word ['u', 'l', 'l'] rest)
  | 't' :: rest => refused (word ['r', 'u', 'e'] rest)
  | 'f' :: rest => refused (word ['a', 'l', 's', 'e'] rest)
  | '"' :: rest => refused (readBody rest)
  | '[' :: _ | '\x7b' :: _ => .mismatched
  | cs => refused (readNumber cs)

end VaultModels.Json
