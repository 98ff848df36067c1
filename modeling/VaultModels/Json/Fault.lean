/-!
# Faults of JSON texts

A reader goes through a text from left to right and gives the rest behind what it has read, or the
first fault it meets.
-/
namespace VaultModels.Json

inductive Fault where
  /-- Not JSON. -/
  | malformed
  /-- Ends too early. -/
  | unfinished
  /-- JSON of another shape than the one asked for. -/
  | mismatched
  deriving DecidableEq, Repr

def Fault.message : Fault → String
  | .malformed => "not a JSON text"
  | .unfinished => "the text ends too early"
  | .mismatched => "a value has another shape than expected"

abbrev Reader (α : Type) := List Char → Except Fault (α × List Char)

/-- The fault at a character that cannot stand here. -/
def faultAt : List Char → Fault
  | [] => .unfinished
  | _ => .malformed

def isBlank (c : Char) : Bool := c == ' ' || c == '\n' || c == '\t' || c == '\r'

def dropBlanks (cs : List Char) : List Char := cs.dropWhile isBlank

/-- One given character after blanks. -/
def mark (c : Char) (cs : List Char) : Except Fault (List Char) :=
  match dropBlanks cs with
  | [] => .error .unfinished
  | d :: rest => if d = c then .ok rest else .error .malformed

/-- The given letters, right here. -/
def word : List Char → List Char → Except Fault (List Char)
  | [], cs => .ok cs
  | _ :: _, [] => .error .unfinished
  | w :: ws, c :: cs => if w = c then word ws cs else .error .malformed

end VaultModels.Json
