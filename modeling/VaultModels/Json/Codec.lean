import VaultModels.Json.Skip

/-!
# JSON codecs

How the values of a type are read and written. Objects have their members in any order, each at most
once, and unknown members are passed over; an object may also be written as the list of its members
in declared order.
-/
namespace VaultModels.Json

open Text

/-- Space between tokens: none in compact form, lines at a depth in pretty form. -/
inductive Spacing where
  | compact
  | pretty (depth : Nat)
  deriving DecidableEq, Repr

namespace Spacing

def inner : Spacing → Spacing
  | .compact => .compact
  | .pretty depth => .pretty (depth + 1)

/-- What stands before a token that starts a line in pretty form. -/
def newline : Spacing → List Char
  | .compact => []
  | .pretty depth => '\n' :: List.replicate (2 * depth) ' '

def colon : Spacing → List Char
  | .compact => [':']
  | .pretty _ => [':', ' ']

end Spacing

/-- Pieces between brackets, each on its own line; empty brackets stay together. -/
def writeBetween (left right : Char) (spacing : Spacing) : List (List Char) → List Char
  | [] => [left, right]
  | first :: rest =>
    let line piece := spacing.inner.newline ++ piece
    left :: (line first ++ rest.flatMap (fun piece => ',' :: line piece) ++
      spacing.newline ++ [right])

structure Codec (α : Type) where
  read : Reader α
  write : Spacing → α → List Char

namespace Codec

variable {α : Type}

/-- A value that starts with a given character; anything else is refused. -/
def startingWith (c : Char) (readRest : Reader α) : Reader α := fun cs =>
  match dropBlanks cs with
  | [] => .error .unfinished
  | d :: rest => if d = c then readRest rest else .error (mismatch (d :: rest))

def readText : Reader String :=
  startingWith '"' fun cs =>
    (readBody cs).map fun (body, rest) => (String.ofList body, rest)

def text : Codec String where
  read := readText
  write _ value := writeText value

def readInt32 : Reader Int32 := fun cs =>
  match dropBlanks cs with
  | [] => .error .unfinished
  | c :: rest =>
    if c = '-' ∨ isDigit c then do
      match ← readNumber (c :: rest) with
      | (some n, rest) =>
        match toInt32? n with
        | some value => .ok (value, rest)
        | none => .error .mismatched
      | (none, _) => .error .mismatched
    else .error (mismatch (c :: rest))

def int32 : Codec Int32 where
  read := readInt32
  write _ value := intChars value.toInt

def readBool : Reader Bool := fun cs =>
  match dropBlanks cs with
  | 't' :: rest => do .ok (true, ← word ['r', 'u', 'e'] rest)
  | 'f' :: rest => do .ok (false, ← word ['a', 'l', 's', 'e'] rest)
  | other => .error (mismatch other)

def bool : Codec Bool where
  read := readBool
  write _ value := (if value then "true" else "false").toList

def readNull (cs : List Char) : Except Fault (List Char) :=
  match dropBlanks cs with
  | 'n' :: rest => word ['u', 'l', 'l'] rest
  | other => .error (mismatch other)

/-- `null` for no value. -/
def optional (codec : Codec α) : Codec (Option α) where
  read cs :=
    match dropBlanks cs with
    | 'n' :: rest => do .ok (none, ← word ['u', 'l', 'l'] rest)
    | other => (codec.read other).map fun (value, rest) => (some value, rest)
  write spacing value :=
    match value with
    | none => "null".toList
    | some value => codec.write spacing value

/-- One of a number of names, alone or as the only key of an object with the value `null`. -/
def readChoice (ofName? : String → Option α) : Reader α := fun cs =>
  let choose (name : String) : Except Fault α :=
    match ofName? name with
    | some value => .ok value
    | none => .error .mismatched
  match dropBlanks cs with
  | '"' :: rest => do
    let (name, rest) ← readText ('"' :: rest)
    .ok (← choose name, rest)
  | '\x7b' :: rest => do
    let (name, rest) ← readBody (← mark '"' rest)
    let value ← choose (String.ofList name)
    let rest ← readNull (← mark ':' rest)
    .ok (value, ← mark '\x7d' rest)
  | other => .error (faultAt other)

def choice (ofName? : String → Option α) (name : α → String) : Codec α where
  read := readChoice ofName?
  write _ value := writeText (name value)

/-- Whether another element follows in a list; the rest starts with it, or with the bracket. -/
def nextElement (isFirst : Bool) (cs : List Char) : Except Fault (Bool × List Char) :=
  match dropBlanks cs with
  | [] => .error .unfinished
  | ']' :: rest => .ok (false, ']' :: rest)
  | c :: rest =>
    if isFirst then .ok (true, c :: rest)
    else if c = ',' then
      match dropBlanks rest with
      | [] => .error .unfinished
      | ']' :: _ => .error .malformed
      | next => .ok (true, next)
    else .error .malformed

/-- Each element takes at least one character. -/
def readElements (read : Reader α) : Nat → Bool → Reader (List α)
  | 0, _, _ => .error .unfinished
  | fuel + 1, isFirst, cs => do
    match ← nextElement isFirst cs with
    | (false, rest) => .ok ([], rest.drop 1)
    | (true, rest) =>
      let (value, rest) ← read rest
      let (values, rest) ← readElements read fuel false rest
      .ok (value :: values, rest)

def list (codec : Codec α) : Codec (List α) where
  read := startingWith '[' fun cs => readElements codec.read (cs.length + 1) true cs
  write spacing values :=
    writeBetween '[' ']' spacing (values.map (codec.write spacing.inner))

end Codec

/-- A member of objects of type `ρ`. -/
structure Member (ρ : Type) where
  key : String
  isRequired : Bool
  /-- Reads the member's value into an object. -/
  read : ρ → Reader ρ
  /-- Nothing if the member is left out. -/
  write : Spacing → ρ → Option (List Char)

namespace Member

variable {α ρ : Type}

def readInto (codec : Codec α) (set : ρ → α → ρ) (object : ρ) : Reader ρ := fun cs =>
  (codec.read cs).map fun (value, rest) => (set object value, rest)

def required (key : String) (codec : Codec α) (get : ρ → α) (set : ρ → α → ρ) : Member ρ where
  key
  isRequired := true
  read := readInto codec set
  write spacing object := some (codec.write spacing (get object))

/-- A member that keeps the blank object's value if it is not given. -/
def defaulted (key : String) (codec : Codec α) (get : ρ → α) (set : ρ → α → ρ) : Member ρ :=
  { required key codec get set with isRequired := false }

/-- A member that is written only if it has a value. -/
def whenPresent (key : String) (codec : Codec α) (get : ρ → Option α)
    (set : ρ → Option α → ρ) : Member ρ where
  key
  isRequired := false
  read := readInto codec.optional set
  write spacing object := (get object).map (codec.write spacing)

def writeWithKey (spacing : Spacing) (object : ρ) (member : Member ρ) : Option (List Char) :=
  (member.write spacing object).map fun value =>
    writeText member.key ++ spacing.colon ++ value

end Member

namespace Codec

variable {ρ : Type}

/-- The next key of an object, or none at its closing bracket, which is taken too. -/
def nextKey (isFirst : Bool) (cs : List Char) : Except Fault (Option String × List Char) :=
  let key : List Char → Except Fault (Option String × List Char)
    | '"' :: rest => (readBody rest).map fun (body, rest) => (some (String.ofList body), rest)
    | other => .error (faultAt other)
  match dropBlanks cs with
  | '\x7d' :: rest => .ok (none, rest)
  | ',' :: rest => if isFirst then .error .malformed else key (dropBlanks rest)
  | other => if isFirst then key other else .error (faultAt other)

/-- Members as they come, after the given keys have been read. Each takes at least one character. -/
def readMembers (members : List (Member ρ)) : Nat → Bool → List String → ρ → Reader ρ
  | 0, _, _, _, _ => .error .unfinished
  | fuel + 1, isFirst, given, object, cs => do
    match ← nextKey isFirst cs with
    | (none, rest) =>
      if members.all fun member => !member.isRequired || given.contains member.key then
        .ok (object, rest)
      else .error .mismatched
    | (some key, rest) =>
      match members.find? (·.key == key) with
      | none => do
        let rest ← skip (← mark ':' rest)
        readMembers members fuel false given object rest
      | some member =>
        if given.contains key then .error .mismatched
        else do
          let (object, rest) ← member.read object (← mark ':' rest)
          readMembers members fuel false (key :: given) object rest

/-- The end of a list that holds no more members. -/
def closeList (cs : List Char) : Except Fault (List Char) :=
  match dropBlanks cs with
  | ']' :: rest => .ok rest
  | other => .error (faultAt other)

/-- Members in declared order. -/
def readPositions : List (Member ρ) → Bool → ρ → Reader ρ
  | [], _, object, cs => do .ok (object, ← closeList cs)
  | member :: members, isFirst, object, cs => do
    match ← nextElement isFirst cs with
    | (true, rest) =>
      let (object, rest) ← member.read object rest
      readPositions members false object rest
    | (false, rest) =>
      if member.isRequired then .error .mismatched
      else readPositions members isFirst object rest

/-- Objects with the given members. Reading starts from `blank`, whose values stand for the members
that are not given. -/
def object (blank : ρ) (members : List (Member ρ)) : Codec ρ where
  read cs :=
    match dropBlanks cs with
    | '\x7b' :: rest => readMembers members (rest.length + 1) true [] blank rest
    | '[' :: rest => readPositions members true blank rest
    | other => .error (mismatch other)
  write spacing object :=
    writeBetween '\x7b' '\x7d' spacing
      (members.filterMap (Member.writeWithKey spacing.inner object))

end Codec

namespace Codec

variable {α : Type}

/-- A text that holds one value and nothing else but blanks. -/
def parse (codec : Codec α) (text : String) : Except Fault α := do
  let (value, rest) ← codec.read text.toList
  if dropBlanks rest = [] then .ok value else .error .malformed

def print (codec : Codec α) (spacing : Spacing) (value : α) : String :=
  String.ofList (codec.write spacing value)

end Codec

end VaultModels.Json
