import VaultModels.Toml.Scalar

/-!
# TOML documents

A document is a list of lines: keys with their values, and headers that say which table the keys
after them belong to.
-/
namespace VaultModels.Toml

/-- The most arrays and inline tables within one another. -/
def depthLimit : Nat := 80

/-- The most parts of a dotted key. -/
def partLimit : Nat := 80

def isBareKeyChar (c : Char) : Bool :=
  ('a' ≤ c && c ≤ 'z') || ('A' ≤ c && c ≤ 'Z') || ('0' ≤ c && c ≤ '9') || c == '_' || c == '-'

/-- What ends a scalar: blanks, newlines, comments and punctuation. -/
def delimiters : List Char :=
  [' ', '\t', '\n', '\r', '#', '=', ',', '[', ']', '\x7b', '\x7d']

def isScalarChar (c : Char) : Bool := !delimiters.contains c

def dropBlanks (cs : List Char) : List Char := cs.dropWhile isBlank

/-- A comment up to the end of its line. -/
def dropComment : List Char → Option (List Char)
  | '#' :: rest =>
    match rest.dropWhile isPlain with
    | [] => some []
    | other => if (newline? other).isSome then some other else none
  | rest => some rest

/-- Blanks, comments and newlines. Each round takes at least one character. -/
def dropLines : Nat → List Char → Option (List Char)
  | 0, cs => some cs
  | fuel + 1, cs => do
    let rest ← dropComment (dropBlanks cs)
    match newline? rest with
    | some next => dropLines fuel next
    | none => some rest

def dropSpace (cs : List Char) : Option (List Char) := dropLines (cs.length + 1) cs

/-- What has to stand at the end of a line. -/
def endLine (cs : List Char) : Option (List Char) := do
  match ← dropComment (dropBlanks cs) with
  | [] => some []
  | other => newline? other

def readSimpleKey : Reader String
  | '"' :: rest => readLine '"' rest
  | '\'' :: rest => readLine '\'' rest
  | cs =>
    let bare := cs.takeWhile isBareKeyChar
    if bare = [] then none else some (String.ofList bare, cs.dropWhile isBareKeyChar)

/-- A key of at most so many parts with points between them: the parts before the last, and the
last. -/
def readKeyWithin : Nat → Reader (List String × String)
  | 0, _ => none
  | limit + 1, cs => do
    let (part, rest) ← readSimpleKey (dropBlanks cs)
    match dropBlanks rest with
    | '.' :: rest => do
      let ((path, last), rest) ← readKeyWithin limit rest
      some ((part :: path, last), rest)
    | rest => some (([], part), rest)

def readKey : Reader (List String × String) := readKeyWithin partLimit

/-- The end of a scalar; a date and a time may have a space between them. -/
def spanScalar (cs : List Char) : List Char × List Char :=
  let first := cs.takeWhile isScalarChar
  match readDate first, cs.dropWhile isScalarChar with
  | some [], ' ' :: c :: rest =>
    if Text.isDigit c then
      (first ++ ' ' :: (c :: rest).takeWhile isScalarChar, (c :: rest).dropWhile isScalarChar)
    else (first, ' ' :: c :: rest)
  | _, rest => (first, rest)

mutual

/-- A value at some depth. Each step takes at least one character. -/
def readValue : Nat → Nat → Reader Value
  | 0, _, _ => none
  | fuel + 1, depth, cs =>
    match cs with
    | '[' :: rest =>
      if depth < depthLimit then
        (readItems fuel (depth + 1) rest).map fun (items, rest) => (.array items, rest)
      else none
    | '{' :: rest =>
      if depth < depthLimit then
        (readPairs fuel (depth + 1) [] rest).map fun (entries, rest) =>
          (.table .inline entries, rest)
      else none
    | '"' :: _ | '\'' :: _ => (readText cs).map fun (text, rest) => (.text text, rest)
    | _ =>
      let (written, rest) := spanScalar cs
      (readScalar written).map fun value => (value, rest)

/-- Items up to the closing bracket; a comma may stand before it. -/
def readItems : Nat → Nat → Reader (List Value)
  | 0, _, _ => none
  | fuel + 1, depth, cs => do
    match ← dropSpace cs with
    | ']' :: rest => some ([], rest)
    | start => do
      let (value, rest) ← readValue fuel depth start
      match ← dropSpace rest with
      | ']' :: rest => some ([value], rest)
      | ',' :: rest => do
        let (values, rest) ← readItems fuel depth rest
        some (value :: values, rest)
      | _ => none

/-- Entries up to the closing brace, added to those before them; a comma may stand before it. A line
may end anywhere but inside a key. -/
def readPairs : Nat → Nat → Entries → Reader Entries
  | 0, _, _, _ => none
  | fuel + 1, depth, entries, cs => do
    match ← dropSpace cs with
    | '}' :: rest => some (entries, rest)
    | start => do
      let ((path, key), rest) ← readKey start
      let rest ← expect '=' (← dropSpace rest)
      let (value, rest) ← readValue fuel depth (← dropSpace rest)
      let entries ← entries.assign path key value .header
      match ← dropSpace rest with
      | '}' :: rest => some (entries, rest)
      | ',' :: rest => readPairs fuel depth entries rest
      | _ => none

end

inductive Line where
  | assignment (path : List String) (key : String) (value : Value)
  | header (path : List String) (key : String)
  /-- A header in double brackets. -/
  | row (path : List String) (key : String)

def readLineContent : Reader Line
  | '[' :: '[' :: rest => do
    let ((path, key), rest) ← readKey rest
    some (.row path key, ← expect ']' (← expect ']' rest))
  | '[' :: rest => do
    let ((path, key), rest) ← readKey rest
    some (.header path key, ← expect ']' rest)
  | cs => do
    let ((path, key), rest) ← readKey cs
    let rest := dropBlanks (← expect '=' rest)
    let (value, rest) ← readValue (rest.length + 1) 0 rest
    some (.assignment path key value, rest)

/-- Each line takes at least one character. -/
def readLinesFrom : Nat → List Char → Option (List Line)
  | 0, _ => none
  | fuel + 1, cs => do
    match ← dropSpace cs with
    | [] => some []
    | start => do
      let (line, rest) ← readLineContent start
      let lines ← readLinesFrom fuel (← endLine rest)
      some (line :: lines)

/-- The entries that lines build up, where keys belong to the table at `current`. -/
def build : List String → Entries → List Line → Option Entries
  | _, entries, [] => some entries
  | current, entries, .assignment path key value :: rest => do
    let entries ← Entries.change .implied (Entries.assign path key value) current .header entries
    build current entries rest
  | _, entries, .header path key :: rest => do
    build (path ++ [key]) (← entries.openTable path key) rest
  | _, entries, .row path key :: rest => do
    build (path ++ [key]) (← entries.openRow path key) rest

/-- A byte order mark in front does not count. -/
def parse (text : String) : Option Entries := do
  let cs := match text.toList with
    | '\ufeff' :: rest => rest
    | cs => cs
  let lines ← readLinesFrom (cs.length + 1) cs
  build [] [] lines

end VaultModels.Toml
