import VaultModels.Json.Text

/-!
# TOML strings

Basic strings have escapes, literal strings have none; either kind may be written over several lines
between tripled quotes. Control characters other than tabs are refused, and so is a carriage return
without its line feed.
-/
namespace VaultModels.Toml

open Json

/-- Gives the rest behind what it has read; nothing for a broken text. -/
abbrev Reader (α : Type) := List Char → Option (α × List Char)

def isBlank (c : Char) : Bool := c == ' ' || c == '\t'

/-- Characters that may stand for themselves on one line. -/
def isPlain (c : Char) : Bool := c == '\t' || (!isControl c && c != '\x7f')

def codePoint? (digits : List Char) : Option Char := do
  let values ← digits.mapM hexDigit?
  let n := values.foldl (fun n digit => n * 16 + digit) 0
  if n.isValidChar then some (Char.ofNat n) else none

/-- The number of digits behind an escape letter that takes a code point. -/
def codePointLength? : Char → Option Nat
  | 'x' => some 2
  | 'u' => some 4
  | 'U' => some 8
  | _ => none

def escaped? : Char → Option Char
  | 'b' => some '\x08'
  | 't' => some '\t'
  | 'n' => some '\n'
  | 'f' => some '\x0c'
  | 'r' => some '\r'
  | 'e' => some '\x1b'
  | '"' => some '"'
  | '\\' => some '\\'
  | _ => none

/-- An escape after its backslash. -/
def readEscape : Reader Char
  | [] => none
  | c :: rest =>
    match codePointLength? c with
    | some length => do
      let value ← if (rest.take length).length = length then codePoint? (rest.take length) else none
      some (value, rest.drop length)
    | none => (escaped? c).map fun value => (value, rest)

def newline? : List Char → Option (List Char)
  | '\n' :: rest | '\r' :: '\n' :: rest => some rest
  | _ => none

/-- How a string is written. -/
structure Quoting where
  quote : Char
  hasEscapes : Bool
  isMultiline : Bool
  deriving DecidableEq, Repr

/-- What follows blanks and newlines. -/
def dropGap : List Char → List Char
  | ' ' :: rest | '\t' :: rest | '\n' :: rest | '\r' :: '\n' :: rest => dropGap rest
  | rest => rest

/-- The rest behind a backslash that ends a line: the gap up to the next other character is left
out. -/
def continuation? (cs : List Char) : Option (List Char) :=
  (newline? (cs.dropWhile isBlank)).map dropGap

/-- The end of a string over several lines: three quotes, and up to two more that belong to it. -/
def tripleEnd? (quote : Char) (cs : List Char) : Option (List Char × List Char) :=
  let count := (cs.takeWhile (· == quote)).length
  if count < 3 then none
  else
    let kept := min (count - 3) 2
    some (List.replicate kept quote, cs.drop (kept + 3))

/-- The characters of a string after its opening quotes. Each round takes at least one. -/
def readQuoted (quoting : Quoting) : Nat → Reader (List Char)
  | 0, _ => none
  | fuel + 1, cs =>
    let continueWith (taken : List Char) (rest : List Char) : Option (List Char × List Char) :=
      (readQuoted quoting fuel rest).map fun (body, tail) => (taken ++ body, tail)
    match cs with
    | [] => none
    | c :: rest =>
      if c = quoting.quote then
        if quoting.isMultiline then
          match tripleEnd? quoting.quote cs with
          | some ending => some ending
          | none => continueWith [c] rest
        else some ([], rest)
      else if c = '\\' ∧ quoting.hasEscapes then
        match if quoting.isMultiline then continuation? rest else none with
        | some rest => continueWith [] rest
        | none => do
          let (value, rest) ← readEscape rest
          continueWith [value] rest
      else if isPlain c then continueWith [c] rest
      else if quoting.isMultiline then do
        let after ← newline? cs
        continueWith (cs.take (cs.length - after.length)) after
      else none

/-- A string on one line, after its opening quote. -/
def readLine (quote : Char) (cs : List Char) : Option (String × List Char) :=
  (readQuoted ⟨quote, quote == '"', false⟩ (cs.length + 1) cs).map fun (body, rest) =>
    (String.ofList body, rest)

/-- A string over several lines, after its opening quotes. A newline right there does not count. -/
def readLines (quote : Char) (cs : List Char) : Option (String × List Char) :=
  let cs := (newline? cs).getD cs
  (readQuoted ⟨quote, quote == '"', true⟩ (cs.length + 1) cs).map fun (body, rest) =>
    (String.ofList body, rest)

/-- A string in any of the four forms. -/
def readText : Reader String
  | '"' :: '"' :: '"' :: rest => readLines '"' rest
  | '\'' :: '\'' :: '\'' :: rest => readLines '\'' rest
  | '"' :: rest => readLine '"' rest
  | '\'' :: rest => readLine '\'' rest
  | _ => none

end VaultModels.Toml
