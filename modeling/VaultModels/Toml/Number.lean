import VaultModels.Json.Text
import VaultModels.Text.Decimal
import VaultModels.Text.Double

/-!
# TOML numbers

Whole numbers in four bases and floats, with underscores between digits. Reading takes a number
apart and keeps it as it is written; whether there is such a number is a second question, asked of
the numbers that are needed. Whole numbers have to fit 128 bits, floats have to be in the double
range.
-/
namespace VaultModels.Toml

open Text

/-- Without underscores and the mark of the base. -/
inductive Number where
  | integer (base : Nat) (written : List Char)
  | float (written : List Char)
  deriving DecidableEq, Repr

def isHexDigit (c : Char) : Bool := (Json.hexDigit? c).isSome

def isOctalDigit (c : Char) : Bool := '0' ≤ c && c ≤ '7'

def isBinaryDigit (c : Char) : Bool := c == '0' || c == '1'

def valueIn (base : Nat) (digits : List Char) : Nat :=
  digits.foldl (fun n digit => n * base + (Json.hexDigit? digit).getD 0) 0

/-- The sign, if there is one, and what follows it. -/
def splitSign : List Char → List Char × List Char
  | '-' :: rest => (['-'], rest)
  | '+' :: rest => (['+'], rest)
  | rest => ([], rest)

/-- Whether each underscore stands between digits, the first of which may come before the text. -/
def isGroupedAfter (isDigit : Char → Bool) : (digitBefore : Bool) → List Char → Bool
  | _, [] => true
  | digitBefore, '_' :: rest =>
    digitBefore && rest.head?.any isDigit && isGroupedAfter isDigit false rest
  | _, c :: rest => isGroupedAfter isDigit (isDigit c) rest

def isGrouped (isDigit : Char → Bool) (cs : List Char) : Bool := isGroupedAfter isDigit false cs

def ungrouped (cs : List Char) : List Char := cs.filter (· != '_')

def hasLeadingZero : List Char → Bool
  | '0' :: c :: _ => isDigit c || c == '_'
  | _ => false

/-- Digits of a float before and behind the point, and its exponent. -/
structure FloatParts where
  whole : List Char
  fraction : List Char
  exponent : Int
  deriving DecidableEq, Repr

/-- The digits behind a point, if there is a point. -/
def readFraction : List Char → Option (List Char × List Char)
  | '.' :: rest =>
    let digits := rest.takeWhile isDigit
    if digits = [] then none else some (digits, rest.dropWhile isDigit)
  | rest => some ([], rest)

def readExponent : List Char → Option Int
  | [] => some 0
  | 'e' :: rest | 'E' :: rest => readInt? rest
  | _ => none

/-- A float without sign and underscores. -/
def floatParts? (cs : List Char) : Option FloatParts := do
  let (fraction, rest) ← readFraction (cs.dropWhile isDigit)
  let exponent ← readExponent rest
  let whole := cs.takeWhile isDigit
  if whole = [] then none else some ⟨whole, fraction, exponent⟩

def isFloatMark (c : Char) : Bool := c == '.' || c == 'e' || c == 'E'

/-- Digits after the mark of a base; they may be missing. -/
def readBased (base : Nat) (isAllowed : Char → Bool) (cs : List Char) : Option Number :=
  if (ungrouped cs).all isAllowed ∧ isGrouped isAllowed cs then
    some (.integer base (ungrouped cs))
  else none

/-- A decimal number. What follows the first underscore of a whole number need not be digits: a
hexadecimal digit next to each underscore will do. -/
def readDecimal (cs : List Char) : Option Number :=
  let (sign, number) := splitSign cs
  let written := sign ++ ungrouped number
  if hasLeadingZero number then none
  else if number.any isFloatMark then
    if isGrouped isDigit number ∧ (floatParts? (ungrouped number)).isSome then
      some (.float written)
    else none
  else
    let rest := number.dropWhile isDigit
    if number ≠ [] ∧ (rest = [] ∨ rest.head? = some '_') ∧ isGrouped isHexDigit number then
      some (.integer 10 written)
    else none

def isSpecial (cs : List Char) : Bool := cs = ['i', 'n', 'f'] || cs = ['n', 'a', 'n']

def readNumber (cs : List Char) : Option Number :=
  match cs with
  | '0' :: 'x' :: rest => readBased 16 isHexDigit rest
  | '0' :: 'o' :: rest => readBased 8 isOctalDigit rest
  | '0' :: 'b' :: rest => readBased 2 isBinaryDigit rest
  | _ => if isSpecial (splitSign cs).2 then some (.float cs) else readDecimal cs

/-- The largest power of ten in the double range. -/
def powerLimit : Int := 308

/-- Whether `significand · 10 ^ power`, where the significand has `length` digits, rounds to a
finite double. -/
def isFinite (significand length : Nat) (power : Int) : Bool :=
  if significand = 0 then true
  else if power > powerLimit then false
  else if power + length ≤ powerLimit then true
  else if power ≥ 0 then decide (significand * Nat.pow 10 power.toNat < doubleBound)
  else decide (significand < doubleBound * Nat.pow 10 (-power).toNat)

def FloatParts.isFinite (parts : FloatParts) : Bool :=
  let digits := parts.whole ++ parts.fraction
  Toml.isFinite (valueIn 10 digits) digits.length (parts.exponent - parts.fraction.length)

def fitsInteger (n : Int) : Bool := -Int.pow 2 127 ≤ n && n < Int.pow 2 128

/-- Whether there is such a number, and it is in range. -/
def Number.hasValue : Number → Bool
  | .integer base written =>
    if base = 10 then (readInt? written).any fitsInteger
    else written ≠ [] && fitsInteger (valueIn base written)
  | .float written =>
    let number := (splitSign written).2
    isSpecial number || (floatParts? number).any FloatParts.isFinite

end VaultModels.Toml
