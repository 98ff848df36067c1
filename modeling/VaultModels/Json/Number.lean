import VaultModels.Json.Fault
import VaultModels.Text.Decimal
import VaultModels.Text.Double

/-!
# JSON numbers

A number that is kept counts as a whole number if it has neither fraction nor exponent and fits 64
bits; `-0` does not count as one. One that no double can hold is malformed. `skipNumber` passes over
a number that is not kept; there any size will do.
-/
namespace VaultModels.Json

open Text

def spanDigits (cs : List Char) : List Char × List Char := cs.span isDigit

def digitValue (c : Char) : Nat := c.toNat - '0'.toNat

def wordLimit : Nat := Nat.pow 2 64

/-- Appends digits while the number fits 64 bits: the number, and how many digits are left over. -/
def accumulate : Nat → List Char → Nat × Nat
  | n, [] => (n, 0)
  | n, d :: ds =>
    let next := n * 10 + digitValue d
    if next < wordLimit then accumulate next ds else (n, ds.length + 1)

/-- The largest power of ten below the double range. -/
def powerLimit : Int := 308

/-- Whether a significand times a power of ten is beyond the double range. Both factors are rounded
before they are multiplied. -/
def isTooLarge (significand : Nat) (power : Int) : Bool :=
  if significand = 0 ∨ power < 0 then false
  else if power > powerLimit then true
  else decide (doubleBound ≤ roundToDouble significand * roundToDouble (Nat.pow 10 power.toNat))

/-- Exponents are read up to this value. -/
def exponentLimit : Nat := Nat.pow 2 31

/-- What follows the exponent mark of a number with these digits before it. -/
def readExponent (significand : Nat) (power : Int) (cs : List Char) :
    Except Fault (List Char) :=
  let (isNegative, unsigned) := match cs with
    | '-' :: rest => (true, rest)
    | '+' :: rest => (false, rest)
    | rest => (false, rest)
  match spanDigits unsigned with
  | ([], rest) => .error (faultAt rest)
  | (digits, rest) =>
    let exponent := Nat.ofDigitChars 10 digits 0
    if exponent < exponentLimit then
      let total := if isNegative then power - exponent else power + exponent
      if isTooLarge significand total then .error .malformed else .ok rest
    else if significand ≠ 0 ∧ !isNegative then .error .malformed
    else .ok rest

/-- An exponent, if there is one. -/
def readTail (significand : Nat) (power : Int) : List Char → Except Fault (List Char)
  | 'e' :: rest | 'E' :: rest => readExponent significand power rest
  | rest => if isTooLarge significand power then .error .malformed else .ok rest

/-- What follows the point of a number with these digits before it. -/
def readFraction (significand : Nat) (power : Int) (cs : List Char) :
    Except Fault (List Char) :=
  match spanDigits cs with
  | ([], rest) => .error (faultAt rest)
  | (digits, rest) =>
    let (longer, left) := accumulate significand digits
    readTail longer (power - ((digits.length - left : Nat) : Int)) rest

/-- A number without its sign; a value only if it is whole. -/
def readUnsigned (cs : List Char) : Except Fault (Option Nat × List Char) :=
  match spanDigits cs with
  | ([], rest) => .error (faultAt rest)
  | ('0' :: _ :: _, _) => .error .malformed
  | (digits, rest) =>
    let (significand, left) := accumulate 0 digits
    match rest with
    | '.' :: tail => (readFraction significand left tail).map fun rest => (none, rest)
    | _ =>
      if left = 0 ∧ rest.head? ≠ some 'e' ∧ rest.head? ≠ some 'E' then
        .ok (some significand, rest)
      else (readTail significand left rest).map fun rest => (none, rest)

def negate? (n : Nat) : Option Int :=
  if 0 < n ∧ n ≤ Nat.pow 2 63 then some (-(n : Int)) else none

def readNumber : Reader (Option Int)
  | '-' :: rest => (readUnsigned rest).map fun (value, rest) => (value.bind negate?, rest)
  | cs => (readUnsigned cs).map fun (value, rest) => (value.map Int.ofNat, rest)

/-- A number that is passed over may not end where a digit has to follow. -/
def skipDigits (cs : List Char) : Except Fault (List Char) :=
  match spanDigits cs with
  | ([], _) => .error .malformed
  | (_, rest) => .ok rest

def skipExponent : List Char → Except Fault (List Char)
  | '+' :: rest | '-' :: rest => skipDigits rest
  | rest => skipDigits rest

def skipTail : List Char → Except Fault (List Char)
  | 'e' :: rest | 'E' :: rest => skipExponent rest
  | rest => .ok rest

def skipUnsigned (cs : List Char) : Except Fault (List Char) :=
  match spanDigits cs with
  | ([], _) => .error .malformed
  | ('0' :: _ :: _, _) => .error .malformed
  | (_, '.' :: tail) => do skipTail (← skipDigits tail)
  | (_, rest) => skipTail rest

def skipNumber : List Char → Except Fault (List Char)
  | '-' :: rest => skipUnsigned rest
  | cs => skipUnsigned cs

end VaultModels.Json
