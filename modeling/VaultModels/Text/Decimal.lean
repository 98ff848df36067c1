/-!
# Decimal numbers

Decimal text of whole numbers. Writing uses no leading zeros and `-` for negative numbers; reading
also takes one leading `+` and any number of leading zeros, and refuses what does not fit.
-/
namespace VaultModels.Text

def isDigit (c : Char) : Bool := '0' ≤ c && c ≤ '9'

def natChars (n : Nat) : List Char := Nat.toDigits 10 n

def intChars : Int → List Char
  | .ofNat n => natChars n
  | .negSucc n => '-' :: natChars (n + 1)

def natText (n : Nat) : String := String.ofList (natChars n)

def intText (n : Int) : String := String.ofList (intChars n)

def int32Text (n : Int32) : String := intText n.toInt

/-- The value of a run of ASCII digits; no value for an empty run or any other character. -/
def readNat? (cs : List Char) : Option Nat :=
  if cs ≠ [] ∧ cs.all isDigit then some (Nat.ofDigitChars 10 cs 0) else none

/-- An optional sign before a run of digits. -/
def readInt? : List Char → Option Int
  | '-' :: ds => (readNat? ds).map (fun n => -(n : Int))
  | '+' :: ds => (readNat? ds).map Int.ofNat
  | ds => (readNat? ds).map Int.ofNat

def fitsInt32 (n : Int) : Bool := -2147483648 ≤ n && n ≤ 2147483647

def toInt32? (n : Int) : Option Int32 := if fitsInt32 n then some (Int32.ofInt n) else none

def readInt32? (cs : List Char) : Option Int32 := (readInt? cs).bind toInt32?

end VaultModels.Text
