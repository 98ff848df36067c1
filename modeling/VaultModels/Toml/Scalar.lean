import VaultModels.Toml.Text
import VaultModels.Toml.Value

/-!
# TOML scalars

Booleans, numbers and date-times: what is written without quotes. Dates have to be in the calendar.
-/
namespace VaultModels.Toml

open Text

def isLeapYear (year : Nat) : Bool := year % 4 == 0 && (year % 100 != 0 || year % 400 == 0)

def daysIn (year month : Nat) : Nat :=
  if month = 2 then if isLeapYear year then 29 else 28
  else if [4, 6, 9, 11].contains month then 30 else 31

/-- A number of exactly that many digits. -/
def readDigits (count : Nat) (cs : List Char) : Option (Nat × List Char) :=
  let digits := cs.take count
  if digits.length = count ∧ digits.all isDigit then some (valueIn 10 digits, cs.drop count)
  else none

def expect (c : Char) : List Char → Option (List Char)
  | d :: rest => if d = c then some rest else none
  | [] => none

/-- `YYYY-MM-DD`. -/
def readDate (cs : List Char) : Option (List Char) := do
  let (year, rest) ← readDigits 4 cs
  let (month, rest) ← readDigits 2 (← expect '-' rest)
  let (day, rest) ← readDigits 2 (← expect '-' rest)
  if 1 ≤ month ∧ month ≤ 12 ∧ 1 ≤ day ∧ day ≤ daysIn year month then some rest else none

/-- Seconds with an optional fraction; they may be left out. -/
def readSeconds : List Char → Option (List Char)
  | ':' :: rest => do
    let (second, rest) ← readDigits 2 rest
    if second > 60 then none
    else match rest with
      | '.' :: fraction =>
        if (fraction.takeWhile isDigit).isEmpty then none else some (fraction.dropWhile isDigit)
      | _ => some rest
  | rest => some rest

/-- `HH:MM`. -/
def readClock (cs : List Char) : Option (List Char) := do
  let (hour, rest) ← readDigits 2 cs
  let (minute, rest) ← readDigits 2 (← expect ':' rest)
  if hour ≤ 23 ∧ minute ≤ 59 then some rest else none

def readTime (cs : List Char) : Option (List Char) := do readSeconds (← readClock cs)

def readOffset : List Char → Option (List Char)
  | 'Z' :: rest | 'z' :: rest => some rest
  | '+' :: rest | '-' :: rest => readClock rest
  | rest => some rest

/-- A date, a time, or both with or without an offset. -/
def isDateTime (cs : List Char) : Bool :=
  let ending := match readDate cs with
    | none => readTime cs
    | some [] => some []
    | some (separator :: rest) =>
      if ['T', 't', ' '].contains separator then (readTime rest).bind readOffset else none
  ending = some []

def readScalar (cs : List Char) : Option Value :=
  if cs = ['t', 'r', 'u', 'e'] then some (.boolean true)
  else if cs = ['f', 'a', 'l', 's', 'e'] then some (.boolean false)
  else match readNumber cs with
    | some number => some (.number number)
    | none => if isDateTime cs then some (.dateTime (String.ofList cs)) else none

end VaultModels.Toml
