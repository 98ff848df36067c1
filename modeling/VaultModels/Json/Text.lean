import VaultModels.Json.Fault

/-!
# JSON strings

The body of a string, up to its closing quote. Control characters have to be escaped, and an escaped
surrogate has to come with its other half. `skipBody` passes over a string that is not kept; there
surrogates may stand alone.
-/
namespace VaultModels.Json

/-- The character that a letter after a backslash stands for. -/
def escaped? : Char → Option Char
  | '"' => some '"'
  | '\\' => some '\\'
  | '/' => some '/'
  | 'b' => some '\x08'
  | 'f' => some '\x0c'
  | 'n' => some '\n'
  | 'r' => some '\r'
  | 't' => some '\t'
  | _ => none

def hexDigit? (c : Char) : Option Nat :=
  if '0' ≤ c ∧ c ≤ '9' then some (c.toNat - '0'.toNat)
  else if 'a' ≤ c ∧ c ≤ 'f' then some (c.toNat - 'a'.toNat + 10)
  else if 'A' ≤ c ∧ c ≤ 'F' then some (c.toNat - 'A'.toNat + 10)
  else none

/-- The value of a four-digit escape. -/
def unit? (a b c d : Char) : Option Nat := do
  let a ← hexDigit? a
  let b ← hexDigit? b
  let c ← hexDigit? c
  let d ← hexDigit? d
  some (((a * 16 + b) * 16 + c) * 16 + d)

def isLeading (unit : Nat) : Bool := 0xD800 ≤ unit && unit ≤ 0xDBFF

def isTrailing (unit : Nat) : Bool := 0xDC00 ≤ unit && unit ≤ 0xDFFF

/-- The character that a leading and a trailing surrogate stand for. -/
def pairedChar (leading trailing : Nat) : Char :=
  Char.ofNat ((leading - 0xD800) * 0x400 + (trailing - 0xDC00) + 0x10000)

/-- The fault of four digits that cannot be read: the text ends if fewer than four bytes are left.
-/
def digitsFault (cs : List Char) : Fault :=
  if (String.ofList cs).utf8ByteSize < 4 then .unfinished else .malformed

/-- The fault where a trailing surrogate has to follow. -/
def pairFault : List Char → Fault
  | [] | ['\\'] => .unfinished
  | '\\' :: 'u' :: rest => digitsFault rest
  | _ => .malformed

def isControl (c : Char) : Bool := c < ' '

def prepend (c : Char) (result : Except Fault (List Char × List Char)) :
    Except Fault (List Char × List Char) :=
  result.map fun (body, rest) => (c :: body, rest)

/-- The characters of a string after its opening quote, and the rest after its closing quote. -/
def readBody : List Char → Except Fault (List Char × List Char)
  | [] => .error .unfinished
  | '"' :: rest => .ok ([], rest)
  | '\\' :: 'u' :: a :: b :: c :: d :: rest =>
    match unit? a b c d with
    | none => .error .malformed
    | some unit =>
      if isTrailing unit then .error .malformed
      else if isLeading unit then
        match rest with
        | '\\' :: 'u' :: e :: f :: g :: h :: more =>
          match unit? e f g h with
          | none => .error .malformed
          | some second =>
            if isTrailing second then prepend (pairedChar unit second) (readBody more)
            else .error .malformed
        | other => .error (pairFault other)
      else prepend (Char.ofNat unit) (readBody rest)
  | '\\' :: 'u' :: rest => .error (digitsFault rest)
  | '\\' :: c :: rest =>
    match escaped? c with
    | some d => prepend d (readBody rest)
    | none => .error .malformed
  | ['\\'] => .error .unfinished
  | c :: rest => if isControl c then .error .malformed else prepend c (readBody rest)

def skipBody : List Char → Except Fault (List Char)
  | [] => .error .unfinished
  | '"' :: rest => .ok rest
  | '\\' :: 'u' :: a :: b :: c :: d :: rest =>
    if (unit? a b c d).isSome then skipBody rest else .error .malformed
  | '\\' :: 'u' :: rest => .error (digitsFault rest)
  | '\\' :: c :: rest => if (escaped? c).isSome then skipBody rest else .error .malformed
  | ['\\'] => .error .unfinished
  | c :: rest => if isControl c then .error .malformed else skipBody rest

def hexDigits : List Char := "0123456789abcdef".toList

def hexDigit (n : Nat) : Char := hexDigits.getD n '0'

/-- Quotes, backslashes and control characters are escaped, nothing else. -/
def writeChar (c : Char) : List Char :=
  if c = '"' then ['\\', '"']
  else if c = '\\' then ['\\', '\\']
  else if c = '\x08' then ['\\', 'b']
  else if c = '\x0c' then ['\\', 'f']
  else if c = '\n' then ['\\', 'n']
  else if c = '\r' then ['\\', 'r']
  else if c = '\t' then ['\\', 't']
  else if isControl c then
    ['\\', 'u', '0', '0', hexDigit (c.toNat / 16), hexDigit (c.toNat % 16)]
  else [c]

def writeText (text : String) : List Char :=
  '"' :: (text.toList.flatMap writeChar ++ ['"'])

end VaultModels.Json
