import VaultModels.Text.Blank
import VaultModels.Text.CaseFold

/-!
# GUID text

A GUID is written in four forms: 32 hexadecimal digits, the hyphenated form `8-4-4-4-12`, that form
in braces, and that form after `urn:uuid:`. Digits are taken in either case. The canonical text is
the braced form in upper case.
-/
namespace VaultModels.Guid

open Text

def isHexDigit (c : Char) : Bool :=
  ('0' ≤ c && c ≤ '9') || ('a' ≤ c && c ≤ 'f') || ('A' ≤ c && c ≤ 'F')

def groupSizes : List Nat := [8, 4, 4, 4, 12]

/-- Digits of hyphen-separated groups of exactly the given sizes. -/
def readGroups : List Nat → List Char → Option (List Char)
  | [], _ => none
  | [size], cs => if cs.length = size ∧ cs.all isHexDigit then some cs else none
  | size :: sizes, cs =>
    let group := cs.take size
    if group.length = size ∧ group.all isHexDigit then
      match cs.drop size with
      | '-' :: rest => (readGroups sizes rest).map (group ++ ·)
      | _ => none
    else none

def writeGroups : List Nat → List Char → List Char
  | [], _ => []
  | [_], digits => digits
  | size :: sizes, digits => digits.take size ++ '-' :: writeGroups sizes (digits.drop size)

def readPlain (cs : List Char) : Option (List Char) :=
  if cs.length = 32 ∧ cs.all isHexDigit then some cs else none

def readHyphenated (cs : List Char) : Option (List Char) := readGroups groupSizes cs

def readBraced : List Char → Option (List Char)
  | '{' :: rest => if rest.getLast? = some '}' then readHyphenated rest.dropLast else none
  | _ => none

def urnMark : List Char := ['u', 'r', 'n', ':', 'u', 'u', 'i', 'd', ':']

def readUrn (cs : List Char) : Option (List Char) :=
  if foldCase (cs.take 9) = urnMark then readHyphenated (cs.drop 9) else none

/-- The 32 digits of a text in any of the four forms, in the case they are written in. -/
def readDigits (cs : List Char) : Option (List Char) :=
  (readPlain cs).orElse fun _ => (readHyphenated cs).orElse fun _ =>
    (readBraced cs).orElse fun _ => readUrn cs

def canonicalChars (digits : List Char) : List Char :=
  '{' :: (writeGroups groupSizes (digits.map upperAscii) ++ ['}'])

def canonicalText (digits : List Char) : String := String.ofList (canonicalChars digits)

/-- Canonical text of a braced GUID; bare and hyphen-less GUIDs are not GUIDs here. -/
def ofBraced? (text : String) : Option String := (readBraced text.toList).map canonicalText

/-- Canonical text of a GUID in any form, blanks around it ignored. -/
def ofAnyForm? (text : String) : Option String :=
  (readDigits (trimChars text.toList)).map canonicalText

end VaultModels.Guid
