import VaultModels.Text.GeneralCategory

/-!
# Names

Display names are free text; a C# identifier is not. `clean` keeps the characters an identifier may
hold and puts `_` in front where the rest would be empty, would start with neither a letter nor `_`,
or would be a reserved keyword.
-/
namespace VaultModels.Name

open Text

def keywords : List String :=
  ["abstract", "as", "base", "bool", "break", "byte", "case", "catch", "char", "checked",
   "class", "const", "continue", "decimal", "default", "delegate", "do", "double", "else",
   "enum", "event", "explicit", "extern", "false", "finally", "fixed", "float", "for",
   "foreach", "goto", "if", "implicit", "in", "int", "interface", "internal", "is", "lock",
   "long", "namespace", "new", "null", "object", "operator", "out", "override", "params",
   "private", "protected", "public", "readonly", "ref", "return", "sbyte", "sealed", "short",
   "sizeof", "stackalloc", "static", "string", "struct", "switch", "this", "throw", "true",
   "try", "typeof", "uint", "ulong", "unchecked", "unsafe", "ushort", "using", "virtual",
   "void", "volatile", "while"]

def isKeyword (name : String) : Bool := keywords.contains name

/-- Characters that may stand in an identifier. -/
def isPart (c : Char) : Bool :=
  isLetter c || isLetterNumber c || isDecimalDigit c || isMark c || isFormat c || isConnector c

/-- Characters that may open an identifier. -/
def isStart (c : Char) : Bool := isLetter c || c == '_'

def startsWell : List Char → Bool
  | [] => false
  | c :: _ => isStart c

def parts (cs : List Char) : List Char := cs.filter isPart

def cleanChars (cs : List Char) : List Char :=
  let kept := parts cs
  if startsWell kept && !isKeyword (String.ofList kept) then kept else '_' :: kept

def clean (name : String) : String := String.ofList (cleanChars name.toList)

/-- Identifiers are the non-empty names that `clean` leaves alone. -/
def isValid (name : String) : Bool := name != "" && clean name == name

end VaultModels.Name
