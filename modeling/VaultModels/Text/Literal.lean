/-!
# String literals

Regular C# string literals. Five characters and the backslash are written as simple escapes, so a
literal never holds a bare quote, a line feed or a carriage return. `unescape` reads simple escapes
back, and `scanLiteral` finds where a quoted literal ends.
-/
namespace VaultModels.Text

def escapeChar (c : Char) : List Char :=
  if c = '\\' then ['\\', '\\']
  else if c = '"' then ['\\', '"']
  else if c = '\n' then ['\\', 'n']
  else if c = '\r' then ['\\', 'r']
  else if c = '\t' then ['\\', 't']
  else if c = '\x00' then ['\\', '0']
  else [c]

def escapeChars (cs : List Char) : List Char := cs.flatMap escapeChar

def escapeLiteral (text : String) : String := String.ofList (escapeChars text.toList)

def quoteChars (cs : List Char) : List Char := '"' :: (escapeChars cs ++ ['"'])

def quote (text : String) : String := String.ofList (quoteChars text.toList)

/-- The character that a letter stands for after a backslash. -/
def escapedChar? (c : Char) : Option Char :=
  if c = '\\' then some '\\'
  else if c = '"' then some '"'
  else if c = 'n' then some '\n'
  else if c = 'r' then some '\r'
  else if c = 't' then some '\t'
  else if c = '0' then some '\x00'
  else none

/-- Refuses an unknown escape and a backslash at the end. -/
def unescape : List Char → Option (List Char)
  | [] => some []
  | '\\' :: c :: rest =>
    match escapedChar? c with
    | some d => (unescape rest).map (d :: ·)
    | none => none
  | c :: rest => if c = '\\' then none else (unescape rest).map (c :: ·)

/-- Splits after the first quote that no backslash escapes: the literal's body and what follows. -/
def scanBody : List Char → Option (List Char × List Char)
  | [] => none
  | '\\' :: c :: rest => (scanBody rest).map fun (body, tail) => ('\\' :: c :: body, tail)
  | c :: rest =>
    if c = '"' then some ([], rest)
    else if c = '\\' then none
    else (scanBody rest).map fun (body, tail) => (c :: body, tail)

/-- The body of the literal that the text opens with, and the text after its closing quote. -/
def scanLiteral : List Char → Option (List Char × List Char)
  | '"' :: rest => scanBody rest
  | _ => none

end VaultModels.Text
