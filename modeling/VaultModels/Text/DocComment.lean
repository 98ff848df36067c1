/-!
# Comment text

Text put after `//` stays on its line: a carriage return or line feed becomes a space. Inside an XML
doc comment the three markup characters are also written as entities. `readEntities` replaces the
entities again.
-/
namespace VaultModels.Text

def commentChar (c : Char) : Char := if c = '\r' ∨ c = '\n' then ' ' else c

def commentText (text : String) : String := String.ofList (text.toList.map commentChar)

def entityChars (c : Char) : List Char :=
  if c = '&' then ['&', 'a', 'm', 'p', ';']
  else if c = '<' then ['&', 'l', 't', ';']
  else if c = '>' then ['&', 'g', 't', ';']
  else [c]

def docChars (cs : List Char) : List Char := (cs.map commentChar).flatMap entityChars

def docText (text : String) : String := String.ofList (docChars text.toList)

/-- Reads `&amp;`, `&lt;` and `&gt;` back; refuses bare markup characters and other entities. -/
def readEntities : List Char → Option (List Char)
  | [] => some []
  | '&' :: 'a' :: 'm' :: 'p' :: ';' :: rest => (readEntities rest).map ('&' :: ·)
  | '&' :: 'l' :: 't' :: ';' :: rest => (readEntities rest).map ('<' :: ·)
  | '&' :: 'g' :: 't' :: ';' :: rest => (readEntities rest).map ('>' :: ·)
  | c :: rest =>
    if c = '&' ∨ c = '<' ∨ c = '>' then none else (readEntities rest).map (c :: ·)

end VaultModels.Text
