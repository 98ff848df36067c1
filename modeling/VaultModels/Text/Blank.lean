/-!
# Blank characters

The `White_Space` property of Unicode, and trimming by it. Zero-width characters such as U+200B and
U+FEFF are not blank.
-/
namespace VaultModels.Text

def isBlank (c : Char) : Bool :=
  let n := c.toNat
  (0x9 ≤ n && n ≤ 0xD) || n == 0x20 || n == 0x85 || n == 0xA0 || n == 0x1680 ||
    (0x2000 ≤ n && n ≤ 0x200A) || n == 0x2028 || n == 0x2029 || n == 0x202F || n == 0x205F ||
    n == 0x3000

def trimStartChars (cs : List Char) : List Char := cs.dropWhile isBlank

/-- Drops the longest tail whose characters all satisfy `drop`. -/
def dropTail (drop : Char → Bool) (cs : List Char) : List Char :=
  (cs.reverse.dropWhile drop).reverse

def trimChars (cs : List Char) : List Char := dropTail isBlank (trimStartChars cs)

def trim (text : String) : String := String.ofList (trimChars text.toList)

end VaultModels.Text
