/-!
# ASCII case

Letters `A`–`Z` and `a`–`z` are paired; every other character stands for itself, accented letters
included.
-/
namespace VaultModels.Text

def lowerAscii (c : Char) : Char :=
  if 'A' ≤ c ∧ c ≤ 'Z' then Char.ofNat (c.toNat + 32) else c

def upperAscii (c : Char) : Char :=
  if 'a' ≤ c ∧ c ≤ 'z' then Char.ofNat (c.toNat - 32) else c

def foldCase (cs : List Char) : List Char := cs.map lowerAscii

/-- Equality up to the case of ASCII letters. -/
def sameIgnoringCase (left right : String) : Bool :=
  foldCase left.toList == foldCase right.toList

end VaultModels.Text
