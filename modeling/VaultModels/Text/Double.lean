/-!
# Range of doubles

Whether a number written in decimal is too large for a double. All arithmetic is exact.
-/
namespace VaultModels.Text

def significantBits : Nat := 53

/-- What this or more rounds to is no finite double. -/
def doubleBound : Nat := Nat.pow 2 1024 - Nat.pow 2 970

/-- The nearest whole number of at most 53 significant bits; a half goes to the even one. -/
def roundToDouble (n : Nat) : Nat :=
  let step := Nat.pow 2 (n.log2 + 1 - significantBits)
  let quotient := n / step
  let twice := 2 * (n % step)
  if twice > step ∨ (twice = step ∧ quotient % 2 = 1) then (quotient + 1) * step
  else quotient * step

end VaultModels.Text
