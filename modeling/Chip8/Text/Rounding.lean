/-
  Numbers held with 53 significant bits, the nearest such number in place of one
  that has more, a tie going to the even one.

  * `roundDiv` is division to the nearest whole number;
  * `heldHundredths` are the hundredths that are left of a number of hundredths
    once the quotient by 100 was held that way;
  * `isBeyondRange` tells the numbers whose exponent has more than 11 bits.
-/

namespace Chip8.Text

/-- The whole number nearest to a quotient; of two the even one. -/
def roundDiv (num den : Nat) : Nat :=
  let rest := 2 * (num % den)
  if den < rest ∨ (rest = den ∧ num / den % 2 = 1) then num / den + 1 else num / den

/-- Hundredths after the quotient by 100 was held with 53 bits: those behind the
    point are as many as the whole part leaves. -/
def heldHundredths (n : Nat) : Nat :=
  let wholeBits := Nat.log2 (n / 100) + 1
  if wholeBits ≤ 53 then
    let unit := 1 <<< (53 - wholeBits)
    roundDiv (100 * roundDiv (n * unit) 100) unit
  else
    let unit := 1 <<< (wholeBits - 53)
    100 * (unit * roundDiv n (100 * unit))

/-- Whether a whole number is so large that none is near it: the greatest one is
    `2 ^ 1024 - 2 ^ 971`, and from half a step above it on there is no neighbour. -/
def isBeyondRange (v : Int) : Bool := decide (1 <<< 1024 - 1 <<< 970 ≤ v.natAbs)

end Chip8.Text
