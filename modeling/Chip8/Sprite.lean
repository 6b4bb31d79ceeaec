/-
  Sprites: rows of eight pixels laid onto the display.

  * `sprite rows x y` is the display lit exactly by the set bits of the rows, the
    first row's most significant bit at (x, y).  What runs off an edge comes in
    at the opposite one, so `x` counts modulo 64 and `y` modulo 32;
  * `placeSprite` takes the position from outside and refuses coordinates beyond
    32 bits.
-/
import Chip8.Display
import Chip8.Fault

namespace Chip8

/-- The number of columns of a sprite. -/
def spriteWidth : Nat := 8

/-- Bit `column` of a sprite row, the most significant one first; a row that is
    not there has no bit. -/
def spriteBit (rows : List UInt8) (column row : Nat) : Bool :=
  decide (column < spriteWidth) && (rows[row]?.getD 0).toNat.testBit (spriteWidth - 1 - column)

/-- Sprite rows placed with their first pixel at (x, y). -/
def sprite (rows : List UInt8) (x y : Int) : Display :=
  .ofFn fun c r =>
    spriteBit rows (((c.val : Int) - x) % 64).toNat (((r.val : Int) - y) % 32).toNat

theorem sprite_mod (rows : List UInt8) (x y : Int) :
    sprite rows (x % 64) (y % 32) = sprite rows x y := by
  have hx : ∀ c : Int, (c - x % 64) % 64 = (c - x) % 64 := by
    intro c
    omega
  have hy : ∀ r : Int, (r - y % 32) % 32 = (r - y) % 32 := by
    intro r
    omega
  simp only [sprite, hx, hy]

/-- Refuse a coordinate that does not fit 32 bits with a sign. -/
def checkCoordinate (v : Int) : Except Fault Unit :=
  if -2147483648 ≤ v ∧ v ≤ 2147483647 then .ok () else .error (.spritePosition v)

/-- Sprite rows placed at coordinates from outside; `x` is looked at first. -/
def placeSprite (rows : List UInt8) (x y : Int) : Except Fault Display := do
  checkCoordinate x
  checkCoordinate y
  return sprite rows x y

end Chip8
