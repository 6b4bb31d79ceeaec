/-
  The arithmetic and logic operations on two registers.

  `AluOp.apply` maps the values of both registers to the new value of the first
  and to the flag, which the four logical operations do not touch.  Subtraction
  raises its flag on a strictly greater minuend only; shifts ignore the second
  register.
-/

namespace Chip8

/-- The operations of the family `8XYN`. -/
inductive AluOp where
  | set | or | and | xor | add | subtract | shiftRight | subtractFrom | shiftLeft
deriving DecidableEq, Repr

namespace AluOp

/-- All operations in the order of their codes. -/
def all : List AluOp :=
  [set, or, and, xor, add, subtract, shiftRight, subtractFrom, shiftLeft]

/-- The last digit of the instruction. -/
def code : AluOp → Nat
  | set => 0x0
  | or => 0x1
  | and => 0x2
  | xor => 0x3
  | add => 0x4
  | subtract => 0x5
  | shiftRight => 0x6
  | subtractFrom => 0x7
  | shiftLeft => 0xE

/-- The operation of a code. -/
def ofCode? (c : Nat) : Option AluOp := all.find? fun op => op.code == c

/-- The new value of the first register, and the flag if the operation sets
    it. -/
def apply (op : AluOp) (vx vy : UInt8) : UInt8 × Option Bool :=
  match op with
  | set => (vy, none)
  | or => (vx ||| vy, none)
  | and => (vx &&& vy, none)
  | xor => (vx ^^^ vy, none)
  | add => (vx + vy, some (255 < vx.toNat + vy.toNat))
  | subtract => (vx - vy, some (vy < vx))
  | shiftRight => (vx >>> 1, some (vx &&& 1 == 1))
  | subtractFrom => (vy - vx, some (vx < vy))
  | shiftLeft => (vx <<< 1, some (vx >>> 7 == 1))

end AluOp

/-- A flag as the byte a register holds. -/
def flagByte (b : Bool) : UInt8 := if b then 1 else 0

end Chip8
