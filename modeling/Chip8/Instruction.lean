/-
  Instruction words: sixteen bits, read as four hexadecimal digits.

  The first digit is the family of the instruction; the others are operands,
  taken one by one (`x`, `y`, `n`), as a byte (`nn`) or as an address (`nnn`).

  * `ofInt w` is the instruction of the low 16 bits of any integer, `ofBytes`
    that of two bytes in program order;
  * `fits mask pattern` compares the masked word with a pattern;
  * `raw_ofInt_toNat` and `ofBytes_eq_ofInt` say by remainders which word that is;
  * `raw_eq_digits`: the four digits determine the word, and `nn_eq_digits` and
    `nnn_eq_digits` say which of them the longer operands hold.
-/
import Chip8.Bits
import Chip8.Text.Number

namespace Chip8

/-- A number of one hexadecimal digit: a register, a key, or an operand. -/
abbrev Nibble := Fin 16

/-- The lowest hexadecimal digit of a number. -/
def Nibble.ofNat (n : Nat) : Nibble := ⟨n &&& 0xF, Nat.lt_succ_of_le Nat.and_le_right⟩

@[simp] theorem Nibble.ofNat_val (n : Nat) : (Nibble.ofNat n).val = n % 16 :=
  Nat.and_two_pow_sub_one_eq_mod n 4

/-- An instruction word. -/
@[ext]
structure Instruction where
  raw : UInt16
deriving DecidableEq, Repr

namespace Instruction

/-- The instruction held by the low 16 bits of `w`, in two's complement. -/
def ofInt (w : Int) : Instruction :=
  ⟨UInt16.ofNatLT (Bits.and w 0xFFFF).toNat (Bits.toNat_and_lt w 16)⟩

/-- The instruction of a high and a low byte, of each of which the low 8 bits
    count. -/
def ofBytes (high low : Int) : Instruction :=
  ofInt (Bits.or (Bits.and high 0xFF <<< (8 : Nat)) (Bits.and low 0xFF))

/-- The first digit. -/
def family (i : Instruction) : Nibble :=
  ⟨(i.raw.toNat &&& 0xF000) >>> 12, Bits.digit_lt i.raw.toNat 12⟩

/-- The second digit, which names a register. -/
def x (i : Instruction) : Nibble :=
  ⟨(i.raw.toNat &&& 0x0F00) >>> 8, Bits.digit_lt i.raw.toNat 8⟩

/-- The third digit, which names a register. -/
def y (i : Instruction) : Nibble :=
  ⟨(i.raw.toNat &&& 0x00F0) >>> 4, Bits.digit_lt i.raw.toNat 4⟩

/-- The last digit. -/
def n (i : Instruction) : Nibble := .ofNat i.raw.toNat

/-- The byte of the last two digits. -/
def nn (i : Instruction) : UInt8 :=
  UInt8.ofNatLT (i.raw.toNat &&& 0x00FF) (Nat.lt_succ_of_le Nat.and_le_right)

/-- The address of the last three digits. -/
def nnn (i : Instruction) : UInt16 :=
  UInt16.ofNatLT (i.raw.toNat &&& 0x0FFF)
    (Nat.lt_of_le_of_lt Nat.and_le_right (by decide))

/-- Whether the bits of the word under `mask` are those of `pattern`.  Both are
    integers in two's complement. -/
def fits (i : Instruction) (mask pattern : Int) : Bool := Bits.and i.raw.toNat mask == pattern

/-- The word in four hexadecimal digits. -/
def chars (i : Instruction) : List Char := Text.hex 4 i.raw.toNat

/-! ## Integers and bytes -/

theorem raw_ofInt_toNat (w : Int) : ((ofInt w).raw.toNat : Int) = w % 65536 := by
  have hlow : Bits.and w 0xFFFF = w % 65536 := Bits.and_ones w 16
  have h0 : 0 ≤ w % 65536 := Int.emod_nonneg _ (by decide)
  simp only [ofInt, UInt16.toNat_ofNatLT, hlow, Int.toNat_of_nonneg h0]

/-- Two bytes are put one behind the other. -/
theorem ofBytes_eq_ofInt (high low : Int) :
    ofBytes high low = ofInt (256 * (high % 256) + low % 256) := by
  have hhigh : Bits.and high 0xFF = high % 256 := Bits.and_ones high 8
  have hlow : Bits.and low 0xFF = low % 256 := Bits.and_ones low 8
  obtain ⟨h, hh⟩ := Int.eq_ofNat_of_zero_le (Int.emod_nonneg high (by decide : (256 : Int) ≠ 0))
  obtain ⟨l, hl⟩ := Int.eq_ofNat_of_zero_le (Int.emod_nonneg low (by decide : (256 : Int) ≠ 0))
  have hlt : l < 1 <<< 8 := by
    show l < 256
    omega
  rw [ofBytes, hhigh, hlow, hh, hl, Bits.or_shiftLeft hlt]
  rfl

/-! ## Digits and operands -/

theorem family_val (i : Instruction) : i.family.val = i.raw.toNat / 4096 := by
  have hlt := i.raw.toNat_lt
  have hdigit : i.family.val = i.raw.toNat / 4096 % 16 := Bits.and_digit i.raw.toNat 12
  omega

theorem x_val (i : Instruction) : i.x.val = i.raw.toNat / 256 % 16 := Bits.and_digit i.raw.toNat 8

theorem y_val (i : Instruction) : i.y.val = i.raw.toNat / 16 % 16 := Bits.and_digit i.raw.toNat 4

theorem n_val (i : Instruction) : i.n.val = i.raw.toNat % 16 :=
  Nat.and_two_pow_sub_one_eq_mod i.raw.toNat 4

theorem nn_toNat (i : Instruction) : i.nn.toNat = i.raw.toNat % 256 :=
  UInt8.toNat_ofNatLT.trans (Nat.and_two_pow_sub_one_eq_mod i.raw.toNat 8)

theorem nnn_toNat (i : Instruction) : i.nnn.toNat = i.raw.toNat % 4096 :=
  UInt16.toNat_ofNatLT.trans (Nat.and_two_pow_sub_one_eq_mod i.raw.toNat 12)

theorem raw_eq_digits (i : Instruction) :
    i.raw.toNat = 4096 * i.family.val + 256 * i.x.val + 16 * i.y.val + i.n.val := by
  rw [family_val, x_val, y_val, n_val]
  omega

theorem nn_eq_digits (i : Instruction) : i.nn.toNat = 16 * i.y.val + i.n.val := by
  rw [nn_toNat, y_val, n_val]
  omega

theorem nnn_eq_digits (i : Instruction) :
    i.nnn.toNat = 256 * i.x.val + 16 * i.y.val + i.n.val := by
  rw [nnn_toNat, x_val, y_val, n_val]
  omega

end Instruction

end Chip8
