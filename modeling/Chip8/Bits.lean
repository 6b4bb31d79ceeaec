/-
  Bits of integers, in two's complement without an end: of a number the bits beyond
  some position are all zero, of an integer below zero all one.

  * `Bits.and` and `Bits.or` combine two integers bit by bit, by the bits of the
    numbers they are made of;
  * `and_ones`: under the mask of the lowest bits lies the remainder, of integers of
    either sign;
  * `or_shiftLeft`: bits put behind others are added;
  * `and_digit`: a hexadecimal digit under its mask, brought down.
-/

namespace Chip8.Bits

/-- The bits of a number that another one does not have. -/
def without (m n : Nat) : Nat := m ^^^ (m &&& n)

/-- The bits that both integers have. -/
def and : Int → Int → Int
  | .ofNat m, .ofNat n => .ofNat (m &&& n)
  | .ofNat m, .negSucc n => .ofNat (without m n)
  | .negSucc m, .ofNat n => .ofNat (without n m)
  | .negSucc m, .negSucc n => .negSucc (m ||| n)

/-- The bits that one of two integers has. -/
def or : Int → Int → Int
  | .ofNat m, .ofNat n => .ofNat (m ||| n)
  | .ofNat m, .negSucc n => .negSucc (without n m)
  | .negSucc m, .ofNat n => .negSucc (without m n)
  | .negSucc m, .negSucc n => .negSucc (m &&& n)

theorem testBit_without (m n k : Nat) :
    (without m n).testBit k = (m.testBit k && !n.testBit k) := by
  rw [without, Nat.testBit_xor, Nat.testBit_and]
  cases m.testBit k <;> cases n.testBit k <;> rfl

/-- The lowest `n` bits without those of a number are what the number leaves to
    `1 <<< n`. -/
theorem ones_without (m n : Nat) : without (1 <<< n - 1) m = 1 <<< n - (m % 1 <<< n + 1) := by
  refine Nat.eq_of_testBit_eq fun k => ?_
  rw [testBit_without, Nat.one_shiftLeft, Nat.testBit_two_pow_sub_one,
    Nat.testBit_two_pow_sub_succ (Nat.mod_lt m (Nat.two_pow_pos n)), Nat.testBit_mod_two_pow]
  cases decide (k < n) <;> simp

theorem one_shiftLeft_pos (n : Nat) : 0 < 1 <<< n := by
  rw [Nat.one_shiftLeft]
  exact Nat.two_pow_pos n

/-- The lowest bits of a number are its remainder. -/
theorem and_ones_nat (m n : Nat) : m &&& 1 <<< n - 1 = m % 1 <<< n := by
  rw [Nat.one_shiftLeft]
  exact Nat.and_two_pow_sub_one_eq_mod m n

/-- The lowest bits of an integer of either sign are its remainder. -/
theorem and_ones (w : Int) (n : Nat) : and w ((1 <<< n - 1 : Nat) : Int) = w % (1 <<< n : Nat) := by
  cases w with
  | ofNat m => exact congrArg Int.ofNat (and_ones_nat m n)
  | negSucc m =>
    have hpos := one_shiftLeft_pos n
    have hlt := Nat.mod_lt m hpos
    rw [Int.negSucc_emod m (Int.natCast_pos.2 hpos)]
    show ((without (1 <<< n - 1) m : Nat) : Int) = _
    rw [ones_without]
    omega

/-- Under a mask of the lowest bits no integer stays below zero or gets past the mask. -/
theorem toNat_and_lt (w : Int) (n : Nat) :
    (and w ((1 <<< n - 1 : Nat) : Int)).toNat < 1 <<< n := by
  have hpos : (0 : Int) < (1 <<< n : Nat) := Int.natCast_pos.2 (one_shiftLeft_pos n)
  rw [and_ones, Int.toNat_lt (Int.emod_nonneg w (Int.ne_of_gt hpos))]
  exact Int.emod_lt_of_pos w hpos

theorem and_ofNat (m n : Nat) : and m n = (m &&& n : Nat) := rfl

/-- Bits put behind others are added. -/
theorem or_shiftLeft {high low k : Nat} (h : low < 1 <<< k) :
    or ((high : Int) <<< k) low = (1 <<< k : Nat) * (high : Int) + low := by
  have hshift : (high : Int) <<< k = ((high <<< k : Nat) : Int) := rfl
  rw [Nat.one_shiftLeft] at h ⊢
  have hadd : or ((high <<< k : Nat) : Int) low = ((high <<< k + low : Nat) : Int) :=
    congrArg Int.ofNat (Nat.shiftLeft_add_eq_or_of_lt h high).symm
  rw [hshift, hadd, Nat.shiftLeft_eq, Int.natCast_add, Int.natCast_mul, Int.mul_comm]

/-- A hexadecimal digit under its mask, brought down, is the digit. -/
theorem and_digit (w k : Nat) : (w &&& 0xF <<< k) >>> k = w / 1 <<< k % 16 := by
  have hmask : (0xF <<< k) >>> k = 0xF := by
    rw [Nat.shiftRight_eq_div_pow, Nat.shiftLeft_eq, Nat.mul_div_cancel _ (Nat.two_pow_pos k)]
  have hones : w >>> k &&& 0xF = w >>> k % 16 := and_ones_nat (w >>> k) 4
  rw [Nat.shiftRight_and_distrib, hmask, hones, Nat.shiftRight_eq_div_pow, Nat.one_shiftLeft]

theorem digit_lt (w k : Nat) : (w &&& 0xF <<< k) >>> k < 16 := by
  rw [and_digit]
  exact Nat.mod_lt _ (by decide)

end Chip8.Bits
