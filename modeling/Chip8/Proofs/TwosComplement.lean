/-
  Words read off integers.

  An integer of any size stands for the word of its low sixteen bits in two's complement.

  * `and_eq_land` and `or_eq_lor`: integers are combined bit by bit as usual, and by
    `eq_of_testBit_eq` a number is the integer that has its bits;
  * `fits_iff_testBit`: a word fits a pattern iff, under the mask, it has all of its bits, also
    those beyond the sixteenth; so a pattern with a bit that the mask or the word has no
    place for is never met (`not_fits_of_testBit`);
  * `ofInt_eq_ofInt_iff`, `ofBytes_shiftRight` and `ofBytes_raw`: which integers stand for one
    word, and which bytes;
  * `words_of_integers`: the same, with the digits, and what it means for execution.
-/
import Mathlib.Data.Int.Bitwise
import Chip8.Exec

namespace Chip8

/-! ## Bits of integers -/

namespace Bits

theorem without_eq_ldiff (m n : Nat) : without m n = Nat.ldiff m n :=
  Nat.eq_of_testBit_eq fun k => by rw [testBit_without, Nat.testBit_ldiff]

theorem and_eq_land (v w : Int) : and v w = Int.land v w := by
  cases v <;> cases w <;> simp only [and, Int.land, without_eq_ldiff, Int.ofNat_eq_natCast]

theorem or_eq_lor (v w : Int) : or v w = Int.lor v w := by
  cases v <;> cases w <;> simp only [or, Int.lor, without_eq_ldiff, Int.ofNat_eq_natCast]

theorem testBit_and (v w : Int) (k : Nat) :
    (and v w).testBit k = (v.testBit k && w.testBit k) := by
  rw [and_eq_land, Int.testBit_land]

/-- What a number and an integer have in common is a number. -/
theorem and_eq_natCast (m : Nat) (w : Int) : ∃ n : Nat, and m w = n := by
  cases w <;> exact ⟨_, rfl⟩

end Bits

theorem testBit_of_le {n k : Nat} (h : n ≤ k) : n.testBit k = false := by
  have hlt : n < 2 ^ n := Nat.lt_two_pow_self
  exact Nat.testBit_lt_two_pow (Nat.lt_of_lt_of_le hlt (Nat.pow_le_pow_right (by decide) h))

/-- A number is the integer that has its bits. -/
theorem eq_of_testBit_eq {n : Nat} {p : Int} (h : ∀ k, n.testBit k = p.testBit k) :
    (n : Int) = p := by
  cases p with
  | ofNat b => exact congrArg Int.ofNat (Nat.eq_of_testBit_eq h)
  | negSucc b =>
    -- far enough up a number has zeros and an integer below zero has ones
    have hbit : n.testBit (n + b) = !b.testBit (n + b) := h (n + b)
    rw [testBit_of_le (Nat.le_add_right n b), testBit_of_le (Nat.le_add_left b n)] at hbit
    cases hbit

namespace Instruction

/-! ## Masks and patterns -/

variable {i : Instruction} {mask pattern : Int}

theorem testBit_raw_of_le {k : Nat} (h : 16 ≤ k) : i.raw.toNat.testBit k = false :=
  Nat.testBit_lt_two_pow (Nat.lt_of_lt_of_le i.raw.toNat_lt (Nat.pow_le_pow_right (by decide) h))

/-- A word fits a pattern iff under the mask it has all of its bits. -/
theorem fits_iff_testBit :
    i.fits mask pattern = true ↔
      ∀ k, (i.raw.toNat.testBit k && mask.testBit k) = pattern.testBit k := by
  have hbits : ∀ k, (Bits.and i.raw.toNat mask).testBit k =
      (i.raw.toNat.testBit k && mask.testBit k) := Bits.testBit_and _ _
  simp only [← hbits, fits, beq_iff_eq]
  constructor
  · rintro rfl k
    rfl
  · intro h
    obtain ⟨n, hn⟩ := Bits.and_eq_natCast i.raw.toNat mask
    rw [hn] at h ⊢
    exact eq_of_testBit_eq h

/-- A pattern with a bit that the mask or the word has no place for is never met. -/
theorem not_fits_of_testBit {k : Nat} (hbit : pattern.testBit k = true)
    (hout : mask.testBit k = false ∨ 16 ≤ k) : i.fits mask pattern = false := by
  refine Bool.eq_false_iff.2 fun hfits => ?_
  have hsame := fits_iff_testBit.1 hfits k
  rw [hbit, Bool.and_eq_true] at hsame
  rcases hout with hmask | hk
  · rw [hmask] at hsame
    exact Bool.false_ne_true hsame.2
  · rw [testBit_raw_of_le hk] at hsame
    exact Bool.false_ne_true hsame.1

/-! ## Integers and bytes of one word -/

theorem ofInt_eq_ofInt_iff {v w : Int} : ofInt v = ofInt w ↔ v % 65536 = w % 65536 := by
  rw [Instruction.ext_iff, ← UInt16.toNat_inj, ← Int.natCast_inj, raw_ofInt_toNat,
    raw_ofInt_toNat]

theorem raw_ofBytes (high low : Int) :
    ((ofBytes high low).raw.toNat : Int) = 256 * (high % 256) + low % 256 := by
  rw [ofBytes_eq_ofInt, raw_ofInt_toNat]
  omega

theorem ofBytes_eq_iff {high low : Int} :
    ofBytes high low = i ↔ 256 * (high % 256) + low % 256 = i.raw.toNat := by
  rw [Instruction.ext_iff, ← UInt16.toNat_inj, ← Int.natCast_inj, raw_ofBytes]

/-- The word of the two bytes of a word. -/
theorem ofBytes_raw (i : Instruction) :
    ofBytes ((i.raw.toNat : Int) / 256) ((i.raw.toNat : Int) % 256) = i := by
  have hlt := i.raw.toNat_lt
  rw [ofBytes_eq_iff]
  omega

theorem ofBytes_shiftRight (w : Int) : ofBytes (w >>> (8 : Nat)) w = ofInt w := by
  rw [ofBytes_eq_iff, raw_ofInt_toNat, Int.shiftRight_eq_div_pow]
  omega

/-- **Integers as words**: an integer of any size and sign stands for the word of its low
    sixteen bits, which has four digits and the operands that these form.  So do two bytes,
    of which the low eight bits count, and those of a word give it back.  Patterns are
    compared bit by bit without an end, and execution sees nothing but the word. -/
theorem words_of_integers (m : Machine) (w : Int) :
    let i := ofInt w
    (i.raw.toNat : Int) = w % 65536 ∧
    (∀ d ∈ [i.family, i.x, i.y, i.n], d.val ≤ 15) ∧
    i.raw.toNat = 4096 * i.family.val + 256 * i.x.val + 16 * i.y.val + i.n.val ∧
    i.nn.toNat = 16 * i.y.val + i.n.val ∧
    i.nnn.toNat = 256 * i.x.val + 16 * i.y.val + i.n.val ∧
    (∀ high low : Int, ofBytes high low = ofInt (256 * (high % 256) + low % 256) ∧
      ((ofBytes high low).raw.toNat : Int) = 256 * (high % 256) + low % 256) ∧
    ofBytes ((i.raw.toNat : Int) / 256) ((i.raw.toNat : Int) % 256) = i ∧
    (∀ mask pattern : Int,
      (i.fits mask pattern = true ↔
        ∀ k, (i.raw.toNat.testBit k && mask.testBit k) = pattern.testBit k) ∧
      ∀ k, pattern.testBit k = true → mask.testBit k = false ∨ 16 ≤ k →
        i.fits mask pattern = false) ∧
    (∀ v, v % 65536 = w % 65536 → m.exec (ofInt v) = m.exec i) ∧
    m.exec (ofBytes (w >>> (8 : Nat)) w) = m.exec i := by
  intro i
  refine ⟨raw_ofInt_toNat w, fun d _ => Nat.le_of_lt_succ d.isLt, raw_eq_digits i,
    nn_eq_digits i, nnn_eq_digits i,
    fun high low => ⟨ofBytes_eq_ofInt high low, raw_ofBytes high low⟩, ofBytes_raw i,
    fun mask pattern => ⟨fits_iff_testBit, fun k => not_fits_of_testBit⟩,
    fun v hv => ?_, ?_⟩
  · rw [ofInt_eq_ofInt_iff.2 hv]
  · rw [ofBytes_shiftRight]

/-- The integer of all ones is the word of all ones, but does not fit itself as a pattern. -/
theorem all_ones_unmatched : ∃ m, m = Machine.initial (.ofSeed 0) ∧
    (ofInt (-1)).fits (-1) (-1) = false ∧ m.exec (ofInt 0xFFFF) = m.exec (ofInt (-1)) := by
  obtain ⟨-, -, -, -, -, -, -, hfits, hexec, -⟩ := words_of_integers (.initial (.ofSeed 0)) (-1)
  exact ⟨_, rfl, (hfits (-1) (-1)).2 16 rfl (.inr (Nat.le_refl 16)), hexec 0xFFFF rfl⟩

end Instruction

end Chip8
