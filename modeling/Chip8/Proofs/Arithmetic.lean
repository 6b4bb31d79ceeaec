/-
  Arithmetic on two registers.

  * `AluOp.flag?` is the flag that an operation leaves, if it leaves one, and `AluOp.Law`
    what its result satisfies; both are said of numbers, without wrapping;
  * `AluOp.flag_apply` and `AluOp.law_apply`: the operations on bytes obey them;
  * `reg_combine_flag`, `reg_combine_result` and `reg_combine_other`: what becomes of each
    register, also when one stands for two of VX, VY and VF;
  * `Combined` is what an instruction `8XYN` leaves of the machine.
-/
import Chip8.Proofs.Changes

namespace Chip8

open Instruction (opcode?_eq_some_iff_hasForm)

theorem flagByte_toNat (b : Bool) : (flagByte b).toNat = if b = true then 1 else 0 := by
  cases b <;> rfl

/-! ## The operations on numbers -/

namespace AluOp

/-- The flag that an operation on `a` and `b` leaves, if it leaves one. -/
def flag? (op : AluOp) (a b : Nat) : Option Nat :=
  match op with
  | set | or | and | xor => none
  | add => some (if 255 < a + b then 1 else 0)
  | subtract => some (if b < a then 1 else 0)
  | subtractFrom => some (if a < b then 1 else 0)
  | shiftRight => some (a % 2)
  | shiftLeft => some (a / 128)

/-- What the result `v` of an operation on `a` and `b` satisfies, with the flag `f`. -/
def Law (op : AluOp) (a b v f : Nat) : Prop :=
  match op with
  | set => v = b
  | or => v = a ||| b
  | and => v = a &&& b
  | xor => v = a ^^^ b
  | add => v + 256 * f = a + b
  | subtract => (v : Int) = a - b + 256 * (if a < b then 1 else 0)
  | subtractFrom => (v : Int) = b - a + 256 * (if b < a then 1 else 0)
  | shiftRight => 2 * v + f = a
  | shiftLeft => v + 256 * f = 2 * a

variable (op : AluOp) (a b : UInt8)

theorem toNat_shiftRight_one : (a >>> 1).toNat = a.toNat / 2 := by
  rw [UInt8.toNat_shiftRight]
  exact Nat.shiftRight_eq_div_pow a.toNat 1

theorem toNat_shiftRight_seven : (a >>> 7).toNat = a.toNat / 128 := by
  rw [UInt8.toNat_shiftRight]
  exact Nat.shiftRight_eq_div_pow a.toNat 7

theorem toNat_shiftLeft_one : (a <<< 1).toNat = 2 * a.toNat % 256 := by
  rw [UInt8.toNat_shiftLeft]
  show a.toNat <<< 1 % 256 = _
  rw [Nat.shiftLeft_eq, Nat.mul_comm]

theorem toNat_and_one : (a &&& 1).toNat = a.toNat % 2 := by
  rw [UInt8.toNat_and]
  exact Nat.and_two_pow_sub_one_eq_mod a.toNat 1

theorem flag_apply :
    (op.apply a b).2.map (fun f => (flagByte f).toNat) = op.flag? a.toNat b.toNat := by
  have ha := a.toNat_lt
  cases op with
  | set | or | and | xor => rfl
  | add | subtract | subtractFrom =>
    simp only [apply, flag?, Option.map_some, flagByte_toNat, decide_eq_true_eq,
      UInt8.lt_iff_toNat_lt]
  | shiftRight =>
    have hlow := toNat_and_one a
    simp only [apply, flag?, Option.map_some, flagByte_toNat, beq_iff_eq, ← UInt8.toNat_inj, hlow,
      Option.some.injEq]
    show (if a.toNat % 2 = 1 then 1 else 0) = a.toNat % 2
    split <;> omega
  | shiftLeft =>
    have hhigh := toNat_shiftRight_seven a
    simp only [apply, flag?, Option.map_some, flagByte_toNat, beq_iff_eq, ← UInt8.toNat_inj, hhigh,
      Option.some.injEq]
    show (if a.toNat / 128 = 1 then 1 else 0) = a.toNat / 128
    split <;> omega

theorem law_apply {f : Nat} (h : ∀ g ∈ op.flag? a.toNat b.toNat, g = f) :
    op.Law a.toNat b.toNat (op.apply a b).1.toNat f := by
  have ha := a.toNat_lt
  have hb := b.toNat_lt
  cases op with
  | set => rfl
  | or => exact UInt8.toNat_or a b
  | and => exact UInt8.toNat_and a b
  | xor => exact UInt8.toNat_xor a b
  | add =>
    have hf := h _ rfl
    show (a + b).toNat + 256 * f = a.toNat + b.toNat
    rw [UInt8.toNat_add, ← hf]
    split <;> omega
  | subtract =>
    show ((a - b).toNat : Int) = _
    rw [UInt8.toNat_sub]
    split <;> omega
  | subtractFrom =>
    show ((b - a).toNat : Int) = _
    rw [UInt8.toNat_sub]
    split <;> omega
  | shiftRight =>
    have hf := h _ rfl
    show 2 * (a >>> 1).toNat + f = a.toNat
    rw [toNat_shiftRight_one, ← hf]
    omega
  | shiftLeft =>
    have hf := h _ rfl
    show (a <<< 1).toNat + 256 * f = 2 * a.toNat
    rw [toNat_shiftLeft_one, ← hf]
    omega

theorem flag?_le_one {op : AluOp} {a b : UInt8} {f : Nat}
    (h : op.flag? a.toNat b.toNat = some f) : f ≤ 1 := by
  rw [← flag_apply] at h
  obtain ⟨g, -, rfl⟩ := Option.map_eq_some_iff.1 h
  cases g <;> decide

end AluOp

/-! ## The registers -/

namespace Machine

variable {m : Machine} {op : AluOp} {x y z : Nibble}

theorem reg_combine_flag {f : Nat}
    (h : op.flag? (m.reg x).toNat (m.reg y).toNat = some f) :
    ((m.combine op x y).reg flagRegister).toNat = f := by
  rw [← AluOp.flag_apply] at h
  obtain ⟨g, hg, rfl⟩ := Option.map_eq_some_iff.1 h
  simp only [combine, hg, reg_setReg, if_true]

theorem reg_combine_result
    (h : x ≠ flagRegister ∨ op.flag? (m.reg x).toNat (m.reg y).toNat = none) :
    (m.combine op x y).reg x = (op.apply (m.reg x) (m.reg y)).1 := by
  rw [← AluOp.flag_apply, Option.map_eq_none_iff] at h
  unfold combine
  dsimp only
  split
  · rw [reg_setReg, if_pos rfl]
  · next hg =>
    -- The flag is written last; it spares VX only where VX is not VF.
    have hx : flagRegister ≠ x := by
      rcases h with hx | hnone
      · exact hx.symm
      · rw [hg] at hnone
        cases hnone
    rw [reg_setReg, if_neg hx, reg_setReg, if_pos rfl]

theorem reg_combine_other (hx : z ≠ x)
    (hf : z = flagRegister → op.flag? (m.reg x).toNat (m.reg y).toNat = none) :
    (m.combine op x y).reg z = m.reg z := by
  rw [← AluOp.flag_apply, Option.map_eq_none_iff] at hf
  unfold combine
  dsimp only
  split
  · rw [reg_setReg, if_neg hx.symm]
  · next hg =>
    have hz : flagRegister ≠ z := by
      rintro rfl
      rw [hf rfl] at hg
      cases hg
    rw [reg_setReg, if_neg hz, reg_setReg, if_neg hx.symm]

/-- What an operation on VX and VY leaves: the flag in VF, the result in VX unless the flag
    went there, and everything else as it was. -/
structure Combined (m : Machine) (op : AluOp) (x y : Nibble) (t : Machine) : Prop where
  flag : ∀ f, op.flag? (m.reg x).toNat (m.reg y).toNat = some f →
    (t.reg flagRegister).toNat = f ∧ f ≤ 1
  result : x ≠ flagRegister ∨ op.flag? (m.reg x).toNat (m.reg y).toNat = none →
    op.Law (m.reg x).toNat (m.reg y).toNat (t.reg x).toNat (t.reg flagRegister).toNat
  others : ∀ z, z ≠ x →
    (z = flagRegister → op.flag? (m.reg x).toNat (m.reg y).toNat = none) → t.reg z = m.reg z
  rest : t = { m with registers := t.registers, pc := t.pc }
  pc : t.pc.toNat = m.pc.toNat + 2

theorem combine_pc (m : Machine) (op : AluOp) (x y : Nibble) : (m.combine op x y).pc = m.pc := by
  rw [combine_eq]

theorem combined (hpc : m.pc.toNat + 2 < 65536) (op : AluOp) (x y : Nibble) :
    Combined m op x y { m.combine op x y with pc := UInt16.ofNat (m.pc.toNat + 2) } where
  flag := fun f hf => ⟨reg_combine_flag hf, AluOp.flag?_le_one hf⟩
  result := by
    intro h
    have hresult := reg_combine_result h
    show op.Law _ _ ((m.combine op x y).reg x).toNat ((m.combine op x y).reg flagRegister).toNat
    rw [hresult]
    exact AluOp.law_apply _ _ _ fun g hg => (reg_combine_flag hg).symm
  others := fun z hx hf => reg_combine_other hx hf
  rest := congrArg (fun u : Machine => { u with pc := UInt16.ofNat (m.pc.toNat + 2) })
    (combine_eq m op x y)
  pc := UInt16.toNat_ofNat_of_lt' hpc

/-- **Arithmetic with any registers**: an instruction `8XYN` with room behind it succeeds,
    reads both operands first and writes the flag last. -/
theorem alu_aliased {m : Machine} {w : Int} {op : AluOp} (hpc : m.pc.toNat ≤ 65533)
    (hfamily : (Instruction.ofInt w).family.val = 0x8)
    (hcode : (Instruction.ofInt w).n.val = op.code) :
    ∃ t, m.exec (.ofInt w) = .ok t ∧
      Combined m op (Instruction.ofInt w).x (Instruction.ofInt w).y t := by
  generalize Instruction.ofInt w = i at hfamily hcode
  have ho : i.opcode? = some (.alu op) := opcode?_eq_some_iff_hasForm.2 ⟨hfamily, hcode⟩
  have hlt : m.pc.toNat + 2 < 65536 := by omega
  refine ⟨_, ?_, combined hlt op i.x i.y⟩
  rw [exec_of_opcode ho, ← combine_pc m op i.x i.y]
  refine advance_of_lt ?_
  rwa [combine_pc]

/-- VF added to itself at the last address that has room behind it: it holds the carry, not
    the sum. -/
theorem carry_over_sum : ∃ m t : Machine, m.pc = 0xFFFD ∧ m.reg 0xF = 200 ∧
    m.exec (.ofInt (0x8FF4 - 65536)) = .ok t ∧ t.reg 0xF = 1 ∧ t.pc = 0xFFFF ∧
    ∀ z, z ≠ 0xF → t.reg z = m.reg z := by
  obtain ⟨m, hm⟩ : ∃ m : Machine, m = { initial (.ofSeed 0) with pc := 0xFFFD }.setReg 0xF 200 :=
    ⟨_, rfl⟩
  have hpc : m.pc = 0xFFFD := by rw [hm]; rfl
  have hreg : m.reg 0xF = 200 := by rw [hm]; decide +kernel
  have hroom : m.pc.toNat ≤ 65533 := by rw [hpc]; decide
  obtain ⟨t, ht, hcombined⟩ :=
    @alu_aliased m (0x8FF4 - 65536) .add hroom (by decide) (by decide)
  have hx : (Instruction.ofInt (0x8FF4 - 65536)).x = 0xF := by decide
  have hy : (Instruction.ofInt (0x8FF4 - 65536)).y = 0xF := by decide
  rw [hx, hy] at hcombined
  have hcarry : AluOp.add.flag? (m.reg 0xF).toNat (m.reg 0xF).toNat = some 1 := by
    rw [hreg]
    decide
  have htpc := hcombined.pc
  rw [hpc] at htpc
  refine ⟨m, t, hpc, hreg, ht, UInt8.toNat_inj.1 (hcombined.flag 1 hcarry).1,
    UInt16.toNat_inj.1 htpc, fun z hz => hcombined.others z hz fun hflag => absurd hflag hz⟩

end Machine

end Chip8
