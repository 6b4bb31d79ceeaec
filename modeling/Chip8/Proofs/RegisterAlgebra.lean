/-
  Laws of arithmetic words in a row.

  * `Instruction.isArithmetic` are the words that work on registers alone, and `computed`
    is the machine behind one; `execAll_arithmetic`: with room behind it a row of them
    succeeds and leaves what they compute one after another;
  * `reg_combine`: an operation puts its result into VX and spares every register but VF;
  * `AluOp.Undoes` relates an operation to one that takes it back (`reg_undone`);
  * `arithmetic_in_a_row`: which rows restore registers, swap them, or do the work of a
    single word.
-/
import Chip8.Proofs.Arithmetic

namespace Chip8

open Instruction (opcode?_eq_some_iff_hasForm ofDigits ofByte)

/-! ## Operations on bytes -/

namespace AluOp

variable (a b : UInt8)

/-- Whether an operation takes back what another did to VX. -/
def Undoes (undo op : AluOp) : Prop :=
  ∀ a b : UInt8, (undo.apply (op.apply a b).1 b).1 = a

theorem subtract_undoes_add : subtract.Undoes add := by
  intro a b
  show a + b - b = a
  exact UInt8.add_sub_cancel a b

theorem add_undoes_subtract : add.Undoes subtract := by
  intro a b
  show a - b + b = a
  exact UInt8.sub_add_cancel a b

theorem subtractFrom_undoes_itself : subtractFrom.Undoes subtractFrom := by
  intro a b
  show b - (b - a) = a
  have ha := a.toNat_lt
  have hb := b.toNat_lt
  refine UInt8.toNat_inj.1 ?_
  rw [UInt8.toNat_sub, UInt8.toNat_sub]
  omega

/-- A byte added to itself is shifted, and its carry is the bit that is shifted out. -/
theorem apply_add_self : add.apply a a = shiftLeft.apply a b := by
  have hresult : a + a = a <<< 1 := by
    refine UInt8.toNat_inj.1 ?_
    rw [UInt8.toNat_add, toNat_shiftLeft_one, Nat.two_mul]
  have hflag : 255 < a.toNat + a.toNat ↔ (a >>> 7 == 1) = true := by
    have ha := a.toNat_lt
    have hhigh := toNat_shiftRight_seven a
    rw [beq_iff_eq, ← UInt8.toNat_inj, hhigh]
    show 255 < a.toNat + a.toNat ↔ a.toNat / 128 = 1
    omega
  simp only [apply, hresult, hflag, Bool.decide_eq_true]

end AluOp

/-! ## Words that work on registers alone -/

/-- Whether a word works on registers alone. -/
def Instruction.isArithmetic (i : Instruction) : Bool :=
  match i.opcode? with
  | some .setByte | some .addByte | some (.alu _) => true
  | _ => false

namespace Machine

variable {m : Machine} {i j : Instruction} {op undo : AluOp} {x y z : Nibble}

/-- The machine behind a word that works on registers alone. -/
def computed (m : Machine) (i : Instruction) : Machine :=
  { m with registers := m.nextRegisters i, pc := UInt16.ofNat (m.pc.toNat + 2) }

theorem pc_computed (h : m.pc.toNat + 2 < 65536) : (m.computed i).pc.toNat = m.pc.toNat + 2 :=
  UInt16.toNat_ofNat_of_lt' h

theorem exec_arithmetic (hi : i.isArithmetic = true) (hpc : m.pc.toNat + 2 < 65536) :
    m.exec i = .ok (m.computed i) := by
  unfold Instruction.isArithmetic at hi
  split at hi
  · next ho =>
    rw [exec_of_opcode ho, computed, nextRegisters, ho]
    exact advance_of_lt hpc
  · next ho =>
    rw [exec_of_opcode ho, computed, nextRegisters, ho]
    exact advance_of_lt hpc
  · next op ho =>
    rw [exec_of_opcode ho, computed, nextRegisters, ho]
    show (m.combine op i.x i.y).advance = _
    rw [combine_eq]
    exact advance_of_lt hpc
  · cases hi

/-- A row of words that work on registers alone succeeds where it has room. -/
theorem execAll_arithmetic {is : List Instruction} (hi : ∀ i ∈ is, i.isArithmetic = true)
    (hpc : m.pc.toNat + 2 * is.length ≤ 65535) : m.execAll is = .ok (is.foldl computed m) := by
  induction is generalizing m with
  | nil => rfl
  | cons i is ih =>
    obtain ⟨hfirst, hrest⟩ := List.forall_mem_cons.1 hi
    rw [List.length_cons] at hpc
    have hnext : m.pc.toNat + 2 < 65536 := by omega
    rw [execAll, exec_arithmetic hfirst hnext]
    refine ih hrest ?_
    rw [pc_computed hnext]
    omega

theorem isArithmetic_alu (h : (Opcode.alu op).hasForm i) : i.isArithmetic = true := by
  simp only [Instruction.isArithmetic, opcode?_eq_some_iff_hasForm.2 h]

theorem isArithmetic_addByte (h : Opcode.addByte.hasForm i) : i.isArithmetic = true := by
  simp only [Instruction.isArithmetic, opcode?_eq_some_iff_hasForm.2 h]

/-! ## What they compute -/

/-- An operation puts its result into VX, unless its flag goes there, and spares the other
    registers, VF only if it has no flag. -/
theorem reg_combine
    (h : x ≠ flagRegister ∧ z ≠ flagRegister ∨
      op.flag? (m.reg x).toNat (m.reg y).toNat = none) :
    (m.combine op x y).reg z =
      if z = x then (op.apply (m.reg x) (m.reg y)).1 else m.reg z := by
  split
  · next hz =>
    rw [hz]
    exact reg_combine_result (h.imp_left And.left)
  · next hz =>
    refine reg_combine_other hz fun hflag => ?_
    exact h.resolve_left fun hne => hne.2 hflag

theorem reg_computed_alu (hi : (Opcode.alu op).hasForm i) :
    (m.computed i).reg z = (m.combine op i.x i.y).reg z := by
  have ho := opcode?_eq_some_iff_hasForm.2 hi
  simp only [computed, nextRegisters, ho, reg]

theorem reg_computed_addByte (hi : Opcode.addByte.hasForm i) :
    (m.computed i).reg z = if i.x = z then m.reg i.x + i.nn else m.reg z := by
  have ho := opcode?_eq_some_iff_hasForm.2 hi
  rw [← reg_setReg]
  simp only [computed, nextRegisters, ho, reg, setReg]

/-- An operation on VX and VY and then one that takes it back restore every register but
    VF, as long as the flag of the first clobbers neither operand. -/
theorem reg_undone (hi : (Opcode.alu op).hasForm i) (hj : (Opcode.alu undo).hasForm j)
    (hx : j.x = i.x) (hy : j.y = i.y) (hundo : undo.Undoes op) (hxy : i.x ≠ i.y)
    (hxf : i.x ≠ flagRegister) (hyf : i.y ≠ flagRegister) (hz : z ≠ flagRegister) :
    ((m.computed i).computed j).reg z = m.reg z := by
  have hfirst : ∀ r, r ≠ flagRegister → (m.computed i).reg r =
      if r = i.x then (op.apply (m.reg i.x) (m.reg i.y)).1 else m.reg r := by
    intro r hr
    rw [reg_computed_alu hi, reg_combine (.inl ⟨hxf, hr⟩)]
  rw [reg_computed_alu hj, hx, hy, reg_combine (.inl ⟨hxf, hz⟩), hfirst z hz, hfirst i.x hxf,
    hfirst i.y hyf, if_pos rfl, if_neg hxy.symm]
  split
  · next hzx =>
    rw [hzx]
    exact hundo _ _
  · rfl

theorem reg_computed_xor (hi : (Opcode.alu .xor).hasForm i) :
    (m.computed i).reg z = if z = i.x then m.reg i.x ^^^ m.reg i.y else m.reg z := by
  rw [reg_computed_alu hi]
  exact reg_combine (.inr rfl)

/-! ## Words in a row -/

theorem hasForm_alu {n : Nibble} (h : n.val = op.code) :
    (Opcode.alu op).hasForm (ofDigits 0x8 x y n) := by
  refine ⟨congrArg Fin.val (Instruction.family_ofDigits 0x8 x y n), ?_⟩
  rw [Instruction.n_ofDigits]
  exact h

theorem hasForm_addByte (x : Nibble) (b : UInt8) : Opcode.addByte.hasForm (ofByte 0x7 x b) :=
  congrArg Fin.val (Instruction.family_ofByte 0x7 x b)

/-- An operation and then one that takes it back. -/
theorem execAll_undone {n k : Nibble} (hundo : undo.Undoes op) (hop : n.val = op.code)
    (hcode : k.val = undo.code) (hpc : m.pc.toNat + 4 ≤ 65535) (hxy : x ≠ y)
    (hx : x ≠ flagRegister) (hy : y ≠ flagRegister) :
    ∃ t, m.execAll [ofDigits 0x8 x y n, ofDigits 0x8 x y k] = .ok t ∧
      ∀ z, z ≠ flagRegister → t.reg z = m.reg z := by
  have hi := hasForm_alu (x := x) (y := y) hop
  have hj := hasForm_alu (x := x) (y := y) hcode
  have hboth : ∀ i ∈ [ofDigits 0x8 x y n, ofDigits 0x8 x y k], i.isArithmetic = true := by
    simp only [List.forall_mem_cons]
    exact ⟨isArithmetic_alu hi, isArithmetic_alu hj, nofun⟩
  refine ⟨_, execAll_arithmetic hboth hpc, fun z hz => ?_⟩
  refine reg_undone hi hj ?_ ?_ hundo ?_ ?_ ?_ hz
  all_goals simp only [Instruction.x_ofDigits, Instruction.y_ofDigits]
  all_goals assumption

/-- Three times XOR, the second time into VY. -/
theorem execAll_swap (hpc : m.pc.toNat + 6 ≤ 65535) (hxy : x ≠ y) :
    ∃ t, m.execAll [ofDigits 0x8 x y 3, ofDigits 0x8 y x 3, ofDigits 0x8 x y 3] = .ok t ∧
      t.reg x = m.reg y ∧ t.reg y = m.reg x ∧
      ∀ z, z ≠ x → z ≠ y → t.reg z = m.reg z := by
  have hform : ∀ x y, (Opcode.alu .xor).hasForm (ofDigits 0x8 x y 3) := fun x y => hasForm_alu rfl
  have hall : ∀ i ∈ [ofDigits 0x8 x y 3, ofDigits 0x8 y x 3, ofDigits 0x8 x y 3],
      i.isArithmetic = true := by
    simp only [List.forall_mem_cons]
    exact ⟨isArithmetic_alu (hform x y), isArithmetic_alu (hform y x),
      isArithmetic_alu (hform x y), nofun⟩
  refine ⟨_, execAll_arithmetic hall hpc, ?_⟩
  have hreg : ∀ (m : Machine) (x y z : Nibble), (m.computed (ofDigits 0x8 x y 3)).reg z =
      if z = x then m.reg x ^^^ m.reg y else m.reg z := by
    intro m x y z
    rw [reg_computed_xor (hform x y), Instruction.x_ofDigits, Instruction.y_ofDigits]
  have hback : m.reg y ^^^ (m.reg x ^^^ m.reg y) = m.reg x := by
    rw [UInt8.xor_comm (m.reg x), ← UInt8.xor_assoc, UInt8.xor_self, UInt8.zero_xor]
  have hover : m.reg x ^^^ m.reg y ^^^ m.reg x = m.reg y := by
    rw [UInt8.xor_comm (m.reg x), UInt8.xor_assoc, UInt8.xor_self, UInt8.xor_zero]
  simp only [List.foldl_cons, List.foldl_nil]
  refine ⟨?_, ?_, fun z hx hy => ?_⟩
  · simp only [hreg, if_true, if_neg hxy, if_neg hxy.symm, hback, hover]
  · simp only [hreg, if_true, if_neg hxy.symm, hback]
  · simp only [hreg, if_neg hx, if_neg hy]

/-- Adding a register to itself is shifting it, in all that happens. -/
theorem exec_add_self (m : Machine) (x y : Nibble) :
    m.exec (ofDigits 0x8 x x 4) = m.exec (ofDigits 0x8 x y 0xE) := by
  have hadd : (Opcode.alu .add).hasForm (ofDigits 0x8 x x 4) := hasForm_alu rfl
  have hshift : (Opcode.alu .shiftLeft).hasForm (ofDigits 0x8 x y 0xE) := hasForm_alu rfl
  rw [exec_of_opcode (opcode?_eq_some_iff_hasForm.2 hadd),
    exec_of_opcode (opcode?_eq_some_iff_hasForm.2 hshift)]
  simp only [perform, combine, Instruction.x_ofDigits, Instruction.y_ofDigits,
    AluOp.apply_add_self (m.reg x) (m.reg y)]

/-- Two additions of bytes do the work of one. -/
theorem execAll_addByte (hpc : m.pc.toNat + 4 ≤ 65535) (x : Nibble) (a b : UInt8) :
    ∃ t u, m.execAll [ofByte 0x7 x a, ofByte 0x7 x b] = .ok t ∧
      m.exec (ofByte 0x7 x (a + b)) = .ok u ∧ (∀ z, t.reg z = u.reg z) ∧
      (x ≠ flagRegister → t.reg flagRegister = m.reg flagRegister) := by
  have hall : ∀ i ∈ [ofByte 0x7 x a, ofByte 0x7 x b], i.isArithmetic = true := by
    simp only [List.forall_mem_cons]
    exact ⟨isArithmetic_addByte (hasForm_addByte x a), isArithmetic_addByte (hasForm_addByte x b),
      nofun⟩
  have hreg : ∀ (m : Machine) (b : UInt8) (z : Nibble), (m.computed (ofByte 0x7 x b)).reg z =
      if x = z then m.reg x + b else m.reg z := by
    intro m b z
    rw [reg_computed_addByte (hasForm_addByte x b), Instruction.x_ofByte, Instruction.nn_ofByte]
  have hroom : m.pc.toNat + 2 < 65536 := by omega
  refine ⟨_, _, execAll_arithmetic hall hpc,
    exec_arithmetic (isArithmetic_addByte (hasForm_addByte x (a + b))) hroom, ?_, ?_⟩
  · intro z
    simp only [List.foldl_cons, List.foldl_nil, hreg, if_true, UInt8.add_assoc]
    split <;> rfl
  · intro hx
    simp only [List.foldl_cons, List.foldl_nil, hreg, if_neg hx]

/-- **Laws of arithmetic words in a row.**  Where neither register is VF, sums and differences
    are taken back by each other and a reversed difference by itself, up to VF; three times
    XOR swaps any two registers and touches no other; any register added to itself is
    shifted, whatever else the machine holds; and two bytes are added to any register as
    their sum is. -/
theorem arithmetic_in_a_row (m : Machine) (x y : Nibble) :
    (m.pc.toNat + 4 ≤ 65535 → x ≠ y → x ≠ flagRegister → y ≠ flagRegister →
      ∀ is ∈ [[ofDigits 0x8 x y 4, ofDigits 0x8 x y 5], [ofDigits 0x8 x y 5, ofDigits 0x8 x y 4],
          [ofDigits 0x8 x y 7, ofDigits 0x8 x y 7]],
        ∃ t, m.execAll is = .ok t ∧ ∀ z, z ≠ flagRegister → t.reg z = m.reg z) ∧
    (m.pc.toNat + 6 ≤ 65535 → x ≠ y →
      ∃ t, m.execAll [ofDigits 0x8 x y 3, ofDigits 0x8 y x 3, ofDigits 0x8 x y 3] = .ok t ∧
        t.reg x = m.reg y ∧ t.reg y = m.reg x ∧
        ∀ z, z ≠ x → z ≠ y → t.reg z = m.reg z) ∧
    m.exec (ofDigits 0x8 x x 4) = m.exec (ofDigits 0x8 x y 0xE) ∧
    (m.pc.toNat + 2 ≤ 65535 → ∃ t, m.exec (ofDigits 0x8 x y 0xE) = .ok t) ∧
    (m.pc.toNat + 4 ≤ 65535 → ∀ a b : UInt8,
      ∃ t u, m.execAll [ofByte 0x7 x a, ofByte 0x7 x b] = .ok t ∧
        m.exec (ofByte 0x7 x (a + b)) = .ok u ∧ (∀ z, t.reg z = u.reg z) ∧
        (x ≠ flagRegister → t.reg flagRegister = m.reg flagRegister)) := by
  refine ⟨fun hpc hxy hx hy => ?_, execAll_swap, exec_add_self m x y, fun hpc => ?_,
    fun hpc a b => execAll_addByte hpc x a b⟩
  · simp only [List.forall_mem_cons]
    exact ⟨execAll_undone AluOp.subtract_undoes_add rfl rfl hpc hxy hx hy,
      execAll_undone AluOp.add_undoes_subtract rfl rfl hpc hxy hx hy,
      execAll_undone AluOp.subtractFrom_undoes_itself rfl rfl hpc hxy hx hy, nofun⟩
  · have hshift : (Opcode.alu .shiftLeft).hasForm (ofDigits 0x8 x y 0xE) := hasForm_alu rfl
    exact ⟨_, exec_arithmetic (isArithmetic_alu hshift) (Nat.lt_succ_of_le hpc)⟩

/-- VF as one of the registers that are swapped, and as the one to which bytes are added, at
    the last address that leaves room for three words. -/
theorem flag_register_swapped : ∃ m t u v w : Machine, m.pc = 0xFFF9 ∧ m.reg 1 = 200 ∧
    m.reg 0xF = 100 ∧
    m.execAll [ofDigits 0x8 1 2 7, ofDigits 0x8 1 2 7] = .ok t ∧ t.reg 1 = 200 ∧
    m.execAll [ofDigits 0x8 1 0xF 3, ofDigits 0x8 0xF 1 3, ofDigits 0x8 1 0xF 3] = .ok u ∧
    u.reg 1 = 100 ∧ u.reg 0xF = 200 ∧
    m.execAll [ofByte 0x7 0xF 200, ofByte 0x7 0xF 100] = .ok v ∧
    m.exec (ofByte 0x7 0xF (200 + 100)) = .ok w ∧ v.reg 0xF = w.reg 0xF := by
  obtain ⟨m, hm⟩ : ∃ m : Machine,
      m = ({ initial (.ofSeed 0) with pc := 0xFFF9 }.setReg 1 200).setReg 0xF 100 := ⟨_, rfl⟩
  have hpc : m.pc.toNat = 65529 := by rw [hm]; rfl
  have h1 : m.reg 1 = 200 := by rw [hm, reg_setReg, if_neg (by decide), reg_setReg, if_pos rfl]
  have hF : m.reg 0xF = 100 := by rw [hm, reg_setReg, if_pos rfl]
  obtain ⟨hrestores, -⟩ := arithmetic_in_a_row m 1 2
  obtain ⟨t, ht, hback⟩ := hrestores (by omega) (by decide) (by decide) (by decide)
    [ofDigits 0x8 1 2 7, ofDigits 0x8 1 2 7] (by simp)
  obtain ⟨-, hswaps, -⟩ := arithmetic_in_a_row m 1 0xF
  obtain ⟨u, hu, hu1, huF, -⟩ := hswaps (by omega) (by decide)
  obtain ⟨-, -, -, -, hadds⟩ := arithmetic_in_a_row m 0xF 1
  obtain ⟨v, w, hv, hw, hvw, -⟩ := hadds (by omega) 200 100
  exact ⟨m, t, u, v, w, UInt16.toNat_inj.1 hpc, h1, hF, ht, (hback 1 (by decide)).trans h1, hu,
    hu1.trans hF, huF.trans h1, hv, hw, hvw 0xF⟩

end Machine

end Chip8
