/-
  What an instruction changes.

  * `stored` are the bytes that an instruction puts into memory from the index on;
    they are `storeCount` many, and every other byte is kept (`byte_nextMemory`);
  * `nextRegisters_ne`, `nextIndex_ne`, …: a field that changes gives away the form
    of the word;
  * `Changes` collects these for all fields, and `exec_changes` says that an
    instruction that succeeds changes nothing else.
-/
import Chip8.Proofs.Effect

namespace Chip8

open Instruction (opcode?_eq_some_iff_hasForm opcode?_eq_call_iff opcode?_eq_ret_iff)

/-! ## Memory -/

/-- The number of bytes that a word stores from the index on. -/
def Instruction.storeCount (i : Instruction) : Nat :=
  match i.opcode? with
  | some .decimal => 3
  | some .dump => i.x.val + 1
  | _ => 0

namespace Machine

/-- The bytes that an instruction stores from the index on. -/
def stored (m : Machine) (i : Instruction) : List UInt8 :=
  match i.opcode? with
  | some .decimal => decimalDigits (m.reg i.x)
  | some .dump => m.registersTo i.x
  | _ => []

variable {m : Machine} {i : Instruction}

theorem registersTo_length (m : Machine) (x : Nibble) : (m.registersTo x).length = x.val + 1 := by
  simp only [registersTo, List.length_take, Vector.length_toList]
  omega

theorem stored_length (m : Machine) (i : Instruction) : (m.stored i).length = i.storeCount := by
  unfold stored Instruction.storeCount
  rcases i.opcode? with _ | op
  · rfl
  cases op with
  | dump => exact registersTo_length m i.x
  | _ => rfl

theorem nextMemory_eq_write (m : Machine) (i : Instruction) :
    m.nextMemory i = m.memory.write m.index.toNat (m.stored i) := by
  unfold nextMemory stored
  rcases i.opcode? with _ | op
  · rfl
  cases op <;> rfl

/-- The bytes of memory behind an instruction. -/
theorem byte_nextMemory (m : Machine) (i : Instruction) (a : Nat) :
    (m.nextMemory i).byte a =
      if m.index.toNat ≤ a ∧ a < 4096 then
        (m.stored i)[a - m.index.toNat]?.getD (m.memory.byte a)
      else m.memory.byte a := by
  rw [nextMemory_eq_write, Memory.byte_write]

/-- A byte that changes is one of those stored. -/
theorem nextMemory_ne {a : Nat} (h : (m.nextMemory i).byte a ≠ m.memory.byte a) :
    m.index.toNat ≤ a ∧ a < m.index.toNat + i.storeCount := by
  rw [byte_nextMemory] at h
  split at h
  · next ha =>
    refine ⟨ha.1, Nat.lt_of_not_le fun hle => h ?_⟩
    have hout : (m.stored i).length ≤ a - m.index.toNat := by
      rw [stored_length]
      omega
    rw [List.getElem?_eq_none hout]
    rfl
  · exact absurd rfl h

/-- The forms of the words that change a byte. -/
theorem nextMemory_form {a : Nat} (h : (m.nextMemory i).byte a ≠ m.memory.byte a) :
    i.family.val = 0xF ∧ i.nn.toNat = 0x33 ∧ m.index.toNat ≤ a ∧ a < m.index.toNat + 3 ∨
      i.family.val = 0xF ∧ i.nn.toNat = 0x55 ∧
        m.index.toNat ≤ a ∧ a < m.index.toNat + (i.x.val + 1) := by
  obtain ⟨hle, hlt⟩ := nextMemory_ne h
  unfold Instruction.storeCount at hlt
  split at hlt
  · next ho =>
    obtain ⟨hf, hn⟩ := opcode?_eq_some_iff_hasForm.1 ho
    exact .inl ⟨hf, hn, hle, hlt⟩
  · next ho =>
    obtain ⟨hf, hn⟩ := opcode?_eq_some_iff_hasForm.1 ho
    exact .inr ⟨hf, hn, hle, hlt⟩
  · omega

/-! ## Registers -/

theorem reg_setReg (m : Machine) (r z : Nibble) (v : UInt8) :
    (m.setReg r v).reg z = if r = z then v else m.reg z := by
  simp only [reg, setReg, Fin.getElem_fin, Vector.getElem_set, Fin.ext_iff]

theorem reg_setReg_ne {r z : Nibble} {v : UInt8} (h : (m.setReg r v).reg z ≠ m.reg z) : z = r := by
  rw [reg_setReg] at h
  split at h
  · next hr => exact hr.symm
  · exact absurd rfl h

/-- An operation on two registers changes the first of them, and some change VF. -/
theorem combine_ne {op : AluOp} {x y z : Nibble} (h : (m.combine op x y).reg z ≠ m.reg z) :
    z = x ∨ z = flagRegister ∧ (4 ≤ op.code ∧ op.code ≤ 7 ∨ op.code = 0xE) := by
  by_cases hx : z = x
  · exact .inl hx
  have hkeep : ∀ v, (m.setReg x v).reg z = m.reg z := by
    intro v
    rw [reg_setReg, if_neg (Ne.symm hx)]
  refine .inr ?_
  cases op with
  | set | or | and | xor => exact absurd (hkeep _) h
  | add | subtract | shiftRight | subtractFrom | shiftLeft =>
    refine ⟨Decidable.byContradiction fun hz => h ?_, by decide⟩
    show ((m.setReg x _).setReg flagRegister _).reg z = m.reg z
    rw [reg_setReg, if_neg (Ne.symm hz), hkeep]

/-- A register that changes is VX or VF, or one of V0 to VX. -/
theorem nextRegisters_ne {z : Nibble} (h : (m.effect i).reg z ≠ m.reg z) :
    (z = i.x ∧ (i.family.val = 0x6 ∨ i.family.val = 0x7 ∨
      i.family.val = 0x8 ∧ (i.n.val ≤ 7 ∨ i.n.val = 0xE) ∨ i.family.val = 0xC ∨
      i.family.val = 0xF ∧ i.nn.toNat = 0x07 ∨
      i.family.val = 0xF ∧ i.nn.toNat = 0x0A ∧ ∃ k : Nibble, m.keypad[k] = true)) ∨
    (z = flagRegister ∧ (i.family.val = 0x8 ∧ (4 ≤ i.n.val ∧ i.n.val ≤ 7 ∨ i.n.val = 0xE) ∨
      i.family.val = 0xD)) ∨
    (z ≤ i.x ∧ i.family.val = 0xF ∧ i.nn.toNat = 0x65) := by
  change (m.nextRegisters i)[z] ≠ m.reg z at h
  unfold nextRegisters at h
  split at h
  · next ho => exact .inl ⟨reg_setReg_ne h, .inl (opcode?_eq_some_iff_hasForm.1 ho)⟩
  · next ho => exact .inl ⟨reg_setReg_ne h, .inr (.inl (opcode?_eq_some_iff_hasForm.1 ho))⟩
  · next op ho =>
    obtain ⟨hf, hn⟩ := opcode?_eq_some_iff_hasForm.1 ho
    have hcode : op.code ≤ 7 ∨ op.code = 0xE := by cases op <;> decide
    rcases combine_ne h with hz | ⟨hz, hflag⟩
    · exact .inl ⟨hz, .inr (.inr (.inl ⟨hf, hn ▸ hcode⟩))⟩
    · exact .inr (.inl ⟨hz, .inl ⟨hf, hn ▸ hflag⟩⟩)
  · next ho =>
    exact .inl ⟨reg_setReg_ne h, .inr (.inr (.inr (.inl (opcode?_eq_some_iff_hasForm.1 ho))))⟩
  · next ho =>
    exact .inr (.inl ⟨reg_setReg_ne h, .inr (opcode?_eq_some_iff_hasForm.1 ho)⟩)
  · next ho =>
    exact .inl ⟨reg_setReg_ne h,
      .inr (.inr (.inr (.inr (.inl (opcode?_eq_some_iff_hasForm.1 ho)))))⟩
  · next ho =>
    split at h
    · exact absurd rfl h
    · next key hk =>
      obtain ⟨hf, hn⟩ := opcode?_eq_some_iff_hasForm.1 ho
      have hdown : ∃ k : Nibble, m.keypad[k] = true :=
        lowestKey?_isSome.1 (Option.isSome_iff_exists.2 ⟨key, hk⟩)
      exact .inl ⟨reg_setReg_ne h, .inr (.inr (.inr (.inr (.inr ⟨hf, hn, hdown⟩))))⟩
  · next ho =>
    refine .inr (.inr ⟨Decidable.byContradiction fun hz => h ?_,
      opcode?_eq_some_iff_hasForm.1 ho⟩)
    simp [loadRegisters, hz]
  · exact absurd rfl h

/-! ## The other fields -/

theorem nextDisplay_ne (h : m.nextDisplay i ≠ m.display) :
    i.raw.toNat = 0x00E0 ∨ i.family.val = 0xD :=
  Instruction.draws_iff.1 (Bool.of_not_eq_false fun hd => h (nextDisplay_of_not_draws hd))

theorem nextStack_ne (hg : m.guard i = .ok ()) (h : m.nextStack i ≠ m.stack) :
    i.family.val = 0x2 ∨ i.raw.toNat = 0x00EE := by
  rcases stack_cases hg with ⟨ho, -⟩ | ⟨ho, -⟩ | ⟨-, -, heq⟩
  · exact .inr (opcode?_eq_ret_iff.1 ho)
  · exact .inl (opcode?_eq_call_iff.1 ho)
  · exact absurd heq h

theorem nextIndex_ne (h : m.nextIndex i ≠ m.index) :
    i.family.val = 0xA ∨ i.family.val = 0xF ∧ (i.nn.toNat = 0x1E ∨ i.nn.toNat = 0x29) := by
  unfold nextIndex at h
  split at h
  · next ho => exact .inl (opcode?_eq_some_iff_hasForm.1 ho)
  · next ho =>
    obtain ⟨hf, hn⟩ := opcode?_eq_some_iff_hasForm.1 ho
    exact .inr ⟨hf, .inl hn⟩
  · next ho =>
    obtain ⟨hf, hn⟩ := opcode?_eq_some_iff_hasForm.1 ho
    exact .inr ⟨hf, .inr hn⟩
  · exact absurd rfl h

theorem nextDelay_ne (h : m.nextDelay i ≠ m.delay) : i.family.val = 0xF ∧ i.nn.toNat = 0x15 := by
  unfold nextDelay at h
  split at h
  · next ho => exact opcode?_eq_some_iff_hasForm.1 ho
  · exact absurd rfl h

theorem nextSound_ne (h : m.nextSound i ≠ m.sound) : i.family.val = 0xF ∧ i.nn.toNat = 0x18 := by
  unfold nextSound at h
  split at h
  · next ho => exact opcode?_eq_some_iff_hasForm.1 ho
  · exact absurd rfl h

theorem nextRng_ne (h : m.nextRng i ≠ m.rng) : i.family.val = 0xC := by
  unfold nextRng at h
  split at h
  · next ho => exact opcode?_eq_some_iff_hasForm.1 ho
  · exact absurd rfl h

/-- The flag of a pending drawing is raised by a drawing and never lowered. -/
theorem drawPending_effect (m : Machine) (i : Instruction) : (m.effect i).drawPending =
    if i.raw.toNat = 0x00E0 ∨ i.family.val = 0xD then true else m.drawPending := by
  show (m.drawPending || i.draws) = _
  by_cases hd : i.draws = true
  · rw [hd, if_pos (Instruction.draws_iff.1 hd), Bool.or_true]
  · rw [if_neg (mt Instruction.draws_iff.2 hd), Bool.of_not_eq_true hd, Bool.or_false]

/-! ## All fields -/

/-- What a successful instruction may change, field by field, and the forms of the
    words that change it. -/
structure Changes (m : Machine) (i : Instruction) (t : Machine) : Prop where
  memory : ∀ a, t.memory.byte a ≠ m.memory.byte a →
    i.family.val = 0xF ∧ i.nn.toNat = 0x33 ∧ m.index.toNat ≤ a ∧ a < m.index.toNat + 3 ∨
      i.family.val = 0xF ∧ i.nn.toNat = 0x55 ∧
        m.index.toNat ≤ a ∧ a < m.index.toNat + (i.x.val + 1)
  display : t.display ≠ m.display → i.raw.toNat = 0x00E0 ∨ i.family.val = 0xD
  drawPending : t.drawPending =
    if i.raw.toNat = 0x00E0 ∨ i.family.val = 0xD then true else m.drawPending
  stack : t.stack ≠ m.stack → i.family.val = 0x2 ∨ i.raw.toNat = 0x00EE
  index : t.index ≠ m.index → i.family.val = 0xA ∨
    i.family.val = 0xF ∧ (i.nn.toNat = 0x1E ∨ i.nn.toNat = 0x29)
  delay : t.delay ≠ m.delay → i.family.val = 0xF ∧ i.nn.toNat = 0x15
  sound : t.sound ≠ m.sound → i.family.val = 0xF ∧ i.nn.toNat = 0x18
  rng : t.rng ≠ m.rng → i.family.val = 0xC
  keypad : t.keypad = m.keypad
  lastWord : t.lastWord = m.lastWord
  registers : ∀ z, t.reg z ≠ m.reg z →
    (z = i.x ∧ (i.family.val = 0x6 ∨ i.family.val = 0x7 ∨
      i.family.val = 0x8 ∧ (i.n.val ≤ 7 ∨ i.n.val = 0xE) ∨ i.family.val = 0xC ∨
      i.family.val = 0xF ∧ i.nn.toNat = 0x07 ∨
      i.family.val = 0xF ∧ i.nn.toNat = 0x0A ∧ ∃ k : Nibble, m.keypad[k] = true)) ∨
    (z = flagRegister ∧ (i.family.val = 0x8 ∧ (4 ≤ i.n.val ∧ i.n.val ≤ 7 ∨ i.n.val = 0xE) ∨
      i.family.val = 0xD)) ∨
    (z ≤ i.x ∧ i.family.val = 0xF ∧ i.nn.toNat = 0x65)
  /-- a word that has the form of no operation moves the program counter only -/
  unnamed : (∀ op : Opcode, ¬ op.hasForm i) →
    t = { m with pc := t.pc } ∧ t.pc.toNat = m.pc.toNat + 2

/-- A word that has the form of no operation has no effect. -/
theorem effect_unnamed (ho : i.opcode? = none) : m.effect i = m := by
  simp only [effect, nextMemory, nextRegisters, nextIndex, nextStack, nextDelay, nextSound,
    nextDisplay, nextRng, Instruction.draws, ho, Bool.or_false]

/-- A word that has the form of no operation moves the program counter only. -/
theorem exec_unnamed {t : Machine} (h : m.exec i = .ok t) (hnone : ∀ op : Opcode, ¬ op.hasForm i) :
    t = { m with pc := t.pc } ∧ t.pc.toNat = m.pc.toNat + 2 := by
  have ho : i.opcode? = none := Option.eq_none_iff_forall_ne_some.2 fun op ho =>
    hnone op (opcode?_eq_some_iff_hasForm.1 ho)
  have hnext : m.nextPc i = m.pc.toNat + 2 := by
    simp only [nextPc, skips, ho, Bool.false_eq_true, if_false]
  obtain ⟨-, hpc, rfl⟩ := exec_eq_ok_iff.1 h
  rw [hnext] at hpc
  rw [hnext, effect_unnamed ho]
  refine ⟨rfl, ?_⟩
  simp only [UInt16.toNat_ofNat']
  omega

/-- **A successful instruction changes nothing but what its form allows.** -/
theorem exec_changes {m t : Machine} {w : Int} (h : m.exec (.ofInt w) = .ok t) :
    Changes m (.ofInt w) t := by
  generalize Instruction.ofInt w = i at h
  obtain ⟨hg, hpc, rfl⟩ := exec_eq_ok_iff.1 h
  exact {
    memory := fun _ => nextMemory_form
    display := nextDisplay_ne
    drawPending := drawPending_effect m i
    stack := nextStack_ne hg
    index := nextIndex_ne
    delay := nextDelay_ne
    sound := nextSound_ne
    rng := nextRng_ne
    keypad := rfl
    lastWord := rfl
    registers := fun _ => nextRegisters_ne
    unnamed := exec_unnamed h }

/-- Digits stored into the last three bytes of memory. -/
theorem decimal_changes : ∃ m t : Machine, m.index = 0xFFD ∧ m.reg 1 = 123 ∧
    m.exec (.ofInt (0xF133 - 65536)) = .ok t ∧ t.memory.read 0xFFD 3 = [1, 2, 3] ∧
      Changes m (.ofInt (0xF133 - 65536)) t := by
  obtain ⟨m, hm⟩ : ∃ m : Machine, m = { initial (.ofSeed 0) with index := 0xFFD }.setReg 1 123 :=
    ⟨_, rfl⟩
  have hindex : m.index = 0xFFD := by rw [hm]; rfl
  have hreg : m.reg 1 = 123 := by subst hm; decide +kernel
  have hrun : (m.exec (.ofInt (0xF133 - 65536))).toOption.isSome = true := by
    subst hm
    decide +kernel
  have hstored : m.stored (.ofInt (0xF133 - 65536)) = [1, 2, 3] := by
    subst hm
    decide +kernel
  obtain ⟨t, ht⟩ := Option.isSome_iff_exists.1 hrun
  have hok := toOption_eq_some.1 ht
  refine ⟨m, t, hindex, hreg, hok, ?_, exec_changes hok⟩
  obtain ⟨-, -, rfl⟩ := exec_eq_ok_iff.1 hok
  show (m.nextMemory (.ofInt (0xF133 - 65536))).read 0xFFD 3 = [1, 2, 3]
  simp only [Memory.read, byte_nextMemory, hstored, hindex]
  rfl

end Machine

end Chip8
