/-
  Where the program counter goes.

  * `successor_iff`: an instruction leads to one address, `nextPc`;
  * `exec_skip`: the six operations that skip do nothing else;
  * `Opposite` are the words that skip in opposite cases (`skips_opposite`), so that of
    two such words exactly one skips.
-/
import Chip8.Proofs.Failure

namespace Chip8

open Instruction (opcode?_eq_some_iff_hasForm opcode?_eq_call_iff opcode?_eq_ret_iff)

/-- Whether an operation does nothing but skip the next word or not. -/
def Opcode.isSkip : Opcode → Bool
  | .skipEqualByte | .skipUnequalByte | .skipEqual | .skipUnequal | .skipKeyDown | .skipKeyUp =>
    true
  | _ => false

/-- Two words of the same operands, the first of which skips when the second does not. -/
inductive Instruction.Opposite (i j : Instruction) : Prop
  | byte : i.family.val = 0x3 → j.family.val = 0x4 → i.x = j.x → i.nn = j.nn → Opposite i j
  | register : i.family.val = 0x5 → i.n.val = 0 → j.family.val = 0x9 → j.n.val = 0 →
      i.x = j.x → i.y = j.y → Opposite i j
  | key : i.family.val = 0xE → i.nn.toNat = 0x9E → j.family.val = 0xE → j.nn.toNat = 0xA1 →
      i.x = j.x → Opposite i j

namespace Machine

variable {m t u : Machine} {i j : Instruction}

/-! ## The address that an instruction leads to -/

theorem Successor.nextPc_eq {a : Nat} (h : m.Successor i a) : m.nextPc i = a := by
  cases h with
  | jump hf =>
    have ho : i.opcode? = some .jump := opcode?_eq_some_iff_hasForm.2 hf
    simp only [nextPc, ho]
  | call hf => simp only [nextPc, opcode?_eq_call_iff.2 hf]
  | jumpOffset hf =>
    have ho : i.opcode? = some .jumpOffset := opcode?_eq_some_iff_hasForm.2 hf
    simp only [nextPc, ho]
    rfl
  | wait hf hn hup =>
    have ho : i.opcode? = some .waitKey := opcode?_eq_some_iff_hasForm.2 ⟨hf, hn⟩
    have hnone : ¬ m.lowestKey?.isSome = true := by
      rw [lowestKey?_isSome]
      rintro ⟨k, hk⟩
      exact Bool.eq_false_iff.1 (hup k) hk
    simp only [nextPc, ho]
    exact if_neg hnone
  | advance ha => exact ha.nextPc_eq

/-- An instruction leads to one address. -/
theorem successor_iff {a : Nat} : m.Successor i a ↔ a = m.nextPc i := by
  constructor
  · intro h
    exact h.nextPc_eq.symm
  · rintro rfl
    exact successor_nextPc m i

/-- A return that succeeds has an address to return to. -/
theorem top_of_exec_ret (hw : i.raw.toNat = 0x00EE) (h : m.exec i = .ok t) :
    m.stack.live.getLast? = some m.stack.top := by
  obtain ⟨hg, -, -⟩ := exec_eq_ok_iff.1 h
  rcases stack_cases hg with ⟨-, hpop⟩ | ⟨ho, -⟩ | ⟨hr, -⟩
  · rw [CallStack.live_pop hpop, List.getLast?_concat]
  · rw [opcode?_eq_ret_iff.2 hw] at ho
    cases ho
  · exact absurd (opcode?_eq_ret_iff.2 hw) hr

theorem pc_of_exec (h : m.exec i = .ok t) : t.pc.toNat = m.nextPc i := by
  obtain ⟨-, hlt, rfl⟩ := exec_eq_ok_iff.1 h
  exact UInt16.toNat_ofNat_of_lt' hlt

/-! ## Skips -/

theorem exec_skip {op : Opcode} (hs : op.isSkip = true) (ho : i.opcode? = some op) :
    m.exec i = m.skipIf (m.skips i) := by
  rw [exec_of_opcode ho]
  cases op with
  | skipEqualByte | skipUnequalByte | skipEqual | skipUnequal | skipKeyDown | skipKeyUp =>
    simp only [perform, skips, ho]
  | _ => cases hs

/-- A skip moves the program counter and nothing else. -/
theorem exec_skip_eq_ok {op : Opcode} (hs : op.isSkip = true) (ho : i.opcode? = some op)
    (h : m.exec i = .ok t) :
    t = { m with pc := t.pc } ∧ t.pc.toNat = m.pc.toNat + if m.skips i then 4 else 2 := by
  rw [exec_skip hs ho, skipIf_eq, goTo_eq_ok_iff] at h
  obtain ⟨hlt, rfl⟩ := h
  exact ⟨rfl, UInt16.toNat_ofNat_of_lt' hlt⟩

/-- Of two opposite words one skips, and both do nothing else. -/
theorem skips_opposite (h : i.Opposite j) (m : Machine) :
    m.skips j = !m.skips i ∧ (∃ op : Opcode, op.isSkip = true ∧ i.opcode? = some op) ∧
      ∃ op : Opcode, op.isSkip = true ∧ j.opcode? = some op := by
  cases h with
  | byte hi hj hx hnn =>
    have hoi : i.opcode? = some .skipEqualByte := opcode?_eq_some_iff_hasForm.2 hi
    have hoj : j.opcode? = some .skipUnequalByte := opcode?_eq_some_iff_hasForm.2 hj
    refine ⟨?_, ⟨_, rfl, hoi⟩, ⟨_, rfl, hoj⟩⟩
    simp only [skips, hoi, hoj, hx, hnn]
    rfl
  | register hi hin hj hjn hx hy =>
    have hoi : i.opcode? = some .skipEqual := opcode?_eq_some_iff_hasForm.2 ⟨hi, hin⟩
    have hoj : j.opcode? = some .skipUnequal := opcode?_eq_some_iff_hasForm.2 ⟨hj, hjn⟩
    refine ⟨?_, ⟨_, rfl, hoi⟩, ⟨_, rfl, hoj⟩⟩
    simp only [skips, hoi, hoj, hx, hy]
    rfl
  | key hi hin hj hjn hx =>
    have hoi : i.opcode? = some .skipKeyDown := opcode?_eq_some_iff_hasForm.2 ⟨hi, hin⟩
    have hoj : j.opcode? = some .skipKeyUp := opcode?_eq_some_iff_hasForm.2 ⟨hj, hjn⟩
    refine ⟨?_, ⟨_, rfl, hoi⟩, ⟨_, rfl, hoj⟩⟩
    simp only [skips, hoi, hoj, hx]

theorem pc_of_opposite (h : i.Opposite j) (ht : m.exec i = .ok t) (hu : m.exec j = .ok u) :
    (t.pc.toNat = m.pc.toNat + 4 ∧ u.pc.toNat = m.pc.toNat + 2) ∨
      (t.pc.toNat = m.pc.toNat + 2 ∧ u.pc.toNat = m.pc.toNat + 4) := by
  obtain ⟨hskips, ⟨_, hsi, hoi⟩, ⟨_, hsj, hoj⟩⟩ := skips_opposite h m
  have hpct := (exec_skip_eq_ok hsi hoi ht).2
  have hpcu := (exec_skip_eq_ok hsj hoj hu).2
  rw [hskips] at hpcu
  cases hs : m.skips i with
  | true =>
    rw [hs] at hpct hpcu
    exact .inl ⟨hpct, hpcu⟩
  | false =>
    rw [hs] at hpct hpcu
    exact .inr ⟨hpct, hpcu⟩

/-- **Where a successful instruction leads**: the program counter goes to its one
    successor, behind a call that is on the stack if it returns.  The skips move nothing
    else, and of two opposite ones that both succeed one skips and the other does not. -/
theorem exec_successor {m t : Machine} {w : Int} (h : m.exec (.ofInt w) = .ok t) :
    (∀ a, m.Successor (.ofInt w) a ↔ a = t.pc.toNat) ∧
    ((Instruction.ofInt w).raw.toNat = 0x00EE → m.stack.live.getLast? = some m.stack.top) ∧
    (∀ op : Opcode, op.isSkip = true → op.hasForm (.ofInt w) → t = { m with pc := t.pc }) ∧
    ∀ v u, (Instruction.ofInt w).Opposite (.ofInt v) → m.exec (.ofInt v) = .ok u →
      (t.pc.toNat = m.pc.toNat + 4 ∧ u.pc.toNat = m.pc.toNat + 2) ∨
        (t.pc.toNat = m.pc.toNat + 2 ∧ u.pc.toNat = m.pc.toNat + 4) := by
  refine ⟨fun a => ?_, fun hw => top_of_exec_ret hw h, fun op hs hform => ?_,
    fun v u hopposite hu => pc_of_opposite hopposite h hu⟩
  · rw [successor_iff, pc_of_exec h]
  · exact (exec_skip_eq_ok hs (opcode?_eq_some_iff_hasForm.2 hform) h).1

/-- The highest address from which a word can be skipped, and the opposite word there. -/
theorem highest_skip_successor : ∃ m t u : Machine, m.pc = 0xFFFB ∧ m.reg 1 = 5 ∧
    m.exec (.ofInt 0x3105) = .ok t ∧ m.exec (.ofInt (0x4105 - 65536)) = .ok u ∧
    t.pc = 0xFFFF ∧ t = { m with pc := t.pc } ∧ u.pc = 0xFFFD := by
  obtain ⟨m, hm⟩ : ∃ m : Machine, m = { initial (.ofSeed 0) with pc := 0xFFFB }.setReg 1 5 :=
    ⟨_, rfl⟩
  have hpc : m.pc = 0xFFFB := by rw [hm]; rfl
  have hreg : m.reg 1 = 5 := by rw [hm]; decide +kernel
  have hrun : (m.exec (.ofInt 0x3105)).toOption.isSome = true ∧
      (m.exec (.ofInt (0x4105 - 65536))).toOption.isSome = true := by
    rw [hm]
    decide +kernel
  obtain ⟨t, ht⟩ := Option.isSome_iff_exists.1 hrun.1
  obtain ⟨u, hu⟩ := Option.isSome_iff_exists.1 hrun.2
  rw [toOption_eq_some] at ht hu
  obtain ⟨hsuccessor, -, hskip, hopposite⟩ := exec_successor ht
  have hform : (Instruction.ofInt 0x3105).family.val = 0x3 := by decide
  have htpc : m.pc.toNat + 4 = t.pc.toNat :=
    (hsuccessor _).1 (.advance (.skip (.equalByte hform hreg)))
  have hupc : u.pc.toNat = m.pc.toNat + 2 := by
    rcases hopposite (0x4105 - 65536) u (.byte hform (by decide) (by decide) (by decide)) hu with
      ⟨-, hu⟩ | ⟨ht, -⟩
    · exact hu
    · omega
  rw [hpc] at htpc hupc
  exact ⟨m, t, u, hpc, hreg, ht, hu, UInt16.toNat_inj.1 htpc.symm, hskip .skipEqualByte rfl hform,
    UInt16.toNat_inj.1 hupc⟩

end Machine

end Chip8
