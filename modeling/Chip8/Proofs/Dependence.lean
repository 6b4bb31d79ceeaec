/-
  What an instruction depends on.

  * `operands` are the addresses that an instruction reads, all from the index on;
  * `AlikeTo i m n`: the instruction `i` finds the same in both machines;
  * it then does the same to both (`AlikeTo.guard_eq`, `AlikeTo.nextPc_eq`, …), and
    `step_alike` says so of a whole cycle: both machines fail alike, or both
    complete the cycle.
-/
import Chip8.Proofs.Changes
import Mathlib.Data.Set.Basic

namespace Chip8

/-- The number of bytes that a word reads from the index on. -/
def Instruction.readCount (i : Instruction) : Nat :=
  match i.opcode? with
  | some .draw => i.n.val
  | some .load => i.x.val + 1
  | _ => 0

namespace Machine

variable {m n : Machine} {i : Instruction}

/-! ## Addresses -/

/-- So many addresses from the index on, if all of them lie in memory. -/
def fromIndex (m : Machine) (count : Nat) : Set Nat :=
  {a | m.index.toNat ≤ a ∧ a < m.index.toNat + count ∧ m.index.toNat + count ≤ 4096}

/-- The addresses that an instruction reads. -/
def operands (m : Machine) (i : Instruction) : Set Nat := m.fromIndex i.readCount

theorem mem_operands {k : Nat} (hg : m.guard i = .ok ()) (hk : k < i.readCount) :
    m.index.toNat + k ∈ m.operands i := by
  have hle : m.index.toNat + i.readCount ≤ 4096 := by
    unfold Instruction.readCount at hk ⊢
    split at hk
    · next ho =>
      simp only [guard, ho, Memory.checkRange_eq_ok_iff] at hg
      omega
    · next ho =>
      simp only [guard, ho, Memory.checkRange_eq_ok_iff] at hg
      omega
    · omega
  exact ⟨Nat.le_add_right .., Nat.add_lt_add_left hk _, hle⟩

/-! ## Machines alike to an instruction -/

/-- An instruction finds the same in both machines: all registers, the index, the
    return addresses and so on, and of memory, the keys and the random byte what it
    looks at. -/
structure AlikeTo (i : Instruction) (m n : Machine) : Prop where
  pc : m.pc = n.pc
  registers : m.registers = n.registers
  index : m.index = n.index
  live : m.stack.live = n.stack.live
  delay : m.delay = n.delay
  display : m.display = n.display
  bytes : ∀ a ∈ m.operands i, m.memory.byte a = n.memory.byte a
  keyDown : i.opcode? = some .skipKeyDown ∨ i.opcode? = some .skipKeyUp →
    m.keyDown (m.reg i.x) = n.keyDown (n.reg i.x)
  lowestKey : i.opcode? = some .waitKey → m.lowestKey? = n.lowestKey?
  random : i.opcode? = some .random → m.rng.byte &&& i.nn = n.rng.byte &&& i.nn

namespace AlikeTo

theorem reg_eq (h : AlikeTo i m n) (r : Nibble) : m.reg r = n.reg r := by
  simp only [reg, h.registers]

theorem depth_eq (h : AlikeTo i m n) : m.stack.depth = n.stack.depth := by
  rw [← CallStack.live_length, ← CallStack.live_length, h.live]

theorem guard_eq (h : AlikeTo i m n) : m.guard i = n.guard i := by
  unfold guard
  rcases i.opcode? with _ | op
  · rfl
  cases op with
  | ret => simp only [CallStack.map_pop_unit, h.depth_eq]
  | call => simp only [CallStack.map_push_unit, h.depth_eq]
  | draw | decimal | dump | load => simp only [h.index]
  | _ => rfl

theorem skips_eq (h : AlikeTo i m n) : m.skips i = n.skips i := by
  unfold skips
  rcases ho : i.opcode? with _ | op
  · rfl
  cases op with
  | skipKeyDown => exact h.keyDown (.inl ho)
  | skipKeyUp => exact congrArg not (h.keyDown (.inr ho))
  | _ => simp only [h.reg_eq]

theorem nextPc_eq (h : AlikeTo i m n) : m.nextPc i = n.nextPc i := by
  unfold nextPc
  rcases ho : i.opcode? with _ | op
  · simp only [h.pc, h.skips_eq]
  cases op with
  | ret => simp only [CallStack.top, h.live]
  | waitKey => simp only [h.lowestKey ho, h.pc]
  | _ => simp only [h.pc, h.reg_eq, h.skips_eq]

/-- The bytes read are the same. -/
theorem read_eq (h : AlikeTo i m n) (hg : m.guard i = .ok ()) :
    m.memory.read m.index.toNat i.readCount = n.memory.read n.index.toNat i.readCount := by
  unfold Memory.read
  rw [← h.index]
  refine List.map_congr_left fun k hk => ?_
  exact h.bytes _ (mem_operands hg (List.mem_range.1 hk))

theorem drawSprite_eq (h : AlikeTo i m n) (hg : m.guard i = .ok ()) (ho : i.opcode? = some .draw)
    (x y : UInt8) :
    (m.drawSprite x y i.n.val).registers = (n.drawSprite x y i.n.val).registers ∧
      (m.drawSprite x y i.n.val).display = (n.drawSprite x y i.n.val).display := by
  have hread := h.read_eq hg
  simp only [Instruction.readCount, ho] at hread
  simp only [drawSprite, setReg, hread, h.registers, h.display, and_self]

theorem loadRegisters_eq (h : AlikeTo i m n) (hg : m.guard i = .ok ())
    (ho : i.opcode? = some .load) :
    (m.loadRegisters i.x).registers = (n.loadRegisters i.x).registers := by
  refine Vector.ext fun k hk => ?_
  simp only [loadRegisters, Vector.getElem_ofFn, ← h.index, h.reg_eq]
  split
  · next hle =>
    have hcount : k < i.readCount := by
      simp only [Instruction.readCount, ho]
      exact Nat.lt_succ_of_le hle
    exact h.bytes _ (mem_operands hg hcount)
  · rfl

theorem nextRegisters_eq (h : AlikeTo i m n) (hg : m.guard i = .ok ()) :
    m.nextRegisters i = n.nextRegisters i := by
  unfold nextRegisters
  rcases ho : i.opcode? with _ | op
  · exact h.registers
  cases op with
  | setByte => simp only [h.registers]
  | addByte => simp only [h.registers, h.reg_eq]
  | alu op => exact combine_registers h.registers op i.x i.y
  | random => simp only [h.registers, h.random ho]
  | draw =>
    simp only [h.reg_eq]
    exact (h.drawSprite_eq hg ho _ _).1
  | getDelay => simp only [h.registers, h.delay]
  | waitKey => simp only [h.registers, h.lowestKey ho]
  | load => exact h.loadRegisters_eq hg ho
  | _ => exact h.registers

theorem nextIndex_eq (h : AlikeTo i m n) : m.nextIndex i = n.nextIndex i := by
  simp only [nextIndex, h.index, h.reg_eq]

theorem nextDelay_eq (h : AlikeTo i m n) : m.nextDelay i = n.nextDelay i := by
  simp only [nextDelay, h.delay, h.reg_eq]

theorem nextDisplay_eq (h : AlikeTo i m n) (hg : m.guard i = .ok ()) :
    m.nextDisplay i = n.nextDisplay i := by
  unfold nextDisplay
  rcases ho : i.opcode? with _ | op
  · exact h.display
  cases op with
  | clearScreen => rfl
  | draw =>
    simp only [h.reg_eq]
    exact (h.drawSprite_eq hg ho _ _).2
  | _ => exact h.display

theorem stored_eq (h : AlikeTo i m n) : m.stored i = n.stored i := by
  simp only [stored, registersTo, h.registers, h.reg_eq]

theorem nextStack_live (h : AlikeTo i m n) (hg : m.guard i = .ok ()) :
    (m.nextStack i).live = (n.nextStack i).live := by
  have hg' : n.guard i = .ok () := h.guard_eq ▸ hg
  rw [live_nextStack hg, live_nextStack hg', h.live, h.pc]

end AlikeTo

/-! ## Cycles -/

/-- The machine behind a cycle that executes an instruction. -/
def behind (m : Machine) (i : Instruction) : Machine :=
  { m.effect i with pc := UInt16.ofNat (m.nextPc i), lastWord := i.raw }

/-- **Cycles do the same to machines alike to their instruction**: both fail alike,
    or both complete. -/
theorem step_alike {keys keys' : Option BitGrid} {k k' : Keypad} (hk : m.keysFrom keys = .ok k)
    (hk' : n.keysFrom keys' = .ok k') (hf : m.fetch = n.fetch)
    (h : ∀ i, m.fetch = .ok i → AlikeTo i (m.polled k) (n.polled k')) :
    (∃ f, m.step keys = .error f ∧ n.step keys' = .error f) ∨
    ∃ i, m.fetch = .ok i ∧ (m.polled k).guard i = .ok () ∧
      m.step keys = .ok ((m.polled k).behind i, i) ∧
      n.step keys' = .ok ((n.polled k').behind i, i) := by
  cases hfetch : m.fetch with
  | error f =>
    refine .inl ⟨f, step_eq_error_iff.2 (.inr ⟨k, hk, .inl hfetch⟩), ?_⟩
    exact step_eq_error_iff.2 (.inr ⟨k', hk', .inl (hf ▸ hfetch)⟩)
  | ok i =>
    have hfetch' : n.fetch = .ok i := hf ▸ hfetch
    have ha := h i hfetch
    have hguard := ha.guard_eq
    have hpc := ha.nextPc_eq
    cases hg : (m.polled k).guard i with
    | error f =>
      refine .inl ⟨f, step_eq_error_iff.2 (.inr ⟨k, hk, .inr ⟨i, hfetch, .inl hg⟩⟩), ?_⟩
      exact step_eq_error_iff.2 (.inr ⟨k', hk', .inr ⟨i, hfetch', .inl (hguard ▸ hg)⟩⟩)
    | ok u =>
      rcases Nat.lt_or_ge ((m.polled k).nextPc i) 65536 with hlt | hge
      · refine .inr ⟨i, rfl, hg, step_eq_ok_iff.2 ⟨k, hk, hfetch, hg, hlt, rfl⟩, ?_⟩
        exact step_eq_ok_iff.2 ⟨k', hk', hfetch', hguard ▸ hg, hpc ▸ hlt, rfl⟩
      · refine .inl ⟨.pcRange ((m.polled k).nextPc i), ?_, ?_⟩
        · exact step_eq_error_iff.2 (.inr ⟨k, hk, .inr ⟨i, hfetch, .inr ⟨hg, hge, rfl⟩⟩⟩)
        · exact step_eq_error_iff.2
            (.inr ⟨k', hk', .inr ⟨i, hfetch', .inr ⟨hguard ▸ hg, hpc ▸ hge, hpc ▸ rfl⟩⟩⟩)

/-- The same of two machines that take the same keys. -/
theorem step_alike_same_keys {keys : Option BitGrid} (hkeys : m.keysFrom keys = n.keysFrom keys)
    (h : ∀ k, m.keysFrom keys = .ok k → m.fetch = n.fetch ∧
      ∀ i, m.fetch = .ok i → AlikeTo i (m.polled k) (n.polled k)) :
    (∃ f, m.step keys = .error f ∧ n.step keys = .error f) ∨
    ∃ k i, m.keysFrom keys = .ok k ∧ m.fetch = .ok i ∧ (m.polled k).guard i = .ok () ∧
      m.step keys = .ok ((m.polled k).behind i, i) ∧
      n.step keys = .ok ((n.polled k).behind i, i) := by
  cases hk : m.keysFrom keys with
  | error f =>
    refine .inl ⟨f, step_eq_error_iff.2 (.inl hk), ?_⟩
    exact step_eq_error_iff.2 (.inl (hkeys ▸ hk))
  | ok k =>
    obtain ⟨hf, ha⟩ := h k hk
    refine (step_alike hk (hkeys ▸ hk) hf ha).imp_right ?_
    rintro ⟨i, hi, hg, hm, hn⟩
    exact ⟨k, i, rfl, hi, hg, hm, hn⟩

end Machine

end Chip8
