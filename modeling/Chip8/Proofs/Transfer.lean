/-
  Words that move bytes between registers and memory.

  * `Stores` is what a word leaves that puts bytes into memory (`exec_stores`), and `Loads`
    what one leaves that takes V0 to VX from there (`exec_loads`);
  * `Loads.reg_of_stores` and `Loads.memory_of_stores`: a load takes back what a dump put into
    memory, and a dump puts back what a load took;
  * `dump_load_inverse`: the same of the words that dump and load.
-/
import Chip8.Proofs.Changes
import Chip8.Proofs.Failure

namespace Chip8

open Instruction (opcode?_eq_some_iff_hasForm ofDigits)

namespace Machine

variable {m t u : Machine} {i : Instruction} {x j : Nibble}

/-! ## Storing -/

/-- What a word leaves that stores some bytes from the index on: the bytes in their place, and
    all but the program counter as it was. -/
structure Stores (m : Machine) (bs : List UInt8) (t : Machine) : Prop where
  bytes : ∀ k b, bs[k]? = some b → t.memory.byte (m.index.toNat + k) = b
  elsewhere : ∀ a, a < m.index.toNat ∨ m.index.toNat + bs.length ≤ a →
    t.memory.byte a = m.memory.byte a
  rest : t = { m with memory := t.memory, pc := t.pc }
  pc : t.pc.toNat = m.pc.toNat + 2

theorem stores_write {bs : List UInt8} (hindex : m.index.toNat + bs.length ≤ 4096)
    (hpc : m.pc.toNat + 2 < 65536) :
    m.Stores bs { m with
      memory := m.memory.write m.index.toNat bs
      pc := UInt16.ofNat (m.pc.toNat + 2) } where
  bytes := by
    intro k b hb
    obtain ⟨hk, -⟩ := List.getElem?_eq_some_iff.1 hb
    have hin : m.index.toNat ≤ m.index.toNat + k ∧ m.index.toNat + k < 4096 := by omega
    rw [Memory.byte_write, if_pos hin, Nat.add_sub_cancel_left, hb, Option.getD_some]
  elsewhere := by
    intro a ha
    rw [Memory.byte_write]
    split
    · rw [List.getElem?_eq_none (by omega), Option.getD_none]
    · rfl
  rest := rfl
  pc := UInt16.toNat_ofNat_of_lt' hpc

theorem exists_spans_of_stores (h : i.opcode? = some .decimal ∨ i.opcode? = some .dump) :
    ∃ operation, i.Spans operation i.storeCount := by
  rcases h with ho | ho
  · obtain ⟨hf, hn⟩ := opcode?_eq_some_iff_hasForm.1 ho
    simp only [Instruction.storeCount, ho]
    exact ⟨_, .decimal hf hn⟩
  · obtain ⟨hf, hn⟩ := opcode?_eq_some_iff_hasForm.1 ho
    simp only [Instruction.storeCount, ho]
    exact ⟨_, .dump hf hn⟩

theorem effect_of_stores (h : i.opcode? = some .decimal ∨ i.opcode? = some .dump) :
    m.effect i = { m with memory := m.memory.write m.index.toNat (m.stored i) } := by
  rcases h with ho | ho <;>
    simp only [effect, nextMemory, nextRegisters, nextIndex, nextStack, nextDelay, nextSound,
      nextDisplay, nextRng, Instruction.draws, stored, ho, Bool.or_false]

theorem exec_stores (h : i.opcode? = some .decimal ∨ i.opcode? = some .dump)
    (hindex : m.index.toNat + i.storeCount ≤ 4096) (hpc : m.pc.toNat + 2 ≤ 65535) :
    ∃ t, m.exec i = .ok t ∧ m.Stores (m.stored i) t := by
  obtain ⟨operation, hs⟩ := exists_spans_of_stores h
  have hlt : m.pc.toNat + 2 < 65536 := Nat.lt_succ_of_le hpc
  refine ⟨_, (exec_eq_ok_iff_of_spans hs).2 ⟨hindex, hlt, rfl⟩, ?_⟩
  rw [effect_of_stores h]
  refine stores_write ?_ hlt
  rwa [stored_length]

/-! ## Loading -/

/-- What a word leaves that loads V0 to VX from the index on: their bytes, and all but the
    program counter as it was. -/
structure Loads (m : Machine) (x : Nibble) (t : Machine) : Prop where
  bytes : ∀ j, j ≤ x → t.reg j = m.memory.byte (m.index.toNat + j.val)
  above : ∀ j, x < j → t.reg j = m.reg j
  rest : t = { m with registers := t.registers, pc := t.pc }
  pc : t.pc.toNat = m.pc.toNat + 2

theorem reg_loadRegisters (m : Machine) (x j : Nibble) :
    (m.loadRegisters x).reg j =
      if j ≤ x then m.memory.byte (m.index.toNat + j.val) else m.reg j := by
  simp only [loadRegisters, reg, Fin.getElem_fin, Vector.getElem_ofFn]

theorem loads_loadRegisters (x : Nibble) (hpc : m.pc.toNat + 2 < 65536) :
    m.Loads x { m with
      registers := (m.loadRegisters x).registers
      pc := UInt16.ofNat (m.pc.toNat + 2) } where
  bytes := by
    intro j hj
    have hreg := reg_loadRegisters m x j
    rw [if_pos hj] at hreg
    simpa only [reg] using hreg
  above := by
    intro j hj
    have hreg := reg_loadRegisters m x j
    rw [if_neg (Fin.not_le.2 hj)] at hreg
    simpa only [reg] using hreg
  rest := rfl
  pc := UInt16.toNat_ofNat_of_lt' hpc

theorem effect_load (ho : i.opcode? = some .load) :
    m.effect i = { m with registers := (m.loadRegisters i.x).registers } := by
  simp only [effect, nextMemory, nextRegisters, nextIndex, nextStack, nextDelay, nextSound,
    nextDisplay, nextRng, Instruction.draws, ho, Bool.or_false]

theorem exec_loads (ho : i.opcode? = some .load) (hindex : m.index.toNat + (i.x.val + 1) ≤ 4096)
    (hpc : m.pc.toNat + 2 ≤ 65535) : ∃ t, m.exec i = .ok t ∧ m.Loads i.x t := by
  obtain ⟨hf, hn⟩ := opcode?_eq_some_iff_hasForm.1 ho
  have hlt : m.pc.toNat + 2 < 65536 := Nat.lt_succ_of_le hpc
  refine ⟨_, (exec_eq_ok_iff_of_spans (.load hf hn)).2 ⟨hindex, hlt, rfl⟩, ?_⟩
  rw [effect_load ho]
  exact loads_loadRegisters i.x hlt

/-! ## There and back -/

theorem registersTo_getElem? (h : j ≤ x) : (m.registersTo x)[j.val]? = some (m.reg j) := by
  have hj : j.val < x.val + 1 := Nat.lt_succ_of_le h
  simp [registersTo, reg, hj]

/-- A load takes back what a dump put into memory, whatever the registers hold by then. -/
theorem Loads.reg_of_stores {regs : Registers} (hu : Loads { t with registers := regs } x u)
    (ht : m.Stores (m.registersTo x) t) :
    ∀ j, u.reg j = if j ≤ x then m.reg j else regs.get j := by
  have hindex : t.index = m.index := by rw [ht.rest]
  intro j
  split
  · next hj =>
    rw [hu.bytes j hj, ← ht.bytes j.val (m.reg j) (registersTo_getElem? hj), ← hindex]
  · next hj => exact hu.above j (Fin.not_le.1 hj)

/-- A dump puts back what a load took. -/
theorem Loads.memory_of_stores (ht : m.Loads x t) (hu : t.Stores (t.registersTo x) u) :
    u.memory = m.memory := by
  have hindex : t.index = m.index := by rw [ht.rest]
  have hmemory : t.memory = m.memory := by rw [ht.rest]
  refine Memory.ext_byte fun a _ => ?_
  by_cases ha : m.index.toNat ≤ a ∧ a < m.index.toNat + (x.val + 1)
  · -- the byte came into a register, and from there it goes back to its place
    have hlt : a - m.index.toNat < 16 := by omega
    have hj : (⟨a - m.index.toNat, hlt⟩ : Nibble) ≤ x := Fin.le_def.2 (by simp only; omega)
    have hback := hu.bytes _ _ (registersTo_getElem? hj)
    rw [ht.bytes _ hj, hindex] at hback
    rwa [Nat.add_sub_cancel' ha.1] at hback
  · have hout : a < t.index.toNat ∨ t.index.toNat + (t.registersTo x).length ≤ a := by
      rw [hindex, registersTo_length]
      omega
    rw [hu.elsewhere a hout, hmemory]

theorem hasForm_dump (x : Nibble) : Opcode.dump.hasForm (ofDigits 0xF x 5 5) :=
  Instruction.form_ofDigits 0xF x 5 5

theorem hasForm_load (x : Nibble) : Opcode.load.hasForm (ofDigits 0xF x 6 5) :=
  Instruction.form_ofDigits 0xF x 6 5

theorem spans_dump (x : Nibble) :
    (ofDigits 0xF x 5 5).Spans "register dump" (x.val + 1) := by
  obtain ⟨hf, hn⟩ := hasForm_dump x
  have hspans := Instruction.Spans.dump hf hn
  rwa [Instruction.x_ofDigits] at hspans

theorem spans_load (x : Nibble) :
    (ofDigits 0xF x 6 5).Spans "register load" (x.val + 1) := by
  obtain ⟨hf, hn⟩ := hasForm_load x
  have hspans := Instruction.Spans.load hf hn
  rwa [Instruction.x_ofDigits] at hspans

theorem exec_dump (hindex : m.index.toNat + (x.val + 1) ≤ 4096) (hpc : m.pc.toNat + 2 ≤ 65535) :
    ∃ t, m.exec (ofDigits 0xF x 5 5) = .ok t ∧ m.Stores (m.registersTo x) t := by
  have ho := opcode?_eq_some_iff_hasForm.2 (hasForm_dump x)
  have hstores := exec_stores (m := m) (.inr ho)
  simp only [Instruction.storeCount, stored, ho, Instruction.x_ofDigits] at hstores
  exact hstores hindex hpc

theorem exec_load (hindex : m.index.toNat + (x.val + 1) ≤ 4096) (hpc : m.pc.toNat + 2 ≤ 65535) :
    ∃ t, m.exec (ofDigits 0xF x 6 5) = .ok t ∧ m.Loads x t := by
  have ho := opcode?_eq_some_iff_hasForm.2 (hasForm_load x)
  have hloads := exec_loads (m := m) ho
  rw [Instruction.x_ofDigits] at hloads
  exact hloads hindex hpc

theorem Stores.load {x : Nibble} (ht : m.Stores (m.registersTo x) t)
    (hindex : m.index.toNat + (x.val + 1) ≤ 4096) (hpc : m.pc.toNat + 4 ≤ 65535)
    (regs : Registers) : ∃ u, { t with registers := regs }.exec (ofDigits 0xF x 6 5) = .ok u ∧
      (∀ j, u.reg j = if j ≤ x then m.reg j else regs.get j) ∧ u.index = m.index := by
  have hsame : t.index = m.index := by rw [ht.rest]
  have hnext := ht.pc
  have hroom : t.pc.toNat + 2 ≤ 65535 := by omega
  rw [← hsame] at hindex
  obtain ⟨u, hok, hu⟩ := exec_load (m := { t with registers := regs }) hindex hroom
  refine ⟨u, hok, hu.reg_of_stores ht, ?_⟩
  rw [hu.rest]
  exact hsame

theorem Loads.dump (ht : m.Loads x t) (hindex : m.index.toNat + (x.val + 1) ≤ 4096)
    (hpc : m.pc.toNat + 4 ≤ 65535) :
    ∃ u, t.exec (ofDigits 0xF x 5 5) = .ok u ∧ u.memory = m.memory ∧ u.index = m.index := by
  have hsame : t.index = m.index := by rw [ht.rest]
  have hnext := ht.pc
  have hroom : t.pc.toNat + 2 ≤ 65535 := by omega
  rw [← hsame] at hindex
  obtain ⟨u, hok, hu⟩ := exec_dump hindex hroom
  refine ⟨u, hok, ht.memory_of_stores hu, ?_⟩
  rw [hu.rest]
  exact hsame

/-- **Dumps and loads are inverse**: a dump puts V0 to VX into memory, byte by byte and
    nothing else, and a load behind it restores them, whatever all registers were replaced
    by; a dump behind a load leaves memory as it was.  Both refuse bytes that do not lie in
    memory. -/
theorem dump_load_inverse (m : Machine) (x : Nibble) :
    (m.index.toNat + (x.val + 1) ≤ 4096 → m.pc.toNat + 2 ≤ 65535 →
      ∃ t, m.exec (ofDigits 0xF x 5 5) = .ok t ∧
        (∀ j, j ≤ x → t.memory.byte (m.index.toNat + j.val) = m.reg j) ∧
        (∀ a, a < m.index.toNat ∨ m.index.toNat + x.val < a →
          t.memory.byte a = m.memory.byte a) ∧
        t = { m with memory := t.memory, pc := t.pc } ∧
        (m.pc.toNat + 4 ≤ 65535 → ∀ regs : Registers,
          ∃ u, { t with registers := regs }.exec (ofDigits 0xF x 6 5) = .ok u ∧
            (∀ j, u.reg j = if j ≤ x then m.reg j else regs.get j) ∧ u.index = m.index)) ∧
    (m.index.toNat + (x.val + 1) ≤ 4096 → m.pc.toNat + 4 ≤ 65535 →
      ∃ t u, m.exec (ofDigits 0xF x 6 5) = .ok t ∧ t.index = m.index ∧
        t.exec (ofDigits 0xF x 5 5) = .ok u ∧ u.memory = m.memory ∧ u.index = m.index) ∧
    (4096 < m.index.toNat + (x.val + 1) →
      m.exec (ofDigits 0xF x 5 5) =
        .error (.outOfBounds "register dump" m.index.toNat (x.val + 1 : Nat)) ∧
      m.exec (ofDigits 0xF x 6 5) =
        .error (.outOfBounds "register load" m.index.toNat (x.val + 1 : Nat))) := by
  refine ⟨fun hindex hpc => ?_, fun hindex hpc => ?_, fun hout => ⟨?_, ?_⟩⟩
  · obtain ⟨t, hok, ht⟩ := exec_dump hindex hpc
    refine ⟨t, hok, fun j hj => ht.bytes _ _ (registersTo_getElem? hj), fun a ha => ?_, ht.rest,
      fun hroom regs => ht.load hindex hroom regs⟩
    refine ht.elsewhere a ?_
    rwa [registersTo_length]
  · obtain ⟨t, hok, ht⟩ := exec_load hindex (by omega)
    obtain ⟨u, hok', hmemory, hsame⟩ := ht.dump hindex hpc
    exact ⟨t, u, hok, by rw [ht.rest], hok', hmemory, hsame⟩
  · exact exec_eq_error_iff_misuse.2 (.inl (.bytes (spans_dump x) hout))
  · exact exec_eq_error_iff_misuse.2 (.inl (.bytes (spans_load x) hout))

/-- All registers in the last bytes of memory, lost and restored; one byte further on the
    dump is refused. -/
theorem last_bytes_restored : ∃ m t u : Machine, m.index = 0xFF0 ∧ m.pc = 0xFFFB ∧
    m.reg 0xF = 7 ∧ m.exec (ofDigits 0xF 0xF 5 5) = .ok t ∧ t.memory.byte 4095 = 7 ∧
    { t with registers := .replicate 16 0 }.exec (ofDigits 0xF 0xF 6 5) = .ok u ∧
    (∀ j, u.reg j = m.reg j) ∧
    { m with index := 0xFF1 }.exec (ofDigits 0xF 0xF 5 5) =
      .error (.outOfBounds "register dump" 0xFF1 16) := by
  obtain ⟨m, hm⟩ : ∃ m : Machine,
      m = { initial (.ofSeed 0) with index := 0xFF0, pc := 0xFFFB }.setReg 0xF 7 := ⟨_, rfl⟩
  have hindex : m.index = 0xFF0 := by rw [hm]; rfl
  have hpc : m.pc = 0xFFFB := by rw [hm]; rfl
  have hreg : m.reg 0xF = 7 := by rw [hm, reg_setReg, if_pos rfl]
  obtain ⟨hdump, -, -⟩ := dump_load_inverse m 0xF
  obtain ⟨t, ht, hbytes, -, -, hload⟩ := hdump (by rw [hindex]; decide) (by rw [hpc]; decide)
  obtain ⟨u, hu, hregs, -⟩ := hload (by rw [hpc]; decide) (.replicate 16 0)
  obtain ⟨-, -, hrefused⟩ := dump_load_inverse { m with index := 0xFF1 } 0xF
  have hlast := hbytes 0xF (Nat.le_refl _)
  rw [hindex, hreg] at hlast
  have hout : 4096 < (0xFF1 : UInt16).toNat + ((0xF : Nibble).val + 1) := by decide
  refine ⟨m, t, u, hindex, hpc, hreg, ht, hlast, hu, fun j => ?_, (hrefused hout).1⟩
  have hj : j ≤ 0xF := Nat.le_of_lt_succ j.isLt
  rw [hregs j, if_pos hj]

end Machine

end Chip8
