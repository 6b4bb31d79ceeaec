/-
  What no instruction reads: the sound timer, the flag of a pending drawing, the
  word of the last cycle, and the slots of the call stack out of use.

  * `Agree`: two machines differ in these at most;
  * `Agree.step`: their cycles fail alike, or both complete and leave them so;
  * `unread_irrelevant`: so do whole runs on the same key snapshots.
-/
import Chip8.Proofs.Dependence
import Chip8.Proofs.Lockstep

namespace Chip8.Machine

/-- Agreement on all that instructions read. -/
structure Agree (m n : Machine) : Prop where
  memory : m.memory = n.memory
  registers : m.registers = n.registers
  index : m.index = n.index
  pc : m.pc = n.pc
  live : m.stack.live = n.stack.live
  delay : m.delay = n.delay
  display : m.display = n.display
  keypad : m.keypad = n.keypad
  rng : m.rng = n.rng

namespace Agree

variable {m n : Machine}

theorem keysFrom_eq (h : Agree m n) (keys : Option BitGrid) : m.keysFrom keys = n.keysFrom keys := by
  cases keys with
  | none => exact congrArg Except.ok h.keypad
  | some g => rfl

theorem fetch_eq (h : Agree m n) : m.fetch = n.fetch := by
  simp only [fetch, h.memory, h.pc]

theorem polled (h : Agree m n) (k : Keypad) : Agree (m.polled k) (n.polled k) where
  memory := h.memory
  registers := h.registers
  index := h.index
  pc := h.pc
  live := h.live
  delay := congrArg (fun v : UInt8 => UInt8.ofNat (v.toNat - 1)) h.delay
  display := h.display
  keypad := rfl
  rng := h.rng

theorem alikeTo (h : Agree m n) (i : Instruction) : AlikeTo i m n where
  pc := h.pc
  registers := h.registers
  index := h.index
  live := h.live
  delay := h.delay
  display := h.display
  bytes := fun a _ => by rw [h.memory]
  keyDown := fun _ => by simp only [keyDown, reg, h.keypad, h.registers]
  lowestKey := fun _ => by simp only [lowestKey?, h.keypad]
  random := fun _ => by rw [h.rng]

theorem behind (h : Agree m n) {i : Instruction} (hg : m.guard i = .ok ()) :
    Agree (m.behind i) (n.behind i) where
  memory := by
    show m.nextMemory i = n.nextMemory i
    rw [nextMemory_eq_write, nextMemory_eq_write, h.memory, h.index, (h.alikeTo i).stored_eq]
  registers := (h.alikeTo i).nextRegisters_eq hg
  index := (h.alikeTo i).nextIndex_eq
  pc := congrArg UInt16.ofNat (h.alikeTo i).nextPc_eq
  live := (h.alikeTo i).nextStack_live hg
  delay := (h.alikeTo i).nextDelay_eq
  display := (h.alikeTo i).nextDisplay_eq hg
  keypad := h.keypad
  rng := by
    show m.nextRng i = n.nextRng i
    simp only [nextRng, h.rng]

/-- A cycle fails alike on machines that agree, or keeps them so. -/
theorem step (h : Agree m n) (keys : Option BitGrid) :
    (∃ f, m.step keys = .error f ∧ n.step keys = .error f) ∨
    ∃ t u i, m.step keys = .ok (t, i) ∧ n.step keys = .ok (u, i) ∧ Agree t u := by
  rcases step_alike_same_keys (h.keysFrom_eq keys)
      (fun k _ => ⟨h.fetch_eq, fun i _ => (h.polled k).alikeTo i⟩) with
    hfail | ⟨k, i, -, -, hg, hm, hn⟩
  · exact .inl hfail
  · exact .inr ⟨_, _, i, hm, hn, (h.polled k).behind hg⟩

theorem lockstep : Lockstep fun _ ks ks' m n => ks = ks' ∧ Agree m n := by
  rintro done k ks k' ks' m n ⟨hks, h⟩
  cases hks
  refine (h.step k).imp_right ?_
  rintro ⟨t, u, i, hm, hn, ha⟩
  exact ⟨t, u, i, hm, hn, rfl, ha⟩

end Agree

/-- **What no instruction reads has no influence**: on the same key snapshots two
    machines that agree otherwise execute the same words and fail alike, and they
    agree behind every cycle. -/
theorem unread_irrelevant {m n : Machine} (h : Agree m n) (keys : List (Option BitGrid)) :
    ∃ cs ds fault, m.record keys = (cs, fault) ∧ n.record keys = (ds, fault) ∧
      ds.map Cycle.word = cs.map Cycle.word ∧
      ∀ j ≤ cs.length, Agree (m.afterAll (cs.take j)) (n.afterAll (ds.take j)) := by
  obtain ⟨cs, ds, fault, hcs, hds, hwords, hrel⟩ :=
    record_lockstep Agree.lockstep rfl ⟨rfl, h⟩
  exact ⟨cs, ds, fault, hcs, hds, hwords, fun j hj => (hrel j hj).2⟩

/-- A call and its return over stale slots, up to a snapshot of eight keys: the same
    words and the same fault as over a clean stack. -/
theorem stale_slots_irrelevant : ∃ m n : Machine,
    (initial (.ofSeed 0)).load [0x22, 0x04, 0x12, 0x02, 0x00, 0xEE] = .ok m ∧
      n.stack.slots = .replicate 16 0xABC ∧ n.sound = 9 ∧ n.drawPending = true ∧ Agree m n ∧
      ∃ ds, n.record [none, none, none, some ⟨[8], #[]⟩] = (ds, some (.keypadShape [8])) ∧
        (ds.map Cycle.word).map Instruction.raw = [0x2204, 0x00EE, 0x1202] := by
  have hrun : (((initial (.ofSeed 0)).load [0x22, 0x04, 0x12, 0x02, 0x00, 0xEE]).map fun m =>
      (((m.record [none, none, none, some ⟨[8], #[]⟩]).1.map Cycle.word).map Instruction.raw,
        (m.record [none, none, none, some ⟨[8], #[]⟩]).2)).toOption =
        some ([0x2204, 0x00EE, 0x1202], some (.keypadShape [8])) := by
    decide +kernel
  obtain ⟨m, hload, hend⟩ := map_eq_ok.1 (toOption_eq_some.1 hrun)
  have hempty : m.stack.live = [] := by
    rw [load_frame hload]
    rfl
  have hagree : Agree m { m with
      stack := ⟨.replicate 16 0xABC, 0, by decide⟩, sound := 9, drawPending := true } :=
    ⟨rfl, rfl, rfl, rfl, hempty, rfl, rfl, rfl, rfl⟩
  obtain ⟨cs, ds, fault, hcs, hds, hwords, -⟩ :=
    unread_irrelevant hagree [none, none, none, some ⟨[8], #[]⟩]
  rw [hcs] at hend
  obtain ⟨hraw, rfl⟩ := Prod.mk.inj hend
  exact ⟨m, _, hload, rfl, rfl, rfl, hagree, ds, hds, hwords ▸ hraw⟩

end Chip8.Machine
