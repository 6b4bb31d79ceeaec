/-
  Memory matters only where it is read.

  * `reads` are the addresses that a cycle reads: its word and the operands of its
    instruction; `writes` are those that it stores to;
  * `AgreeOn A`: two machines differ in memory at most, and there outside `A` only;
  * `AgreeOn.step`: a cycle that reads inside `A` fails alike on both, or leaves
    machines that agree on `A` and on what it stored to;
  * `reads_local`: so do whole runs, where the set grows with the stores (`grown`)
    and every cycle of the first run reads inside the set that is then reached.
-/
import Chip8.Proofs.Dependence
import Chip8.Proofs.Lockstep

namespace Chip8.Machine

/-! ## Reading and writing -/

/-- The addresses that a cycle reads which executes an instruction. -/
def reads (m : Machine) (i : Instruction) : Set Nat :=
  {a | a = m.pc.toNat ∨ a = m.pc.toNat + 1 ∨ a ∈ m.operands i}

/-- The addresses that an instruction writes. -/
def writes (m : Machine) (i : Instruction) : Set Nat := m.fromIndex i.storeCount

/-- A set of addresses with those that some cycles wrote. -/
def grown (A : Set Nat) (cs : List Cycle) : Set Nat :=
  cs.foldl (fun A c => A ∪ c.before.writes c.word) A

/-- Whether every cycle of a run reads inside a set of addresses, which grows by
    what the cycles before it wrote.  The cycle that ends a run early counts too, as
    far as it gets to read. -/
def ReadsWithin : Set Nat → Machine → List (Option BitGrid) → Prop
  | _, _, [] => True
  | A, m, keys :: rest =>
    (∀ k i, m.keysFrom keys = .ok k → m.fetch = .ok i → m.reads i ⊆ A) ∧
      ∀ t i, m.step keys = .ok (t, i) → ReadsWithin (A ∪ m.writes i) t rest

/-! ## Agreement -/

/-- Two machines differ in memory at most, and not at the given addresses. -/
structure AgreeOn (A : Set Nat) (m n : Machine) : Prop where
  others : n = { m with memory := n.memory }
  memory : ∀ a ∈ A, m.memory.byte a = n.memory.byte a

namespace AgreeOn

variable {A : Set Nat} {m n : Machine}

theorem polled (h : AgreeOn A m n) (k : Keypad) : AgreeOn A (m.polled k) (n.polled k) where
  others := congrArg (Machine.polled · k) h.others
  memory := h.memory

theorem keysFrom_eq (h : AgreeOn A m n) (keys : Option BitGrid) :
    m.keysFrom keys = n.keysFrom keys := by
  rw [h.others]
  cases keys <;> rfl

/-- The word at the program counter is the same if it is read inside the set. -/
theorem fetch_eq (h : AgreeOn A m n) (hr : ∀ i, m.fetch = .ok i → m.reads i ⊆ A) :
    m.fetch = n.fetch := by
  have hpc : n.pc = m.pc := by rw [h.others]
  rcases Nat.lt_or_ge 4094 m.pc.toNat with hlt | hle
  · rw [fetch_eq_error_iff.2 ⟨hlt, rfl⟩, fetch_eq_error_iff.2 ⟨hpc ▸ hlt, rfl⟩, hpc]
  · have hm := fetch_eq_ok_iff.2 ⟨hle, rfl⟩
    have hhigh := h.memory m.pc.toNat (hr _ hm (.inl rfl))
    have hlow := h.memory (m.pc.toNat + 1) (hr _ hm (.inr (.inl rfl)))
    rw [hm, fetch_eq_ok_iff.2 ⟨hpc ▸ hle, rfl⟩, hpc, hhigh, hlow]

theorem alikeTo (h : AgreeOn A m n) {i : Instruction} (hr : m.operands i ⊆ A) :
    AlikeTo i m n := by
  have hbytes : ∀ a ∈ m.operands i, m.memory.byte a = n.memory.byte a :=
    fun a ha => h.memory a (hr ha)
  obtain ⟨memory, rfl⟩ : ∃ memory, n = { m with memory := memory } := ⟨_, h.others⟩
  exact ⟨rfl, rfl, rfl, rfl, rfl, rfl, hbytes, fun _ => rfl, fun _ => rfl, fun _ => rfl⟩

/-- Behind an instruction the memories agree also on what it wrote. -/
theorem nextMemory (h : AgreeOn A m n) {i : Instruction} (hr : m.operands i ⊆ A) {a : Nat}
    (ha : a ∈ A ∪ m.writes i) : (m.nextMemory i).byte a = (n.nextMemory i).byte a := by
  rw [byte_nextMemory, byte_nextMemory, ← (h.alikeTo hr).index, ← (h.alikeTo hr).stored_eq]
  rcases ha with ha | ⟨hle, hlt, hend⟩
  · rw [h.memory a ha]
  · have hstored : a - m.index.toNat < (m.stored i).length := by
      rw [stored_length]
      omega
    rw [if_pos ⟨hle, by omega⟩, if_pos ⟨hle, by omega⟩, List.getElem?_eq_getElem hstored]
    rfl

theorem behind (h : AgreeOn A m n) {i : Instruction} (hr : m.operands i ⊆ A)
    (hg : m.guard i = .ok ()) : AgreeOn (A ∪ m.writes i) (m.behind i) (n.behind i) where
  others := by
    have hregisters := (h.alikeTo hr).nextRegisters_eq hg
    have hdisplay := (h.alikeTo hr).nextDisplay_eq hg
    obtain ⟨memory, rfl⟩ : ∃ memory, n = { m with memory := memory } := ⟨_, h.others⟩
    exact Machine.ext rfl hregisters.symm rfl rfl rfl rfl rfl hdisplay.symm rfl rfl rfl rfl
  memory := fun _ => h.nextMemory hr

/-- A cycle that reads inside the set fails alike on both machines, or leaves them
    in agreement on the set and on what it wrote. -/
theorem step (h : AgreeOn A m n) {keys : Option BitGrid}
    (hr : ∀ k i, m.keysFrom keys = .ok k → m.fetch = .ok i → m.reads i ⊆ A) :
    (∃ f, m.step keys = .error f ∧ n.step keys = .error f) ∨
    ∃ t u i, m.step keys = .ok (t, i) ∧ n.step keys = .ok (u, i) ∧
      AgreeOn (A ∪ m.writes i) t u := by
  have hoperands : ∀ k i, m.keysFrom keys = .ok k → m.fetch = .ok i →
      (m.polled k).operands i ⊆ A :=
    fun k i hk hf a ha => hr k i hk hf (.inr (.inr ha))
  rcases step_alike_same_keys (h.keysFrom_eq keys)
      (fun k hk => ⟨h.fetch_eq fun i => hr k i hk,
        fun i hf => (h.polled k).alikeTo (hoperands k i hk hf)⟩) with
    hfail | ⟨k, i, hk, hf, hg, hm, hn⟩
  · exact .inl hfail
  · exact .inr ⟨_, _, i, hm, hn, (h.polled k).behind (hoperands k i hk hf) hg⟩

end AgreeOn

/-! ## Runs -/

theorem grown_append (A : Set Nat) (cs : List Cycle) (c : Cycle) :
    grown A (cs ++ [c]) = grown A cs ∪ c.before.writes c.word := by
  simp only [grown, List.foldl_append, List.foldl_cons, List.foldl_nil]

theorem AgreeOn.lockstep (A : Set Nat) : Lockstep fun done ks ks' m n =>
    ks = ks' ∧ AgreeOn (grown A done) m n ∧ ReadsWithin (grown A done) m ks := by
  rintro done k ks k' ks' m n ⟨hks, h, hr, hrest⟩
  cases hks
  refine (h.step hr).imp_right ?_
  rintro ⟨t, u, i, hm, hn, ha⟩
  refine ⟨t, u, i, hm, hn, rfl, ?_⟩
  rw [grown_append]
  exact ⟨ha, hrest t i hm⟩

/-- **Memory matters only where it is read.**  On the same key snapshots a machine
    whose memory agrees on the addresses that the first run reads executes the same
    words and fails alike; behind every cycle the machines agree on all but memory,
    and there on the addresses of the set and all that the run wrote. -/
theorem reads_local {A : Set Nat} {m n : Machine} {keys : List (Option BitGrid)}
    (h : AgreeOn A m n) (hr : ReadsWithin A m keys) :
    ∃ cs ds fault, m.record keys = (cs, fault) ∧ n.record keys = (ds, fault) ∧
      ds.map Cycle.word = cs.map Cycle.word ∧
      ∀ j ≤ cs.length,
        AgreeOn (grown A (cs.take j)) (m.afterAll (cs.take j)) (n.afterAll (ds.take j)) := by
  obtain ⟨cs, ds, fault, hcs, hds, hwords, hrel⟩ :=
    record_lockstep (AgreeOn.lockstep A) rfl ⟨rfl, h, hr⟩
  exact ⟨cs, ds, fault, hcs, hds, hwords, fun j hj => (hrel j hj).2.1⟩

/-- Three digits stored and loaded again: what memory held in their place does not
    matter, though the second cycle reads there. -/
theorem digits_local : ∃ m n : Machine, ∃ cs ds fault,
    AgreeOn {a | 0x200 ≤ a ∧ a < 0x204} m n ∧ n.memory.byte 0x300 ≠ m.memory.byte 0x300 ∧
      ReadsWithin {a | 0x200 ≤ a ∧ a < 0x204} m [none, none] ∧
      m.record [none, none] = (cs, fault) ∧ n.record [none, none] = (ds, fault) ∧
      (ds.map Cycle.word).map Instruction.raw = [0xF033, 0xF265] ∧
      AgreeOn (grown {a | 0x200 ≤ a ∧ a < 0x204} cs) (m.afterAll cs) (n.afterAll ds) := by
  obtain ⟨m, hm⟩ : ∃ m : Machine, m = { initial (.ofSeed 0) with
      memory := Memory.initial.write 0x200 [0xF0, 0x33, 0xF2, 0x65], index := 0x300 }.setReg 0 123 :=
    ⟨_, rfl⟩
  have hfirst : (m.pc.toNat, m.index.toNat, m.memory.byte 0x300, m.fetch.toOption) =
      (0x200, 0x300, 0, some ⟨0xF033⟩) := by
    subst hm
    decide +kernel
  have hsecond : ((m.step none).map fun next => (next.1.pc.toNat, next.1.index.toNat,
      next.1.fetch.toOption, next.2)).toOption = some (0x202, 0x300, some ⟨0xF265⟩, ⟨0xF033⟩) := by
    subst hm
    decide +kernel
  have hwords : ((m.record [none, none]).1.map Cycle.word).map Instruction.raw =
      [0xF033, 0xF265] := by
    subst hm
    decide +kernel
  simp only [Prod.mk.injEq, toOption_eq_some] at hfirst
  obtain ⟨hpc, hindex, hbyte, hfetch⟩ := hfirst
  have hagree : AgreeOn {a | 0x200 ≤ a ∧ a < 0x204} m
      { m with memory := m.memory.write 0x300 [7, 7, 7] } := by
    refine ⟨rfl, ?_⟩
    rintro a ⟨-, hlt⟩
    rw [Memory.byte_write, if_neg (by omega)]
  have hread : (⟨0xF033⟩ : Instruction).readCount = 0 ∧ (⟨0xF265⟩ : Instruction).readCount = 3 ∧
      (⟨0xF033⟩ : Instruction).storeCount = 3 := by
    decide +kernel
  have hreads : ReadsWithin {a | 0x200 ≤ a ∧ a < 0x204} m [none, none] := by
    refine ⟨?_, ?_⟩
    · intro k i _ hi
      cases hfetch.symm.trans hi
      rintro a (rfl | rfl | ⟨hle, hlt, -⟩)
      · exact ⟨by omega, by omega⟩
      · exact ⟨by omega, by omega⟩
      · omega
    · intro t i ht
      obtain ⟨next, hnext, hend⟩ := map_eq_ok.1 (toOption_eq_some.1 hsecond)
      cases hnext.symm.trans ht
      simp only [Prod.mk.injEq, toOption_eq_some] at hend
      obtain ⟨hpc', hindex', hfetch', rfl⟩ := hend
      refine ⟨?_, fun _ _ _ => trivial⟩
      intro k i _ hi
      cases hfetch'.symm.trans hi
      rintro a (rfl | rfl | ⟨hle, hlt, -⟩)
      · exact .inl ⟨by omega, by omega⟩
      · exact .inl ⟨by omega, by omega⟩
      · exact .inr ⟨by omega, by omega, by omega⟩
  obtain ⟨cs, ds, fault, hcs, hds, hsame, hrel⟩ := reads_local hagree hreads
  rw [hcs] at hwords
  have hend := hrel cs.length (Nat.le_refl _)
  have hlength : ds.length = cs.length := by simpa using congrArg List.length hsame
  rw [List.take_length, ← hlength, List.take_length] at hend
  refine ⟨m, _, cs, ds, fault, hagree, ?_, hreads, hcs, hds, hsame ▸ hwords, hend⟩
  rw [Memory.byte_write, hbyte]
  decide

end Chip8.Machine
