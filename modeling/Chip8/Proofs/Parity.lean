/-
  Even program counters.

  A program whose jumps and calls lead to even addresses stays at even addresses: to
  advance or to skip moves by two or four, a call leaves its own address on the
  stack, and a return goes to the word behind that.

  * `JumpsEven`: where an instruction jumps to, by itself or with an offset, is even;
  * `IsEven.step`: such a cycle keeps the program counter and all return addresses in
    use even;
  * `parity_kept`: so do whole runs, at any depth of calls, and a loaded program can
    then run out of memory at 4096 and 4098 only.
-/
import Chip8.Proofs.Runs

namespace Chip8.Machine

open Instruction (opcode?_eq_some_iff_hasForm)

/-- An instruction that jumps or calls does so to an even address. -/
structure JumpsEven (m : Machine) (i : Instruction) : Prop where
  address : i.family.val = 0x1 ∨ i.family.val = 0x2 → 2 ∣ i.nnn.toNat
  offset : i.family.val = 0xB → 2 ∣ i.nnn.toNat + (m.reg 0).toNat

instance (m : Machine) (i : Instruction) : Decidable (m.JumpsEven i) :=
  decidable_of_iff ((i.family.val = 0x1 ∨ i.family.val = 0x2 → 2 ∣ i.nnn.toNat) ∧
    (i.family.val = 0xB → 2 ∣ i.nnn.toNat + (m.reg 0).toNat))
    ⟨fun h => ⟨h.1, h.2⟩, fun h => ⟨h.address, h.offset⟩⟩

/-- The program counter and the return addresses in use are even. -/
structure IsEven (m : Machine) : Prop where
  pc : 2 ∣ m.pc.toNat
  live : ∀ a ∈ m.stack.live, 2 ∣ a.toNat

variable {m t : Machine} {i : Instruction}

/-! ## One cycle -/

theorem IsEven.nextPc (hm : m.IsEven) (hj : m.JumpsEven i) : 2 ∣ m.nextPc i := by
  have hpc := hm.pc
  unfold Machine.nextPc
  split
  · have htop : 2 ∣ m.stack.top.toNat := CallStack.top_of_live (by decide) hm.live
    omega
  · next ho => exact hj.address (.inl (opcode?_eq_some_iff_hasForm.1 ho))
  · next ho => exact hj.address (.inr (opcode?_eq_some_iff_hasForm.1 ho))
  · next ho =>
    -- the 12 bits that are kept of the sum include the lowest one
    have hsum : 2 ∣ i.nnn.toNat + (m.reg 0).toNat :=
      hj.offset (opcode?_eq_some_iff_hasForm.1 ho)
    exact (Nat.dvd_mod_iff (by decide : 2 ∣ 4096)).2 hsum
  · split <;> omega
  · split <;> omega

theorem IsEven.step {keys : Option BitGrid} (hm : m.IsEven) (hj : m.JumpsEven i)
    (h : m.step keys = .ok (t, i)) : t.IsEven := by
  obtain ⟨k, -, -, hg, hlt, rfl⟩ := step_eq_ok_iff.1 h
  -- neither keys nor timers tell where a jump leads
  have hp : (m.polled k).IsEven := ⟨hm.pc, hm.live⟩
  have hnext : 2 ∣ (m.polled k).nextPc i := hp.nextPc ⟨hj.address, hj.offset⟩
  have hcall : 2 ∣ (UInt16.ofInt ((m.pc.toNat : Int) % 4096)).toNat := by
    have hlow := CallStack.toNat_ofInt_mod m.pc.toNat
    have hpc := hm.pc
    omega
  refine ⟨?_, forall_live_nextStack hg hcall hm.live⟩
  rw [UInt16.toNat_ofNat', Nat.mod_eq_of_lt hlt]
  exact hnext

/-! ## Runs -/

theorem Runs.isEven {m₀ : Machine} {cs : List Cycle} (h : Runs m₀ cs m) (h₀ : m₀.IsEven)
    (hj : ∀ c ∈ cs, c.before.JumpsEven c.word) : m.IsEven :=
  h.invariant (Q := fun c => c.before.JumpsEven c.word) (fun hs hc hm => hm.step hc hs) h₀ hj

theorem IsEven.start {rng : Random.Source} {rom : List Int} (h : (initial rng).load rom = .ok m) :
    m.IsEven := by
  rw [load_frame h]
  refine ⟨?_, ?_⟩
  · show 2 ∣ (UInt16.ofNat programStart).toNat
    decide
  · simp [initial, CallStack.live_empty]

/-- **Even addresses stay even** along every run whose jumps lead to even ones.  Behind
    a run of a loaded program a fetch fails at 4096, where memory ends, and at 4098, the
    address behind a word skipped there, and at no other. -/
theorem parity_kept :
    (∀ m₀ cs m, IsEven m₀ → Runs m₀ cs m → (∀ c ∈ cs, c.before.JumpsEven c.word) →
      2 ∣ m.pc.toNat ∧ ∀ a ∈ m.stack.live, 2 ∣ a.toNat) ∧
    ∀ rng rom m₀ cs m, (initial rng).load rom = .ok m₀ → Runs m₀ cs m →
      (∀ c ∈ cs, c.before.JumpsEven c.word) → ∀ f, m.fetch = .error f ↔
        (m.pc.toNat = 4096 ∨ m.pc.toNat = 4098) ∧ f = .outOfBounds "fetch" m.pc.toNat 2 := by
  constructor
  · intro m₀ cs m h₀ h hj
    have hm := h.isEven h₀ hj
    exact ⟨hm.pc, hm.live⟩
  · intro rng rom m₀ cs m hload h hj f
    have heven : 2 ∣ m.pc.toNat := (h.isEven (.start hload) hj).pc
    have hle : m.pc.toNat ≤ 4098 := (h.reachable.bounded (.start hload)).pc_le
    rw [fetch_eq_error_iff]
    refine and_congr_left fun _ => ?_
    omega

/-- Two ways out of memory: a subroutine that writes a skip into the last word, jumps
    there and takes it, and a jump to a last word that names no operation. -/
theorem last_word_left : ∃ m₀ cs m n₀ ds n,
    (initial (.ofSeed 0)).load [0x22, 0x02, 0x60, 0x40, 0xAF, 0xFE, 0xF1, 0x55, 0xBF, 0xBE] =
        .ok m₀ ∧
      IsEven m₀ ∧ Runs m₀ cs m ∧ (∀ c ∈ cs, c.before.JumpsEven c.word) ∧
      cs.map Cycle.word = [⟨0x2202⟩, ⟨0x6040⟩, ⟨0xAFFE⟩, ⟨0xF155⟩, ⟨0xBFBE⟩, ⟨0x4000⟩] ∧
      m.stack.live = [0x200] ∧ 2 ∣ m.pc.toNat ∧ (∀ a ∈ m.stack.live, 2 ∣ a.toNat) ∧
      m.fetch = .error (.outOfBounds "fetch" 4098 2) ∧
      (initial (.ofSeed 0)).load [0x1F, 0xFE] = .ok n₀ ∧ Runs n₀ ds n ∧
      (∀ c ∈ ds, c.before.JumpsEven c.word) ∧ n.fetch = .error (.outOfBounds "fetch" 4096 2) := by
  have hskip : (((initial (.ofSeed 0)).load
      [0x22, 0x02, 0x60, 0x40, 0xAF, 0xFE, 0xF1, 0x55, 0xBF, 0xBE]).map fun m₀ =>
      let cs := (m₀.record (.replicate 6 none)).1
      (cs.map Cycle.word, decide (∀ c ∈ cs, c.before.JumpsEven c.word),
        (m₀.afterAll cs).pc.toNat, (m₀.afterAll cs).stack.live)).toOption =
        some ([⟨0x2202⟩, ⟨0x6040⟩, ⟨0xAFFE⟩, ⟨0xF155⟩, ⟨0xBFBE⟩, ⟨0x4000⟩], true, 4098, [0x200]) := by
    decide +kernel
  have hjump : (((initial (.ofSeed 0)).load [0x1F, 0xFE]).map fun n₀ =>
      let ds := (n₀.record [none, none]).1
      (decide (∀ c ∈ ds, c.before.JumpsEven c.word), (n₀.afterAll ds).pc.toNat)).toOption =
        some (true, 4096) := by
    decide +kernel
  simp only [toOption_eq_some, map_eq_ok, Prod.mk.injEq, decide_eq_true_eq] at hskip hjump
  obtain ⟨m₀, hm₀, hwords, hcs, hm, hlive⟩ := hskip
  obtain ⟨n₀, hn₀, hds, hn⟩ := hjump
  obtain ⟨hkept, hleft⟩ := parity_kept
  have hruns := record_runs m₀ (.replicate 6 none)
  have hruns' := record_runs n₀ [none, none]
  obtain ⟨hpc, heven⟩ := hkept m₀ _ _ (.start hm₀) hruns hcs
  have hend := (hleft (.ofSeed 0) _ m₀ _ _ hm₀ hruns hcs _).2 ⟨.inr hm, rfl⟩
  have hend' := (hleft (.ofSeed 0) _ n₀ _ _ hn₀ hruns' hds _).2 ⟨.inl hn, rfl⟩
  rw [hm] at hend
  rw [hn] at hend'
  exact ⟨m₀, _, _, n₀, _, _, hm₀, .start hm₀, hruns, hcs, hwords, hlive, hpc, heven, hend,
    hn₀, hruns', hds, hend'⟩

end Chip8.Machine
