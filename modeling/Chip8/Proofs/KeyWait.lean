/-
  Waiting for a key.

  * `BitGrid.Released` are the key snapshots without a key down; in any other there is a
    lowest key (`exists_lowestKey`);
  * `step_released` and `step_pressed`: one cycle of a wait, without a key and with one;
  * `record_released`: a wait of any length leaves the machine as it was but for its keys,
    its timers and the word it executed last;
  * `wait_then_key`: so it goes on until a key is down, and stores the lowest.
-/
import Chip8.Proofs.KeyReads

namespace Chip8

open Instruction (opcode?_eq_some_iff_hasForm ofDigits)

/-! ## Key snapshots -/

namespace BitGrid

/-- A key snapshot with no key down. -/
structure Released (g : BitGrid) : Prop where
  shape : g.shape = [16]
  up : ∀ k : Nibble, g.cell k = false

theorem Released.keypad_eq {g : BitGrid} (h : g.Released) : g.keypad = .replicate 16 false := by
  refine Vector.ext fun k hk => ?_
  simp only [keypad, Vector.getElem_ofFn, Vector.getElem_replicate]
  exact h.up ⟨k, hk⟩

theorem Released.lowestKey?_eq {g : BitGrid} (h : g.Released) : g.lowestKey? = none := by
  refine List.find?_eq_none.2 fun k _ => ?_
  rw [h.up k]
  exact Bool.false_ne_true

/-- Of the keys that are down one is the lowest. -/
theorem exists_lowestKey {g : BitGrid} (h : ∃ k : Nibble, g.cell k = true) :
    ∃ key : Nibble, g.lowestKey? = some key ∧ g.cell key = true ∧
      ∀ k : Nibble, g.cell k = true → key ≤ k := by
  obtain ⟨k, hk⟩ := h
  have hsome : g.lowestKey?.isSome = true :=
    List.find?_isSome.2 ⟨k, List.mem_finRange k, hk⟩
  obtain ⟨key, hkey⟩ := Option.isSome_iff_exists.1 hsome
  obtain ⟨hdown, n, hn, hfound, hbefore⟩ := List.find?_eq_some_iff_getElem.1 hkey
  rw [List.getElem_finRange] at hfound
  refine ⟨key, hkey, hdown, fun j hj => Fin.not_lt.1 fun hlt => ?_⟩
  -- a key below the one that was found was looked at before
  have hjn : j.val < n := by
    rw [← hfound] at hlt
    exact hlt
  have hup := hbefore j.val hjn
  rw [List.getElem_finRange] at hup
  simp [hj] at hup

end BitGrid

namespace Machine

variable {m : Machine} {g : BitGrid} {i : Instruction}

/-! ## One cycle of a wait -/

/-- The machine after so many cycles of a wait, during which no key was down. -/
def waited (m : Machine) (i : Instruction) (cycles : Nat) : Machine :=
  { m with
    keypad := .replicate 16 false
    delay := UInt8.ofNat (m.delay.toNat - cycles)
    sound := UInt8.ofNat (m.sound.toNat - cycles)
    lastWord := i.raw }

theorem waited_waited (m : Machine) (i : Instruction) (a b : Nat) :
    (m.waited i a).waited i b = m.waited i (a + b) := by
  have hsub : ∀ v : UInt8, UInt8.ofNat ((UInt8.ofNat (v.toNat - a)).toNat - b) =
      UInt8.ofNat (v.toNat - (a + b)) := by
    intro v
    have hlt := v.toNat_lt
    have hfirst : (UInt8.ofNat (v.toNat - a)).toNat = v.toNat - a := by
      rw [UInt8.toNat_ofNat']
      omega
    rw [hfirst, Nat.sub_sub]
  simp only [waited, hsub]

theorem fetch_waited (m : Machine) (i : Instruction) (k : Nat) : (m.waited i k).fetch = m.fetch :=
  rfl

/-- Without a key the cycle is all waiting. -/
theorem step_released (hf : m.fetch = .ok i) (hi : Opcode.waitKey.hasForm i) (hg : g.Released) :
    m.step (some g) = .ok (m.waited i 1, i) := by
  have hnone : (m.polled g.keypad).lowestKey? = none := by
    rw [lowestKey?_polled, hg.lowestKey?_eq]
  have hexec : (m.polled g.keypad).exec i = .ok (m.polled g.keypad) := by
    rw [exec_of_opcode (opcode?_eq_some_iff_hasForm.2 hi)]
    simp only [perform, hnone]
  rw [step_eq, m.keysFrom_some hg.shape, hf]
  show ((m.polled g.keypad).exec i).map _ = _
  rw [hexec, hg.keypad_eq]
  rfl

/-- With a key the wait is over: VX is the lowest one. -/
theorem step_pressed {key : Nibble} (hf : m.fetch = .ok i) (hi : Opcode.waitKey.hasForm i)
    (hshape : g.shape = [16]) (hkey : g.lowestKey? = some key) :
    m.step (some g) = .ok ({ (m.waited i 1).setReg i.x (UInt8.ofNat key.val) with
      pc := UInt16.ofNat (m.pc.toNat + 2)
      keypad := g.keypad }, i) := by
  have hsome : (m.polled g.keypad).lowestKey? = some key := by
    rw [lowestKey?_polled, hkey]
  have hpc : m.pc.toNat + 2 < 65536 := by
    have := (fetch_eq_ok_iff.1 hf).1
    omega
  have hexec : (m.polled g.keypad).exec i =
      .ok { (m.polled g.keypad).setReg i.x (UInt8.ofNat key.val) with
        pc := UInt16.ofNat (m.pc.toNat + 2) } := by
    rw [exec_of_opcode (opcode?_eq_some_iff_hasForm.2 hi)]
    simp only [perform, hsome]
    exact advance_of_lt hpc
  rw [step_eq, m.keysFrom_some hshape, hf]
  show ((m.polled g.keypad).exec i).map _ = _
  rw [hexec]
  rfl

/-! ## The wait -/

/-- As long as no key is down the wait goes on. -/
theorem record_released {gs : List BitGrid} (hf : m.fetch = .ok i)
    (hi : Opcode.waitKey.hasForm i) (hne : gs ≠ []) (hgs : ∀ g ∈ gs, g.Released) :
    ∃ cs, m.record (gs.map some) = (cs, none) ∧
      cs.map Cycle.word = List.replicate gs.length i ∧ m.afterAll cs = m.waited i gs.length := by
  induction gs generalizing m with
  | nil => exact absurd rfl hne
  | cons g gs ih =>
    obtain ⟨hg, hgs⟩ := List.forall_mem_cons.1 hgs
    have hstep := step_released hf hi hg
    rw [List.map_cons, record_cons_ok hstep]
    by_cases hlast : gs = []
    · subst hlast
      exact ⟨_, rfl, rfl, rfl⟩
    · obtain ⟨cs, hrecord, hwords, hafter⟩ := ih ((m.fetch_waited i 1).trans hf) hlast hgs
      refine ⟨⟨m, i, m.waited i 1⟩ :: cs, by rw [hrecord], ?_, ?_⟩
      · rw [List.map_cons, hwords, List.length_cons, List.replicate_succ]
      · rw [afterAll_cons, hafter, waited_waited, List.length_cons, Nat.add_comm]

/-- **A wait for a key** goes on as long as no key is down: every cycle completes, executes
    the same word and takes one off both timers, and nothing but the keys and the last word
    changes otherwise.  Then any snapshot with a key down ends it: VX is the lowest key
    that is down, the program counter moves on, and the timers have lost one more. -/
theorem wait_then_key {m : Machine} {x : Nibble} (hpc : m.pc.toNat ≤ 4094)
    (hword : Instruction.ofBytes (m.memory.byte m.pc.toNat).toNat
      (m.memory.byte (m.pc.toNat + 1)).toNat = ofDigits 0xF x 0 0xA)
    {gs : List BitGrid} (hne : gs ≠ []) (hgs : ∀ g ∈ gs, g.Released) :
    ∃ cs, m.record (gs.map some) = (cs, none) ∧
      cs.map Cycle.word = List.replicate gs.length (ofDigits 0xF x 0 0xA) ∧
      m.afterAll cs = m.waited (ofDigits 0xF x 0 0xA) gs.length ∧
      ∀ g : BitGrid, g.shape = [16] → (∃ k : Nibble, g.cell k = true) →
        ∃ key : Nibble, g.cell key = true ∧ (∀ k : Nibble, g.cell k = true → key ≤ k) ∧
          (m.afterAll cs).step (some g) =
            .ok ({ (m.waited (ofDigits 0xF x 0 0xA) (gs.length + 1)).setReg x
                (UInt8.ofNat key.val) with
              pc := UInt16.ofNat (m.pc.toNat + 2)
              keypad := g.keypad }, ofDigits 0xF x 0 0xA) := by
  have hf : m.fetch = .ok (ofDigits 0xF x 0 0xA) := fetch_eq_ok_iff.2 ⟨hpc, hword.symm⟩
  have hi : Opcode.waitKey.hasForm (ofDigits 0xF x 0 0xA) :=
    Instruction.form_ofDigits 0xF x 0 0xA
  obtain ⟨cs, hrecord, hwords, hafter⟩ := record_released hf hi hne hgs
  refine ⟨cs, hrecord, hwords, hafter, fun g hshape hdown => ?_⟩
  obtain ⟨key, hkey, hcell, hlowest⟩ := BitGrid.exists_lowestKey hdown
  refine ⟨key, hcell, hlowest, ?_⟩
  rw [hafter, step_pressed ((m.fetch_waited _ _).trans hf) hi hshape hkey, waited_waited,
    Instruction.x_ofDigits]
  rfl

/-- A wait of three cycles, longer than the delay timer runs, ended by the keys 5 and 9. -/
theorem three_waits_then_key : ∃ (m u : Machine) (cs : List Cycle),
    m.memory.read 0x200 2 = [0xF1, 0x0A] ∧ m.delay = 2 ∧
      m.record [some ⟨[16], #[]⟩, some ⟨[16], #[false]⟩, some ⟨[16], #[]⟩] = (cs, none) ∧
      cs.map Cycle.word = [⟨0xF10A⟩, ⟨0xF10A⟩, ⟨0xF10A⟩] ∧
      (m.afterAll cs).pc = 0x200 ∧ (m.afterAll cs).delay = 0 ∧
      (m.afterAll cs).step (some ⟨[16],
        #[false, false, false, false, false, true, false, false, false, true]⟩) =
          .ok (u, ⟨0xF10A⟩) ∧ u.reg 1 = 5 ∧ u.pc = 0x202 ∧ u.sound = 0 := by
  obtain ⟨m, hm⟩ : ∃ m : Machine, m = { initial (.ofSeed 0) with
      memory := Memory.initial.write 0x200 [0xF1, 0x0A]
      delay := 2 } := ⟨_, rfl⟩
  have hprogram : m.memory.read 0x200 2 = [0xF1, 0x0A] := by
    rw [hm]
    exact Memory.read_write (by decide)
  have hpc : m.pc.toNat = 0x200 := by rw [hm]; rfl
  have hword : Instruction.ofBytes (m.memory.byte m.pc.toNat).toNat
      (m.memory.byte (m.pc.toNat + 1)).toNat = ofDigits 0xF 1 0 0xA := by
    have hbytes : m.memory.byte 0x200 = 0xF1 ∧ m.memory.byte 0x201 = 0x0A := by
      simpa [Memory.read, List.range_succ] using hprogram
    rw [hpc, hbytes.1, hbytes.2]
    decide
  have hreleased : ∀ g ∈ [(⟨[16], #[]⟩ : BitGrid), ⟨[16], #[false]⟩, ⟨[16], #[]⟩], g.Released := by
    intro g hg
    simp only [List.mem_cons, List.not_mem_nil, or_false] at hg
    rcases hg with rfl | rfl | rfl <;> exact ⟨rfl, by decide⟩
  obtain ⟨cs, hrecord, hwords, hafter, hkey⟩ :=
    wait_then_key (by rw [hpc]; decide) hword (List.cons_ne_nil _ _) hreleased
  obtain ⟨key, hdown, hlowest, hstep⟩ := hkey ⟨[16],
    #[false, false, false, false, false, true, false, false, false, true]⟩ rfl ⟨5, rfl⟩
  have hfive : ∀ k : Nibble, (⟨[16], #[false, false, false, false, false, true, false, false, false,
      true]⟩ : BitGrid).cell k = true → k ≤ 5 → k = 5 := by decide
  obtain rfl := hfive key hdown (hlowest 5 rfl)
  refine ⟨m, _, cs, hprogram, by rw [hm], hrecord, hwords, ?_, ?_, hstep, ?_, ?_, ?_⟩
  · rw [hafter, hm]
    rfl
  · rw [hafter, hm]
    rfl
  · exact (reg_setReg m 1 1 5).trans (if_pos rfl)
  · rw [hm]
    rfl
  · rw [hm]
    rfl

end Machine

end Chip8
