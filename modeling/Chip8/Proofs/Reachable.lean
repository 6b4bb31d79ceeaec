/-
  Reachable machines: what holds of the program counter and the call stack
  whatever was executed before.

  * `Reachable m₀ m`: cycles, key snapshots, ticks, further programs and lowering
    the flag of a pending drawing lead from `m₀` to `m`;
  * `Bounded` is the invariant: the program counter lies below 4099, the return
    addresses in use below 4095, and the slots out of use are zero;
  * `Bounded.step`: a cycle keeps it.  The address that a call leaves on the stack
    was fetched from, so a word lies behind it, and a return goes to that word;
  * `reachable_bounded`: the invariant holds of every machine reached from a
    loaded one, and a cycle of such a machine fails for a misused stack or bytes
    outside memory only.
-/
import Chip8.Proofs.Failure
import Chip8.Proofs.Loading

namespace Chip8.Machine

/-! ## The invariant -/

/-- The machines that are reached from a first one. -/
inductive Reachable (m₀ : Machine) : Machine → Prop
  | start : Reachable m₀ m₀
  | step {m t keys i} : Reachable m₀ m → m.step keys = .ok (t, i) → Reachable m₀ t
  | setKeys {m t g} : Reachable m₀ m → m.setKeys g = .ok t → Reachable m₀ t
  | tick {m} : Reachable m₀ m → Reachable m₀ m.tick
  | load {m t rom} : Reachable m₀ m → m.load rom = .ok t → Reachable m₀ t
  | acknowledge {m} : Reachable m₀ m → Reachable m₀ { m with drawPending := false }

/-- The bounds on the program counter and on the return addresses. -/
structure Bounded (m : Machine) : Prop where
  pc_le : m.pc.toNat ≤ 4098
  live_le : ∀ a ∈ m.stack.live, a.toNat ≤ 4094
  clean : m.stack.IsClean

/-- From where a word was fetched an instruction leads to 4098 at most, which is a
    skip at the last word of memory, unless it returns to a higher address. -/
theorem nextPc_le_of_top {m : Machine} {i : Instruction} (hp : m.pc.toNat ≤ 4094)
    (ht : i.opcode? = some .ret → m.stack.top.toNat ≤ 4094) : m.nextPc i ≤ 4098 := by
  have hn : i.nnn.toNat < 4096 := by
    rw [Instruction.nnn_eq_digits]
    omega
  unfold nextPc
  split
  · next ho =>
    have := ht ho
    omega
  · omega
  · omega
  · omega
  · split <;> omega
  · split <;> omega

theorem nextPc_le {m : Machine} {i : Instruction} (hp : m.pc.toNat ≤ 4094)
    (hl : ∀ a ∈ m.stack.live, a.toNat ≤ 4094) : m.nextPc i ≤ 4098 :=
  nextPc_le_of_top hp fun _ => CallStack.top_of_live (by decide) hl

theorem Bounded.nextPc_le {m : Machine} {k : Keypad} {i : Instruction} (hm : m.Bounded)
    (hf : m.fetch = .ok i) : (m.polled k).nextPc i ≤ 4098 :=
  Machine.nextPc_le (fetch_eq_ok_iff.1 hf).1 hm.live_le

theorem Bounded.step {m t : Machine} {keys : Option BitGrid} {i : Instruction} (hm : m.Bounded)
    (h : m.step keys = .ok (t, i)) : t.Bounded := by
  obtain ⟨k, -, hf, hg, -, rfl⟩ := step_eq_ok_iff.1 h
  have hn : (m.polled k).nextPc i ≤ 4098 := hm.nextPc_le hf
  have hp : m.pc.toNat ≤ 4094 := (fetch_eq_ok_iff.1 hf).1
  have hcall : (UInt16.ofInt ((m.pc.toNat : Int) % 4096)).toNat ≤ 4094 := by
    have := CallStack.toNat_ofInt_mod m.pc.toNat
    omega
  refine ⟨?_, forall_live_nextStack hg hcall hm.live_le, nextStack_isClean hg hm.clean⟩
  simp only [UInt16.toNat_ofNat']
  omega

theorem Bounded.of_load {m t : Machine} {rom : List Int} (hl : ∀ a ∈ m.stack.live, a.toNat ≤ 4094)
    (hc : m.stack.IsClean) (h : m.load rom = .ok t) : t.Bounded := by
  rw [load_frame h]
  refine ⟨?_, hl, hc⟩
  show (UInt16.ofNat programStart).toNat ≤ 4098
  decide

theorem Bounded.start {rng : Random.Source} {rom : List Int} {m : Machine}
    (h : (initial rng).load rom = .ok m) : m.Bounded :=
  .of_load (by simp [initial, CallStack.live_empty]) CallStack.isClean_empty h

theorem Reachable.bounded {m₀ m : Machine} (h₀ : m₀.Bounded) (h : Reachable m₀ m) : m.Bounded := by
  induction h with
  | start => exact h₀
  | step _ hs ih => exact ih.step hs
  | setKeys _ hk ih =>
    obtain ⟨k, -, rfl⟩ := map_eq_ok.1 hk
    exact ⟨ih.pc_le, ih.live_le, ih.clean⟩
  | tick _ ih => exact ⟨ih.pc_le, ih.live_le, ih.clean⟩
  | load _ hl ih => exact .of_load ih.live_le ih.clean hl
  | acknowledge _ ih => exact ⟨ih.pc_le, ih.live_le, ih.clean⟩

theorem Reachable.cycles {m₀ m t : Machine} {n : Nat} (h : Reachable m₀ m)
    (ht : cycles n m = .ok t) : Reachable m₀ t := by
  induction n generalizing m with
  | zero =>
    cases ht
    exact h
  | succ n ih =>
    obtain ⟨⟨m', i⟩, hs, ht⟩ := bind_eq_ok.1 ht
    have hs : m.step none = .ok (m', i) := hs
    exact ih (.step h hs) ht

/-! ## What may fail -/

theorem keysFrom_ok {m : Machine} {keys : Option BitGrid} (h : ∀ g ∈ keys, g.shape = [16]) :
    ∃ k, m.keysFrom keys = .ok k := by
  cases keys with
  | none => exact ⟨m.keypad, rfl⟩
  | some g => exact ⟨_, if_pos (h g rfl)⟩

/-- A fetched word that is not refused and does not return completes its cycle. -/
theorem step_of_fetch {m : Machine} {keys : Option BitGrid} {k : Keypad} {i : Instruction}
    (hk : m.keysFrom keys = .ok k) (hf : m.fetch = .ok i) (hg : (m.polled k).guard i = .ok ())
    (hr : i.opcode? ≠ some .ret) : ∃ t, m.step keys = .ok (t, i) := by
  have hle : (m.polled k).nextPc i ≤ 4098 :=
    nextPc_le_of_top (fetch_eq_ok_iff.1 hf).1 fun ho => absurd ho hr
  exact ⟨_, step_eq_ok_iff.2 ⟨k, hk, hf, hg, by omega, rfl⟩⟩

theorem keysFrom_eq_error {m : Machine} {keys : Option BitGrid} {f : Fault}
    (h : m.keysFrom keys = .error f) : ∃ g ∈ keys, g.shape ≠ [16] ∧ f = .keypadShape g.shape := by
  cases keys with
  | none => cases h
  | some g =>
    simp only [keysFrom, Keypad.ofGrid] at h
    split at h
    · cases h
    · next hne =>
      cases h
      exact ⟨g, rfl, hne, rfl⟩

/-- A cycle of a bounded machine fails for its keys, for a misused stack or for
    bytes outside memory: the program counter always has room. -/
theorem Bounded.step_error {m : Machine} {keys : Option BitGrid} {f : Fault} (hm : m.Bounded)
    (h : m.step keys = .error f) :
    (∃ g ∈ keys, g.shape ≠ [16] ∧ f = .keypadShape g.shape) ∨
      f = .stackUnderflow ∨ f = .stackOverflow ∨
        ∃ operation a n, f = .outOfBounds operation a n := by
  rcases step_eq_error_iff.1 h with hk | ⟨k, -, hf | ⟨i, hf, hg | ⟨-, hn, -⟩⟩⟩
  · exact .inl (keysFrom_eq_error hk)
  · exact .inr (.inr (.inr ⟨_, _, _, (fetch_eq_error_iff.1 hf).2⟩))
  · cases guard_eq_error_iff.1 hg with
    | ret => exact .inr (.inl rfl)
    | call => exact .inr (.inr (.inl rfl))
    | bytes => exact .inr (.inr (.inr ⟨_, _, _, rfl⟩))
  · have hle : (m.polled k).nextPc i ≤ 4098 := hm.nextPc_le hf
    omega

/-- **Reachable machines are bounded**, and their next cycle completes or fails
    for a misused stack or bytes outside memory. -/
theorem reachable_bounded (rng : Random.Source) (rom : List UInt8) (hrom : rom.length ≤ 3584) :
    ∃ m₀, (initial rng).load (rom.map fun b => (b.toNat : Int)) = .ok m₀ ∧
      ∀ m, Reachable m₀ m →
        (m.pc.toNat ≤ 4098 ∧ -1 ≤ m.stack.pointer ∧ m.stack.pointer ≤ 15 ∧
          (∀ (k : Nat) (h : k < 16), (k : Int) ≤ m.stack.pointer → m.stack.slots[k].toNat ≤ 4094) ∧
          (∀ (k : Nat) (h : k < 16), m.stack.pointer < k → m.stack.slots[k] = 0) ∧
          m.memory.toList.length = 4096 ∧ m.registers.toList.length = 16 ∧
          m.index.toNat ≤ 65535) ∧
        (∀ keys : Option BitGrid, (∀ g ∈ keys, g.shape = [16]) →
          (∃ next, m.step keys = .ok next) ∨
          ∃ f, m.step keys = .error f ∧ (f = .stackUnderflow ∨ f = .stackOverflow ∨
            ∃ operation a n, f = .outOfBounds operation a n)) ∧
        ∀ keys v, m.step keys ≠ .error (.pcRange v) := by
  have hfits : ¬ maxRomSize < rom.length := Nat.not_lt.2 hrom
  refine ⟨_, (load_bytes _ rom).trans (if_neg hfits), ?_⟩
  intro m hm
  have hb : m.Bounded := hm.bounded (.start ((load_bytes _ rom).trans (if_neg hfits)))
  have hd := m.stack.depth_le
  have hi := m.index.toNat_lt
  refine ⟨⟨hb.pc_le, ?_, ?_, ?_, ?_, Vector.length_toList, Vector.length_toList, by omega⟩, ?_, ?_⟩
  · unfold CallStack.pointer
    omega
  · unfold CallStack.pointer
    omega
  · intro k hk hle
    unfold CallStack.pointer at hle
    exact hb.live_le _ (CallStack.mem_live.2 ⟨k, hk, by omega, rfl⟩)
  · intro k hk hlt
    unfold CallStack.pointer at hlt
    exact hb.clean k hk (by omega)
  · intro keys hk
    cases hs : m.step keys with
    | ok next => exact .inl ⟨next, rfl⟩
    | error f =>
      rcases hb.step_error hs with ⟨g, hg, hne, -⟩ | h
      · exact absurd (hk g hg) hne
      · exact .inr ⟨f, rfl, h⟩
  · intro keys v hv
    rcases hb.step_error hv with ⟨_, -, -, h⟩ | h | h | ⟨_, _, _, h⟩ <;> cases h

/-- A program that only calls itself keeps within the bounds until the stack is
    full. -/
theorem self_call_bounded : [0x22, 0x00].length ≤ 3584 ∧
    ∃ m₀ m, (initial (.ofSeed 0)).load [0x22, 0x00] = .ok m₀ ∧ Reachable m₀ m ∧
      m.pc.toNat ≤ 4098 ∧ m.stack.pointer = 15 ∧ m.stack.slots[15].toNat ≤ 4094 ∧
      (history 1 m).2 = some .stackOverflow := by
  obtain ⟨m₀, hl, h⟩ := reachable_bounded (.ofSeed 0) [0x22, 0x00] (by decide)
  have hrun : ((((initial (.ofSeed 0)).load [0x22, 0x00]).bind (cycles 16)).map
      fun m => (m.stack.pointer, (history 1 m).2)).toOption = some (15, some .stackOverflow) := by
    decide +kernel
  obtain ⟨m, hm, hend⟩ := map_eq_ok.1 (toOption_eq_some.1 hrun)
  obtain ⟨m₁, hl₁, hm⟩ := bind_eq_ok.1 hm
  cases hl.symm.trans hl₁
  obtain ⟨hp, hs⟩ := Prod.mk.inj hend
  have hr : Reachable m₀ m := .cycles .start hm
  obtain ⟨⟨hpc, -, -, hlive, -⟩, -⟩ := h m hr
  exact ⟨by decide, m₀, m, hl, hr, hpc, hp, hlive 15 (by decide) (by simp [hp]), hs⟩

end Chip8.Machine
