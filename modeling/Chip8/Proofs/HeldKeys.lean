/-
  Cycles in a row on one key snapshot.

  * `steps` takes the snapshot again before every cycle, `run` takes it once;
  * `cycles_add`: so many cycles and then some more are all of them in a row;
  * `steps_held`: no instruction changes the keys, so a snapshot that is held already
    may as well be left out;
  * `run_steps`: a run is as many steps, whether it completes or fails.
-/
import Chip8.Monitor
import Chip8.Proofs.Runs

namespace Chip8.Machine

variable {m t : Machine} {g : BitGrid} {i : Instruction}

/-! ## Cycles in a row -/

/-- Some cycles in a row, each after taking the key snapshot, if there is one. -/
def steps (keys : Option BitGrid) : Nat → Machine → Except Fault Machine
  | 0, m => .ok m
  | n + 1, m => (m.step keys).bind fun next => steps keys n next.1

theorem cycles_succ (n : Nat) (m : Machine) :
    cycles (n + 1) m = m.cycle.bind fun next => cycles n next.1 := rfl

theorem cycles_add (a b : Nat) (m : Machine) :
    cycles (a + b) m = (cycles a m).bind (cycles b) := by
  induction a generalizing m with
  | zero =>
    rw [Nat.zero_add]
    rfl
  | succ a ih =>
    rw [Nat.add_right_comm, cycles_succ, cycles_succ]
    cases m.cycle with
    | error f => rfl
    | ok next => exact ih next.1

theorem steps_none (n : Nat) (m : Machine) : steps none n m = cycles n m := by
  induction n generalizing m with
  | zero => rfl
  | succ n ih =>
    rw [cycles_succ]
    simp only [steps, ih]
    rfl

/-! ## Held keys -/

theorem setKeys_eq (m : Machine) (g : BitGrid) :
    m.setKeys g = (Keypad.ofGrid g).map fun k => { m with keypad := k } := rfl

/-- A snapshot that was taken is held: to take it again changes nothing. -/
theorem setKeys_held (h : m.setKeys g = .ok t) : t.setKeys g = .ok t := by
  rw [setKeys_eq, map_eq_ok] at h ⊢
  obtain ⟨k, hk, rfl⟩ := h
  exact ⟨k, hk, rfl⟩

theorem step_some (h : m.setKeys g = .ok t) : m.step (some g) = t.cycle := by
  show (m.setKeys g).bind cycle = t.cycle
  rw [h]
  rfl

/-- No instruction changes the keys: behind a cycle its snapshot is held. -/
theorem setKeys_behind (h : m.step (some g) = .ok (t, i)) : t.setKeys g = .ok t := by
  obtain ⟨k, hk, -, -, -, rfl⟩ := step_eq_ok_iff.1 h
  rw [setKeys_eq, map_eq_ok]
  exact ⟨k, hk, rfl⟩

theorem steps_held (h : m.setKeys g = .ok m) (n : Nat) : steps (some g) n m = cycles n m := by
  induction n generalizing m with
  | zero => rfl
  | succ n ih =>
    rw [cycles_succ, ← step_some h]
    simp only [steps]
    cases hs : m.step (some g) with
    | error f => rfl
    | ok next => exact ih (setKeys_behind hs)

/-- Steps take their snapshot on the way into the first cycle; after that it is
    held. -/
theorem steps_succ_setKeys (h : m.setKeys g = .ok t) (n : Nat) :
    steps (some g) (n + 1) m = cycles (n + 1) t := by
  rw [← steps_held (setKeys_held h)]
  simp only [steps, step_some h, step_some (setKeys_held h)]

/-! ## Runs -/

theorem run_some (m : Machine) (n : Int) (g : BitGrid) :
    m.run n (some g) = (m.setKeys g).bind (cycles n.toNat) := rfl

theorem run_add (m : Machine) {a b : Int} (ha : 0 ≤ a) (hb : 0 ≤ b) :
    m.run (a + b) none = (m.run a none).bind fun t => t.run b none := by
  show cycles (a + b).toNat m = (cycles a.toNat m).bind (cycles b.toNat)
  rw [Int.toNat_add ha hb, cycles_add]

theorem setKeys_of_shape (m : Machine) (h : g.shape = [16]) : ∃ t, m.setKeys g = .ok t := by
  rw [setKeys_eq, Keypad.ofGrid, if_pos h]
  exact ⟨_, rfl⟩

theorem run_of_pos (h : g.shape = [16]) {n : Int} (hn : 1 ≤ n) :
    m.run n (some g) = steps (some g) n.toNat m := by
  obtain ⟨t, ht⟩ := m.setKeys_of_shape h
  obtain ⟨k, hk⟩ : ∃ k, n.toNat = k + 1 := ⟨n.toNat - 1, by omega⟩
  rw [run_some, ht, hk, steps_succ_setKeys ht]
  rfl

theorem run_of_nonpos {n : Int} (hn : n ≤ 0) : m.run n (some g) = m.setKeys g := by
  rw [run_some, Int.toNat_of_nonpos hn]
  cases m.setKeys g <;> rfl

theorem run_of_shape_ne (h : g.shape ≠ [16]) (n : Int) :
    m.run n (some g) = .error (.keypadShape g.shape) := by
  rw [run_some, setKeys_eq, Keypad.ofGrid, if_neg h]
  rfl

/-- The monitor's command for cycles in a row is a run. -/
theorem beforeRun_run (m : Machine) (n : Int) (keys : Option NestedBits) :
    (Monitor.beforeRun m n keys false).bind (fun t => t.run n none) =
      (Monitor.keyGrid? keys).bind fun g => m.run n g := by
  unfold Monitor.beforeRun
  cases Monitor.keyGrid? keys with
  | error f => rfl
  | ok g =>
    show ((m.withKeys g).bind fun t => .ok t).bind (fun t => t.run n none) =
      (m.withKeys g).bind (cycles n.toNat)
    cases m.withKeys g <;> rfl

/-- **A run is as many steps**: it may be cut in two anywhere, and to take its
    snapshot once or before every cycle comes to the same, failures included.
    Without a cycle the snapshot is all it takes; one of another shape is always
    refused. -/
theorem run_steps (m : Machine) :
    (∀ a b : Int, 0 ≤ a → 0 ≤ b →
      m.run (a + b) none = (m.run a none).bind fun t => t.run b none) ∧
    (∀ n : Int, m.run n none = steps none n.toNat m) ∧
    (∀ g : BitGrid, g.shape = [16] →
      (∀ n : Int, 1 ≤ n → m.run n (some g) = steps (some g) n.toNat m) ∧
      ∀ n : Int, n ≤ 0 → m.run n (some g) = m.setKeys g) ∧
    ∀ g : BitGrid, g.shape ≠ [16] → ∀ n : Int,
      m.run n (some g) = .error (.keypadShape g.shape) := by
  refine ⟨fun a b => m.run_add, fun n => (steps_none n.toNat m).symm, ?_, ?_⟩
  · intro g hg
    exact ⟨fun n => run_of_pos hg, fun n => run_of_nonpos⟩
  · intro g hg n
    exact run_of_shape_ne hg n

/-- A wait for key 0 and a skip if it is down: the key of one snapshot is down in
    both cycles. -/
theorem wait_skip_run_steps : ∃ m t, (initial (.ofSeed 0)).load [0xF0, 0x0A, 0xE0, 0x9E] = .ok m ∧
    m.run 2 (some ⟨[16], #[true]⟩) = .ok t ∧ t.pc = 0x206 ∧
      steps (some ⟨[16], #[true]⟩) 2 m = .ok t ∧
      m.run 0 (some ⟨[16], #[true]⟩) = m.setKeys ⟨[16], #[true]⟩ ∧
      m.run (-1) (some ⟨[8], #[true]⟩) = .error (.keypadShape [8]) ∧
      t.run (3 + 4) none = (t.run 3 none).bind fun u => u.run 4 none := by
  have hrun : (((initial (.ofSeed 0)).load [0xF0, 0x0A, 0xE0, 0x9E]).bind fun m =>
      (m.run 2 (some ⟨[16], #[true]⟩)).map Machine.pc).toOption = some 0x206 := by
    decide +kernel
  obtain ⟨m, hload, hm⟩ := bind_eq_ok.1 (toOption_eq_some.1 hrun)
  obtain ⟨t, ht, hpc⟩ := map_eq_ok.1 hm
  obtain ⟨-, -, hshape, hrefused⟩ := run_steps m
  obtain ⟨hpos, hnonpos⟩ := hshape ⟨[16], #[true]⟩ rfl
  exact ⟨m, t, hload, ht, hpc, (hpos 2 (by decide)).symm.trans ht, hnonpos 0 (by decide),
    hrefused ⟨[8], #[true]⟩ (by decide) (-1), (run_steps t).1 3 4 (by decide) (by decide)⟩

end Chip8.Machine
