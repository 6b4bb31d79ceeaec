/-
  The timers along a run.

  A timer loses one with every cycle, down to zero, whatever the cycle executes,
  unless the cycle sets the timer.

  * `Timer.step`: what one cycle does to a timer;
  * `Timer.RunsDown`: what is left of a timer behind some cycles, counted from the
    last of them that set it, or from the first machine if none did;
  * `timers_run_down`: both timers run down along every run, each on its own, and so
    does what a program reads off the delay timer on the way.
-/
import Chip8.Proofs.Runs

namespace Chip8.Machine

inductive Timer where
  | delay
  | sound

namespace Timer

def of : Timer → Machine → UInt8
  | delay, m => m.delay
  | sound, m => m.sound

/-- The operation that sets a timer. -/
def setter : Timer → Opcode
  | delay => .setDelay
  | sound => .setSound

def Sets (timer : Timer) (c : Cycle) : Prop := timer.setter.hasForm c.word

theorem sets_iff {timer : Timer} {c : Cycle} :
    timer.Sets c ↔ c.word.opcode? = some timer.setter :=
  Instruction.opcode?_eq_some_iff_hasForm.symm

/-- So much is left of a timer behind some cycles. -/
structure RunsDown (timer : Timer) (m₀ : Machine) (cs : List Cycle) (left : Nat) : Prop where
  /-- no cycle set the timer: every one took one off the first value -/
  unset : (∀ c ∈ cs, ¬ timer.Sets c) → left = (timer.of m₀).toNat - cs.length
  /-- a cycle set the timer, and every one since took one off -/
  set : ∀ before c after, cs = before ++ c :: after → timer.Sets c →
    (∀ d ∈ after, ¬ timer.Sets d) → left = (c.before.reg c.word.x).toNat - after.length

variable {timer : Timer}

/-! ## One cycle -/

theorem of_polled (m : Machine) (k : Keypad) :
    (timer.of (m.polled k)).toNat = (timer.of m).toNat - 1 := by
  have hlt := (timer.of m).toNat_lt
  have hpred : (UInt8.ofNat ((timer.of m).toNat - 1)).toNat = (timer.of m).toNat - 1 := by
    rw [UInt8.toNat_ofNat']
    omega
  cases timer <;> exact hpred

theorem of_effect (m : Machine) (i : Instruction) :
    timer.of (m.effect i) = if i.opcode? = some timer.setter then m.reg i.x else timer.of m := by
  cases timer with
  | delay =>
    show m.nextDelay i = _
    unfold nextDelay
    split
    · next ho => exact (if_pos ho).symm
    · next ho => exact (if_neg ho).symm
  | sound =>
    show m.nextSound i = _
    unfold nextSound
    split
    · next ho => exact (if_pos ho).symm
    · next ho => exact (if_neg ho).symm

/-- **A cycle sets a timer or takes one off**, but nothing off zero. -/
theorem step {m t : Machine} {keys : Option BitGrid} {i : Instruction}
    (h : m.step keys = .ok (t, i)) :
    (timer.Sets ⟨m, i, t⟩ → (timer.of t).toNat = (m.reg i.x).toNat) ∧
      (¬ timer.Sets ⟨m, i, t⟩ → (timer.of t).toNat = (timer.of m).toNat - 1) := by
  obtain ⟨k, -, -, -, -, ht⟩ := step_eq_ok_iff.1 h
  have hof : timer.of t = timer.of ((m.polled k).effect i) := by
    rw [ht]
    cases timer <;> rfl
  rw [hof, of_effect, sets_iff]
  constructor
  · intro hi
    rw [if_pos hi]
    rfl
  · intro hi
    rw [if_neg hi]
    exact of_polled m k

/-! ## Runs -/

namespace RunsDown

variable {m₀ : Machine} {cs : List Cycle} {c : Cycle} {left : Nat}

theorem start : timer.RunsDown m₀ [] (timer.of m₀).toNat where
  unset := fun _ => rfl
  set := fun before c after h => absurd h (by simp)

theorem tick (h : timer.RunsDown m₀ cs left) (hc : ¬ timer.Sets c) :
    timer.RunsDown m₀ (cs ++ [c]) (left - 1) where
  unset := by
    intro hnone
    have hleft := h.unset fun d hd => hnone d (List.mem_append_left _ hd)
    rw [hleft, List.length_append, List.length_singleton, Nat.sub_sub]
  set := by
    intro before d after hcs hd hafter
    rcases snoc_eq_append_cons hcs with ⟨-, rfl, -⟩ | ⟨rest, hrest, rfl⟩
    · exact absurd hd hc
    · have hleft := h.set before d rest hrest hd fun e he => hafter e (List.mem_append_left _ he)
      rw [hleft, List.length_append, List.length_singleton, Nat.sub_sub]

theorem reset (hc : timer.Sets c) :
    timer.RunsDown m₀ (cs ++ [c]) (c.before.reg c.word.x).toNat where
  unset := fun hnone => absurd hc (hnone c (List.mem_append_right _ (List.mem_singleton_self c)))
  set := by
    intro before d after hcs hd hafter
    rcases snoc_eq_append_cons hcs with ⟨-, rfl, rfl⟩ | ⟨rest, -, rfl⟩
    · rfl
    · exact absurd hc (hafter c (List.mem_append_right _ (List.mem_singleton_self c)))

end RunsDown

/-- **A timer runs down** along a run. -/
theorem runsDown (timer : Timer) {m₀ m : Machine} {cs : List Cycle} (h : Runs m₀ cs m) :
    timer.RunsDown m₀ cs (timer.of m).toNat := by
  induction h with
  | start => exact .start
  | @step cs m t keys i _ hs ih =>
    by_cases hi : timer.Sets ⟨m, i, t⟩
    · rw [(step hs).1 hi]
      exact .reset hi
    · rw [(step hs).2 hi]
      exact ih.tick hi

end Timer

/-- A program reads off the delay timer what is left of it behind the same cycle. -/
theorem reg_of_getDelay {m t : Machine} {keys : Option BitGrid} {i : Instruction}
    (h : m.step keys = .ok (t, i)) (hi : i.opcode? = some .getDelay) : t.reg i.x = t.delay := by
  obtain ⟨k, -, -, -, -, rfl⟩ := step_eq_ok_iff.1 h
  show ((m.polled k).nextRegisters i)[i.x] = (m.polled k).nextDelay i
  simp [nextRegisters, nextDelay, hi]

/-- **The timers along a run.**  Behind it each timer holds what its last setting
    left, or its first value, less one for every cycle since, but no less than zero;
    a cycle that does not set it takes one off, be it a wait for a key or no
    operation at all.  To read the delay timer gives what is left of it, the reading
    cycle counted in. -/
theorem timers_run_down {m₀ m : Machine} {cs : List Cycle} (h : Runs m₀ cs m) :
    (∀ timer : Timer, timer.RunsDown m₀ cs (timer.of m).toNat) ∧
    (∀ timer : Timer, ∀ c ∈ cs, ¬ timer.Sets c →
      (timer.of c.after).toNat = (timer.of c.before).toNat - 1) ∧
    ∀ before c after, cs = before ++ c :: after → Opcode.getDelay.hasForm c.word →
      Timer.delay.RunsDown m₀ (before ++ [c]) (c.after.reg c.word.x).toNat := by
  refine ⟨fun timer => timer.runsDown h, ?_, ?_⟩
  · intro timer c hc hsets
    obtain ⟨before, after, hcs⟩ := List.append_of_mem hc
    obtain ⟨-, keys, hs⟩ := h.split hcs
    exact (Timer.step hs).2 hsets
  · intro before c after hcs hread
    obtain ⟨-, keys, hs⟩ := h.split hcs
    rw [reg_of_getDelay hs (Instruction.opcode?_eq_some_iff_hasForm.2 hread)]
    exact Timer.runsDown .delay (h.upTo hcs)

/-- A timer is set to 5 and read behind two waits for a key: the reading cycle is the
    third since. -/
theorem waits_run_down : ∃ m₀ c₁ c₂ c₃ c₄ c₅ m,
    (initial (.ofSeed 0)).load [0x60, 0x05, 0xF0, 0x15, 0xF1, 0x0A, 0xF2, 0x07] = .ok m₀ ∧
      Runs m₀ [c₁, c₂, c₃, c₄, c₅] m ∧ c₂.word = ⟨0xF015⟩ ∧ c₃.word = ⟨0xF10A⟩ ∧
      c₃.after.pc = c₃.before.pc ∧ c₃.after.delay.toNat = c₃.before.delay.toNat - 1 ∧
      c₅.word = ⟨0xF207⟩ ∧ (c₅.after.reg c₅.word.x).toNat = 5 - 3 ∧ m.delay.toNat = 5 - 3 ∧
      m.sound.toNat = m₀.sound.toNat - 5 := by
  have hrun : (((initial (.ofSeed 0)).load [0x60, 0x05, 0xF0, 0x15, 0xF1, 0x0A, 0xF2, 0x07]).map
      fun m => (m.record [none, none, none, some ⟨[16], #[true]⟩, none]).1.map fun c =>
        (c.word, c.before.reg 0, c.after.pc == c.before.pc)).toOption =
        some [(⟨0x6005⟩, 0, false), (⟨0xF015⟩, 5, false), (⟨0xF10A⟩, 5, true),
          (⟨0xF10A⟩, 5, false), (⟨0xF207⟩, 5, false)] := by
    decide +kernel
  obtain ⟨m₀, hload, hcycles⟩ := map_eq_ok.1 (toOption_eq_some.1 hrun)
  have hruns := record_runs m₀ [none, none, none, some ⟨[16], #[true]⟩, none]
  generalize (m₀.record [none, none, none, some ⟨[16], #[true]⟩, none]).1 = cs at hruns hcycles
  simp only [List.map_eq_cons_iff, List.map_eq_nil_iff, Prod.mk.injEq] at hcycles
  obtain ⟨c₁, _, rfl, ⟨h₁, -⟩, c₂, _, rfl, ⟨h₂, hset, -⟩, c₃, _, rfl, ⟨h₃, -, hwait⟩, c₄, _, rfl,
    ⟨h₄, -⟩, c₅, _, rfl, ⟨h₅, -⟩, rfl⟩ := hcycles
  obtain ⟨hdown, hcycle, hread⟩ := timers_run_down hruns
  have hsets : Timer.delay.Sets c₂ := by
    rw [Timer.sets_iff, h₂]
    decide
  have hrest : ∀ d ∈ [c₃, c₄, c₅], ¬ Timer.delay.Sets d := by
    simp only [List.forall_mem_cons, Timer.sets_iff, h₃, h₄, h₅]
    decide
  have hnone : ∀ d ∈ [c₁, c₂, c₃, c₄, c₅], ¬ Timer.sound.Sets d := by
    simp only [List.forall_mem_cons, Timer.sets_iff, h₁, h₂, h₃, h₄, h₅]
    decide
  have hvalue : (c₂.before.reg c₂.word.x).toNat = 5 := by
    rw [h₂]
    exact congrArg UInt8.toNat hset
  have hdelay := (hdown .delay).set [c₁] c₂ [c₃, c₄, c₅] rfl hsets hrest
  have hsound := (hdown .sound).unset hnone
  have hreading := (hread [c₁, c₂, c₃, c₄] c₅ [] rfl (by rw [h₅]; exact ⟨rfl, rfl⟩)).set
    [c₁] c₂ [c₃, c₄, c₅] rfl hsets hrest
  rw [hvalue] at hdelay hreading
  exact ⟨m₀, c₁, c₂, c₃, c₄, c₅, _, hload, hruns, h₂, h₃, eq_of_beq hwait,
    hcycle .delay c₃ (by simp) (hrest c₃ (by simp)), h₅, hreading, hdelay, hsound⟩

end Chip8.Machine
