/-
  The loop of a session, iteration by iteration.

  * an `Iteration` is a completed turn: its cycle, what it shows and the running
    session behind it; `Session.iterations` are those of a loop, with what the
    loop shows behind the last one;
  * `loop_eq`: the loop shows what its iterations show one after another, and
    `run_eq` says the same of a session that gets as far as its loop;
  * `turn_cases`: a turn quits, fails with the machine or completes a cycle;
  * `step_lowered`: lowering the flag of a pending drawing changes nothing about a
    cycle but the flag.
-/
import Chip8.Session
import Chip8.Proofs.Runs

namespace Chip8

/-! ## Turns -/

/-- The key snapshots of the polls before the one at which the user quits. -/
def Keyboard.snapshots (k : Keyboard) : List (List InputEvent) → List Keypad
  | [] => []
  | batch :: batches =>
    match k.poll batch with
    | (_, none) => []
    | (next, some keys) => keys :: next.snapshots batches

theorem Keyboard.snapshots_quit {k k' : Keyboard} {batch : List InputEvent}
    {batches : List (List InputEvent)} (h : k.poll batch = (k', none)) :
    k.snapshots (batch :: batches) = [] := by
  simp only [snapshots, h]

theorem Keyboard.snapshots_keys {k k' : Keyboard} {batch : List InputEvent}
    {batches : List (List InputEvent)} {keys : Keypad} (h : k.poll batch = (k', some keys)) :
    k.snapshots (batch :: batches) = keys :: k'.snapshots batches := by
  simp only [snapshots, h]

/-- A turn quits, fails with the machine or completes a cycle. -/
theorem Live.turn_cases (l : Live) (batch : List InputEvent) :
    (∃ k, l.keyboard.poll batch = (k, none) ∧ l.turn batch = .quit) ∨
    (∃ k keys f, l.keyboard.poll batch = (k, some keys) ∧
      l.machine.step (some (.ofVector keys)) = .error f ∧ l.turn batch = .failed f) ∨
    ∃ k keys t i, l.keyboard.poll batch = (k, some keys) ∧
      l.machine.step (some (.ofVector keys)) = .ok (t, i) ∧
      l.turn batch = .completed ⟨l.machine, i, t⟩ k := by
  unfold Live.turn
  rcases l.keyboard.poll batch with ⟨k, _ | keys⟩
  · exact .inl ⟨k, rfl, rfl⟩
  · dsimp only
    rcases hs : l.machine.step (some (.ofVector keys)) with f | ⟨t, i⟩
    · exact .inr (.inl ⟨k, keys, f, rfl, hs, rfl⟩)
    · exact .inr (.inr ⟨k, keys, t, i, rfl, hs, rfl⟩)

/-! ## Iterations -/

/-- A completed turn of the loop. -/
structure Iteration where
  cycle : Cycle
  entries : List LogEntry
  frames : List Frame
  /-- the running session behind it -/
  live : Live

namespace Session

variable {s : Session} {w : Window} {p : Palette} {l : Live} {batch : List InputEvent}
  {batches : List (List InputEvent)}

/-- The iterations of a loop and what it shows behind the last of them. -/
def iterations (s : Session) (w : Window) (p : Palette) (l : Live) :
    List (List InputEvent) → List Iteration × Transcript
  | [] => ([], stop l.tracer.count)
  | batch :: batches =>
    match l.turn batch with
    | .quit => ([], stop l.tracer.count)
    | .failed f => ([], halt l.machine f)
    | .completed c keyboard =>
      match s.newFrames w p c.after with
      | .error f => ([], .final (l.entries c) (.raised f))
      | .ok frames =>
        let rest := s.iterations w p (l.next c keyboard) batches
        (⟨c, l.entries c, frames, l.next c keyboard⟩ :: rest.1, rest.2)

theorem iterations_quit (h : l.turn batch = .quit) :
    s.iterations w p l (batch :: batches) = ([], stop l.tracer.count) := by
  simp only [iterations, h]

theorem iterations_failed {f : Fault} (h : l.turn batch = .failed f) :
    s.iterations w p l (batch :: batches) = ([], halt l.machine f) := by
  simp only [iterations, h]

theorem iterations_completed {c : Cycle} {k : Keyboard} {frames : List Frame}
    (h : l.turn batch = .completed c k) (hf : s.newFrames w p c.after = .ok frames) :
    s.iterations w p l (batch :: batches) =
      (⟨c, l.entries c, frames, l.next c k⟩ :: (s.iterations w p (l.next c k) batches).1,
        (s.iterations w p (l.next c k) batches).2) := by
  simp only [iterations, h, hf]

/-- **The loop shows what its iterations show**, one after another. -/
theorem loop_eq (s : Session) (w : Window) (p : Palette) (l : Live)
    (batches : List (List InputEvent)) :
    s.loop w p l batches =
      (s.iterations w p l batches).2.after
        ((s.iterations w p l batches).1.flatMap Iteration.entries)
        ((s.iterations w p l batches).1.flatMap Iteration.frames)
        ((s.iterations w p l batches).1.map fun _ => s.delay) := by
  induction batches generalizing l with
  | nil => rfl
  | cons batch batches ih =>
    unfold loop iterations
    rcases l.turn batch with _ | f | ⟨c, k⟩
    · rfl
    · rfl
    · dsimp only
      rcases s.newFrames w p c.after with f | frames
      · rfl
      · dsimp only
        rw [ih]
        simp only [Transcript.after, List.flatMap_cons, List.map_cons, List.append_assoc,
          List.cons_append, List.nil_append]

/-- Behind its last iteration a loop only writes messages. -/
theorem iterations_rest (s : Session) (w : Window) (p : Palette) (l : Live)
    (batches : List (List InputEvent)) :
    (s.iterations w p l batches).2.frames = [] ∧ (s.iterations w p l batches).2.waits = [] := by
  induction batches generalizing l with
  | nil => exact ⟨rfl, rfl⟩
  | cons batch batches ih =>
    unfold iterations
    rcases l.turn batch with _ | f | ⟨c, k⟩
    · exact ⟨rfl, rfl⟩
    · dsimp only
      unfold halt
      split <;> exact ⟨rfl, rfl⟩
    · dsimp only
      rcases s.newFrames w p c.after with f | frames
      · exact ⟨rfl, rfl⟩
      · exact ih (l.next c k)

/-- The session of a loaded machine before its first turn. -/
def opening (s : Session) (m : Machine) : Live :=
  ⟨m, .start none, .start s.trace s.environmentTrace⟩

theorem run_of_reads {bytes : List UInt8} (batches : List (List InputEvent))
    (hread : s.host.Reads s.rom bytes) :
    s.run batches = (s.afterReading bytes batches).after [romEntry s.rom bytes] [] [] := by
  simp only [run, hread.read, say, hread.write]

/-- What a session shows that gets as far as its loop. -/
theorem run_eq {bytes : List UInt8} {m : Machine}
    (batches : List (List InputEvent)) (hread : s.host.Reads s.rom bytes)
    (hload : (Machine.initial s.rng).load (bytes.map fun b => (b.toNat : Int)) = .ok m)
    (hp : Palette.ofName s.scheme = .ok p) (hw : s.window? = .ok w) :
    s.run batches =
      (s.iterations w p (s.opening m) batches).2.after
        (romEntry s.rom bytes ::
          (s.iterations w p (s.opening m) batches).1.flatMap Iteration.entries)
        (w.fill p.dark :: (s.iterations w p (s.opening m) batches).1.flatMap Iteration.frames)
        ((s.iterations w p (s.opening m) batches).1.map fun _ => s.delay) := by
  rw [run_of_reads batches hread]
  simp only [afterReading, hload, play, hp, hw, start]
  rw [loop_eq]
  rfl

end Session

namespace Machine

/-! ## The flag of a pending drawing -/

/-- The machine without a pending drawing. -/
def lowered (m : Machine) : Machine := { m with drawPending := false }

theorem lowered_of_not_pending {m : Machine} (h : m.drawPending = false) : m.lowered = m := by
  rw [lowered, ← h]

theorem nextRegisters_lowered (m : Machine) (i : Instruction) :
    m.lowered.nextRegisters i = m.nextRegisters i := by
  unfold nextRegisters
  rcases i.opcode? with _ | op
  · rfl
  cases op with
  | alu op =>
    have h : m.lowered.registers = m.registers := rfl
    exact combine_registers h op i.x i.y
  | _ => rfl

theorem effect_lowered (m : Machine) (i : Instruction) :
    m.lowered.effect i = { m.effect i with drawPending := i.draws } := by
  unfold effect
  rw [nextRegisters_lowered]
  simp only [lowered, Bool.false_or]
  rfl

theorem exec_lowered (m : Machine) (i : Instruction) :
    m.lowered.exec i = (m.exec i).map fun t => { t with drawPending := i.draws } := by
  have hg : m.lowered.guard i = m.guard i := rfl
  have hn : m.lowered.nextPc i = m.nextPc i := rfl
  rw [exec_eq, exec_eq, hg, hn, effect_lowered]
  cases m.guard i with
  | error f => rfl
  | ok u =>
    simp only [Except.bind, goTo]
    split <;> rfl

/-- Lowering the flag changes nothing about a cycle but the flag, which then tells
    whether the cycle drew. -/
theorem step_lowered (m : Machine) (keys : Option BitGrid) :
    m.lowered.step keys =
      (m.step keys).map fun next => ({ next.1 with drawPending := next.2.draws }, next.2) := by
  have hk : m.lowered.keysFrom keys = m.keysFrom keys := by cases keys <;> rfl
  have hf : m.lowered.fetch = m.fetch := rfl
  rw [step_eq, step_eq, hk, hf]
  cases m.keysFrom keys with
  | error f => rfl
  | ok k =>
    cases m.fetch with
    | error f => rfl
    | ok i =>
      show Except.map _ ((m.polled k).lowered.exec i) = _
      rw [exec_lowered]
      show _ = Except.map _ (Except.map _ ((m.polled k).exec i))
      cases (m.polled k).exec i <;> rfl

end Machine

end Chip8
