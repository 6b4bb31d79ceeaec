/-
  The window of a session shows the display.

  * `Fits`: the window has the size of the frames and shows them, and there is room
    to paint them; so it is up to the length of the sides of windows
    (`Fits.of_shows`);
  * `newFrames_eq`: then a cycle brings the painted display to the window iff the
    display was drawn on;
  * `iterations_cons`: what one more batch of events adds to the iterations;
  * `window_coherent`: behind every iteration the last frame shows the display of
    the machine and no drawing is pending; the iterations with a frame are those
    whose word clears the display or draws on it;
  * `no_window_above`: at scale 257 the standard screen opens no window, and no frame
    is shown.
-/
import Chip8.Proofs.Iterations

namespace Chip8

/-! ## What a cycle draws -/

namespace Machine

/-- A cycle that does not draw keeps the display and the flag; one that draws raises
    the flag. -/
theorem step_draws {m t : Machine} {keys : Option BitGrid} {i : Instruction}
    (h : m.step keys = .ok (t, i)) :
    t.drawPending = (m.drawPending || i.draws) ∧ (i.draws = false → t.display = m.display) := by
  obtain ⟨k, -, -, -, -, rfl⟩ := step_eq_ok_iff.1 h
  exact ⟨rfl, fun hd => nextDisplay_of_not_draws (m := m.polled k) hd⟩

end Machine

namespace Session

variable {s : Session} {p : Palette}

/-! ## Frames and windows -/

/-- The window that has the size of the frames. -/
def frameWindow (s : Session) : Window :=
  ⟨32 * Frame.blockSide s.scale, 64 * Frame.blockSide s.scale⟩

/-- A session whose screen opens a window of the size of the frames and shows them in
    it, with room to paint them. -/
structure Fits (s : Session) : Prop where
  window? : s.window? = .ok s.frameWindow
  show? : ∀ f : Frame, f.height = s.frameWindow.height → f.width = s.frameWindow.width →
    s.host.screen.show? s.frameWindow f = .ok f
  room : Frame.HasRoom s.host.room s.scale

/-- The frames fit up to the length of the sides of windows. -/
theorem Fits.of_shows {side : Nat} (hshows : s.host.Shows side) (h1 : 1 ≤ s.scale)
    (h2 : 64 * s.scale ≤ side) : s.Fits where
  window? := by
    have hpos := Frame.blockSide_pos s.scale
    have hblock : (Frame.blockSide s.scale : Int) = s.scale := by
      unfold Frame.blockSide
      omega
    have hwidth : 64 * Frame.blockSide s.scale ≤ side := by omega
    have hheight : 32 * Frame.blockSide s.scale ≤ side := by omega
    have hopen := hshows.screen.window? s.frameWindow (Nat.mul_pos (by decide) hpos)
      (Nat.mul_pos (by decide) hpos) hwidth hheight
    simp only [frameWindow, Int.natCast_mul, hblock] at hopen
    exact hopen
  show? := hshows.screen.show? s.frameWindow
  room := hshows.room s.scale h1 h2

/-- The display painted in the colours of a session. -/
def painted (s : Session) (p : Palette) (d : Display) : Frame := .ofGrid d.toGrid s.scale p

theorem painted_blank : s.painted p .blank = s.frameWindow.fill p.dark :=
  Frame.ofGrid_blank

theorem frame_eq (hf : s.Fits) (d : Display) : s.frame p d = .ok (s.painted p d) :=
  Frame.paint_of_hasRoom hf.room

/-- A cycle brings the painted display to the window iff it was drawn on. -/
theorem newFrames_eq (hf : s.Fits) (m : Machine) :
    s.newFrames s.frameWindow p m =
      .ok (if m.drawPending then [s.painted p m.display] else []) := by
  unfold newFrames
  cases m.drawPending with
  | false => rfl
  | true =>
    simp only [if_true, frame_eq hf, hf.show? (s.painted p m.display) Frame.ofGrid_height
      Frame.ofGrid_width]

/-! ## Iterations -/

/-- The completed turn of a running session with a cycle and the keyboard behind
    it. -/
def iteration (s : Session) (p : Palette) (l : Live) (c : Cycle) (k : Keyboard) : Iteration where
  cycle := c
  entries := l.entries c
  frames := if c.after.drawPending then [s.painted p c.after.display] else []
  live := l.next c k

/-- What one more batch of events adds to the iterations. -/
theorem iterations_cons (hf : s.Fits) (l : Live) (batch : List InputEvent)
    (batches : List (List InputEvent)) :
    (l.keyboard.snapshots (batch :: batches) = [] ∧
      s.iterations s.frameWindow p l (batch :: batches) = ([], stop l.tracer.count)) ∨
    (∃ keys rest f, l.keyboard.snapshots (batch :: batches) = keys :: rest ∧
      l.machine.step (some (.ofVector keys)) = .error f ∧
      s.iterations s.frameWindow p l (batch :: batches) = ([], halt l.machine f)) ∨
    ∃ keys k t i, l.keyboard.snapshots (batch :: batches) = keys :: k.snapshots batches ∧
      l.machine.step (some (.ofVector keys)) = .ok (t, i) ∧
      s.iterations s.frameWindow p l (batch :: batches) =
        (s.iteration p l ⟨l.machine, i, t⟩ k ::
            (s.iterations s.frameWindow p (l.next ⟨l.machine, i, t⟩ k) batches).1,
          (s.iterations s.frameWindow p (l.next ⟨l.machine, i, t⟩ k) batches).2) := by
  rcases l.turn_cases batch with
    ⟨k, hp, ht⟩ | ⟨k, keys, f, hp, hs, ht⟩ | ⟨k, keys, t, i, hp, hs, ht⟩
  · exact .inl ⟨Keyboard.snapshots_quit hp, iterations_quit ht⟩
  · exact .inr (.inl ⟨keys, _, f, Keyboard.snapshots_keys hp, hs, iterations_failed ht⟩)
  · exact .inr (.inr ⟨keys, k, t, i, Keyboard.snapshots_keys hp, hs,
      iterations_completed ht (newFrames_eq hf t)⟩)

/-- Behind every iteration the last frame shows the display, and a frame was added
    iff the word drew. -/
theorem iterations_coherent (hf : s.Fits) {l : Live} {batches : List (List InputEvent)}
    (hl : l.machine.drawPending = false) {n : Nat} {it : Iteration}
    (h : (s.iterations s.frameWindow p l batches).1[n]? = some it) :
    it.live.machine.drawPending = false ∧
      it.frames.length = (if it.cycle.word.draws then 1 else 0) ∧
      (s.painted p l.machine.display ::
          ((s.iterations s.frameWindow p l batches).1.take (n + 1)).flatMap
            Iteration.frames).getLast? =
        some (s.painted p it.live.machine.display) := by
  induction batches generalizing l n with
  | nil => cases h
  | cons batch batches ih =>
    rcases iterations_cons (p := p) hf l batch batches with
      ⟨-, hi⟩ | ⟨_, _, _, -, -, hi⟩ | ⟨keys, k, t, i, -, hs, hi⟩
    · rw [hi] at h
      cases h
    · rw [hi] at h
      cases h
    · obtain ⟨hpending, hkept⟩ := Machine.step_draws hs
      rw [hl, Bool.false_or] at hpending
      rw [hi] at h ⊢
      have hframes : (s.iteration p l ⟨l.machine, i, t⟩ k).frames =
          if i.draws then [s.painted p t.display] else [] := by
        simp only [iteration, hpending]
      cases n with
      | zero =>
        cases h
        refine ⟨rfl, ?_, ?_⟩
        · rw [hframes]
          cases hd : i.draws <;> simp [iteration, hd]
        · simp only [List.take_succ_cons, List.take_zero, List.flatMap_cons, List.flatMap_nil,
            List.append_nil, hframes]
          cases hd : i.draws with
          | true => rfl
          | false =>
            rw [← hkept hd]
            rfl
      | succ n =>
        obtain ⟨hflag, hlen, hlast⟩ := ih (l := l.next ⟨l.machine, i, t⟩ k) rfl h
        refine ⟨hflag, hlen, ?_⟩
        rw [List.take_succ_cons, List.flatMap_cons, hframes, ← hlast]
        cases hd : i.draws with
        | true =>
          simp only [if_true, List.cons_append, List.nil_append, List.getLast?_cons_cons]
          rfl
        | false =>
          rw [← hkept hd]
          rfl

/-- The frames of some iterations are as many as the iterations that drew. -/
theorem frames_length {its : List Iteration}
    (h : ∀ it ∈ its, it.frames.length = if it.cycle.word.draws then 1 else 0) :
    (its.flatMap Iteration.frames).length = its.countP fun it => it.cycle.word.draws := by
  induction its with
  | nil => rfl
  | cons it its ih =>
    rw [List.flatMap_cons, List.length_append, h it (List.mem_cons_self ..),
      ih fun it hit => h it (List.mem_cons_of_mem _ hit), List.countP_cons, Nat.add_comm]

theorem initial_load (rng : Random.Source) {bytes : List UInt8} (h : bytes.length ≤ 3584) :
    ∃ m, (Machine.initial rng).load (bytes.map fun b => (b.toNat : Int)) = .ok m ∧
      m.display = .blank ∧ m.drawPending = false :=
  ⟨_, (Machine.load_bytes _ bytes).trans (if_neg (Nat.not_lt.2 h)), rfl, rfl⟩

/-! ## The window -/

/-- **The window shows the display** behind every iteration of a session. -/
theorem window_coherent {s : Session} {p : Palette} {bytes : List UInt8} {side : Nat}
    (batches : List (List InputEvent)) (hread : s.host.Reads s.rom bytes)
    (hsize : bytes.length ≤ 3584) (hp : Palette.ofName s.scheme = .ok p)
    (hshows : s.host.Shows side) (h1 : 1 ≤ s.scale) (h2 : 64 * s.scale ≤ side) :
    ∃ m w its, (Machine.initial s.rng).load (bytes.map fun b => (b.toNat : Int)) = .ok m ∧
      s.window? = .ok w ∧ (s.iterations w p (s.opening m) batches).1 = its ∧
      (s.run batches).frames = w.fill p.dark :: its.flatMap Iteration.frames ∧
      (s.run batches).waits = its.map (fun _ => s.delay) ∧
      s.frame p m.display = .ok (w.fill p.dark) ∧
      (∀ (n : Nat) it, its[n]? = some it → it.live.machine.drawPending = false ∧
        ∃ f, (w.fill p.dark :: (its.take (n + 1)).flatMap Iteration.frames).getLast? = some f ∧
          s.frame p it.live.machine.display = .ok f) ∧
      (∀ it ∈ its, it.frames.length ≤ 1 ∧ (it.frames.length = 1 ↔
        it.cycle.word.raw.toNat = 0x00E0 ∨ it.cycle.word.family.val = 0xD)) ∧
      (s.run batches).frames.length = 1 + its.countP fun it =>
        it.cycle.word.raw.toNat = 0x00E0 ∨ it.cycle.word.family.val = 0xD := by
  obtain ⟨m, hload, hdark, hflag⟩ := initial_load s.rng hsize
  have hf : s.Fits := .of_shows hshows h1 h2
  have hrun := run_eq batches hread hload hp hf.window?
  have hlow : (s.opening m).machine.drawPending = false := hflag
  obtain ⟨hnone, hwait⟩ := iterations_rest s s.frameWindow p (s.opening m) batches
  have hlength : ∀ it ∈ (s.iterations s.frameWindow p (s.opening m) batches).1,
      it.frames.length = if it.cycle.word.draws then 1 else 0 := by
    intro it hit
    obtain ⟨n, hn⟩ := List.mem_iff_getElem?.1 hit
    exact (iterations_coherent hf hlow hn).2.1
  refine ⟨m, s.frameWindow, _, hload, hf.window?, rfl, ?_, ?_, ?_, ?_, ?_, ?_⟩
  · rw [hrun, Transcript.after, hnone, List.append_nil]
  · rw [hrun, Transcript.after, hwait, List.append_nil]
  · rw [frame_eq hf, hdark, painted_blank]
  · intro n it hn
    obtain ⟨hpending, -, hlast⟩ := iterations_coherent hf hlow hn
    rw [show (s.opening m).machine = m from rfl, hdark, painted_blank] at hlast
    exact ⟨hpending, _, hlast, frame_eq hf _⟩
  · intro it hit
    rw [hlength it hit, ← Instruction.draws_iff]
    cases it.cycle.word.draws <;> simp
  · rw [hrun, Transcript.after, hnone, List.append_nil, List.length_cons, frames_length hlength,
      Nat.add_comm]
    congr 2
    funext it
    rw [Bool.eq_iff_iff, decide_eq_true_iff, Instruction.draws_iff]

/-- A program that clears the display and jumps: two iterations and one frame more
    than the dark window. -/
theorem clear_coherent : ∃ (s : Session) (p : Palette) (m : Machine) (w : Window)
    (its : List Iteration),
    s = ofRom (.ofFiles [(["r"], some [0x00, 0xE0, 0x12, 0x00])]) "r" none (.ofSeed 0) ∧
      (Machine.initial (.ofSeed 0)).load [0x00, 0xE0, 0x12, 0x00] = .ok m ∧
      (s.iterations w p (s.opening m) [[], []]).1 = its ∧ its.length = 2 ∧
      (∀ (n : Nat) it, its[n]? = some it → it.live.machine.drawPending = false ∧
        ∃ f, (w.fill p.dark :: (its.take (n + 1)).flatMap Iteration.frames).getLast? = some f ∧
          s.frame p it.live.machine.display = .ok f) ∧
      (its.countP fun it =>
        it.cycle.word.raw.toNat = 0x00E0 ∨ it.cycle.word.family.val = 0xD) = 1 := by
  obtain ⟨s, hs⟩ : ∃ s, s = ofRom (.ofFiles [(["r"], some [0x00, 0xE0, 0x12, 0x00])]) "r" none
      (.ofSeed 0) := ⟨_, rfl⟩
  have hread : s.host.Reads s.rom [0x00, 0xE0, 0x12, 0x00] := by
    rw [hs]
    exact Host.ofFiles_reads (Machine.toOption_eq_some.1 (by decide +kernel))
  have hshows : s.host.Shows 16384 := hs ▸ Host.ofFiles_shows
  have hwaits : (s.run [[], []]).waits = [2, 2] := by
    rw [hs]
    decide +kernel
  have hframes : (s.run [[], []]).frames.length = 2 := by
    rw [hs]
    decide +kernel
  obtain ⟨m, w, its, hload, -, hits, -, hwait, -, hlast, -, hcount⟩ :=
    window_coherent (p := ⟨⟨255, 255, 255⟩, ⟨0, 0, 0⟩⟩) [[], []] hread (by decide) (hs ▸ rfl)
      hshows (by rw [hs]; decide) (by rw [hs]; decide)
  refine ⟨s, _, m, w, its, hs, by rwa [hs] at hload, hits, ?_, hlast, ?_⟩
  · have hlength := congrArg List.length (hwait.symm.trans hwaits)
    rwa [List.length_map] at hlength
  · rw [hframes] at hcount
    exact (Nat.add_left_cancel hcount).symm

/-- At scale 257 the window is too large: no frame shows the dark display. -/
theorem no_window_above : ¬ ∀ (s : Session) (files : FileTable) (bytes : List UInt8) (p : Palette)
    (batches : List (List InputEvent)), s.host = .ofFiles files → s.host.Reads s.rom bytes →
      bytes.length ≤ 3584 → Palette.ofName s.scheme = .ok p → 1 ≤ s.scale →
      ∃ f rest, (s.run batches).frames = f :: rest ∧ s.frame p .blank = .ok f := by
  intro h
  have hread : (FileTable.read [(["r"], some [0x00, 0xE0, 0x12, 0x00])] "r").toOption =
      some [0x00, 0xE0, 0x12, 0x00] := by
    decide +kernel
  have hnone : ({ ofRom (.ofFiles [(["r"], some [0x00, 0xE0, 0x12, 0x00])]) "r" none
      (.ofSeed 0) with scale := 257 }.run [[]]).frames = [] := by
    decide +kernel
  obtain ⟨f, rest, hsome, -⟩ := h { ofRom (.ofFiles [(["r"], some [0x00, 0xE0, 0x12, 0x00])]) "r"
    none (.ofSeed 0) with scale := 257 } _ _ _ [[]] rfl
    (Host.ofFiles_reads (Machine.toOption_eq_some.1 hread)) (by decide) rfl (by decide)
  rw [hnone] at hsome
  cases hsome

end Session

end Chip8
