/-
  What a session logs.

  * `entries_logged`: the messages about a cycle are a note if its word is in no row
    of the table of operations and, while tracing, a line with its number and the
    machine behind it;
  * `loop_logged`: a loop that does not raise logs its cycles one after another, then
    how it ended;
  * `shown_upper`: of all messages those are shown that rank no lower than a threshold;
  * `logged_cycle_by_cycle`: so a session logs the cycles of the machine on the polled
    keys, between having read its program and having stopped or halted, and a
    threshold of information hides the notes alone;
  * `unfinished_above`: at scale 257, where the standard screen opens no window, nothing
    follows the message about the program.
-/
import Chip8.Proofs.Refinement
import Chip8.Proofs.Thresholds

namespace Chip8

/-! ## One cycle -/

/-- Whether a word fits no row of the table of operations. -/
def Instruction.IsUnlisted (i : Instruction) : Prop :=
  ∀ row ∈ Opcode.table, i.fits row.mask row.pattern = false

instance : DecidablePred Instruction.IsUnlisted := fun i =>
  inferInstanceAs (Decidable (∀ row ∈ Opcode.table, i.fits row.mask row.pattern = false))

theorem Instruction.opcode?_eq_none_iff {i : Instruction} : i.opcode? = none ↔ i.IsUnlisted := by
  rw [opcode?, Opcode.find?, Option.map_eq_none_iff, List.find?_eq_none]
  simp only [Bool.not_eq_true, IsUnlisted]

/-- The messages about the cycle of a number. -/
def Cycle.logged (tracing : Bool) (number : Nat) (c : Cycle) : List LogEntry :=
  (if c.word.IsUnlisted then [c.word.unlistedEntry c.before.pc] else []) ++
    if tracing then [Tracer.entry number c.after] else []

theorem Cycle.notices_singleton (c : Cycle) : Cycle.notices [c] =
    if c.word.IsUnlisted then [c.word.unlistedEntry c.before.pc] else [] := by
  simp only [notices, List.filterMap_cons, List.filterMap_nil, Machine.notice?]
  cases hi : c.word.opcode? with
  | none => rw [if_pos (Instruction.opcode?_eq_none_iff.1 hi)]
  | some op =>
    rw [if_neg]
    intro h
    rw [Instruction.opcode?_eq_none_iff.2 h] at hi
    cases hi

/-- A running session counts on and logs a cycle by that number. -/
theorem Live.entries_logged (l : Live) (c : Cycle) :
    l.entries c = c.logged l.tracer.enabled (l.tracer.count + 1) := by
  rw [entries, Cycle.notices_singleton]
  rfl

/-! ## Thresholds -/

namespace LogEntry

/-- An entry as it is written. -/
def plain (e : LogEntry) : String :=
  Console.format ⟨e.source, "", false, false⟩ 0 e.severity.name e.text

theorem line_upper (level : String) (e : LogEntry) : line (Text.upper level) e =
    if rankOf level ≤ e.severity.rank then some e.plain else none := by
  have henabled : Console.isEnabledFor ⟨e.source, Text.upper level, false, false⟩
      e.severity.name = true ↔ rankOf level ≤ e.severity.rank := by
    rw [Console.isEnabledFor_iff rfl, rankOf_name]
  rw [line, Console.log]
  simp only [henabled]
  rfl

/-- The entries that rank no lower than a threshold are shown, each as a whole. -/
theorem shown_upper (level : String) (es : List LogEntry) : shown (Text.upper level) es =
    (es.filter fun e => rankOf level ≤ e.severity.rank).map plain := by
  unfold shown
  induction es with
  | nil => rfl
  | cons e es ih =>
    rw [List.filterMap_cons, line_upper, ih, List.filter_cons]
    by_cases h : rankOf level ≤ e.severity.rank
    · rw [if_pos h, if_pos (decide_eq_true h)]
      rfl
    · rw [if_neg h, if_neg (by simpa using h)]

theorem shown_debug (es : List LogEntry) : shown "DEBUG" es = es.map plain := by
  have hlevel : Text.upper "DEBUG" = "DEBUG" := by decide +kernel
  have hrank : rankOf "DEBUG" = 0 := rankOf_name .debug
  rw [← hlevel, shown_upper, hrank, List.filter_eq_self.2 fun e _ => decide_eq_true (Nat.zero_le _)]

theorem shown_info (es : List LogEntry) :
    shown "INFO" es = (es.filter fun e => e.severity ≠ .debug).map plain := by
  have hlevel : Text.upper "INFO" = "INFO" := by decide +kernel
  have hrank : rankOf "INFO" = 1 := rankOf_name .info
  rw [← hlevel, shown_upper, hrank]
  refine congrArg (List.map plain) (List.filter_congr fun e _ => ?_)
  cases e.severity <;> rfl

end LogEntry

/-! ## The loop -/

namespace Session

variable {s : Session} {w : Window} {p : Palette}

/-- How a session ends that completed some cycles and got to an address. -/
def closing (cycles : Nat) (pc : UInt16) : Option Fault → LogEntry
  | none => entry .info ("Stopped after " ++ Text.int cycles ++ " cycles")
  | some f => haltedEntry pc f

/-- A turn of the loop that completes a cycle raises, or logs the cycle and goes on. -/
theorem loop_completed (s : Session) (w : Window) (p : Palette) {l : Live}
    {batch : List InputEvent} {c : Cycle} {k : Keyboard} (ht : l.turn batch = .completed c k)
    (batches : List (List InputEvent)) :
    (∃ f, (s.loop w p l (batch :: batches)).ending = .raised f) ∨
    ∃ frames, s.loop w p l (batch :: batches) =
      (s.loop w p (l.next c k) batches).after (l.entries c) frames [s.delay] := by
  rw [loop, ht]
  dsimp only
  cases s.newFrames w p c.after with
  | error f => exact .inl ⟨f, rfl⟩
  | ok frames => exact .inr ⟨frames, rfl⟩

/-- A loop that fails with the machine raises or logs the failure alone. -/
theorem halt_logged {m : Machine} {f : Fault} (hexit : ∀ g, (halt m f).ending ≠ .raised g) :
    (halt m f).entries = [haltedEntry m.pc f] := by
  unfold halt at hexit ⊢
  split
  · rfl
  · next hf =>
    rw [if_neg hf] at hexit
    exact absurd rfl (hexit _)

/-- **A loop logs the cycles of the machine** on the polled keys, numbered on from
    those before it, unless it raises. -/
theorem loop_logged {l : Live} {m : Machine} {batches : List (List InputEvent)}
    {cs : List Cycle} {fault : Option Fault} (hl : l.machine = m.lowered)
    (h : m.record ((l.keyboard.snapshots batches).map fun k => some (.ofVector k)) = (cs, fault))
    (hexit : ∀ f, (s.loop w p l batches).ending ≠ .raised f) :
    (s.loop w p l batches).entries =
      (cs.zipIdx (l.tracer.count + 1)).flatMap (fun e => e.1.logged l.tracer.enabled e.2) ++
        [closing (l.tracer.count + cs.length) (m.afterAll cs).pc fault] := by
  induction batches generalizing l m cs with
  | nil =>
    cases h
    rfl
  | cons batch batches ih =>
    rcases Live.turn_record hl h with
      ⟨ht, rfl, rfl⟩ | ⟨f, ht, rfl, rfl⟩ | ⟨i, t, k, cs', ht, rfl, hr⟩
    · rw [loop, ht]
      rfl
    · rw [loop, ht] at hexit ⊢
      rw [halt_logged hexit, hl]
      rfl
    · rcases loop_completed s w p ht batches with ⟨f, hraised⟩ | ⟨frames, hloop⟩
      · exact absurd hraised (hexit f)
      · rw [hloop] at hexit ⊢
        have hcycle : l.entries ⟨m.lowered, i, { t with drawPending := i.draws }⟩ =
            Cycle.logged l.tracer.enabled (l.tracer.count + 1) ⟨m, i, t⟩ :=
          l.entries_logged _
        have hrest := ih (m := t)
          (l := l.next ⟨m.lowered, i, { t with drawPending := i.draws }⟩ k) rfl hr hexit
        have hcount : l.tracer.count + 1 + cs'.length = l.tracer.count + (cs'.length + 1) :=
          Nat.add_right_comm ..
        rw [List.zipIdx_cons, List.flatMap_cons, List.append_assoc, Machine.afterAll_cons,
          List.length_cons, ← hcount]
        exact (congrArg (_ ++ ·) hrest).trans (congrArg (· ++ _) hcycle)

/-! ## Sessions -/

/-- The same session with another choice about tracing, in another environment. -/
def traced (s : Session) (trace : Option Bool) (environment : Option String) : Session :=
  { s with trace := trace, environmentTrace := environment }

/-- What a session logs that gets as far as its loop and does not raise. -/
theorem run_logged {batches : List (List InputEvent)} {bytes : List UInt8}
    {m : Machine} {cs : List Cycle} {fault : Option Fault} {code : Nat}
    (hread : s.host.Reads s.rom bytes) (hp : Palette.ofName s.scheme = .ok p)
    (hload : (Machine.initial s.rng).load (bytes.map fun b => (b.toNat : Int)) = .ok m)
    (hflag : m.drawPending = false)
    (h : m.record (((Keyboard.start none).snapshots batches).map fun k => some (.ofVector k)) =
      (cs, fault)) (hexit : (s.run batches).ending = .exit code) :
    (s.run batches).entries = romEntry s.rom bytes ::
      (cs.zipIdx 1).flatMap (fun e =>
        e.1.logged (s.trace.getD (traceEnabled s.environmentTrace)) e.2) ++
      [closing cs.length (m.afterAll cs).pc fault] := by
  have hlow : (s.opening m).machine = m.lowered := (Machine.lowered_of_not_pending hflag).symm
  cases hw : s.window? with
  | error f =>
    rw [run_of_reads batches hread] at hexit
    simp only [afterReading, hload, play, hp, hw] at hexit
    cases hexit
  | ok w =>
    rw [run_eq batches hread hload hp hw] at hexit ⊢
    have hloop := loop_logged (s := s) (w := w) (p := p) hlow h fun f hf => by
      rw [loop_eq] at hf
      cases hexit.symm.trans hf
    rw [show (s.opening m).tracer.count + cs.length = cs.length from Nat.zero_add _,
      loop_eq] at hloop
    exact congrArg (romEntry s.rom bytes :: ·) hloop

/-- **A session logs the machine cycle by cycle.**  Whatever the tracing, a session
    that exits logs between having read its program and how it ended the cycles that
    the machine completes on the polled keys; a threshold of information hides the
    notes alone.  Where its host shows its frames it does exit. -/
theorem logged_cycle_by_cycle {s : Session} {p : Palette} {bytes : List UInt8}
    (batches : List (List InputEvent)) (hread : s.host.Reads s.rom bytes)
    (hsize : bytes.length ≤ 3584) (hp : Palette.ofName s.scheme = .ok p) :
    ∃ m cs fault,
      (Machine.initial s.rng).load (bytes.map fun b => (b.toNat : Int)) = .ok m ∧
      m.record (((Keyboard.start none).snapshots batches).map fun k => some (.ofVector k)) =
        (cs, fault) ∧
      ∀ (trace : Option Bool) (environment : Option String),
        (∀ side : Nat, s.host.Shows side → 1 ≤ s.scale → 64 * s.scale ≤ side →
          ∃ code, ((s.traced trace environment).run batches).ending = .exit code) ∧
        ∀ code, ((s.traced trace environment).run batches).ending = .exit code →
          ∃ es, ((s.traced trace environment).run batches).entries = es ∧
            es = romEntry s.rom bytes ::
              (cs.zipIdx 1).flatMap (fun e =>
                e.1.logged (trace.getD (traceEnabled environment)) e.2) ++
              [closing cs.length (m.afterAll cs).pc fault] ∧
            LogEntry.shown "DEBUG" es = es.map LogEntry.plain ∧
            LogEntry.shown "INFO" es =
              (es.filter fun e => e.severity ≠ .debug).map LogEntry.plain := by
  obtain ⟨m, hload, -, hflag⟩ := initial_load s.rng hsize
  rcases hr : m.record (((Keyboard.start none).snapshots batches).map fun k => some (.ofVector k))
    with ⟨cs, fault⟩
  refine ⟨m, cs, fault, hload, hr, fun trace environment =>
    ⟨fun side hshows h1 h2 => ?_, fun code hcode => ?_⟩⟩
  · obtain ⟨m', its, cs', fault', -, -, -, -, -, hrun⟩ :=
      run_loaded (s := s.traced trace environment) batches hread hsize hp (.of_shows hshows h1 h2)
    rw [hrun]
    cases fault' with
    | none => exact ⟨0, rfl⟩
    | some f => exact ⟨1, rfl⟩
  · exact ⟨_, rfl, run_logged (s := s.traced trace environment) hread hp hload hflag hr hcode,
      LogEntry.shown_debug _, LogEntry.shown_info _⟩

/-- A program of one unlisted word in a loop: of two cycles the first has a note, and
    the session stops after as many without tracing. -/
theorem unlisted_logged : ∃ (s : Session) (cs : List Cycle) (es : List LogEntry),
    s = ofRom (.ofFiles [(["r"], some [0x00, 0x01, 0x12, 0x00])]) "r" none (.ofSeed 0) ∧
      cs.length = 2 ∧ (cs.map fun c => decide c.word.IsUnlisted) = [true, false] ∧
      ((s.traced (some true) none).run [[], []]).entries = es ∧
      es = romEntry "r" [0x00, 0x01, 0x12, 0x00] ::
        (cs.zipIdx 1).flatMap (fun e => e.1.logged true e.2) ++
        [entry .info ("Stopped after " ++ Text.int cs.length ++ " cycles")] ∧
      LogEntry.shown "INFO" es = (es.filter fun e => e.severity ≠ .debug).map LogEntry.plain ∧
      ((s.traced none none).run [[], []]).entries = romEntry "r" [0x00, 0x01, 0x12, 0x00] ::
        (cs.zipIdx 1).flatMap (fun e => e.1.logged false e.2) ++
        [entry .info ("Stopped after " ++ Text.int cs.length ++ " cycles")] := by
  obtain ⟨s, hs⟩ : ∃ s, s = ofRom (.ofFiles [(["r"], some [0x00, 0x01, 0x12, 0x00])]) "r" none
      (.ofSeed 0) := ⟨_, rfl⟩
  have hread : s.host.Reads s.rom [0x00, 0x01, 0x12, 0x00] := by
    rw [hs]
    exact Host.ofFiles_reads (Machine.toOption_eq_some.1 (by decide +kernel))
  have hshows : s.host.Shows 16384 := hs ▸ Host.ofFiles_shows
  have hend : (((Machine.initial (.ofSeed 0)).load [0x00, 0x01, 0x12, 0x00]).map fun m =>
      (fun r : List Cycle × Option Fault =>
          (r.1.length, r.1.map fun c => decide c.word.IsUnlisted, r.2))
        (m.record (((Keyboard.start none).snapshots [[], []]).map fun k =>
          some (.ofVector k)))).toOption = some (2, [true, false], none) := by
    decide +kernel
  obtain ⟨m, cs, fault, hload, hrecord, hlog⟩ :=
    logged_cycle_by_cycle (p := ⟨⟨255, 255, 255⟩, ⟨0, 0, 0⟩⟩) [[], []] hread (by decide) (hs ▸ rfl)
  have hexit := fun trace environment =>
    (hlog trace environment).1 16384 hshows (by rw [hs]; decide) (by rw [hs]; decide)
  rw [hs] at hload
  obtain ⟨m', hload', hend⟩ := Machine.map_eq_ok.1 (Machine.toOption_eq_some.1 hend)
  cases hload.symm.trans hload'
  rw [hrecord] at hend
  simp only [Prod.mk.injEq] at hend
  obtain ⟨hlength, hwords, rfl⟩ := hend
  obtain ⟨code, hcode⟩ := hexit (some true) none
  obtain ⟨es, hes, hlogged, -, hinfo⟩ := (hlog (some true) none).2 code hcode
  obtain ⟨code', hcode'⟩ := hexit none none
  obtain ⟨es', hes', hlogged', -, -⟩ := (hlog none none).2 code' hcode'
  have hrom : s.rom = "r" := by rw [hs]; rfl
  rw [hrom] at hlogged hlogged'
  exact ⟨s, cs, es, hs, hlength, hwords, hes, hlogged, hinfo, hes'.trans hlogged'⟩

/-- At scale 257 a session neither stops nor halts: the message about the program is
    the last one. -/
theorem unfinished_above : ¬ ∀ (s : Session) (files : FileTable) (p : Palette)
    (bytes : List UInt8) (batches : List (List InputEvent)), s.host = .ofFiles files →
      s.host.Reads s.rom bytes → bytes.length ≤ 3584 → Palette.ofName s.scheme = .ok p →
      1 ≤ s.scale →
      ∃ es last, (s.run batches).entries = romEntry s.rom bytes :: es ++ [last] ∧
        ((∃ n : Nat, last = entry .info ("Stopped after " ++ Text.int n ++ " cycles")) ∨
          ∃ pc f, last = haltedEntry pc f) := by
  intro h
  have hread : (FileTable.read [(["r"], some [0x12, 0x00])] "r").toOption =
      some [0x12, 0x00] := by
    decide +kernel
  have hlength : ({ ofRom (.ofFiles [(["r"], some [0x12, 0x00])]) "r" none (.ofSeed 0) with
      scale := 257 }.run []).entries.length = 1 := by
    decide +kernel
  obtain ⟨es, last, hes, -⟩ := h { ofRom (.ofFiles [(["r"], some [0x12, 0x00])]) "r" none
      (.ofSeed 0) with scale := 257 } _ _ [0x12, 0x00] [] rfl
    (Host.ofFiles_reads (Machine.toOption_eq_some.1 hread)) (by decide) rfl (by decide)
  rw [hes, List.length_append, List.length_cons, List.length_singleton] at hlength
  omega

end Session

end Chip8
