/-
  A session runs the machine on the keys that are polled.

  * `read_isSystem`: a path without a null character is read or refused by the
    operating system, so that a host of files accepts it (`Host.ofFiles_accepts`);
  * `turn_record`: a turn of a session does what the machine does on the polled keys;
  * `iterations_record`: behind its turns a session is where the machine gets with
    the polled key snapshots, but for the flag of a pending drawing, and it ends
    where and as the machine does;
  * `run_refines`: so a session exits with 0 once the user quits, with 1 on a
    program that cannot be read, is too long or fails, and never otherwise;
  * `not_always_exit`: it raises at scale 257, where the standard screen opens no
    window, with a name that the output cannot take, on a file without room, and
    where its frames have none.
-/
import Chip8.Proofs.Coherence

namespace Chip8

/-! ## Reading -/

namespace FileTable

theorem enter_ne_nullCharacter {t : FileTable} {here : Place} {component : String} :
    t.enter here component ≠ .error .nullCharacter := by
  unfold enter
  intro h
  split at h
  · cases h
  · split at h
    · cases h
    split at h
    · cases h
    split at h
    · cases h
    split at h <;> cases h
  · split at h
    · cases h
    split at h <;> cases h

theorem follow_ne_nullCharacter {t : FileTable} {components : List String} {here : Place} :
    components.foldlM t.enter here ≠ .error .nullCharacter := by
  induction components generalizing here with
  | nil => exact nofun
  | cons c cs ih =>
    rw [List.foldlM_cons]
    cases he : t.enter here c with
    | error cause =>
      intro h
      cases h
      exact enter_ne_nullCharacter he
    | ok place => exact ih

/-- The operating system decides about a path without a null character. -/
theorem read_isSystem {t : FileTable} {path : String} {e : FileError}
    (hpath : '\x00' ∉ path.toList) (h : t.read path = .error e) : e.isSystem = true := by
  have hne : t.resolve path ≠ .error .nullCharacter := by
    unfold resolve
    rw [if_neg (by simpa using hpath)]
    split
    · exact nofun
    split
    · exact nofun
    · exact follow_ne_nullCharacter
  unfold read at h
  split at h
  · next cause hc =>
    cases h
    exact decide_eq_true fun hcause => hne (hc.trans (congrArg _ hcause))
  · cases h
  · cases h
    rfl

end FileTable

/-- A host of files accepts every name without a null character. -/
theorem Host.ofFiles_accepts {files : FileTable} {name : String} (hname : '\x00' ∉ name.toList) :
    (ofFiles files).Accepts name where
  reads _ hread := ⟨hread, rfl⟩
  refuses f hread := by
    obtain ⟨e, he, rfl⟩ := ofFiles_read_eq_error.1 hread
    exact ⟨e.message, if_pos (FileTable.read_isSystem hname he), rfl⟩
  unloaded _ _ _ := rfl

/-! ## Turns and cycles -/

/-- A turn quits, fails or completes a cycle as the machine does on the polled keys, but
    for the flag of a pending drawing. -/
theorem Live.turn_record {l : Live} {m : Machine} {batch : List InputEvent}
    {batches : List (List InputEvent)} {cs : List Cycle} {fault : Option Fault}
    (hl : l.machine = m.lowered)
    (h : m.record ((l.keyboard.snapshots (batch :: batches)).map fun k => some (.ofVector k)) =
      (cs, fault)) :
    (l.turn batch = .quit ∧ cs = [] ∧ fault = none) ∨
    (∃ f, l.turn batch = .failed f ∧ cs = [] ∧ fault = some f) ∨
    ∃ i t k cs', l.turn batch = .completed ⟨m.lowered, i, { t with drawPending := i.draws }⟩ k ∧
      cs = ⟨m, i, t⟩ :: cs' ∧
      t.record ((k.snapshots batches).map fun k => some (.ofVector k)) = (cs', fault) := by
  rcases l.turn_cases batch with
    ⟨k, hp, ht⟩ | ⟨k, keys, f, hp, hs, ht⟩ | ⟨k, keys, t, i, hp, hs, ht⟩
  · rw [Keyboard.snapshots_quit hp] at h
    cases h
    exact .inl ⟨ht, rfl, rfl⟩
  · rw [hl, Machine.step_lowered, Machine.map_eq_error] at hs
    rw [Keyboard.snapshots_keys hp, List.map_cons, Machine.record_cons_error hs] at h
    cases h
    exact .inr (.inl ⟨f, ht, rfl, rfl⟩)
  · rw [hl, Machine.step_lowered, Machine.map_eq_ok] at hs
    obtain ⟨⟨t', i'⟩, hs, hstepped⟩ := hs
    cases hstepped
    rw [Keyboard.snapshots_keys hp, List.map_cons, Machine.record_cons_ok hs] at h
    obtain ⟨rfl, hfault⟩ := Prod.mk.inj h
    rw [hl] at ht
    exact .inr (.inr ⟨i', t', k, _, ht, rfl, Prod.ext rfl hfault⟩)

namespace Session

variable {s : Session} {p : Palette}

/-- A failure of the program ends a session with its message. -/
theorem halt_eq {m : Machine} {f : Fault} (h : f.raised?.isSome = true) :
    halt m f = .final [haltedEntry m.pc f] (.exit 1) :=
  if_pos (f.isMachine_eq.trans h)

/-- **A session follows the machine** on the polled key snapshots. -/
theorem iterations_record (hf : s.Fits) {l : Live} {m : Machine}
    {batches : List (List InputEvent)} {cs : List Cycle} {fault : Option Fault}
    (hl : l.machine = m.lowered)
    (h : m.record ((l.keyboard.snapshots batches).map fun k => some (.ofVector k)) = (cs, fault)) :
    (s.iterations s.frameWindow p l batches).1.map (fun it => it.live.machine) =
        cs.map (fun c => c.after.lowered) ∧
      (s.iterations s.frameWindow p l batches).2 =
        match fault with
        | none => stop (l.tracer.count + cs.length)
        | some f => halt (m.afterAll cs).lowered f := by
  induction batches generalizing l m cs with
  | nil =>
    cases h
    exact ⟨rfl, rfl⟩
  | cons batch batches ih =>
    rcases Live.turn_record hl h with
      ⟨ht, rfl, rfl⟩ | ⟨f, ht, rfl, rfl⟩ | ⟨i, t, k, cs', ht, rfl, hr⟩
    · rw [iterations_quit ht]
      exact ⟨rfl, rfl⟩
    · rw [iterations_failed ht, hl]
      exact ⟨rfl, rfl⟩
    · obtain ⟨hmap, hrest⟩ := ih (m := t)
        (l := l.next ⟨m.lowered, i, { t with drawPending := i.draws }⟩ k) rfl hr
      rw [iterations_completed ht (newFrames_eq hf _), List.map_cons, List.map_cons, hmap,
        hrest, Machine.afterAll_cons]
      refine ⟨rfl, ?_⟩
      cases fault with
      | none => exact congrArg stop (Nat.add_right_comm l.tracer.count 1 _)
      | some f => rfl

/-! ## Sessions -/

theorem run_unread {batches : List (List InputEvent)} {f : ReadFault}
    (haccepts : s.host.Accepts s.rom) (h : s.host.read s.rom = .error f) :
    (s.run batches).ending = .exit 1 ∧ (s.run batches).frames = [] ∧
      (s.run batches).waits = [] := by
  obtain ⟨text, rfl, hwrite⟩ := haccepts.refuses f h
  simp only [run, h, say, hwrite]
  exact ⟨rfl, rfl, rfl⟩

theorem run_too_long {batches : List (List InputEvent)} {bytes : List UInt8}
    (haccepts : s.host.Accepts s.rom) (h : s.host.read s.rom = .ok bytes)
    (hsize : 3584 < bytes.length) :
    (s.run batches).ending = .exit 1 ∧ (s.run batches).frames = [] ∧
      (s.run batches).waits = [] := by
  have hload := (Machine.load_bytes (.initial s.rng) bytes).trans (if_pos hsize)
  have hwrite := haccepts.unloaded bytes h hsize
  rw [run_of_reads batches (haccepts.reads bytes h)]
  simp only [afterReading, hload, say, hwrite]
  exact ⟨rfl, rfl, rfl⟩

/-- The fault that ends a record of a loaded machine is one of the program. -/
theorem halt_record {m : Machine} {cs : List Cycle} {f : Fault} {keys : List Keypad}
    (hm : m.Bounded) (h : m.record (keys.map fun k => some (.ofVector k)) = (cs, some f)) :
    halt (m.afterAll cs).lowered f = .final [haltedEntry (m.afterAll cs).pc f] (.exit 1) := by
  obtain ⟨k, hk, hs⟩ := Machine.record_fault h
  have hruns := Machine.record_runs m (keys.map fun k => some (.ofVector k))
  rw [h] at hruns
  obtain ⟨v, -, rfl⟩ := List.mem_map.1 (List.mem_of_getElem? hk)
  rcases (hruns.reachable.bounded hm).step_error hs with ⟨g, hg, hne, -⟩ | hf
  · cases hg
    exact absurd rfl hne
  · refine halt_eq ?_
    rcases hf with rfl | rfl | ⟨_, _, _, rfl⟩ <;> rfl

/-- The end of a session of a machine that completed some cycles on the polled
    keys. -/
def finish (m : Machine) (cs : List Cycle) : Option Fault → Transcript
  | none => stop cs.length
  | some f => .final [haltedEntry (m.afterAll cs).pc f] (.exit 1)

/-- What a session shows from reading its program to the end. -/
theorem run_loaded {bytes : List UInt8} (batches : List (List InputEvent))
    (hread : s.host.Reads s.rom bytes) (hsize : bytes.length ≤ 3584)
    (hp : Palette.ofName s.scheme = .ok p) (hf : s.Fits) :
    ∃ m its cs fault,
      (Machine.initial s.rng).load (bytes.map fun b => (b.toNat : Int)) = .ok m ∧ m.Bounded ∧
      (s.iterations s.frameWindow p (s.opening m) batches).1 = its ∧
      m.record (((Keyboard.start none).snapshots batches).map fun k => some (.ofVector k)) =
        (cs, fault) ∧
      its.map (fun it => it.live.machine) = cs.map (fun c => c.after.lowered) ∧
      s.run batches = (finish m cs fault).after
        (romEntry s.rom bytes :: its.flatMap Iteration.entries)
        (s.frameWindow.fill p.dark :: its.flatMap Iteration.frames)
        (List.replicate cs.length s.delay) := by
  obtain ⟨m, hload, -, hflag⟩ := initial_load s.rng hsize
  have hm : m.Bounded := .start hload
  have hlow : (s.opening m).machine = m.lowered := (Machine.lowered_of_not_pending hflag).symm
  rcases hr : m.record (((Keyboard.start none).snapshots batches).map fun k => some (.ofVector k))
    with ⟨cs, fault⟩
  obtain ⟨hmap, hrest⟩ := iterations_record (p := p) hf (l := s.opening m) hlow hr
  refine ⟨m, _, cs, fault, hload, hm, rfl, hr, hmap, ?_⟩
  have hfinish : (s.iterations s.frameWindow p (s.opening m) batches).2 = finish m cs fault := by
    rw [hrest]
    cases fault with
    | none => exact congrArg stop (Nat.zero_add _)
    | some f => exact halt_record hm hr
  have hwaits : (s.iterations s.frameWindow p (s.opening m) batches).1.map (fun _ => s.delay) =
      List.replicate cs.length s.delay := by
    have hlength := congrArg List.length hmap
    rw [List.length_map, List.length_map] at hlength
    rw [List.map_const', hlength]
  rw [run_eq batches hread hload hp hf.window?, hfinish, hwaits]

/-- **A session is the machine on the polled keys.**  On a host that accepts the name of
    its program it exits with 1 at once if the program is not read or is too long.
    Where the host shows its frames it exits with 0 after as many waits as polls if the
    machine completes a cycle for each, and with 1 after as many waits as completed
    cycles if it fails, naming the address it had reached. -/
theorem run_refines {s : Session} {p : Palette} (batches : List (List InputEvent))
    (haccepts : s.host.Accepts s.rom) (hp : Palette.ofName s.scheme = .ok p)
    (h1 : 1 ≤ s.scale) :
    (∀ f, s.host.read s.rom = .error f → (s.run batches).ending = .exit 1 ∧
      (s.run batches).frames = [] ∧ (s.run batches).waits = []) ∧
    (∀ bytes, s.host.read s.rom = .ok bytes → 3584 < bytes.length →
      (s.run batches).ending = .exit 1 ∧ (s.run batches).frames = [] ∧
        (s.run batches).waits = []) ∧
    (∀ side : Nat, s.host.Shows side → 64 * s.scale ≤ side →
      ((s.run batches).ending = .exit 0 ∨ (s.run batches).ending = .exit 1) ∧
      ∀ bytes, s.host.read s.rom = .ok bytes → bytes.length ≤ 3584 →
        ∃ m w keys its cs fault,
          (Machine.initial s.rng).load (bytes.map fun b => (b.toNat : Int)) = .ok m ∧
          s.window? = .ok w ∧ (Keyboard.start none).snapshots batches = keys ∧
          (s.iterations w p (s.opening m) batches).1 = its ∧
          m.record (keys.map fun k => some (.ofVector k)) = (cs, fault) ∧
          its.map (fun it => it.live.machine) =
            cs.map (fun c => { c.after with drawPending := false }) ∧
          (fault = none → (s.run batches).ending = .exit 0 ∧
            (s.run batches).waits = List.replicate keys.length s.delay ∧
            (s.run batches).entries.getLast? =
              some (entry .info ("Stopped after " ++ Text.int keys.length ++ " cycles"))) ∧
          ∀ f, fault = some f → (s.run batches).ending = .exit 1 ∧
            (s.run batches).waits = List.replicate cs.length s.delay ∧
            (s.run batches).entries.getLast? = some (haltedEntry (m.afterAll cs).pc f) ∧
            ∃ k, keys[cs.length]? = some k ∧
              (m.afterAll cs).step (some (.ofVector k)) = .error f) := by
  refine ⟨fun f hf => run_unread haccepts hf,
    fun bytes hread hsize => run_too_long haccepts hread hsize, ?_⟩
  intro side hshows h2
  have hfits : s.Fits := .of_shows hshows h1 h2
  constructor
  · cases hread : s.host.read s.rom with
    | error f => exact .inr (run_unread haccepts hread).1
    | ok bytes =>
      rcases Nat.lt_or_ge 3584 bytes.length with hlt | hge
      · exact .inr (run_too_long haccepts hread hlt).1
      · obtain ⟨m, its, cs, fault, -, -, -, -, -, hrun⟩ :=
          run_loaded batches (haccepts.reads bytes hread) hge hp hfits
        rw [hrun]
        cases fault with
        | none => exact .inl rfl
        | some f => exact .inr rfl
  · intro bytes hread hsize
    obtain ⟨m, its, cs, fault, hload, -, hits, hrecord, hmap, hrun⟩ :=
      run_loaded batches (haccepts.reads bytes hread) hsize hp hfits
    refine ⟨m, _, _, its, cs, fault, hload, hfits.window?, rfl, hits, hrecord, hmap, ?_, ?_⟩
    · rintro rfl
      have hlength := Machine.record_length hrecord
      rw [List.length_map] at hlength
      rw [hrun, ← hlength]
      refine ⟨rfl, List.append_nil _, ?_⟩
      exact List.getLast?_concat ..
    · rintro f rfl
      obtain ⟨k, hk, hs⟩ := Machine.record_fault hrecord
      rw [List.getElem?_map, Option.map_eq_some_iff] at hk
      obtain ⟨v, hv, rfl⟩ := hk
      rw [hrun]
      refine ⟨rfl, List.append_nil _, ?_, v, hv, hs⟩
      exact List.getLast?_concat ..

/-- A program that clears the display and returns from no call: the session exits
    with 1 after one wait and names the address of the return. -/
theorem return_refines : ∃ (s : Session) (m : Machine) (cs : List Cycle),
    s = ofRom (.ofFiles [(["r"], some [0x00, 0xE0, 0x00, 0xEE])]) "r" none (.ofSeed 0) ∧
      (Machine.initial (.ofSeed 0)).load [0x00, 0xE0, 0x00, 0xEE] = .ok m ∧ cs.length = 1 ∧
      m.record (((Keyboard.start none).snapshots [[], [], []]).map fun k => some (.ofVector k)) =
        (cs, some .stackUnderflow) ∧
      (s.run [[], [], []]).ending = .exit 1 ∧ (s.run [[], [], []]).waits = [2] ∧
      (s.run [[], [], []]).entries.getLast? = some (haltedEntry 0x202 .stackUnderflow) := by
  obtain ⟨s, hs⟩ : ∃ s, s = ofRom (.ofFiles [(["r"], some [0x00, 0xE0, 0x00, 0xEE])]) "r" none
      (.ofSeed 0) := ⟨_, rfl⟩
  have hread : s.host.read s.rom = .ok [0x00, 0xE0, 0x00, 0xEE] := by
    rw [hs]
    exact Machine.toOption_eq_some.1 (by decide +kernel)
  have haccepts : s.host.Accepts s.rom := by
    rw [hs]
    exact Host.ofFiles_accepts (by decide +kernel)
  have hshows : s.host.Shows 16384 := hs ▸ Host.ofFiles_shows
  have hend : (((Machine.initial (.ofSeed 0)).load [0x00, 0xE0, 0x00, 0xEE]).map fun m =>
      (fun r : List Cycle × Option Fault => (r.1.length, r.2, (m.afterAll r.1).pc))
        (m.record (((Keyboard.start none).snapshots [[], [], []]).map fun k =>
          some (.ofVector k)))).toOption = some (1, some .stackUnderflow, 0x202) := by
    decide +kernel
  obtain ⟨-, -, hloaded⟩ := run_refines (p := ⟨⟨255, 255, 255⟩, ⟨0, 0, 0⟩⟩) [[], [], []] haccepts
    (hs ▸ rfl) (by rw [hs]; decide)
  obtain ⟨m, w, keys, its, cs, fault, hload, -, rfl, -, hrecord, -, -, hhalt⟩ :=
    (hloaded 16384 hshows (by rw [hs]; decide)).2 _ hread (by decide)
  rw [hs] at hload
  obtain ⟨m', hload', hend⟩ := Machine.map_eq_ok.1 (Machine.toOption_eq_some.1 hend)
  cases hload.symm.trans hload'
  rw [hrecord] at hend
  simp only [Prod.mk.injEq] at hend
  obtain ⟨hlength, rfl, hpc⟩ := hend
  obtain ⟨hexit, hwaits, hlast, -⟩ := hhalt _ rfl
  rw [hlength, hs] at hwaits
  rw [hpc] at hlast
  exact ⟨s, m, cs, hs, hload, hlength, hrecord, hexit, by rw [hs]; exact hwaits, hlast⟩

theorem not_exit_of_raised {t : Transcript} {f : SessionFault} (h : t.ending = .raised f) :
    ¬ (t.ending = .exit 0 ∨ t.ending = .exit 1) := by
  rw [h]
  rintro (h | h) <;> cases h

/-- A session raises at scale 257, since no window is that large, with a name that the
    output cannot take, on a file without room, and where its frames have none. -/
theorem not_always_exit :
    (¬ ∀ (s : Session) (files : FileTable) (p : Palette) (batches : List (List InputEvent)),
      s.host = .ofFiles files → '\x00' ∉ s.rom.toList → Palette.ofName s.scheme = .ok p →
      1 ≤ s.scale → (s.run batches).ending = .exit 0 ∨ (s.run batches).ending = .exit 1) ∧
    (¬ ∀ (s : Session) (p : Palette) (batches : List (List InputEvent)), s.host.Shows 16384 →
      (∀ f, s.host.read s.rom = .error f → ∃ text, f = .refused text) →
      Palette.ofName s.scheme = .ok p → 1 ≤ s.scale → s.scale ≤ 256 →
      (s.run batches).ending = .exit 0 ∨ (s.run batches).ending = .exit 1) ∧
    (¬ ∀ (s : Session) (p : Palette) (batches : List (List InputEvent)), s.host.Shows 16384 →
      (∀ e, s.host.write e = .ok ()) → Palette.ofName s.scheme = .ok p → 1 ≤ s.scale →
      s.scale ≤ 256 → (s.run batches).ending = .exit 0 ∨ (s.run batches).ending = .exit 1) ∧
    ¬ ∀ (s : Session) (p : Palette) (batches : List (List InputEvent)),
      s.host.screen.Shows 16384 → s.host.Accepts s.rom → Palette.ofName s.scheme = .ok p →
      1 ≤ s.scale → s.scale ≤ 256 →
      (s.run batches).ending = .exit 0 ∨ (s.run batches).ending = .exit 1 := by
  refine ⟨fun h => ?_, fun h => ?_, fun h => ?_, fun h => ?_⟩
  · have hraised : ({ ofRom (.ofFiles [(["r"], some [0x12, 0x00])]) "r" none (.ofSeed 0) with
        scale := 257 }.run []).ending = .raised (.window .tooLarge) := by
      decide +kernel
    exact not_exit_of_raised hraised <|
      h { ofRom (.ofFiles [(["r"], some [0x12, 0x00])]) "r" none (.ofSeed 0) with scale := 257 }
        _ _ [] rfl (by decide +kernel) rfl (by decide)
  · obtain ⟨host, hhost⟩ : ∃ host : Host, host = { Host.ofFiles [] with
        write := fun e => if e.text.toList.all fun c => c.toNat < 128 then .ok () else
          .error "ordinal not in range(128)" } := ⟨_, rfl⟩
    have hraised : ((ofRom host "é" none (.ofSeed 0)).run []).ending =
        .raised (.write "ordinal not in range(128)") := by
      rw [hhost]
      decide +kernel
    have hshows : host.Shows 16384 := Host.shows_standard (hhost ▸ rfl) (hhost ▸ rfl)
    have hrefused : ∀ f, host.read "é" = .error f → ∃ text, f = .refused text := by
      rw [hhost]
      intro f hf
      obtain ⟨text, htext, -⟩ := (Host.ofFiles_accepts (by decide +kernel)).refuses f hf
      exact ⟨text, htext⟩
    exact not_exit_of_raised hraised <|
      h (ofRom host "é" none (.ofSeed 0)) _ [] hshows hrefused rfl (by decide : (1 : Int) ≤ 20)
        (by decide : (20 : Int) ≤ 256)
  · obtain ⟨host, hhost⟩ : ∃ host : Host, host = { Host.ofFiles [] with
        read := fun _ => .error .noRoom } := ⟨_, rfl⟩
    have hraised : ((ofRom host "r" none (.ofSeed 0)).run []).ending =
        .raised (.read .noRoom) := by
      rw [hhost]
      decide +kernel
    have hshows : host.Shows 16384 := Host.shows_standard (hhost ▸ rfl) (hhost ▸ rfl)
    have hwrite : ∀ e, host.write e = .ok () := by
      rw [hhost]
      exact fun _ => rfl
    exact not_exit_of_raised hraised <|
      h (ofRom host "r" none (.ofSeed 0)) _ [] hshows hwrite rfl (by decide : (1 : Int) ≤ 20)
        (by decide : (20 : Int) ≤ 256)
  · obtain ⟨host, hhost⟩ : ∃ host : Host, host = { Host.ofFiles
        [(["r"], some [0x00, 0xE0, 0x12, 0x00])] with room := 0 } := ⟨_, rfl⟩
    have hraised : ((ofRom host "r" none (.ofSeed 0)).run [[]]).ending =
        .raised (.render (.frameShape (.noRoom [640, 64, 3] "uint8"))) := by
      rw [hhost]
      decide +kernel
    have haccepts : host.Accepts "r" := by
      rw [hhost]
      exact ⟨fun _ hread => ⟨hread, rfl⟩, (Host.ofFiles_accepts (by decide +kernel)).refuses,
        fun _ _ _ => rfl⟩
    exact not_exit_of_raised hraised <|
      h (ofRom host "r" none (.ofSeed 0)) _ [[]] (hhost ▸ Screen.standard_shows) haccepts rfl
        (by decide : (1 : Int) ≤ 20) (by decide : (20 : Int) ≤ 256)

end Session

end Chip8
