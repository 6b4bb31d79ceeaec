/-
  Loading a program.

  * `AreBytes`: the numbers of a program are bytes;
  * `load_eq_ok_iff` and `load_eq_error_iff`: which programs are loaded, and what the
    others are refused for;
  * `Loaded` is what loading leaves: the program in its place, everything else as it was;
  * `load_over`: a program hides one that is not longer, and so itself
    (`load_again`); `fetch_loaded`: the first two bytes are fetched next.
-/
import Chip8.Proofs.Effect

namespace Chip8

/-- The numbers of a program are bytes. -/
def AreBytes (rom : List Int) : Prop := ∀ b ∈ rom, 0 ≤ b ∧ b ≤ 255

instance (rom : List Int) : Decidable (AreBytes rom) :=
  inferInstanceAs (Decidable (∀ b ∈ rom, _))

theorem not_areBytes_iff {rom : List Int} : ¬ AreBytes rom ↔ ∃ b ∈ rom, b < 0 ∨ 255 < b := by
  unfold AreBytes
  constructor
  · intro h
    simp only [Classical.not_forall] at h
    obtain ⟨b, hb, hout⟩ := h
    exact ⟨b, hb, by omega⟩
  · rintro ⟨b, hb, hout⟩ h
    have := h b hb
    omega

theorem any_iff_not_areBytes {rom : List Int} :
    (rom.any fun b => b < 0 || 255 < b) = true ↔ ¬ AreBytes rom := by
  simp only [not_areBytes_iff, List.any_eq_true, Bool.or_eq_true, decide_eq_true_eq]

namespace Machine

variable {m t : Machine} {rom : List Int}

/-! ## Which programs are loaded -/

theorem load_eq_ok_iff :
    m.load rom = .ok t ↔ AreBytes rom ∧ rom.length ≤ maxRomSize ∧ t = { m with
      memory := m.memory.write programStart (rom.map fun b => UInt8.ofNat b.toNat)
      pc := UInt16.ofNat programStart } := by
  unfold load
  split
  · next h =>
    have hout := any_iff_not_areBytes.1 h
    simp only [reduceCtorEq, hout, false_and]
  split
  · next h hlong => simp only [reduceCtorEq, Nat.not_le.2 hlong, false_and, and_false]
  · next h hlong =>
    have hin : AreBytes rom := Decidable.not_not.1 (mt any_iff_not_areBytes.2 h)
    simp only [Except.ok.injEq, hin, Nat.not_lt.1 hlong, true_and, eq_comm (a := t)]

theorem load_eq_error_iff {f : Fault} :
    m.load rom = .error f ↔ (¬ AreBytes rom ∧ f = .notBytes) ∨
      (AreBytes rom ∧ maxRomSize < rom.length ∧ f = .romTooLarge rom.length maxRomSize) := by
  unfold load
  split
  · next h =>
    have hout := any_iff_not_areBytes.1 h
    simp only [Except.error.injEq, hout, not_false_eq_true, true_and, false_and, or_false,
      eq_comm (a := f)]
  · next h =>
    have hin : AreBytes rom := Decidable.not_not.1 (mt any_iff_not_areBytes.2 h)
    split
    · next hlong =>
      simp only [Except.error.injEq, hin, hlong, not_true_eq_false, true_and, false_and, false_or,
        eq_comm (a := f)]
    · next hlong =>
      simp only [reduceCtorEq, hin, hlong, not_true_eq_false, true_and, false_and, or_false]

theorem load_frame (h : m.load rom = .ok t) :
    t = { m with
      memory := m.memory.write programStart (rom.map fun b => UInt8.ofNat b.toNat)
      pc := UInt16.ofNat programStart } :=
  (load_eq_ok_iff.1 h).2.2

theorem areBytes_map (rom : List UInt8) : AreBytes (rom.map fun b => (b.toNat : Int)) := by
  intro b hb
  obtain ⟨v, -, rfl⟩ := List.mem_map.1 hb
  have := v.toNat_lt
  omega

theorem load_bytes (m : Machine) (rom : List UInt8) :
    m.load (rom.map fun b => (b.toNat : Int)) =
      if maxRomSize < rom.length then .error (.romTooLarge rom.length maxRomSize)
      else .ok { m with
        memory := m.memory.write programStart rom
        pc := UInt16.ofNat programStart } := by
  have hlength : (rom.map fun b => (b.toNat : Int)).length = rom.length := List.length_map _
  split
  · next hlong =>
    refine load_eq_error_iff.2 (.inr ⟨areBytes_map rom, ?_, ?_⟩)
    · rwa [hlength]
    · rw [hlength]
  · next hlong =>
    refine load_eq_ok_iff.2 ⟨areBytes_map rom, ?_, ?_⟩
    · rw [hlength]
      exact Nat.not_lt.1 hlong
    · have hback : (rom.map fun b => (b.toNat : Int)).map (fun b => UInt8.ofNat b.toNat) = rom := by
        simp [Function.comp_def]
      rw [hback]

/-! ## What loading leaves -/

/-- What loading leaves: the program in its place, everything else as it was. -/
structure Loaded (m : Machine) (rom : List Int) (t : Machine) : Prop where
  program : ∀ k (h : k < rom.length), ((t.memory.byte (0x200 + k)).toNat : Int) = rom[k]
  elsewhere : ∀ a, a < 0x200 ∨ 0x200 + rom.length ≤ a → t.memory.byte a = m.memory.byte a
  pc : t.pc.toNat = 0x200
  others : t = { m with memory := t.memory, pc := t.pc }

theorem load_loaded (h : m.load rom = .ok t) : Loaded m rom t := by
  obtain ⟨hbytes, hsize, rfl⟩ := load_eq_ok_iff.1 h
  have hstart : programStart = 0x200 := rfl
  have hmax : maxRomSize = 3584 := rfl
  refine ⟨fun k hk => ?_, fun a ha => ?_, rfl, rfl⟩
  · have hin : programStart ≤ 0x200 + k ∧ 0x200 + k < 4096 := by omega
    have hbyte := hbytes rom[k] (List.getElem_mem hk)
    rw [Memory.byte_write, if_pos hin, hstart, Nat.add_sub_cancel_left, List.getElem?_map,
      List.getElem?_eq_getElem hk, Option.map_some, Option.getD_some, UInt8.toNat_ofNat']
    omega
  · rw [Memory.byte_write]
    split
    · next hin =>
      rw [List.getElem?_eq_none, Option.getD_none]
      rw [List.length_map]
      omega
    · rfl

/-- A program hides one that is not longer. -/
theorem load_over {u : Machine} {earlier : List Int} (h : m.load rom = .ok t)
    (hearlier : m.load earlier = .ok u) (hlength : earlier.length ≤ rom.length) :
    u.load rom = .ok t := by
  obtain ⟨hbytes, hsize, rfl⟩ := load_eq_ok_iff.1 h
  obtain ⟨-, -, rfl⟩ := load_eq_ok_iff.1 hearlier
  refine load_eq_ok_iff.2 ⟨hbytes, hsize, ?_⟩
  rw [Memory.write_write]
  rwa [List.length_map, List.length_map]

theorem load_again (h : m.load rom = .ok t) : t.load rom = .ok t :=
  load_over h h (Nat.le_refl _)

theorem fetch_loaded {first second : Int} {rest : List Int}
    (h : m.load (first :: second :: rest) = .ok t) : t.fetch = .ok (.ofBytes first second) := by
  obtain ⟨hprogram, -, hpc, -⟩ := load_loaded h
  have hfirst := hprogram 0 (by simp)
  have hsecond := hprogram 1 (by simp)
  refine fetch_eq_ok_iff.2 ⟨by omega, ?_⟩
  rw [hpc, hfirst, hsecond]
  rfl

/-- **Loading a program** refuses numbers that are no bytes first and then a program that
    is too long; any other it puts in its place.  The first word of the program is fetched
    next, and what was loaded before, unless it was longer, does not show. -/
theorem load_exact (m : Machine) (rom : List Int) :
    (m.load rom = .error .notBytes ↔ ∃ b ∈ rom, b < 0 ∨ 255 < b) ∧
    (∀ size limit, m.load rom = .error (.romTooLarge size limit) ↔
      (∀ b ∈ rom, 0 ≤ b ∧ b ≤ 255) ∧ 3584 < rom.length ∧ size = rom.length ∧ limit = 3584) ∧
    ((∃ t, m.load rom = .ok t) ↔ (∀ b ∈ rom, 0 ≤ b ∧ b ≤ 255) ∧ rom.length ≤ 3584) ∧
    ∀ t, m.load rom = .ok t →
      Loaded m rom t ∧ t.load rom = .ok t ∧
      (∀ earlier u, m.load earlier = .ok u → earlier.length ≤ rom.length → u.load rom = .ok t) ∧
      ∀ first second rest, rom = first :: second :: rest →
        t.fetch = .ok (.ofBytes first second) := by
  refine ⟨?_, fun size limit => ?_, ?_, fun t h => ⟨load_loaded h, load_again h, ?_, ?_⟩⟩
  · simp only [load_eq_error_iff, not_areBytes_iff, reduceCtorEq, and_true, and_false, or_false]
  · simp only [load_eq_error_iff, reduceCtorEq, and_false, false_or, Fault.romTooLarge.injEq]
    rfl
  · simp only [load_eq_ok_iff, exists_and_left, exists_eq, and_true]
    rfl
  · intro earlier u hearlier hlength
    exact load_over h hearlier hlength
  · rintro first second rest rfl
    exact fetch_loaded h

/-- A program that fills memory to its last byte, over one of a single byte; with one byte
    more it is refused. -/
theorem loaded_to_last_byte : ∃ t u : Machine,
    (initial (.ofSeed 0)).load (.replicate 3584 0xA2) = .ok t ∧ t.memory.byte 4095 = 0xA2 ∧
    t.memory.byte 0x1FF = 0 ∧ t.fetch = .ok ⟨0xA2A2⟩ ∧
    (initial (.ofSeed 0)).load [0x12] = .ok u ∧ u.load (.replicate 3584 0xA2) = .ok t ∧
    u.load (.replicate 3585 0xA2) = .error (.romTooLarge 3585 3584) := by
  have hbytes : ∀ n, ∀ b ∈ List.replicate n (0xA2 : Int), 0 ≤ b ∧ b ≤ 255 := by
    intro n b hb
    rw [List.eq_of_mem_replicate hb]
    decide
  have hsize : ∀ n, (List.replicate n (0xA2 : Int)).length = n := fun _ => List.length_replicate
  obtain ⟨-, -, hok, hloaded⟩ := load_exact (initial (.ofSeed 0)) (.replicate 3584 0xA2)
  obtain ⟨t, ht⟩ := hok.2 ⟨hbytes 3584, Nat.le_of_eq (hsize 3584)⟩
  obtain ⟨-, -, hshort, -⟩ := load_exact (initial (.ofSeed 0)) [0x12]
  obtain ⟨u, hu⟩ := hshort.2 (by decide)
  obtain ⟨-, hlong, -, -⟩ := load_exact u (.replicate 3585 0xA2)
  obtain ⟨⟨hprogram, helsewhere, -, -⟩, -, hover, hfetch⟩ := hloaded t ht
  have hlast := hprogram 3583 (by rw [hsize]; decide)
  have hbelow := helsewhere 0x1FF (.inl (by decide))
  rw [List.getElem_replicate] at hlast
  refine ⟨t, u, ht, UInt8.toNat_inj.1 (Int.ofNat.inj hlast), ?_,
    hfetch 0xA2 0xA2 (.replicate 3582 0xA2) rfl, hu, hover _ u hu (by rw [hsize]; decide), ?_⟩
  · rw [hbelow]
    decide +kernel
  · refine (hlong 3585 3584).2 ⟨hbytes 3585, ?_, ?_, rfl⟩
    · rw [hsize]
      decide
    · rw [hsize]
      rfl

end Machine

end Chip8
