/-
  Trace lines tell snapshots apart.

  * `spelling_stackChars`: so do the addresses on the stack, of which a dash is none;
  * `registersChars_inj`: so do the registers;
  * `chars_inj`: the fields of a line end at the mark behind them, so that each can be
    told;
  * `trace_lines_unambiguous`: a line has one snapshot, and machines with one line
    agree on all that a snapshot shows.
-/
import Chip8.Proofs.Spelling
import Chip8.Snapshot

namespace Chip8.Snapshot

open Text (Spelling hex decimal spelling_hex spelling_decimal numberChars)

/-! ## Lists in a line -/

theorem hex_ne_nil {width : Nat} (hwidth : 0 < width) (v : Int) : hex width v ≠ [] := by
  have hlength := Text.le_length_hex width v
  exact List.length_pos_iff.1 (Nat.lt_of_lt_of_le hwidth hlength)

theorem spelling_stackChars : Spelling stackChars (',' :: numberChars) where
  inj {as bs} h := by
    have hitems : ∀ {vs : List Int}, ∀ l ∈ vs.map (hex 3), ',' ∉ l ∧ l ≠ [] := by
      intro vs l hl
      obtain ⟨v, -, rfl⟩ := List.mem_map.1 hl
      exact ⟨fun hm => absurd ((spelling_hex 3).mem hm) (by decide), hex_ne_nil (by decide) v⟩
    have hempty : ∀ {v : Int} {vs : List Int}, stackChars [] ≠ stackChars (v :: vs) := by
      intro v vs heq
      have hdash : ∀ l ∈ [['-']], ',' ∉ l ∧ l ≠ [] := by decide
      have hone := Text.intercalate_inj hdash hitems heq
      have hlength := Text.le_length_hex 3 v
      rw [List.map_cons] at hone
      rw [← (List.cons.inj hone).1] at hlength
      exact absurd hlength (by decide)
    cases as with
    | nil =>
      cases bs with
      | nil => rfl
      | cons b bs => exact absurd h hempty
    | cons a as =>
      cases bs with
      | nil => exact absurd h.symm hempty
      | cons b bs =>
        exact (List.map_inj_right fun _ _ => (spelling_hex 3).inj).1
          (Text.intercalate_inj hitems hitems h)
  mem {as c} h := by
    cases as with
    | nil =>
      rw [List.mem_singleton.1 h]
      decide
    | cons a as =>
      rcases Text.mem_intercalate h with rfl | ⟨l, hl, hc⟩
      · exact List.mem_cons_self ..
      · obtain ⟨v, -, rfl⟩ := List.mem_map.1 hl
        exact List.mem_cons_of_mem _ ((spelling_hex 3).mem hc)

theorem registerChars_inj {number : Nat} {v w : Int}
    (h : registerChars number v = registerChars number w) : v = w := by
  have htail := List.append_cancel_left (List.cons.inj h).2
  exact (spelling_hex 2).inj (List.cons.inj htail).2

theorem registersChars_inj {vs ws : List Int} (h : registersChars vs = registersChars ws) :
    vs = ws := by
  have hitems : ∀ {us : List Int}, ∀ l ∈ us.mapIdx registerChars, ' ' ∉ l ∧ l ≠ [] := by
    intro us l hl
    obtain ⟨k, hk, rfl⟩ := List.mem_mapIdx.1 hl
    refine ⟨fun hm => ?_, by simp [registerChars]⟩
    simp only [registerChars, List.mem_cons, List.mem_append] at hm
    rcases hm with (hm | hm) | hm | hm
    · exact absurd hm (by decide)
    · exact absurd (Text.mem_hexDigits hm) (by decide)
    · exact absurd hm (by decide)
    · exact absurd ((spelling_hex 2).mem hm) (by decide)
  have hmap := Text.intercalate_inj hitems hitems h
  refine List.ext_getElem? fun k => ?_
  have hk := congrArg (·[k]?) hmap
  simp only [List.getElem?_mapIdx] at hk
  exact Option.map_injective (fun _ _ => registerChars_inj) hk

/-! ## Lines -/

theorem chars_eq (s : Snapshot) :
    s.chars = "op=".toList ++ (hex 4 s.opcode ++ (" pc=".toList ++ (hex 3 s.pc ++
      (" sp=".toList ++ (decimal s.sp ++ (" stack=[".toList ++ (stackChars s.stack ++
      ("] I=".toList ++ (hex 3 s.index ++ (" DT=".toList ++ (decimal s.delay ++
      (" ST=".toList ++ (decimal s.sound ++ ([' '] ++ registersChars s.registers)))))))))))))) := by
  unfold chars
  iterate 13 rw [List.append_assoc]
  rfl

/-- Field by field, the line of a snapshot says what the snapshot is. -/
theorem chars_inj {s t : Snapshot} (h : s.chars = t.chars) : s = t := by
  rw [chars_eq, chars_eq] at h
  have h := List.append_cancel_left h
  obtain ⟨hopcode, h⟩ := (spelling_hex 4).append_inj (by decide) rfl h
  obtain ⟨hpc, h⟩ := (spelling_hex 3).append_inj (by decide) rfl h
  obtain ⟨hsp, h⟩ := spelling_decimal.append_inj (by decide) rfl h
  obtain ⟨hstack, h⟩ := spelling_stackChars.append_inj (by decide) rfl h
  obtain ⟨hindex, h⟩ := (spelling_hex 3).append_inj (by decide) rfl h
  obtain ⟨hdelay, h⟩ := spelling_decimal.append_inj (by decide) rfl h
  obtain ⟨hsound, h⟩ := spelling_decimal.append_inj (by decide) rfl h
  have hregisters := registersChars_inj h
  cases s
  cases t
  congr

theorem line_eq_iff {s t : Snapshot} : s.line = t.line ↔ s = t := by
  constructor
  · intro h
    exact chars_inj (String.ofList_injective h)
  · rintro rfl
    rfl

/-! ## Lines of machines -/

variable {m n : Machine}

theorem addresses_inj {as bs : List UInt16} :
    as.map (fun a => (a.toNat : Int)) = bs.map (fun a => (a.toNat : Int)) ↔ as = bs :=
  List.map_inj_right fun _ _ h => UInt16.toNat_inj.1 (Int.natCast_inj.1 h)

theorem bytes_inj {as bs : List UInt8} :
    as.map (fun a => (a.toNat : Int)) = bs.map (fun a => (a.toNat : Int)) ↔ as = bs :=
  List.map_inj_right fun _ _ h => UInt8.toNat_inj.1 (Int.natCast_inj.1 h)

theorem ofMachine_eq_iff :
    ofMachine m = ofMachine n ↔
      m.lastWord = n.lastWord ∧ m.pc = n.pc ∧ m.stack.pointer = n.stack.pointer ∧
      m.stack.live = n.stack.live ∧ m.index = n.index ∧ m.registers = n.registers ∧
      m.delay = n.delay ∧ m.sound = n.sound := by
  simp only [ofMachine, Snapshot.mk.injEq, Int.natCast_inj, UInt16.toNat_inj, UInt8.toNat_inj,
    addresses_inj, bytes_inj, Vector.toList_inj]

/-- **Trace lines are unambiguous.**  Snapshots of any integers and lists of any lengths have
    the same line only if they are the same.  So machines have the same line iff they
    agree on all that it shows. -/
theorem trace_lines_unambiguous (s t : Snapshot) (m n : Machine) :
    (s.line = t.line ↔ s = t) ∧
    ((ofMachine m).line = (ofMachine n).line ↔
      m.lastWord = n.lastWord ∧ m.pc = n.pc ∧ m.stack.pointer = n.stack.pointer ∧
      m.stack.live = n.stack.live ∧ m.index = n.index ∧ (∀ r : Nibble, m.reg r = n.reg r) ∧
      m.delay = n.delay ∧ m.sound = n.sound) := by
  have hregisters : m.registers = n.registers ↔ ∀ r : Nibble, m.reg r = n.reg r := by
    constructor
    · intro h r
      rw [Machine.reg, h]
      rfl
    · intro h
      exact Vector.ext fun k hk => h ⟨k, hk⟩
  rw [line_eq_iff, line_eq_iff, ofMachine_eq_iff, hregisters]
  exact ⟨Iff.rfl, Iff.rfl⟩

end Chip8.Snapshot
