/-
  The glyphs of the digits.

  They lie in the first 80 bytes of memory, below every program.

  * `Runs.byte_below`: along a run whose stores lie above an address the bytes below
    it are kept;
  * `exec_glyph`: what the instruction does that looks for a glyph, and `draw_glyph` what
    it does together with the one that draws it;
  * `glyphs_drawn`: a loaded program that does not store there keeps the glyphs, and on
    every machine that it reaches the two draw the glyph of the low digit of a register.
-/
import Chip8.Proofs.Drawing
import Chip8.Proofs.Runs

namespace Chip8

open Instruction (opcode?_eq_some_iff_hasForm ofDigits)

/-- A cycle that stores to memory does so from an address of at least `limit` on. -/
def Cycle.StoresFrom (limit : Nat) (c : Cycle) : Prop :=
  c.word.family.val = 0xF → c.word.nn.toNat = 0x33 ∨ c.word.nn.toNat = 0x55 →
    limit ≤ c.before.index.toNat

instance (limit : Nat) (c : Cycle) : Decidable (c.StoresFrom limit) :=
  inferInstanceAs (Decidable (_ → _ → _))

namespace Machine

variable {m t : Machine} {i : Instruction}

/-! ## Memory below the stores -/

theorem step_byte_below {keys : Option BitGrid} {limit a : Nat} (h : m.step keys = .ok (t, i))
    (hs : Cycle.StoresFrom limit ⟨m, i, t⟩) (ha : a < limit) :
    t.memory.byte a = m.memory.byte a := by
  obtain ⟨k, -, -, -, -, rfl⟩ := step_eq_ok_iff.1 h
  refine Decidable.byContradiction fun hne => ?_
  have hform := nextMemory_form (m := m.polled k) (i := i) hne
  have hstore : i.family.val = 0xF ∧ (i.nn.toNat = 0x33 ∨ i.nn.toNat = 0x55) ∧
      m.index.toNat ≤ a := by
    rcases hform with ⟨hf, hn, hle, -⟩ | ⟨hf, hn, hle, -⟩
    · exact ⟨hf, .inl hn, hle⟩
    · exact ⟨hf, .inr hn, hle⟩
  have hlimit : limit ≤ m.index.toNat := hs hstore.1 hstore.2.1
  omega

theorem Runs.byte_below {m₀ : Machine} {cs : List Cycle} {limit a : Nat} (h : Runs m₀ cs m)
    (hs : ∀ c ∈ cs, c.StoresFrom limit) (ha : a < limit) :
    m.memory.byte a = m₀.memory.byte a :=
  h.invariant (P := fun u => u.memory.byte a = m₀.memory.byte a)
    (fun hstep hc hm => (step_byte_below hstep hc ha).trans hm) rfl hs

theorem start_glyphs {rng : Random.Source} {rom : List Int} (h : (initial rng).load rom = .ok m) :
    m.memory.read 0 0x50 = fontData := by
  rw [load_frame h]
  have hbelow : 0 + 0x50 ≤ programStart := by decide
  exact (Memory.read_write_of_disjoint (.inl hbelow)).trans (Memory.read_write (by decide))

/-- A run that does not store there keeps the glyphs. -/
theorem Runs.glyphs {m₀ : Machine} {rng : Random.Source} {rom : List Int} {cs : List Cycle}
    (h : Runs m₀ cs m) (hload : (initial rng).load rom = .ok m₀)
    (hs : ∀ c ∈ cs, c.StoresFrom 0x50) : m.memory.read 0 0x50 = fontData := by
  rw [← start_glyphs hload]
  refine Memory.read_congr fun k hk => h.byte_below hs ?_
  omega

/-! ## Drawing a glyph -/

theorem exec_glyph {z : Nibble} (h : m.pc.toNat + 2 < 65536) :
    m.exec (ofDigits 0xF z 2 9) = .ok { m with
      index := UInt16.ofNat ((m.reg z).toNat % 16 * 5)
      pc := UInt16.ofNat (m.pc.toNat + 2) } := by
  have hform : Opcode.glyph.hasForm (ofDigits 0xF z 2 9) :=
    Instruction.form_ofDigits 0xF z 2 9
  rw [exec_of_opcode (opcode?_eq_some_iff_hasForm.2 hform)]
  simp only [perform, Instruction.x_ofDigits, Memory.glyphAddress_eq]
  exact advance_of_lt h

/-- Where a glyph is found for a register: its high digit does not count. -/
theorem index_glyph (v : UInt8) :
    (UInt16.ofNat (v.toNat % 16 * 5)).toNat = 5 * (v &&& 0xF).toNat ∧ (v &&& 0xF).toNat < 16 := by
  have hdigit : (v &&& 0xF).toNat = v.toNat % 16 := Nat.and_two_pow_sub_one_eq_mod v.toNat 4
  rw [UInt16.toNat_ofNat', hdigit]
  omega

/-- With the glyphs in place the two instructions draw one of them. -/
theorem draw_glyph (hfont : m.memory.read 0 0x50 = fontData) (hpc : m.pc.toNat ≤ 4098)
    (x y z : Nibble) : ∃ t u,
      m.exec (ofDigits 0xF z 2 9) = .ok t ∧ t.exec (ofDigits 0xD x y 5) = .ok u ∧
      u.display = m.display.xor (sprite
        ((fontData.drop (5 * (m.reg z &&& 0xF).toNat)).take 5) (m.reg x).toNat (m.reg y).toNat) ∧
      u.memory = m.memory ∧ ∀ r, r ≠ flagRegister → u.reg r = m.reg r := by
  obtain ⟨hindex, hdigit⟩ := index_glyph (m.reg z)
  have hnext : (UInt16.ofNat (m.pc.toNat + 2)).toNat = m.pc.toNat + 2 := by
    rw [UInt16.toNat_ofNat']
    omega
  have hrows : m.memory.read (5 * (m.reg z &&& 0xF).toNat) 5 =
      (fontData.drop (5 * (m.reg z &&& 0xF).toNat)).take 5 := by
    have hwithin : 5 * (m.reg z &&& 0xF).toNat + 5 ≤ 0x50 := by omega
    rw [← hfont, Memory.read_sub hwithin, Nat.zero_add]
  refine ⟨_, _, exec_glyph (by omega), exec_draw (hasForm_draw x y 5) ?_ ?_, ?_, rfl,
    fun r hr => reg_drawn hr⟩
  · -- five rows from the last glyph on still lie in memory
    rw [Instruction.n_ofDigits]
    show (UInt16.ofNat ((m.reg z).toNat % 16 * 5)).toNat + 5 ≤ 4096
    omega
  · show (UInt16.ofNat (m.pc.toNat + 2)).toNat + 2 < 65536
    omega
  · rw [display_drawn, spriteOf_ofDigits]
    show m.display.xor (sprite (m.memory.read (UInt16.ofNat ((m.reg z).toNat % 16 * 5)).toNat 5)
      (m.reg x).toNat (m.reg y).toNat) = _
    rw [hindex, hrows]

end Machine

end Chip8
