/-
  Drawing pixel by pixel.

  * `Canvas.toggle` toggles one pixel and notes in VF whether it was lit;
    `Machine.blit` does so for the set bits of some rows in memory, row by row and from the most
    significant bit on;
  * `pixel_foldl_toggle` and `flag_foldl_toggle`: pixels that are all different are
    toggled once each, and none of them is found lit because of another;
  * `blit_eq`: so the loop comes to the same as toggling all pixels of the sprite at once;
  * `draw_eq_blit`: a word that draws leaves what the loop leaves.
-/
import Chip8.Proofs.Drawing

namespace Chip8

open Instruction (ofDigits)

/-- A display that is drawn on, and the value that VF has meanwhile. -/
structure Canvas where
  display : Display
  flag : UInt8

namespace Canvas

/-- Toggle a pixel; VF becomes 1 if it was lit. -/
def toggle (s : Canvas) (p : Fin 64 × Fin 32) : Canvas where
  display := .ofFn fun x y => if (x, y) = p then !s.display.pixel x y else s.display.pixel x y
  flag := if s.display.pixel p.1 p.2 then 1 else s.flag

theorem pixel_toggle (s : Canvas) (p q : Fin 64 × Fin 32) :
    (s.toggle p).display.pixel q.1 q.2 = (s.display.pixel q.1 q.2 ^^ decide (q = p)) := by
  rw [toggle, Display.pixel_ofFn]
  by_cases h : q = p <;> simp [h]

theorem flag_toggle (s : Canvas) (p : Fin 64 × Fin 32) :
    (s.toggle p).flag = if s.display.pixel p.1 p.2 = true then 1 else s.flag := rfl

/-! ## Different pixels -/

theorem pixel_foldl_toggle {ps : List (Fin 64 × Fin 32)} (hps : ps.Nodup) (s : Canvas)
    (q : Fin 64 × Fin 32) :
    (ps.foldl toggle s).display.pixel q.1 q.2 = (s.display.pixel q.1 q.2 ^^ decide (q ∈ ps)) := by
  induction ps generalizing s with
  | nil => simp
  | cons p ps ih =>
    obtain ⟨hp, hps⟩ := List.nodup_cons.1 hps
    rw [List.foldl_cons, ih hps, pixel_toggle, Bool.xor_assoc]
    -- a pixel is toggled by the first one or by the rest, not by both
    by_cases hq : q = p
    · subst hq
      simp [hp]
    · simp [hq]

theorem flag_foldl_toggle {ps : List (Fin 64 × Fin 32)} (hps : ps.Nodup) (s : Canvas) :
    (ps.foldl toggle s).flag =
      if ∃ p ∈ ps, s.display.pixel p.1 p.2 = true then 1 else s.flag := by
  induction ps generalizing s with
  | nil => simp
  | cons p ps ih =>
    obtain ⟨hp, hps⟩ := List.nodup_cons.1 hps
    -- the first pixel is none of the rest, so these are found as they were
    have hrest : (∃ q ∈ ps, (s.toggle p).display.pixel q.1 q.2 = true) ↔
        ∃ q ∈ ps, s.display.pixel q.1 q.2 = true := by
      refine exists_congr fun q => and_congr_right fun hq => ?_
      have hne : q ≠ p := fun h => hp (h ▸ hq)
      rw [pixel_toggle, decide_eq_false hne, Bool.xor_false]
    rw [List.foldl_cons, ih hps]
    simp only [hrest, List.exists_mem_cons_iff, flag_toggle]
    by_cases hfirst : s.display.pixel p.1 p.2 = true <;> simp [hfirst]

/-- Toggling the pixels of a display one by one. -/
theorem foldl_toggle_eq {ps : List (Fin 64 × Fin 32)} (hps : ps.Nodup) {mask : Display}
    (hmask : ∀ p : Fin 64 × Fin 32, mask.pixel p.1 p.2 = true ↔ p ∈ ps) (d : Display) :
    ps.foldl toggle ⟨d, 0⟩ = ⟨d.xor mask, flagByte (d.meets mask)⟩ := by
  have hdisplay : (ps.foldl toggle ⟨d, 0⟩).display = d.xor mask := by
    refine Display.ext_pixel fun x y => ?_
    have hlit : mask.pixel x y = decide ((x, y) ∈ ps) := by
      rw [Bool.eq_iff_iff, hmask (x, y), decide_eq_true_eq]
    rw [pixel_foldl_toggle hps _ (x, y), Display.pixel_xor, hlit]
  have hmeets : (∃ p ∈ ps, d.pixel p.1 p.2 = true) ↔ d.meets mask = true := by
    simp only [Display.meets_iff, Prod.exists, ← hmask, and_comm]
  have hflag : (ps.foldl toggle ⟨d, 0⟩).flag = flagByte (d.meets mask) := by
    rw [flag_foldl_toggle hps]
    simp only [hmeets]
    rfl
  rw [← hdisplay, ← hflag]

end Canvas

namespace Machine

/-! ## The loop -/

/-- Draw one row of eight bits, from the most significant one on, `r` rows below (x, y). -/
def blitRow (m : Machine) (x y r : Nat) (s : Canvas) : Canvas :=
  (List.range 8).foldl (fun s c =>
    if (m.memory.byte (m.index.toNat + r)).toNat.testBit (7 - c) then
      s.toggle (spot x y (r, c))
    else s) s

/-- Draw `n` rows from the index on, the first at (x, y), with VF lowered before. -/
def blit (m : Machine) (x y n : Nat) : Canvas :=
  (List.range n).foldl (fun s r => m.blitRow x y r s) ⟨m.display, 0⟩

/-- The loop toggles the pixels that the bits of the rows fall on. -/
theorem blit_eq_foldl (m : Machine) (x y n : Nat) :
    m.blit x y n =
      ((spriteBits (m.memory.read m.index.toNat n)).map (spot x y)).foldl Canvas.toggle
        ⟨m.display, 0⟩ := by
  rw [List.foldl_map, spriteBits_eq_flatMap, List.foldl_flatMap, Memory.read_length]
  refine List.foldl_ext _ _ _ fun s r hr => ?_
  rw [List.foldl_map, List.foldl_filter]
  refine List.foldl_ext _ _ _ fun s c hc => ?_
  rw [spriteBit_of_lt (List.mem_range.1 hc), Memory.read_getElem? (List.mem_range.1 hr)]
  rfl

theorem blit_eq (m : Machine) (x y : Nat) {n : Nat} (hn : n ≤ 32) :
    m.blit x y n =
      ⟨m.display.xor (sprite (m.memory.read m.index.toNat n) x y),
        flagByte (m.display.meets (sprite (m.memory.read m.index.toNat n) x y))⟩ := by
  have hrows : (m.memory.read m.index.toNat n).length ≤ 32 := by rwa [Memory.read_length]
  rw [blit_eq_foldl]
  exact Canvas.foldl_toggle_eq (spots_nodup hrows x y) (fun p => pixel_sprite_iff hrows) m.display

/-- **A word that draws leaves what the loop leaves**: with the place read before VF is
    lowered, the display and VF are those behind the loop, a drawing is pending, the program
    counter has moved on, and nothing else has changed. -/
theorem draw_eq_blit (m : Machine) (x y n : Nibble) (hrows : m.index.toNat + n.val ≤ 4096)
    (hpc : m.pc.toNat ≤ 65533) :
    let s := m.blit ((m.reg x).toNat % 64) ((m.reg y).toNat % 32) n.val
    m.exec (ofDigits 0xD x y n) = .ok { m.setReg flagRegister s.flag with
      display := s.display
      drawPending := true
      pc := UInt16.ofNat (m.pc.toNat + 2) } := by
  intro s
  have hs : s = ⟨m.display.xor (m.spriteOf (ofDigits 0xD x y n)),
      flagByte (m.display.meets (m.spriteOf (ofDigits 0xD x y n)))⟩ := by
    rw [← sprite_eq_spriteOf, Instruction.x_ofDigits, Instruction.y_ofDigits,
      Instruction.n_ofDigits]
    exact m.blit_eq _ _ (by omega)
  rw [hs, exec_draw (hasForm_draw x y n) (by rwa [Instruction.n_ofDigits]) (by omega)]
  rfl

/-- Two rows of a glyph around the corner, at the column that VF tells: the fourth bit of the
    second row falls on the lit pixel. -/
theorem corner_blit : ∃ m t : Machine, m.reg flagRegister = 0xFE ∧ m.reg 1 = 31 ∧
    m.index.toNat + (2 : Nibble).val ≤ 4096 ∧ m.pc.toNat ≤ 65533 ∧
      m.exec (ofDigits 0xD flagRegister 1 2) = .ok t ∧ t.display = (m.blit 62 31 2).display ∧
      m.display.pixel 1 0 = true ∧ t.display.pixel 1 0 = false ∧ t.display.pixel 62 31 = true ∧
      t.reg flagRegister = 1 := by
  obtain ⟨m, hm⟩ : ∃ m : Machine, m =
      { ((initial (.ofSeed 0)).setReg flagRegister 0xFE).setReg 1 31 with
        index := 1
        display := .ofFn fun x y => x == 1 && y == 0 } := ⟨_, rfl⟩
  have hregs : m.reg flagRegister = 0xFE ∧ m.reg 1 = 31 := by
    subst hm
    decide +kernel
  have hloop : m.display.pixel 1 0 = true ∧ (m.blit 62 31 2).display.pixel 1 0 = false ∧
      (m.blit 62 31 2).display.pixel 62 31 = true ∧ (m.blit 62 31 2).flag = 1 := by
    subst hm
    decide +kernel
  have hrows : m.index.toNat + (2 : Nibble).val ≤ 4096 := by
    rw [hm]
    decide
  have hpc : m.pc.toNat ≤ 65533 := by
    rw [hm]
    decide
  have hdraw := m.draw_eq_blit flagRegister 1 2 hrows hpc
  rw [hregs.1, hregs.2] at hdraw
  obtain ⟨hlit, hdark, hnew, hflag⟩ := hloop
  refine ⟨m, _, hregs.1, hregs.2, hrows, hpc, hdraw, rfl, hlit, hdark, hnew, ?_⟩
  exact (reg_setReg _ _ _ _).trans ((if_pos rfl).trans hflag)

end Machine

end Chip8
