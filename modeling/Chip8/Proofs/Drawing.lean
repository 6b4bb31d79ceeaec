/-
  Drawing sprites.

  * `spriteOf` is the sprite that a word draws and `drawn` the machine behind it;
    `exec_draw_eq_ok_iff`: a word that draws leaves this machine as soon as its rows lie
    in memory and the program counter can move on;
  * `CanDraw`: the place of the sprite does not depend on VF, so that another drawing
    changes nothing that the word reads (`spriteOf_drawn`);
  * `execAll_draws`: a row of such words toggles the sprites of all of them;
  * `draws_in_any_order`: so their order does not matter, and a sprite that is drawn twice
    is gone again; one of the two flags gives away that it had a pixel.
-/
import Chip8.Proofs.Changes
import Chip8.Proofs.Failure
import Chip8.Proofs.Pixels

namespace Chip8.Machine

open Instruction (opcode?_eq_some_iff_hasForm ofDigits)

variable {m t : Machine} {i j : Instruction}

/-! ## One drawing -/

/-- The sprite that a word draws. -/
def spriteOf (m : Machine) (i : Instruction) : Display :=
  sprite (m.memory.read m.index.toNat i.n.val) (m.reg i.x).toNat (m.reg i.y).toNat

/-- The machine behind a word that draws. -/
def drawn (m : Machine) (i : Instruction) : Machine :=
  { m.setReg flagRegister (flagByte (m.display.meets (m.spriteOf i))) with
    display := m.display.xor (m.spriteOf i)
    drawPending := true
    pc := UInt16.ofNat (m.pc.toNat + 2) }

/-- The place of the sprite may be taken inside the display. -/
theorem sprite_eq_spriteOf (m : Machine) (i : Instruction) :
    sprite (m.memory.read m.index.toNat i.n.val) ((m.reg i.x).toNat % 64 : Nat)
      ((m.reg i.y).toNat % 32 : Nat) = m.spriteOf i := by
  rw [Int.natCast_emod, Int.natCast_emod]
  exact sprite_mod _ (m.reg i.x).toNat (m.reg i.y).toNat

theorem drawSprite_eq_drawn (m : Machine) (i : Instruction) :
    { m.drawSprite (m.reg i.x) (m.reg i.y) i.n.val with pc := UInt16.ofNat (m.pc.toNat + 2) } =
      m.drawn i := by
  simp only [drawSprite, drawn, sprite_eq_spriteOf]

/-- What a word that draws does. -/
theorem exec_draw_eq_ok_iff (h : Opcode.draw.hasForm i) :
    m.exec i = .ok t ↔
      m.index.toNat + i.n.val ≤ 4096 ∧ m.pc.toNat + 2 < 65536 ∧ t = m.drawn i := by
  have ho : i.opcode? = some .draw := opcode?_eq_some_iff_hasForm.2 h
  have hdrawn : { m.effect i with pc := UInt16.ofNat (m.pc.toNat + 2) } = m.drawn i := by
    rw [← drawSprite_eq_drawn]
    simp only [effect, nextMemory, nextRegisters, nextIndex, nextStack, nextDelay, nextSound,
      nextDisplay, nextRng, Instruction.draws, ho, Bool.or_true]
    rfl
  rw [exec_eq_ok_iff_of_spans (.draw h), hdrawn]

theorem exec_draw (h : Opcode.draw.hasForm i) (hrows : m.index.toNat + i.n.val ≤ 4096)
    (hpc : m.pc.toNat + 2 < 65536) : m.exec i = .ok (m.drawn i) :=
  (exec_draw_eq_ok_iff h).2 ⟨hrows, hpc, rfl⟩

theorem hasForm_draw (x y n : Nibble) : Opcode.draw.hasForm (ofDigits 0xD x y n) :=
  congrArg Fin.val (Instruction.family_ofDigits 0xD x y n)

theorem spriteOf_ofDigits (m : Machine) (x y n : Nibble) :
    m.spriteOf (ofDigits 0xD x y n) =
      sprite (m.memory.read m.index.toNat n.val) (m.reg x).toNat (m.reg y).toNat := by
  simp only [spriteOf, Instruction.x_ofDigits, Instruction.y_ofDigits, Instruction.n_ofDigits]

/-- The height of a sprite is one digit, so it fits the display. -/
theorem rows_length_le (m : Machine) (i : Instruction) :
    (m.memory.read m.index.toNat i.n.val).length ≤ 32 := by
  rw [Memory.read_length]
  omega

theorem flagByte_eq_one_iff {b : Bool} : flagByte b = 1 ↔ b = true := by
  cases b <;> decide

theorem flagByte_eq_zero_iff {b : Bool} : flagByte b = 0 ↔ b = false := by
  cases b <;> decide

theorem display_drawn (m : Machine) (i : Instruction) :
    (m.drawn i).display = m.display.xor (m.spriteOf i) := rfl

/-- Behind a drawing VF tells whether a pixel of the sprite was lit. -/
theorem flag_drawn (m : Machine) (i : Instruction) :
    (m.drawn i).reg flagRegister = flagByte (m.display.meets (m.spriteOf i)) :=
  (reg_setReg _ _ _ _).trans (if_pos rfl)

theorem reg_drawn {r : Nibble} (h : r ≠ flagRegister) : (m.drawn i).reg r = m.reg r :=
  (reg_setReg _ _ _ _).trans (if_neg h.symm)

theorem pc_drawn (h : m.pc.toNat + 2 < 65536) : (m.drawn i).pc.toNat = m.pc.toNat + 2 := by
  show (UInt16.ofNat (m.pc.toNat + 2)).toNat = m.pc.toNat + 2
  rw [UInt16.toNat_ofNat']
  omega

/-! ## Drawing again and again -/

/-- A word draws rows that lie in memory, at a place that VF has no part in. -/
structure CanDraw (m : Machine) (i : Instruction) : Prop where
  form : Opcode.draw.hasForm i
  x_ne : i.x ≠ flagRegister
  y_ne : i.y ≠ flagRegister
  inMemory : m.index.toNat + i.n.val ≤ 4096

/-- A drawing changes nothing that another such word reads. -/
theorem spriteOf_drawn (h : m.CanDraw j) : (m.drawn i).spriteOf j = m.spriteOf j := by
  unfold spriteOf
  rw [reg_drawn h.x_ne, reg_drawn h.y_ne]
  rfl

theorem CanDraw.drawn (h : m.CanDraw j) : (m.drawn i).CanDraw j :=
  ⟨h.form, h.x_ne, h.y_ne, h.inMemory⟩

/-- A row of drawings toggles the sprites of all of them. -/
theorem execAll_draws {is : List Instruction} (h : ∀ i ∈ is, m.CanDraw i)
    (hpc : m.pc.toNat + 2 * is.length ≤ 65535) :
    ∃ t, m.execAll is = .ok t ∧ t.display = (is.map m.spriteOf).foldl Display.xor m.display := by
  induction is generalizing m with
  | nil => exact ⟨m, rfl, rfl⟩
  | cons i is ih =>
    obtain ⟨hi, his⟩ := List.forall_mem_cons.1 h
    rw [List.length_cons] at hpc
    have hnext : m.pc.toNat + 2 < 65536 := by omega
    have hpc' : (m.drawn i).pc.toNat + 2 * is.length ≤ 65535 := by
      rw [pc_drawn hnext]
      omega
    obtain ⟨t, ht, hdisplay⟩ := ih (fun j hj => (his j hj).drawn) hpc'
    refine ⟨t, ?_, ?_⟩
    · rw [execAll, exec_draw hi.form hi.inMemory hnext]
      exact ht
    · have hsprites : is.map (m.drawn i).spriteOf = is.map m.spriteOf :=
        List.map_congr_left fun j hj => spriteOf_drawn (his j hj)
      rw [hdisplay, hsprites, display_drawn, List.map_cons, List.foldl_cons]

/-- The order in which displays are toggled does not matter. -/
theorem foldl_xor_perm {ds es : List Display} (h : es.Perm ds) (d : Display) :
    es.foldl Display.xor d = ds.foldl Display.xor d :=
  h.foldl_eq' (fun a _ b _ c => Display.xor_right_comm c a b) d

/-- A sprite that is drawn twice is gone again; the flags tell of its pixels that were
    lit and of those that were dark. -/
theorem draw_twice (h : m.CanDraw i) (hpc : m.pc.toNat + 4 ≤ 65535) : ∃ t u,
    m.exec i = .ok t ∧ t.exec i = .ok u ∧ u.display = m.display ∧
    (t.reg flagRegister = 1 ↔
      ∃ x y, (m.spriteOf i).pixel x y = true ∧ m.display.pixel x y = true) ∧
    (u.reg flagRegister = 1 ↔
      ∃ x y, (m.spriteOf i).pixel x y = true ∧ m.display.pixel x y = false) := by
  have hnext : m.pc.toNat + 2 < 65536 := by omega
  have hnext' : (m.drawn i).pc.toNat + 2 < 65536 := by
    rw [pc_drawn hnext]
    omega
  refine ⟨m.drawn i, (m.drawn i).drawn i, exec_draw h.form h.inMemory hnext,
    exec_draw h.form h.drawn.inMemory hnext', ?_, ?_, ?_⟩
  · rw [display_drawn, display_drawn, spriteOf_drawn h, Display.xor_xor_self]
  · rw [flag_drawn, flagByte_eq_one_iff, Display.meets_iff]
    simp only [and_comm]
  · rw [flag_drawn, flagByte_eq_one_iff, spriteOf_drawn h, display_drawn, Display.meets_iff]
    refine exists_congr fun x => exists_congr fun y => ?_
    rw [Display.pixel_xor]
    cases m.display.pixel x y <;> cases (m.spriteOf i).pixel x y <;> decide

/-- **Drawings may change places.**  Words that draw at places that VF has no part in
    toggle the sprites of all of them, in whatever order they are executed.  One that is
    executed twice leaves the display as it was: the flag is 1 behind the first iff a pixel of
    its sprite was lit, behind the second iff one was dark, so it is 1 at least once iff
    the rows have a set bit. -/
theorem draws_in_any_order (m : Machine) :
    (∀ is js : List Instruction, (∀ i ∈ is, m.CanDraw i) →
      m.pc.toNat + 2 * is.length ≤ 65535 → js.Perm is →
      ∃ t, m.execAll js = .ok t ∧
        t.display = (is.map m.spriteOf).foldl Display.xor m.display) ∧
    ∀ i : Instruction, m.CanDraw i → m.pc.toNat + 4 ≤ 65535 → ∃ t u,
      m.exec i = .ok t ∧ t.exec i = .ok u ∧ u.display = m.display ∧
      (t.reg flagRegister = 1 ↔
        ∃ x y, (m.spriteOf i).pixel x y = true ∧ m.display.pixel x y = true) ∧
      (u.reg flagRegister = 1 ↔
        ∃ x y, (m.spriteOf i).pixel x y = true ∧ m.display.pixel x y = false) ∧
      (t.reg flagRegister = 1 ∨ u.reg flagRegister = 1 ↔
        ∃ b ∈ m.memory.read m.index.toNat i.n.val, ∃ k < 8, b.toNat.testBit k = true) := by
  refine ⟨fun is js h hpc hperm => ?_, fun i h hpc => ?_⟩
  · have hjs : ∀ j ∈ js, m.CanDraw j := fun j hj => h j (hperm.mem_iff.1 hj)
    obtain ⟨t, ht, hdisplay⟩ := execAll_draws hjs (by rwa [hperm.length_eq])
    exact ⟨t, ht, hdisplay.trans (foldl_xor_perm (hperm.map _) m.display)⟩
  · obtain ⟨t, u, ht, hu, hdisplay, hlit, hdark⟩ := draw_twice h hpc
    refine ⟨t, u, ht, hu, hdisplay, hlit, hdark, ?_⟩
    rw [← exists_pixel_sprite_iff (rows_length_le m i) (x := (m.reg i.x).toNat)
      (y := (m.reg i.y).toNat), hlit, hdark, ← exists_or]
    refine exists_congr fun x => ?_
    rw [← exists_or]
    refine exists_congr fun y => ?_
    rw [← and_or_left]
    exact and_iff_left (by cases m.display.pixel x y <;> simp)

/-- The glyph of 0 in the corner and once more around the right edge, in both orders; the
    latter drawn twice on the dark display. -/
theorem corners_in_any_order : ∃ m t t' u v : Machine, m.reg 1 = 62 ∧ m.reg 2 = 3 ∧
    m.execAll [⟨0xD005⟩, ⟨0xD125⟩] = .ok t ∧ m.execAll [⟨0xD125⟩, ⟨0xD005⟩] = .ok t' ∧
      t'.display = t.display ∧
      m.exec ⟨0xD125⟩ = .ok u ∧ u.exec ⟨0xD125⟩ = .ok v ∧ v.display = m.display ∧
      u.reg flagRegister ≠ 1 ∧ v.reg flagRegister = 1 := by
  obtain ⟨m, hm⟩ : ∃ m : Machine, m = ((initial (.ofSeed 0)).setReg 1 62).setReg 2 3 := ⟨_, rfl⟩
  have hregs : m.reg 1 = 62 ∧ m.reg 2 = 3 := by
    subst hm
    decide +kernel
  have hglyph : m.memory.read m.index.toNat 5 = [0xF0, 0x90, 0x90, 0x90, 0xF0] := by
    subst hm
    decide +kernel
  have hdark : m.display = .blank := by rw [hm]; rfl
  have hindex : m.index.toNat = 0 := by rw [hm]; rfl
  have hpc : m.pc.toNat = 0x200 := by rw [hm]; rfl
  have hcorner : m.CanDraw ⟨0xD005⟩ := ⟨rfl, by decide, by decide, by rw [hindex]; decide⟩
  have hedge : m.CanDraw ⟨0xD125⟩ := ⟨rfl, by decide, by decide, by rw [hindex]; decide⟩
  have hboth : ∀ i ∈ [⟨0xD005⟩, ⟨0xD125⟩], m.CanDraw i := by
    rintro i hi
    rcases List.mem_pair.1 hi with rfl | rfl
    · exact hcorner
    · exact hedge
  obtain ⟨horder, htwice⟩ := draws_in_any_order m
  obtain ⟨t, ht, hdisplay⟩ := horder _ [⟨0xD005⟩, ⟨0xD125⟩] hboth (by rw [hpc]; decide) (.refl _)
  obtain ⟨t', ht', hdisplay'⟩ := horder _ [⟨0xD125⟩, ⟨0xD005⟩] hboth (by rw [hpc]; decide)
    (.swap ..)
  obtain ⟨u, v, hu, hv, hback, hlit, -, honce⟩ := htwice ⟨0xD125⟩ hedge (by rw [hpc]; decide)
  have hu0 : u.reg flagRegister ≠ 1 := by
    rw [ne_eq, hlit, hdark]
    simp
  have hbit : ∃ b ∈ m.memory.read m.index.toNat 5, ∃ k < 8, b.toNat.testBit k = true := by
    rw [hglyph]
    exact ⟨0xF0, List.mem_cons_self .., 7, by decide, by decide⟩
  exact ⟨m, t, t', u, v, hregs.1, hregs.2, ht, ht', hdisplay'.trans hdisplay.symm, hu, hv, hback,
    hu0, (honce.2 hbit).resolve_left hu0⟩

end Chip8.Machine
