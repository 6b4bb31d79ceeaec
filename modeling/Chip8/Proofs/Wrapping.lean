/-
  Sprites around the edges of the display.

  * `Display.translate` moves all pixels of a display, around its edges; to move a sprite
    translates it (`sprite_add`);
  * `IsCoordinate`: the integers that a sprite can be placed at, and no others
    (`placeSprite_eq`);
  * `card_lit_drawn` counts the lit pixels behind a drawing;
  * `no_pixel_lost`: a sprite has as many pixels as its rows have set bits wherever it
    is placed, so a drawing lights that many, less two for each that was lit before;
  * `refused_far_out`: a coordinate of more than 32 bits is refused.
-/
import Chip8.Proofs.Drawing

namespace Chip8

/-! ## Translation -/

namespace Display

/-- The column that a number counts to, around the edges. -/
def column (x : Int) : Fin 64 := ⟨(x % 64).toNat, by omega⟩

/-- The row that a number counts to, around the edges. -/
def row (y : Int) : Fin 32 := ⟨(y % 32).toNat, by omega⟩

/-- The display with all pixels moved `dx` columns to the right and `dy` rows down, around
    the edges. -/
def translate (d : Display) (dx dy : Int) : Display :=
  .ofFn fun x y => d.pixel (column (x.val - dx)) (row (y.val - dy))

end Display

/-- A sprite placed further on is the sprite moved on. -/
theorem sprite_add (rows : List UInt8) (x y dx dy : Int) :
    sprite rows (x + dx) (y + dy) = (sprite rows x y).translate (dx % 64) (dy % 32) := by
  refine Display.ext_pixel fun c r => ?_
  have hc : (((Display.column (c.val - dx % 64)).val : Int) - x) % 64 =
      ((c.val : Int) - (x + dx)) % 64 := by
    simp only [Display.column]
    omega
  have hr : (((Display.row (r.val - dy % 32)).val : Int) - y) % 32 =
      ((r.val : Int) - (y + dy)) % 32 := by
    simp only [Display.row]
    omega
  rw [Display.translate, Display.pixel_ofFn, pixel_sprite, pixel_sprite, hc, hr]

/-! ## Places -/

/-- The integers that a sprite can be placed at: those of 32 bits with a sign. -/
def IsCoordinate (v : Int) : Prop := -2147483648 ≤ v ∧ v ≤ 2147483647

instance (v : Int) : Decidable (IsCoordinate v) := inferInstanceAs (Decidable (_ ∧ _))

theorem checkCoordinate_eq (v : Int) :
    checkCoordinate v = if IsCoordinate v then .ok () else .error (.spritePosition v) := rfl

theorem placeSprite_eq (rows : List UInt8) (x y : Int) :
    placeSprite rows x y =
      if IsCoordinate x then
        if IsCoordinate y then .ok (sprite rows x y) else .error (.spritePosition y)
      else .error (.spritePosition x) := by
  rw [placeSprite, checkCoordinate_eq, checkCoordinate_eq]
  by_cases hx : IsCoordinate x
  · by_cases hy : IsCoordinate y
    · rw [if_pos hx, if_pos hy, if_pos hx, if_pos hy]
      rfl
    · rw [if_pos hx, if_neg hy, if_pos hx, if_neg hy]
      rfl
  · rw [if_neg hx, if_neg hx]
    rfl

variable {rows : List UInt8} {x y : Int}

theorem placeSprite_ok (hx : IsCoordinate x) (hy : IsCoordinate y) :
    placeSprite rows x y = .ok (sprite rows x y) := by
  rw [placeSprite_eq, if_pos hx, if_pos hy]

theorem placeSprite_error_column (hx : ¬ IsCoordinate x) :
    placeSprite rows x y = .error (.spritePosition x) := by
  rw [placeSprite_eq, if_neg hx]

theorem placeSprite_error_row (hx : IsCoordinate x) (hy : ¬ IsCoordinate y) :
    placeSprite rows x y = .error (.spritePosition y) := by
  rw [placeSprite_eq, if_pos hx, if_neg hy]

/-- A place counts modulo the size of the display. -/
theorem sprite_congr {x' y' : Int} (hx : x' % 64 = x % 64) (hy : y' % 32 = y % 32) :
    sprite rows x' y' = sprite rows x y := by
  rw [← sprite_mod rows x' y', hx, hy, sprite_mod]

/-! ## Counting lit pixels -/

namespace Machine

/-- A drawing lights the pixels of its sprite, but those that were lit go dark. -/
theorem card_lit_drawn (m : Machine) (i : Instruction) :
    (m.drawn i).display.lit.card + 2 * (m.display.lit ∩ (m.spriteOf i).lit).card =
      m.display.lit.card + ((m.memory.read m.index.toNat i.n.val).map bitCount).sum := by
  rw [display_drawn, Display.card_lit_xor, spriteOf, card_lit_sprite (rows_length_le m i)]

end Machine

/-- **No pixel of a sprite is lost or doubled.**  Placed at coordinates of 32 bits, rows have as
    many pixels as set bits; placed further on they are translated around the edges, so a
    place counts modulo the size of the display; other coordinates are refused, the column first.
    Behind a drawing as many pixels are lit as before and in the rows, less two for each
    that was lit already, and VF is 0 iff none was. -/
theorem no_pixel_lost :
    (∀ rows : List UInt8, rows.length ≤ 32 → ∀ x y : Int,
      (IsCoordinate x → IsCoordinate y → ∃ d, placeSprite rows x y = .ok d ∧
        d.lit.card = (rows.map bitCount).sum ∧
        (∀ dx dy : Int, IsCoordinate (x + dx) → IsCoordinate (y + dy) →
          placeSprite rows (x + dx) (y + dy) = .ok (d.translate (dx % 64) (dy % 32))) ∧
        ∀ x' y' : Int, IsCoordinate x' → IsCoordinate y' → x' % 64 = x % 64 → y' % 32 = y % 32 →
          placeSprite rows x' y' = .ok d) ∧
      (¬ IsCoordinate x → placeSprite rows x y = .error (.spritePosition x)) ∧
      (IsCoordinate x → ¬ IsCoordinate y → placeSprite rows x y = .error (.spritePosition y))) ∧
    ∀ (m t : Machine) (i : Instruction), Opcode.draw.hasForm i → m.exec i = .ok t →
      (t.display.lit.card : Int) = m.display.lit.card +
        ((m.memory.read m.index.toNat i.n.val).map bitCount).sum -
        2 * (m.display.lit ∩ (m.spriteOf i).lit).card ∧
      (t.reg flagRegister = 0 ↔ t.display.lit.card = m.display.lit.card +
        ((m.memory.read m.index.toNat i.n.val).map bitCount).sum) := by
  constructor
  · intro rows hrows x y
    refine ⟨fun hx hy => ?_, placeSprite_error_column, placeSprite_error_row⟩
    refine ⟨sprite rows x y, placeSprite_ok hx hy, card_lit_sprite hrows x y, ?_, ?_⟩
    · intro dx dy hdx hdy
      rw [placeSprite_ok hdx hdy, sprite_add]
    · intro x' y' hx' hy' hcolumn hrow
      rw [placeSprite_ok hx' hy', sprite_congr hcolumn hrow]
  · intro m t i hi h
    obtain ⟨-, -, rfl⟩ := (Machine.exec_draw_eq_ok_iff hi).1 h
    have hcard := m.card_lit_drawn i
    refine ⟨by omega, ?_⟩
    rw [Machine.flag_drawn, Machine.flagByte_eq_zero_iff, Display.meets_eq_false_iff]
    omega

/-- Rows around the lower right corner, and the glyph of 0 drawn where it is already. -/
theorem corner_pixels_kept : ∃ (d : Display) (m t : Machine),
    placeSprite [0xFF, 0x81] 62 (-1) = .ok d ∧ d.lit.card = 10 ∧
    placeSprite [0xFF, 0x81] (62 + 67) (-1 + -40) = .ok (d.translate (67 % 64) (-40 % 32)) ∧
    placeSprite [0xFF, 0x81] (-2) 31 = .ok d ∧
    placeSprite [0xFF, 0x81] 2147483648 0 = .error (.spritePosition 2147483648) ∧
    placeSprite [0xFF, 0x81] 0 (-2147483649) = .error (.spritePosition (-2147483649)) ∧
    m.exec ⟨0xD005⟩ = .ok t ∧ m.display.lit.card = 14 ∧
      (t.display.lit.card : Int) = 14 + 14 - 2 * 14 ∧ t.reg flagRegister ≠ 0 := by
  obtain ⟨hplace, hdraw⟩ := no_pixel_lost
  have hrows : [(0xFF : UInt8), 0x81].length ≤ 32 := by decide
  obtain ⟨d, hd, hcount, hmoved, hsame⟩ := (hplace _ hrows 62 (-1)).1 (by decide) (by decide)
  obtain ⟨m, hm⟩ : ∃ m : Machine, m = { Machine.initial (.ofSeed 0) with
      display := sprite [0xF0, 0x90, 0x90, 0x90, 0xF0] 0 0 } := ⟨_, rfl⟩
  have hglyph : m.memory.read m.index.toNat 5 = [0xF0, 0x90, 0x90, 0x90, 0xF0] ∧ m.reg 0 = 0 := by
    subst hm
    decide +kernel
  have hsprite : m.spriteOf ⟨0xD005⟩ = m.display := by
    show sprite (m.memory.read m.index.toNat 5) (m.reg 0).toNat (m.reg 0).toNat = _
    rw [hglyph.1, hglyph.2, hm]
    rfl
  have hlit : m.display.lit.card = 14 := by
    rw [hm]
    exact (card_lit_sprite (by decide) 0 0).trans (by decide)
  have hbits : ((m.memory.read m.index.toNat (⟨0xD005⟩ : Instruction).n.val).map bitCount).sum =
      14 := by
    show ((m.memory.read m.index.toNat 5).map bitCount).sum = 14
    rw [hglyph.1]
    decide
  have hindex : m.index.toNat + 5 ≤ 4096 := by
    rw [hm]
    decide
  have hpc : m.pc.toNat + 2 < 65536 := by
    rw [hm]
    decide
  have hexec : m.exec ⟨0xD005⟩ = .ok (m.drawn ⟨0xD005⟩) := Machine.exec_draw rfl hindex hpc
  obtain ⟨hcard, hflag⟩ := hdraw m _ ⟨0xD005⟩ rfl hexec
  rw [hsprite, Finset.inter_self, hlit, hbits] at hcard
  refine ⟨d, m, _, hd, hcount, hmoved 67 (-40) (by decide) (by decide),
    hsame (-2) 31 (by decide) (by decide) (by decide) (by decide),
    (hplace _ hrows 2147483648 0).2.1 (by decide),
    (hplace _ hrows 0 (-2147483649)).2.2 (by decide) (by decide), hexec, hlit, hcard, ?_⟩
  rw [ne_eq, hflag, hlit, hbits]
  omega

/-- At a column of 33 bits there is no sprite, hence none with the pixel of its one set bit. -/
theorem refused_far_out : ¬ ∀ (rows : List UInt8) (x y : Int), rows.length ≤ 32 →
    ∃ d, placeSprite rows x y = .ok d ∧ d.lit.card = (rows.map bitCount).sum := by
  intro h
  obtain ⟨d, hd, -⟩ := h [0x80] 2147483648 0 (by decide)
  rw [placeSprite_error_column (by decide)] at hd
  cases hd

end Chip8
