/-
  The lit pixels of displays and of sprites.

  * `Display.lit` are the lit pixels of a display: `lit_xor` and `meets_iff_lit` read
    the operations on displays as operations on these sets, `card_lit_xor` counts;
  * `spriteBits` are the set bits of sprite rows, row by row; `spriteBits_length`
    counts them byte by byte;
  * `spot` is the pixel that a bit falls on; bits of different place fall on different
    pixels, wherever the sprite wraps (`spot_injOn`);
  * `lit_sprite`: the lit pixels of a sprite are the spots of its bits, so there are as
    many of them as set bits (`card_lit_sprite`).
-/
import Chip8.Sprite
import Mathlib.Algebra.Ring.Nat
import Mathlib.Data.Finset.SymmDiff
import Mathlib.Data.Fintype.Prod
import Mathlib.Data.List.Nodup

namespace Chip8

open scoped symmDiff

/-! ## Lit pixels -/

namespace Display

/-- The lit pixels, each by its column and its row. -/
def lit (d : Display) : Finset (Fin 64 × Fin 32) := Finset.univ.filter fun p => d.pixel p.1 p.2

@[simp] theorem mem_lit {d : Display} {p : Fin 64 × Fin 32} :
    p ∈ d.lit ↔ d.pixel p.1 p.2 = true := by
  simp [lit]

theorem xor_right_comm (a b c : Display) : (a.xor b).xor c = (a.xor c).xor b := by
  refine ext_pixel fun x y => ?_
  simp only [pixel_xor]
  exact Bool.xor_right_comm ..

/-- To toggle the same pixels twice changes nothing. -/
theorem xor_xor_self (a b : Display) : (a.xor b).xor b = a := by
  refine ext_pixel fun x y => ?_
  simp only [pixel_xor, Bool.xor_assoc, Bool.xor_self, Bool.xor_false]

theorem lit_xor (a b : Display) : (a.xor b).lit = a.lit ∆ b.lit := by
  ext p
  rw [Finset.mem_symmDiff, mem_lit, mem_lit, mem_lit, pixel_xor]
  cases a.pixel p.1 p.2 <;> cases b.pixel p.1 p.2 <;> simp

theorem meets_iff_lit {a b : Display} : a.meets b = true ↔ (a.lit ∩ b.lit).Nonempty := by
  simp only [meets_iff, Finset.Nonempty, Finset.mem_inter, mem_lit, Prod.exists]

theorem meets_eq_false_iff {a b : Display} : a.meets b = false ↔ (a.lit ∩ b.lit).card = 0 := by
  rw [← Bool.not_eq_true, meets_iff_lit, Finset.not_nonempty_iff_eq_empty, Finset.card_eq_zero]

/-- Toggling adds the pixels that were dark and takes away those that were lit. -/
theorem card_lit_xor (a b : Display) :
    (a.xor b).lit.card + 2 * (a.lit ∩ b.lit).card = a.lit.card + b.lit.card := by
  have ha := Finset.card_sdiff_add_card_inter a.lit b.lit
  have hb := Finset.card_sdiff_add_card_inter b.lit a.lit
  have hdisjoint : Disjoint (a.lit \ b.lit) (b.lit \ a.lit) := disjoint_sdiff_sdiff
  rw [Finset.inter_comm] at hb
  rw [lit_xor, Finset.symmDiff_def, Finset.card_union_of_disjoint hdisjoint]
  omega

end Display

/-! ## The bits of sprite rows -/

/-- The number of set bits of a byte. -/
def bitCount (b : UInt8) : Nat := (List.range 8).countP fun k => b.toNat.testBit k

/-- The set bits of sprite rows, each by its row and its column. -/
def spriteBits (rows : List UInt8) : List (Nat × Nat) :=
  (List.range rows.length ×ˢ List.range 8).filter fun b => spriteBit rows b.2 b.1

theorem spriteBit_of_lt {rows : List UInt8} {column row : Nat} (h : column < 8) :
    spriteBit rows column row = (rows[row]?.getD 0).toNat.testBit (7 - column) := by
  have hwidth : column < spriteWidth := h
  rw [spriteBit, decide_eq_true hwidth, Bool.true_and, spriteWidth]

theorem spriteBits_nodup (rows : List UInt8) : (spriteBits rows).Nodup :=
  (List.nodup_range.product List.nodup_range).filter _

theorem mem_spriteBits {rows : List UInt8} {b : Nat × Nat} :
    b ∈ spriteBits rows ↔ b.1 < rows.length ∧ b.2 < 8 ∧ spriteBit rows b.2 b.1 = true := by
  obtain ⟨row, column⟩ := b
  simp only [spriteBits, List.mem_filter, List.mem_product, List.mem_range, and_assoc]

theorem spriteBits_eq_flatMap (rows : List UInt8) :
    spriteBits rows = (List.range rows.length).flatMap fun r =>
      ((List.range 8).filter fun column => spriteBit rows column r).map (Prod.mk r) := by
  show ((List.range rows.length).flatMap fun r => (List.range 8).map (Prod.mk r)).filter _ = _
  rw [List.filter_flatMap]
  simp only [List.filter_map]
  rfl

/-- The columns of a row are its bits from the most significant one on. -/
theorem countP_columns (b : UInt8) :
    ((List.range 8).countP fun column => b.toNat.testBit (7 - column)) = bitCount b := by
  have hcolumns : (List.range 8).map (fun column => 7 - column) = (List.range 8).reverse := by
    decide
  rw [bitCount, ← List.countP_reverse, ← hcolumns, List.countP_map]
  rfl

theorem spriteBits_length (rows : List UInt8) :
    (spriteBits rows).length = (rows.map bitCount).sum := by
  have hrow : ∀ r : Nat, ((List.range 8).countP fun column => spriteBit rows column r) =
      bitCount (rows[r]?.getD 0) := by
    intro r
    rw [← countP_columns]
    refine List.countP_congr fun column hcolumn => ?_
    rw [spriteBit_of_lt (List.mem_range.1 hcolumn)]
  have hrows : rows.map bitCount =
      (List.range rows.length).map fun r => bitCount (rows[r]?.getD 0) := by
    refine List.ext_getElem (by simp) fun r hr _ => ?_
    rw [List.length_map] at hr
    simp [hr]
  rw [hrows, spriteBits_eq_flatMap, List.length_flatMap]
  refine congrArg List.sum (List.map_congr_left fun r _ => ?_)
  rw [← hrow, List.countP_eq_length_filter, List.length_map]

/-! ## Where the bits fall -/

/-- The pixel that a bit of a sprite at (x, y) falls on. -/
def spot (x y : Nat) (b : Nat × Nat) : Fin 64 × Fin 32 := (.ofNat 64 (x + b.2), .ofNat 32 (y + b.1))

/-- Eight columns and 32 rows fall on different pixels. -/
theorem spot_injOn {x y : Nat} {b b' : Nat × Nat} (hb : b.1 < 32 ∧ b.2 < 8)
    (hb' : b'.1 < 32 ∧ b'.2 < 8) (h : spot x y b = spot x y b') : b = b' := by
  simp only [spot, Prod.mk.injEq, Fin.ext_iff, Fin.val_ofNat] at h
  ext <;> omega

theorem pixel_sprite (rows : List UInt8) (x y : Int) (c : Fin 64) (r : Fin 32) :
    (sprite rows x y).pixel c r =
      spriteBit rows (((c.val : Int) - x) % 64).toNat (((r.val : Int) - y) % 32).toNat :=
  Display.pixel_ofFn _ c r

/-- The lit pixels of a sprite are those that its bits fall on. -/
theorem pixel_sprite_iff {rows : List UInt8} (hrows : rows.length ≤ 32) {x y : Nat}
    {p : Fin 64 × Fin 32} :
    (sprite rows x y).pixel p.1 p.2 = true ↔ p ∈ (spriteBits rows).map (spot x y) := by
  obtain ⟨c, r⟩ := p
  rw [pixel_sprite, List.mem_map]
  constructor
  · intro h
    have hc : (((c.val : Int) - x) % 64).toNat < 8 := by
      simp only [spriteBit, Bool.and_eq_true, decide_eq_true_eq] at h
      exact h.1
    have hr : (((r.val : Int) - y) % 32).toNat < rows.length := by
      refine Nat.lt_of_not_le fun hle => ?_
      rw [spriteBit_of_lt hc, List.getElem?_eq_none hle] at h
      simp at h
    have hspot : spot x y ((((r.val : Int) - y) % 32).toNat, (((c.val : Int) - x) % 64).toNat) =
        (c, r) := by
      simp only [spot, Prod.mk.injEq, Fin.ext_iff, Fin.val_ofNat]
      omega
    exact ⟨_, mem_spriteBits.2 ⟨hr, hc, h⟩, hspot⟩
  · rintro ⟨⟨r', c'⟩, hb, h⟩
    obtain ⟨hr', hc', hbit⟩ := mem_spriteBits.1 hb
    simp only [spot, Prod.mk.injEq, Fin.ext_iff, Fin.val_ofNat] at h hr' hc'
    have hc : (((c.val : Int) - x) % 64).toNat = c' := by omega
    have hr : (((r.val : Int) - y) % 32).toNat = r' := by omega
    rw [hc, hr]
    exact hbit

/-- A sprite has a lit pixel iff its rows have a set bit. -/
theorem exists_pixel_sprite_iff {rows : List UInt8} (hrows : rows.length ≤ 32) {x y : Nat} :
    (∃ c r, (sprite rows x y).pixel c r = true) ↔
      ∃ b ∈ rows, ∃ k < 8, b.toNat.testBit k = true := by
  constructor
  · rintro ⟨c, r, h⟩
    obtain ⟨⟨row, column⟩, hb, -⟩ := List.mem_map.1 ((pixel_sprite_iff hrows (p := (c, r))).1 h)
    obtain ⟨hrow, hcolumn, hbit⟩ := mem_spriteBits.1 hb
    rw [spriteBit_of_lt hcolumn, List.getElem?_eq_getElem hrow] at hbit
    exact ⟨rows[row], List.getElem_mem hrow, 7 - column, by omega, hbit⟩
  · rintro ⟨b, hb, k, hk, hbit⟩
    obtain ⟨row, hrow, rfl⟩ := List.getElem_of_mem hb
    have hcolumn : 7 - k < 8 := by omega
    have hset : spriteBit rows (7 - k) row = true := by
      rw [spriteBit_of_lt hcolumn, List.getElem?_eq_getElem hrow, Nat.sub_sub_self (by omega)]
      exact hbit
    have hmem : (row, 7 - k) ∈ spriteBits rows := mem_spriteBits.2 ⟨hrow, hcolumn, hset⟩
    exact ⟨_, _, (pixel_sprite_iff hrows).2 (List.mem_map_of_mem hmem)⟩

theorem spots_nodup {rows : List UInt8} (hrows : rows.length ≤ 32) (x y : Nat) :
    ((spriteBits rows).map (spot x y)).Nodup := by
  refine (spriteBits_nodup rows).map_on fun b hb b' hb' h => ?_
  obtain ⟨hr, hc, -⟩ := mem_spriteBits.1 hb
  obtain ⟨hr', hc', -⟩ := mem_spriteBits.1 hb'
  exact spot_injOn ⟨by omega, hc⟩ ⟨by omega, hc'⟩ h

/-- **No bit of a sprite is lost or falls on the pixel of another**, wherever it is
    placed. -/
theorem card_lit_sprite {rows : List UInt8} (hrows : rows.length ≤ 32) (x y : Int) :
    (sprite rows x y).lit.card = (rows.map bitCount).sum := by
  -- the place counts modulo the size of the display, so it may be taken from the first cells
  obtain ⟨a, ha⟩ := Int.eq_ofNat_of_zero_le (Int.emod_nonneg x (by decide : (64 : Int) ≠ 0))
  obtain ⟨b, hb⟩ := Int.eq_ofNat_of_zero_le (Int.emod_nonneg y (by decide : (32 : Int) ≠ 0))
  have hlit : (sprite rows a b).lit = ((spriteBits rows).map (spot a b)).toFinset := by
    ext p
    rw [Display.mem_lit, pixel_sprite_iff hrows, List.mem_toFinset]
  rw [← sprite_mod, ha, hb, hlit, List.toFinset_card_of_nodup (spots_nodup hrows a b),
    List.length_map, spriteBits_length]

end Chip8
