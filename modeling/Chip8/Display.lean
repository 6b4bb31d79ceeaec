/-
  The display: 64 × 32 pixels, each lit or dark.

  A display is read through `pixel x y`; every operation says what it does to
  each pixel (`pixel_ofFn`, `pixel_blank`, `pixel_xor`), and displays with the
  same pixels are equal (`ext_pixel`).

  * `xor` toggles the pixels of one display that are lit in another;
  * `meets` says whether two displays have a lit pixel in common.
-/

namespace Chip8

/-- A picture of 32 rows with 64 pixels each. -/
structure Display where
  rows : Vector (Vector Bool 64) 32
deriving DecidableEq

namespace Display

/-- Whether the pixel in column `x` of row `y` is lit. -/
def pixel (d : Display) (x : Fin 64) (y : Fin 32) : Bool := d.rows[y][x]

/-- The display with given pixels. -/
def ofFn (f : Fin 64 → Fin 32 → Bool) : Display :=
  ⟨.ofFn fun y => .ofFn fun x => f x y⟩

/-- The dark display. -/
def blank : Display := ofFn fun _ _ => false

/-- The pixels lit in exactly one of two displays. -/
def xor (a b : Display) : Display := ofFn fun x y => a.pixel x y ^^ b.pixel x y

/-- Whether some pixel is lit in both displays. -/
def meets (a b : Display) : Bool :=
  (List.finRange 32).any fun y => (List.finRange 64).any fun x => a.pixel x y && b.pixel x y

/-! ## Pixels -/

@[simp] theorem pixel_ofFn (f : Fin 64 → Fin 32 → Bool) (x : Fin 64) (y : Fin 32) :
    (ofFn f).pixel x y = f x y := by
  simp [pixel, ofFn]

theorem ext_pixel {a b : Display} (h : ∀ x y, a.pixel x y = b.pixel x y) : a = b := by
  obtain ⟨a⟩ := a
  obtain ⟨b⟩ := b
  congr
  ext y hy x hx
  exact h ⟨x, hx⟩ ⟨y, hy⟩

@[simp] theorem pixel_blank (x : Fin 64) (y : Fin 32) : blank.pixel x y = false :=
  pixel_ofFn _ x y

@[simp] theorem pixel_xor (a b : Display) (x : Fin 64) (y : Fin 32) :
    (a.xor b).pixel x y = (a.pixel x y ^^ b.pixel x y) :=
  pixel_ofFn _ x y

theorem meets_iff {a b : Display} :
    a.meets b = true ↔ ∃ x y, a.pixel x y = true ∧ b.pixel x y = true := by
  simp only [meets, List.any_eq_true, List.mem_finRange, true_and, Bool.and_eq_true]
  exact ⟨fun ⟨y, x, h⟩ => ⟨x, y, h⟩, fun ⟨x, y, h⟩ => ⟨y, x, h⟩⟩

end Display

end Chip8
