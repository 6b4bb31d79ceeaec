/-
  Frames: pictures in colour, row by row, and how they are painted.

  A frame is read through `pixel?`, and every operation says what it does to each
  pixel: `fill` paints a frame in one colour, `put` a colour where a mask has a bit,
  and `repeatRows` and `repeatColumns` show every row and every pixel of a row
  several times.  `repeatColumns_repeatRows`: the two may change places.
-/
import Chip8.BitGrid

namespace Chip8

/-- A colour of red, green and blue. -/
structure Colour where
  red : UInt8
  green : UInt8
  blue : UInt8
deriving DecidableEq, Repr

/-- A picture in colour, row by row. -/
structure Frame where
  height : Nat
  width : Nat
  rows : Array (Array Colour)
deriving DecidableEq

namespace Frame

/-- The colour in a row and a column, if they lie in the frame. -/
def pixel? (f : Frame) (row column : Nat) : Option Colour := do
  (← f.rows[row]?)[column]?

/-- The frame of one colour. -/
def fill (height width : Nat) (c : Colour) : Frame :=
  ⟨height, width, .replicate height (.replicate width c)⟩

/-- The frame with a colour wherever a mask of its shape has a bit. -/
def put (f : Frame) (mask : BitGrid) (c : Colour) : Frame :=
  { f with rows := f.rows.mapIdx fun row colours => colours.mapIdx fun column old =>
      if mask.cell (f.width * row + column) then c else old }

/-- The frame with every row several times. -/
def repeatRows (f : Frame) (times : Nat) : Frame :=
  ⟨f.height * times, f.width, f.rows.flatMap fun colours => .replicate times colours⟩

/-- The frame with every pixel of a row several times. -/
def repeatColumns (f : Frame) (times : Nat) : Frame :=
  ⟨f.height, f.width * times, f.rows.map fun colours =>
    colours.flatMap fun c => .replicate times c⟩

/-! ## Pixels -/

theorem getElem?_flatMap_replicate {α : Type} (xs : Array α) {times : Nat} (h : 0 < times)
    (k : Nat) : (xs.flatMap fun x => .replicate times x)[k]? = xs[k / times]? := by
  obtain ⟨xs⟩ := xs
  simp only [List.flatMap_toArray, Array.toList_replicate, List.getElem?_toArray]
  induction xs generalizing k with
  | nil => simp
  | cons x xs ih =>
    rw [List.flatMap_cons]
    rcases Nat.lt_or_ge k times with hk | hk
    · rw [List.getElem?_append_left (by simpa using hk), Nat.div_eq_of_lt hk]
      simp [hk]
    · rw [List.getElem?_append_right (by simpa using hk), List.length_replicate, ih,
        Nat.div_eq_sub_div h hk]
      simp

theorem pixel?_fill {height width r c : Nat} {colour : Colour} :
    (fill height width colour).pixel? r c =
      if r < height ∧ c < width then some colour else none := by
  by_cases hr : r < height <;> by_cases hc : c < width <;> simp [pixel?, fill, hr, hc]

theorem pixel?_put {f : Frame} {mask : BitGrid} {colour : Colour} {r c : Nat} :
    (f.put mask colour).pixel? r c =
      (f.pixel? r c).map fun old => if mask.cell (f.width * r + c) then colour else old := by
  simp only [pixel?, put, Array.getElem?_mapIdx]
  cases f.rows[r]? with
  | none => rfl
  | some row => simp

theorem pixel?_repeatRows {f : Frame} {times r c : Nat} (h : 0 < times) :
    (f.repeatRows times).pixel? r c = f.pixel? (r / times) c := by
  simp only [pixel?, repeatRows, getElem?_flatMap_replicate _ h]

theorem pixel?_repeatColumns {f : Frame} {times r c : Nat} (h : 0 < times) :
    (f.repeatColumns times).pixel? r c = f.pixel? r (c / times) := by
  simp only [pixel?, repeatColumns, Array.getElem?_map]
  cases f.rows[r]? with
  | none => rfl
  | some row => exact getElem?_flatMap_replicate row h c

/-! ## Frames of one colour -/

/-- A mask that is the same everywhere leaves a frame of one colour. -/
theorem put_fill {height width : Nat} {mask : BitGrid} {old new : Colour} {isSet : Bool}
    (h : ∀ r < height, ∀ c < width, mask.cell (width * r + c) = isSet) :
    (fill height width old).put mask new = fill height width (if isSet then new else old) := by
  refine congrArg (Frame.mk height width) (Array.ext (by simp [fill]) fun r hr _ => ?_)
  have hr' : r < height := by simpa [fill] using hr
  refine Array.ext (by simp [fill]) fun c hc _ => ?_
  have hc' : c < width := by simpa [fill] using hc
  simp [fill, h r hr' c hc']

theorem repeatRows_fill (height width times : Nat) (c : Colour) :
    (fill height width c).repeatRows times = fill (height * times) width c := by
  rw [fill, repeatRows, Array.flatMap_replicate, Array.flatten_replicate_replicate, fill]

theorem repeatColumns_fill (height width times : Nat) (c : Colour) :
    (fill height width c).repeatColumns times = fill height (width * times) c := by
  simp only [fill, repeatColumns, Array.map_replicate, Array.flatMap_replicate,
    Array.flatten_replicate_replicate]

/-! ## Repetition -/

/-- Rows and columns may be repeated in either order. -/
theorem repeatColumns_repeatRows (f : Frame) (m n : Nat) :
    (f.repeatRows m).repeatColumns n = (f.repeatColumns n).repeatRows m := by
  simp [repeatRows, repeatColumns, Array.map_flatMap, Array.flatMap_map]

end Frame

end Chip8
