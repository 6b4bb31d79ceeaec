/-
  Pictures in colour: a grid of bits with every bit as a square block.

  * a `Palette` has a colour for lit and one for dark pixels; `Palette.named` are the
    palettes that have a name;
  * `Frame.ofGrid` paints a grid of 64 columns at a scale; `pixel?_ofGrid` says which
    cell of the grid decides about a pixel;
  * `Frame.paint` refuses a scale that makes the frame too large for 64 bits or
    for the room there is; a scale that has room is not refused (`paint_of_hasRoom`);
  * `Frame.render` checks its input first: the shape of the picture, then the
    components of the colour for lit pixels, then those for dark ones, and the
    scale at last.
-/
import Chip8.Display
import Chip8.Frame
import Chip8.Text.Number

namespace Chip8

/-! ## Colours -/

/-- The colours of lit and of dark pixels. -/
structure Palette where
  lit : Colour
  dark : Colour
deriving DecidableEq, Repr

/-- The causes for which nothing is painted. -/
inductive RenderFault where
  /-- a picture of another shape than the display's -/
  | displayShape (shape : List Nat)
  /-- a colour component that is no byte -/
  | component (value : Int)
  /-- a palette name that is not known -/
  | unknownScheme (name : String)
  /-- a scale that does not fit 64 bits -/
  | scaleRange
  /-- a frame of a shape that no array has -/
  | frameShape (f : ShapeFault)
deriving DecidableEq, Repr

namespace Palette

/-- The palettes with a name. -/
def named : List (String × Palette) :=
  [("white", ⟨⟨255, 255, 255⟩, ⟨0, 0, 0⟩⟩),
   ("classic", ⟨⟨0, 255, 0⟩, ⟨0, 0, 0⟩⟩),
   ("amber", ⟨⟨255, 176, 0⟩, ⟨0, 0, 0⟩⟩),
   ("blue", ⟨⟨0, 255, 255⟩, ⟨0, 0, 64⟩⟩),
   ("retro", ⟨⟨255, 255, 0⟩, ⟨64, 0, 64⟩⟩)]

/-- The palette of a name. -/
def ofName (name : String) : Except RenderFault Palette :=
  match named.lookup name with
  | some p => .ok p
  | none => .error (.unknownScheme name)

end Palette

/-- The text about a number that does not fit 64 bits with a sign. -/
def longRangeText : String := "Python int too large to convert to C long"

/-- The text of a cause. -/
def RenderFault.message : RenderFault → String
  | displayShape shape => "Expected display shape (64, 32), got " ++ shapeText shape
  | component value =>
    if isLength value then "Python integer " ++ Text.int value ++ " out of bounds for uint8"
    else longRangeText
  | scaleRange => longRangeText
  | frameShape f => f.message
  | unknownScheme name =>
    "Unknown color scheme '" ++ name ++ "'. Available: [" ++
      ", ".intercalate (Palette.named.map fun p => "'" ++ p.1 ++ "'") ++ "]"

/-- A component given as a number. -/
def componentOfInt (v : Int) : Except RenderFault UInt8 :=
  if 0 ≤ v ∧ v ≤ 255 then .ok (UInt8.ofNat v.toNat) else .error (.component v)

/-- The colour of three components given as numbers; the first that is no byte
    is reported. -/
def Colour.ofInts (red green blue : Int) : Except RenderFault Colour := do
  return ⟨← componentOfInt red, ← componentOfInt green, ← componentOfInt blue⟩

/-! ## Painting -/

/-- The pixels of a display as a grid of 64 columns. -/
def Display.toGrid (d : Display) : BitGrid :=
  ⟨[64, 32], .ofFn fun k : Fin (64 * 32) =>
    d.pixel ⟨k.val / 32, by omega⟩ ⟨k.val % 32, by omega⟩⟩

theorem Display.cell_toGrid (d : Display) (x : Fin 64) (y : Fin 32) :
    d.toGrid.cell (32 * x.val + y.val) = d.pixel x y := by
  have hx : (32 * x.val + y.val) / 32 = x.val := by omega
  have hy : (32 * x.val + y.val) % 32 = y.val := by omega
  rw [toGrid, BitGrid.cell_ofFn (by omega)]
  simp only [hx, hy]

namespace Frame

/-- A grid of 64 columns as 32 rows of pixels: over a black frame the colour of lit
    cells is put where they are, and that of dark cells everywhere else. -/
def plain (g : BitGrid) (p : Palette) : Frame :=
  let pixels := g.transpose
  ((fill 32 64 ⟨0, 0, 0⟩).put pixels p.lit).put pixels.complement p.dark

/-- The grid with every cell as a block of one colour.  The pixels of a row are
    repeated before the rows are, so that the rows of a block are one and the same;
    the order makes no difference (`ofGrid_of_one_lt`). -/
def ofGrid (g : BitGrid) (scale : Int) (p : Palette) : Frame :=
  if 1 < scale then ((plain g p).repeatColumns scale.toNat).repeatRows scale.toNat
  else plain g p

/-- Refuse a shape of a frame. -/
def checkFrame (room : Nat) (dimensions : List Int) : Except RenderFault Unit :=
  match checkShape room dimensions "uint8" with
  | .ok _ => .ok ()
  | .error f => .error (.frameShape f)

/-- Refuse a scale at which no frame can be painted.  Rows are repeated first, the
    pixels of each row next, and their numbers are taken with 64 bits. -/
def checkScale (room : Nat) (scale : Int) : Except RenderFault Unit :=
  if scale ≤ 1 then .ok ()
  else if sizeLimit ≤ scale.toNat then .error .scaleRange
  else
    let height := Int.bmod (32 * scale) (2 * sizeLimit)
    let width := Int.bmod (64 * scale) (2 * sizeLimit)
    (checkFrame room [height, 64, 3]).bind fun _ => checkFrame room [height, width, 3]

/-- The grid painted at a scale, if there is room for the frame. -/
def paint (room : Nat) (g : BitGrid) (scale : Int) (p : Palette) : Except RenderFault Frame :=
  (checkScale room scale).map fun _ => ofGrid g scale p

/-- Refuse a picture of another shape than the display's. -/
def checkPicture (g : BitGrid) : Except RenderFault Unit :=
  if g.shape = [64, 32] then .ok () else .error (.displayShape g.shape)

/-- The frame of a picture, a scale and two colours given as numbers. -/
def render (room : Nat) (g : BitGrid) (scale : Int) (lit dark : Int × Int × Int) :
    Except RenderFault Frame := do
  checkPicture g
  let lit ← Colour.ofInts lit.1 lit.2.1 lit.2.2
  let dark ← Colour.ofInts dark.1 dark.2.1 dark.2.2
  paint room g scale ⟨lit, dark⟩

/-! ## Scales -/

/-- The side of the block of a pixel: a scale below 1 counts as 1. -/
def blockSide (scale : Int) : Nat := (max scale 1).toNat

/-- Whether there is room for the frames of a scale, and their cells can be counted. -/
def HasRoom (room : Nat) (scale : Int) : Prop :=
  cellCount [32 * blockSide scale, 64 * blockSide scale, 3] ≤ room ∧
    cellCount [32 * blockSide scale, 64 * blockSide scale, 3] < sizeLimit

instance (room : Nat) (scale : Int) : Decidable (HasRoom room scale) :=
  inferInstanceAs (Decidable (_ ∧ _))

theorem blockSide_pos (scale : Int) : 0 < blockSide scale := by
  unfold blockSide
  omega

theorem cellCount_frame (height width : Nat) :
    cellCount [height, width, 3] = height * width * 3 := by
  rw [cellCount, List.foldl_cons, List.foldl_cons, List.foldl_cons, List.foldl_nil, Nat.one_mul]

/-- A smaller scale needs no more room. -/
theorem HasRoom.of_le {room : Nat} {scale scale' : Int} (h : HasRoom room scale')
    (hle : scale ≤ scale') : HasRoom room scale := by
  have hside : blockSide scale ≤ blockSide scale' := by
    unfold blockSide
    omega
  have hcells : cellCount [32 * blockSide scale, 64 * blockSide scale, 3] ≤
      cellCount [32 * blockSide scale', 64 * blockSide scale', 3] := by
    rw [cellCount_frame, cellCount_frame]
    exact Nat.mul_le_mul_right 3 (Nat.mul_le_mul (Nat.mul_le_mul_left 32 hside)
      (Nat.mul_le_mul_left 64 hside))
  exact ⟨Nat.le_trans hcells h.1, Nat.lt_of_le_of_lt hcells h.2⟩

theorem checkFrame_of_room {room : Nat} {height width : Int} (hh : 0 < height) (hw : 0 < width)
    (hroom : cellCount [height.toNat, width.toNat, 3] ≤ room)
    (hlimit : cellCount [height.toNat, width.toNat, 3] < sizeLimit) :
    checkFrame room [height, width, 3] = .ok () := by
  have hlength : [height, width, 3].length ≤ maxDimensions := show 3 ≤ maxDimensions by decide
  have hpos : ∀ d ∈ [height, width, 3], 0 < d := by
    simp [hh, hw]
  rw [checkFrame, checkShape_of_room "uint8" hlength hpos hroom hlimit]

theorem checkScale_of_hasRoom {room : Nat} {scale : Int} (h : HasRoom room scale) :
    checkScale room scale = .ok () := by
  by_cases h1 : scale ≤ 1
  · exact if_pos h1
  obtain ⟨side, hside⟩ : ∃ side, side = blockSide scale := ⟨_, rfl⟩
  have hscale : scale = side := by
    unfold blockSide at hside
    omega
  have hpos : 0 < side := hside ▸ blockSide_pos scale
  obtain ⟨hroom, hlimit⟩ := h
  rw [← hside] at hroom hlimit
  -- neither side of the frame, nor the frame of the repeated rows, is larger than the frame
  have hlong : 64 * side < sizeLimit := by
    refine Nat.lt_of_le_of_lt (le_cellCount_of_mem ?_ (by simp)) hlimit
    simp only [List.forall_mem_cons]
    exact ⟨by omega, by omega, by omega, nofun⟩
  have hnarrow : cellCount [32 * side, 64, 3] ≤ cellCount [32 * side, 64 * side, 3] := by
    rw [cellCount_frame, cellCount_frame]
    exact Nat.mul_le_mul_right 3 (Nat.mul_le_mul_left _ (Nat.le_mul_of_pos_right 64 hpos))
  have hheight : Int.bmod (32 * scale) (2 * sizeLimit) = ((32 * side : Nat) : Int) := by
    rw [Int.bmod_eq_of_le (by omega) (by omega)]
    omega
  have hwidth : Int.bmod (64 * scale) (2 * sizeLimit) = ((64 * side : Nat) : Int) := by
    rw [Int.bmod_eq_of_le (by omega) (by omega)]
    omega
  have hrows : checkFrame room [((32 * side : Nat) : Int), 64, 3] = .ok () :=
    checkFrame_of_room (by omega) (by decide) (Nat.le_trans hnarrow hroom)
      (Nat.lt_of_le_of_lt hnarrow hlimit)
  have hcells : checkFrame room [((32 * side : Nat) : Int), ((64 * side : Nat) : Int), 3] =
      .ok () :=
    checkFrame_of_room (by omega) (by omega) hroom hlimit
  have hcount : ¬ sizeLimit ≤ scale.toNat := by omega
  rw [checkScale, if_neg h1, if_neg hcount]
  simp only [hheight, hwidth, hrows, hcells]
  rfl

theorem paint_of_hasRoom {room : Nat} {g : BitGrid} {scale : Int} {p : Palette}
    (h : HasRoom room scale) : paint room g scale p = .ok (ofGrid g scale p) := by
  rw [paint, checkScale_of_hasRoom h]
  rfl

/-! ## Pixels -/

variable {g : BitGrid} {scale : Int} {p : Palette} {r c : Nat}

theorem pixel?_plain (hg : g.shape = [64, 32]) : (plain g p).pixel? r c =
    if r < 32 ∧ c < 64 then some (if g.cell (32 * c + r) then p.lit else p.dark) else none := by
  rw [plain, pixel?_put, pixel?_put, pixel?_fill]
  by_cases h : r < 32 ∧ c < 64
  · have hcell : g.transpose.cell (64 * r + c) = g.cell (32 * c + r) :=
      BitGrid.cell_transpose hg h.1 h.2
    have hcount : 64 * r + c < cellCount g.transpose.shape := by
      rw [BitGrid.transpose_eq hg]
      show _ < 1 * 32 * 64
      omega
    have hother := BitGrid.cell_complement hcount
    rw [hcell] at hother
    simp only [if_pos h, Option.map_some, put, fill, hcell, hother]
    cases g.cell (32 * c + r) <;> rfl
  · simp only [if_neg h, Option.map_none]

theorem ofGrid_height : (ofGrid g scale p).height = 32 * blockSide scale := by
  unfold ofGrid blockSide
  split
  · next h =>
    show 32 * scale.toNat = _
    omega
  · next h =>
    show 32 = _
    omega

theorem ofGrid_width : (ofGrid g scale p).width = 64 * blockSide scale := by
  unfold ofGrid blockSide
  split
  · next h =>
    show 64 * scale.toNat = _
    omega
  · next h =>
    show 64 = _
    omega

/-- Above scale 1 the rows are repeated, and then the pixels of each. -/
theorem ofGrid_of_one_lt (h : 1 < scale) : ofGrid g scale p =
    ((plain g p).repeatRows scale.toNat).repeatColumns scale.toNat := by
  rw [ofGrid, if_pos h, repeatColumns_repeatRows]

/-- The pixels of a block are that of the plain frame. -/
theorem pixel?_blocks :
    (ofGrid g scale p).pixel? r c =
      (plain g p).pixel? (r / blockSide scale) (c / blockSide scale) := by
  rcases Int.lt_or_le 1 scale with h | h
  · have hside : blockSide scale = scale.toNat := by
      unfold blockSide
      omega
    have hpos : 0 < scale.toNat := by omega
    rw [ofGrid_of_one_lt h, hside, pixel?_repeatColumns hpos, pixel?_repeatRows hpos]
  · have hside : blockSide scale = 1 := by
      unfold blockSide
      omega
    rw [ofGrid, if_neg (Int.not_lt.2 h), hside, Nat.div_one, Nat.div_one]

/-- The cell that decides about a pixel lies in the column and the row of its block. -/
theorem pixel?_ofGrid (hg : g.shape = [64, 32]) : (ofGrid g scale p).pixel? r c =
    if r < 32 * blockSide scale ∧ c < 64 * blockSide scale then
      some (if g.cell (32 * (c / blockSide scale) + r / blockSide scale) then p.lit else p.dark)
    else none := by
  have hpos := blockSide_pos scale
  rw [pixel?_blocks, pixel?_plain hg]
  simp only [Nat.div_lt_iff_lt_mul hpos]

/-- The dark display is painted in one colour. -/
theorem ofGrid_blank : ofGrid Display.blank.toGrid scale p =
    fill (32 * blockSide scale) (64 * blockSide scale) p.dark := by
  have hdark : ∀ r < 32, ∀ c < 64, Display.blank.toGrid.transpose.cell (64 * r + c) = false := by
    intro r hr c hc
    exact (BitGrid.cell_transpose rfl hr hc).trans
      ((Display.cell_toGrid _ ⟨c, hc⟩ ⟨r, hr⟩).trans (Display.pixel_blank _ _))
  have hother : ∀ r < 32, ∀ c < 64,
      Display.blank.toGrid.transpose.complement.cell (64 * r + c) = true := by
    intro r hr c hc
    have hcount : 64 * r + c < cellCount Display.blank.toGrid.transpose.shape := by
      show _ < 1 * 32 * 64
      omega
    rw [BitGrid.cell_complement hcount, hdark r hr c hc]
    rfl
  have hplain : plain Display.blank.toGrid p = fill 32 64 p.dark := by
    rw [plain, put_fill hdark, put_fill hother]
    rfl
  unfold ofGrid blockSide
  rw [hplain]
  split
  · next h =>
    rw [repeatColumns_fill, repeatRows_fill]
    congr 1 <;> omega
  · next h => congr 1 <;> omega

end Frame

end Chip8
