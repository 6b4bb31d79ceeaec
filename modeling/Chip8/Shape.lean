/-
  Shapes of arrays: how they are written and how large they may be.

  A shape is the list of lengths along the dimensions, the outermost first.

  * `shapeText` writes a shape, `(64, 32)`; a single dimension keeps a comma,
    `(16,)`, and none are `()`;
  * `checkShape` refuses dimensions that no array has: too many of them, one that
    is negative or does not fit 64 bits, or more cells than can be counted or
    find room, where the room is that of the machine at hand;
  * `checkShape_of_room`: positive dimensions are a shape if there is room for the
    cells and they can be counted.
-/
import Chip8.Text.ByteSize

namespace Chip8

/-- Dimensions in parentheses, separated by commas. -/
def shapeText : List Nat → String
  | [d] => "(" ++ String.ofList (Text.digits d) ++ ",)"
  | ds => "(" ++ ", ".intercalate (ds.map fun d => String.ofList (Text.digits d)) ++ ")"

/-! ## Limits -/

/-- The greatest number of dimensions. -/
def maxDimensions : Nat := 64

/-- Lengths and numbers of cells stay below this bound, so that they fit 64 bits
    with a sign. -/
def sizeLimit : Nat := 9223372036854775808

/-- The causes for which an array is refused. -/
inductive ShapeFault where
  | dimensionCount (count : Nat)
  /-- a dimension that does not fit 64 bits -/
  | dimensionRange
  | negativeDimension
  /-- more cells than 64 bits can count -/
  | sizeRange
  /-- no room for the cells, which are of a named kind -/
  | noRoom (shape : List Nat) (kind : String)
deriving DecidableEq, Repr

/-- The number of cells of a shape. -/
def cellCount (shape : List Nat) : Nat := shape.foldl (· * ·) 1

/-- The text of a cause. -/
def ShapeFault.message : ShapeFault → String
  | dimensionCount count =>
    "maximum supported dimension for an ndarray is currently " ++ Text.int maxDimensions ++
      ", found " ++ Text.int count
  | dimensionRange => "Maximum allowed dimension exceeded"
  | negativeDimension => "negative dimensions are not allowed"
  | sizeRange =>
    "array is too big; `arr.size * arr.dtype.itemsize` is larger than the maximum possible size."
  | noRoom shape kind =>
    "Unable to allocate " ++ Text.byteSize (cellCount shape) ++ " for an array with shape " ++
      shapeText shape ++ " and data type " ++ kind

/-- Whether a length fits 64 bits with a sign. -/
def isLength (d : Int) : Bool := decide (-(sizeLimit : Int) ≤ d ∧ d < sizeLimit)

/-- Refuse dimensions, the first bad one deciding, given the product of those
    before; a dimension of length 0 does not count in the product. -/
def checkDimensions (cells : Nat) : List Int → Except ShapeFault Unit
  | [] => .ok ()
  | d :: ds =>
    if d < 0 then .error .negativeDimension
    else if d = 0 then checkDimensions cells ds
    else if sizeLimit ≤ cells * d.toNat then .error .sizeRange
    else checkDimensions (cells * d.toNat) ds

/-- The shape of given dimensions for cells of a byte each and of a named kind, where
    there is room for so many. -/
def checkShape (room : Nat) (dimensions : List Int) (kind : String) :
    Except ShapeFault (List Nat) :=
  if maxDimensions < dimensions.length then .error (.dimensionCount dimensions.length)
  else if dimensions.all isLength then
    match checkDimensions 1 dimensions with
    | .error f => .error f
    | .ok () =>
      let shape := dimensions.map Int.toNat
      if room < cellCount shape then .error (.noRoom shape kind) else .ok shape
  else .error .dimensionRange

/-! ## Room -/

theorem le_foldl_mul {ds : List Nat} {cells : Nat} (hpos : ∀ d ∈ ds, 0 < d) :
    cells ≤ ds.foldl (· * ·) cells := by
  induction ds generalizing cells with
  | nil => exact Nat.le_refl cells
  | cons d ds ih =>
    have hd := hpos d (List.mem_cons_self ..)
    exact Nat.le_trans (Nat.le_mul_of_pos_right cells hd)
      (ih fun e he => hpos e (List.mem_cons_of_mem _ he))

theorem le_cellCount_of_mem {shape : List Nat} {d : Nat} (hpos : ∀ d ∈ shape, 0 < d)
    (hd : d ∈ shape) : d ≤ cellCount shape := by
  obtain ⟨as, bs, rfl⟩ := List.append_of_mem hd
  have ha : 1 ≤ as.foldl (· * ·) 1 := le_foldl_mul fun e he => hpos e (by simp [he])
  have hb : as.foldl (· * ·) 1 * d ≤ bs.foldl (· * ·) (as.foldl (· * ·) 1 * d) :=
    le_foldl_mul fun e he => hpos e (by simp [he])
  rw [cellCount, List.foldl_append, List.foldl_cons]
  exact Nat.le_trans (Nat.le_mul_of_pos_left d ha) hb

theorem checkDimensions_of_lt {dimensions : List Int} {cells : Nat}
    (hpos : ∀ d ∈ dimensions, 0 < d)
    (h : (dimensions.map Int.toNat).foldl (· * ·) cells < sizeLimit) :
    checkDimensions cells dimensions = .ok () := by
  induction dimensions generalizing cells with
  | nil => rfl
  | cons d ds ih =>
    have hd := hpos d (List.mem_cons_self ..)
    have hds : ∀ e ∈ ds, 0 < e := fun e he => hpos e (List.mem_cons_of_mem _ he)
    have hcells : cells * d.toNat < sizeLimit := by
      refine Nat.lt_of_le_of_lt (le_foldl_mul ?_) h
      intro e he
      obtain ⟨v, hv, rfl⟩ := List.mem_map.1 he
      exact Int.lt_toNat.2 (hds v hv)
    rw [checkDimensions, if_neg (Int.not_lt.2 (Int.le_of_lt hd)), if_neg (Int.ne_of_gt hd),
      if_neg (Nat.not_le.2 hcells)]
    exact ih hds h

/-- Positive dimensions are a shape if there is room for the cells and they can be
    counted. -/
theorem checkShape_of_room {room : Nat} {dimensions : List Int} (kind : String)
    (hlength : dimensions.length ≤ maxDimensions) (hpos : ∀ d ∈ dimensions, 0 < d)
    (hroom : cellCount (dimensions.map Int.toNat) ≤ room)
    (hlimit : cellCount (dimensions.map Int.toNat) < sizeLimit) :
    checkShape room dimensions kind = .ok (dimensions.map Int.toNat) := by
  have hmap : ∀ e ∈ dimensions.map Int.toNat, 0 < e := by
    intro e he
    obtain ⟨d, hd, rfl⟩ := List.mem_map.1 he
    exact Int.lt_toNat.2 (hpos d hd)
  have hfits : dimensions.all isLength = true := by
    refine List.all_eq_true.2 fun d hd => decide_eq_true ?_
    have hd0 := hpos d hd
    have hle := le_cellCount_of_mem hmap (List.mem_map_of_mem hd)
    omega
  rw [checkShape, if_neg (Nat.not_lt.2 hlength), if_pos hfits, checkDimensions_of_lt hpos hlimit]
  exact if_neg (Nat.not_lt.2 hroom)

end Chip8
