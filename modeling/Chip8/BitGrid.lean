/-
  Grids of bits of any number of dimensions, as they arrive from outside: key
  snapshots and pictures whose shape has yet to be checked.

  * a `BitGrid` is a list of dimensions with its cells in row-major order;
  * `NestedBits` are lists of lists of bits, which need not form a grid:
    `NestedBits.grid?` is the grid they form, or tells why they form none.
-/
import Chip8.Shape

namespace Chip8

/-- A grid of bits: its dimensions, outermost first, and its cells in row-major
    order.  A cell that is not listed is off. -/
structure BitGrid where
  shape : List Nat
  cells : Array Bool
deriving DecidableEq, Repr

namespace BitGrid

/-- The grid of one dimension with these cells. -/
def ofVector {n : Nat} (v : Vector Bool n) : BitGrid := ⟨[n], v.toArray⟩

/-- The grid of given dimensions with every cell off, where there is room for it. -/
def blank? (room : Nat) (dimensions : List Int) : Except ShapeFault BitGrid :=
  (checkShape room dimensions "bool").map fun shape => ⟨shape, #[]⟩

/-- The cell at a row-major position. -/
def cell (g : BitGrid) (k : Nat) : Bool := g.cells[k]?.getD false

/-- A grid of two dimensions with these exchanged. -/
def transpose (g : BitGrid) : BitGrid :=
  match g.shape with
  | [a, b] => ⟨[b, a], .ofFn fun k : Fin (b * a) => g.cell (b * (k.val % a) + k.val / a)⟩
  | _ => g

/-- The grid with every cell the other way. -/
def complement (g : BitGrid) : BitGrid :=
  ⟨g.shape, .ofFn fun k : Fin (cellCount g.shape) => !g.cell k⟩

theorem cell_ofFn {shape : List Nat} {n k : Nat} {f : Fin n → Bool} (h : k < n) :
    (⟨shape, .ofFn f⟩ : BitGrid).cell k = f ⟨k, h⟩ := by
  simp [cell, h]

theorem transpose_eq {g : BitGrid} {a b : Nat} (h : g.shape = [a, b]) :
    g.transpose =
      ⟨[b, a], .ofFn fun k : Fin (b * a) => g.cell (b * (k.val % a) + k.val / a)⟩ := by
  rw [transpose, h]

/-- Columns and rows change places. -/
theorem cell_transpose {g : BitGrid} {a b r c : Nat} (h : g.shape = [a, b]) (hr : r < b)
    (hc : c < a) : g.transpose.cell (a * r + c) = g.cell (b * c + r) := by
  have hlt : a * r + c < b * a := by
    have hrow : a * r + a ≤ b * a := Nat.mul_comm b a ▸ Nat.mul_le_mul_left a hr
    omega
  rw [transpose_eq h, cell_ofFn hlt]
  simp only [Nat.mul_add_mod_self_left, Nat.mod_eq_of_lt hc, Nat.mul_add_div (Nat.zero_lt_of_lt hc),
    Nat.div_eq_of_lt hc, Nat.add_zero]

theorem cell_complement {g : BitGrid} {k : Nat} (h : k < cellCount g.shape) :
    g.complement.cell k = !g.cell k :=
  cell_ofFn h

end BitGrid

/-! ## Nested lists -/

/-- Bits in lists of lists, to any depth. -/
inductive NestedBits where
  | bit (b : Bool)
  | list (items : List NestedBits)
deriving Inhabited

/-- The causes for which nested lists form no grid. -/
inductive NestingFault where
  /-- members that agree on some dimensions only -/
  | uneven (shape : List Nat)
  /-- lists below the last dimension that a grid may have -/
  | tooDeep
deriving DecidableEq, Repr

/-- The text of a cause. -/
def NestingFault.message : NestingFault → String
  | uneven shape =>
    "setting an array element with a sequence. The requested array has an inhomogeneous shape " ++
      "after " ++ Text.int shape.length ++ " dimensions. The detected shape was " ++
      shapeText shape ++ " + inhomogeneous part."
  | tooDeep =>
    "setting an array element with a sequence. The requested array would exceed the maximum " ++
      "number of dimension of " ++ Text.int maxDimensions ++ "."

/-- The dimensions that are known, and whether these are all. -/
structure Extent where
  shape : List Nat
  isComplete : Bool
deriving DecidableEq, Repr

namespace Extent

/-- The longest common beginning of two lists of dimensions. -/
def commonStart : List Nat → List Nat → List Nat
  | a :: as, b :: bs => if a = b then a :: commonStart as bs else []
  | _, _ => []

/-- The dimensions of two neighbours, as far as both have the same. -/
def meet (a b : Extent) : Extent :=
  ⟨commonStart a.shape b.shape, a.isComplete && b.isComplete && a.shape == b.shape⟩

end Extent

namespace NestedBits

mutual

/-- The dimensions of nested lists, at most so many: the length of the outermost
    list and those on which its members agree. -/
def extent : NestedBits → Nat → Extent
  | bit _, _ => ⟨[], true⟩
  | list _, 0 => ⟨[], false⟩
  | list items, depth + 1 =>
    let inner := commonExtent items depth
    ⟨items.length :: inner.shape, inner.isComplete⟩

/-- The dimensions, at most so many, on which the members of a list agree. -/
def commonExtent : List NestedBits → Nat → Extent
  | [], _ => ⟨[], true⟩
  | [x], depth => extent x depth
  | x :: xs, depth => (extent x depth).meet (commonExtent xs depth)

end

mutual

/-- The bits in order. -/
def bits : NestedBits → List Bool
  | bit b => [b]
  | list items => itemBits items

/-- The bits of the members of a list in order. -/
def itemBits : List NestedBits → List Bool
  | [] => []
  | x :: xs => bits x ++ itemBits xs

end

/-- The grid that nested lists form. -/
def grid? (n : NestedBits) : Except NestingFault BitGrid :=
  let e := n.extent maxDimensions
  if e.isComplete then .ok ⟨e.shape, n.bits.toArray⟩
  else if e.shape.length = maxDimensions then .error .tooDeep
  else .error (.uneven e.shape)

end NestedBits

end Chip8
