/-
  The call stack: sixteen slots for return addresses.

  `depth` slots are in use; the last of them is the top.  A slot keeps 12 bits
  of an address, and a slot that is popped becomes zero.

  * `push`, `pop` and `live` are the operations; the first two fail on a full
    and on an empty stack;
  * `live_push` and `live_pop`: read through `live`, the list of the addresses
    in use, oldest first, a push appends and a pop removes the last element.
-/
import Chip8.Bits
import Chip8.Fault

namespace Chip8

/-- The bits of an address. -/
def addressMask : Nat := 0xFFF

theorem and_addressMask (a : Nat) : a &&& addressMask = a % 4096 :=
  Nat.and_two_pow_sub_one_eq_mod a 12

/-- Sixteen slots, of which the first `depth` are in use. -/
@[ext]
structure CallStack where
  slots : Vector UInt16 16
  depth : Nat
  depth_le : depth ≤ 16
deriving DecidableEq

namespace CallStack

/-- The stack without a return address. -/
def empty : CallStack := ⟨.replicate 16 0, 0, by decide⟩

/-- The position of the top slot, -1 if there is none. -/
def pointer (s : CallStack) : Int := (s.depth : Int) - 1

/-- The return addresses in use, oldest first. -/
def live (s : CallStack) : List UInt16 := s.slots.toList.take s.depth

/-- Put the low 12 bits of an address on top. -/
def push (s : CallStack) (address : Int) : Except Fault CallStack :=
  if h : s.depth < 16 then
    .ok ⟨s.slots.set s.depth (UInt16.ofInt (Bits.and address addressMask)), s.depth + 1, h⟩
  else .error .stackOverflow

/-- Take the address on top, leaving zero in its slot. -/
def pop (s : CallStack) : Except Fault (UInt16 × CallStack) :=
  if h : 0 < s.depth then
    have hd : s.depth - 1 < 16 := Nat.lt_of_lt_of_le (Nat.sub_lt h (by decide)) s.depth_le
    .ok (s.slots[s.depth - 1],
      ⟨s.slots.set (s.depth - 1) 0, s.depth - 1, Nat.le_of_lt hd⟩)
  else .error .stackUnderflow

/-- The stack of the first sixteen of some addresses, oldest first. -/
def ofList (addresses : List UInt16) : CallStack :=
  ⟨.ofFn fun k => addresses[k.val]?.getD 0, min addresses.length 16, Nat.min_le_right ..⟩

/-! ## The operations on the addresses in use -/

theorem live_length (s : CallStack) : s.live.length = s.depth := by
  simp [live, Nat.min_eq_left s.depth_le]

theorem live_empty : empty.live = [] := rfl

theorem push_eq_error_iff {s : CallStack} {a : Int} {f : Fault} :
    s.push a = .error f ↔ f = .stackOverflow ∧ s.depth = 16 := by
  have := s.depth_le
  unfold push
  split
  · simp only [reduceCtorEq, false_iff]; omega
  · simp only [Except.error.injEq, eq_comm (a := f), iff_self_and]; omega

theorem pop_eq_error_iff {s : CallStack} {f : Fault} :
    s.pop = .error f ↔ f = .stackUnderflow ∧ s.depth = 0 := by
  unfold pop
  split
  · simp only [reduceCtorEq, false_iff]; omega
  · simp only [Except.error.injEq, eq_comm (a := f), iff_self_and]; omega

theorem bitsAnd_addressMask (a : Int) : Bits.and a addressMask = a % 4096 := Bits.and_ones a 12

theorem live_push {s t : CallStack} {a : Int} (h : s.push a = .ok t) :
    t.live = s.live ++ [UInt16.ofInt (a % 4096)] := by
  unfold push at h
  split at h
  · next hd =>
    cases h
    simp only [live, Vector.toList_set, bitsAnd_addressMask]
    rw [List.take_succ_eq_append_getElem (by simpa using hd), List.take_set_of_le (Nat.le_refl _)]
    simp
  · cases h

theorem live_pop {s t : CallStack} {a : UInt16} (h : s.pop = .ok (a, t)) :
    s.live = t.live ++ [a] := by
  unfold pop at h
  split at h
  · next hd =>
    cases h
    have hl := s.depth_le
    simp only [live, Vector.toList_set]
    rw [List.take_set_of_le (Nat.le_refl _)]
    conv => lhs; rw [show s.depth = s.depth - 1 + 1 by omega]
    rw [List.take_succ_eq_append_getElem (by simp; omega)]
    simp
  · cases h

end CallStack

end Chip8
