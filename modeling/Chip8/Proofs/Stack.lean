/-
  The slots of the call stack.

  * `IsClean`: the slots out of use are zero, which holds of the empty stack and is
    kept by `push` and `pop`;
  * `IsClean.ext`: on such stacks the addresses in use say it all;
  * `pop_of_push`: there a pop undoes a push altogether;
  * `top` is the address that a pop gives.
-/
import Chip8.CallStack

namespace Chip8.CallStack

/-- The return address on top, zero if there is none. -/
def top (s : CallStack) : UInt16 := s.live.getLast?.getD 0

theorem top_of_pop {s t : CallStack} {a : UInt16} (h : s.pop = .ok (a, t)) : s.top = a := by
  simp [top, live_pop h]

/-- What holds of zero and of every address in use holds of the one on top. -/
theorem top_of_live {s : CallStack} {P : UInt16 → Prop} (h0 : P 0) (h : ∀ a ∈ s.live, P a) :
    P s.top := by
  unfold top
  cases hl : s.live.getLast? with
  | none => exact h0
  | some a => exact h a (List.mem_of_getLast? hl)

/-- The low 12 bits of an address are its remainder, also below zero. -/
theorem toNat_ofInt_mod (a : Int) : ((UInt16.ofInt (a % 4096)).toNat : Int) = a % 4096 := by
  simp only [UInt16.ofInt, UInt16.toNat_ofNat']
  omega

theorem push_eq_ok_iff {s t : CallStack} {a : Int} :
    s.push a = .ok t ↔ ∃ h : s.depth < 16,
      t = ⟨s.slots.set s.depth (UInt16.ofInt (a % 4096)), s.depth + 1, h⟩ := by
  unfold push
  rw [bitsAnd_addressMask]
  split
  · next h => simp only [Except.ok.injEq, eq_comm (a := t), h, exists_true_left]
  · next h =>
    constructor
    · intro hok
      cases hok
    · rintro ⟨hd, -⟩
      exact absurd hd h

theorem pop_eq_ok_iff {s t : CallStack} {a : UInt16} :
    s.pop = .ok (a, t) ↔ ∃ (_ : 0 < s.depth) (h : s.depth - 1 < 16),
      a = s.slots[s.depth - 1] ∧
        t = ⟨s.slots.set (s.depth - 1) 0, s.depth - 1, Nat.le_of_lt h⟩ := by
  have hle := s.depth_le
  unfold pop
  split
  · next h =>
    have hd : s.depth - 1 < 16 := by omega
    simp only [Except.ok.injEq, Prod.mk.injEq, eq_comm (a := a), eq_comm (a := t), h, hd,
      exists_true_left]
  · next h =>
    constructor
    · intro hok
      cases hok
    · rintro ⟨hd, -⟩
      exact absurd hd h

theorem map_pop_unit (s : CallStack) :
    (s.pop.map fun _ => ()) = if 0 < s.depth then .ok () else .error .stackUnderflow := by
  unfold pop
  split <;> rfl

theorem map_push_unit (s : CallStack) (a : Int) :
    ((s.push a).map fun _ => ()) = if s.depth < 16 then .ok () else .error .stackOverflow := by
  unfold push
  split <;> rfl

theorem mem_live {s : CallStack} {a : UInt16} :
    a ∈ s.live ↔ ∃ k, ∃ h : k < 16, k < s.depth ∧ s.slots[k] = a := by
  have hle := s.depth_le
  simp only [live, List.mem_take_iff_getElem, Vector.length_toList, Vector.getElem_toList]
  constructor
  · rintro ⟨k, hk, rfl⟩
    exact ⟨k, by omega, by omega, rfl⟩
  · rintro ⟨k, h, hk, rfl⟩
    exact ⟨k, by omega, rfl⟩

/-! ## Slots out of use -/

/-- Every slot out of use is zero. -/
def IsClean (s : CallStack) : Prop := ∀ k (h : k < 16), s.depth ≤ k → s.slots[k] = 0

theorem isClean_empty : empty.IsClean := by
  intro k h _
  simp [empty]

theorem IsClean.push {s t : CallStack} {a : Int} (hs : s.IsClean) (h : s.push a = .ok t) :
    t.IsClean := by
  obtain ⟨hd, rfl⟩ := push_eq_ok_iff.1 h
  intro k hk hle
  have hne : s.depth < k := hle
  simp only [Vector.getElem_set_ne _ _ (Nat.ne_of_lt hne)]
  exact hs k hk (Nat.le_of_lt hne)

theorem IsClean.pop {s t : CallStack} {a : UInt16} (hs : s.IsClean) (h : s.pop = .ok (a, t)) :
    t.IsClean := by
  obtain ⟨hpos, hd, rfl, rfl⟩ := pop_eq_ok_iff.1 h
  intro k hk hle
  have hle : s.depth - 1 ≤ k := hle
  by_cases hkd : s.depth - 1 = k
  · subst hkd
    exact Vector.getElem_set_self _
  · simp only [Vector.getElem_set_ne _ _ hkd]
    exact hs k hk (by omega)

theorem live_getElem? {s : CallStack} {k : Nat} (h : k < 16) (hd : k < s.depth) :
    s.live[k]? = some s.slots[k] := by
  simp [live, hd, h]

/-- Clean stacks with the same addresses in use are the same in every slot. -/
theorem IsClean.ext {s t : CallStack} (hs : s.IsClean) (ht : t.IsClean) (h : s.live = t.live) :
    s = t := by
  have hd : s.depth = t.depth := by rw [← live_length, ← live_length, h]
  refine CallStack.ext (Vector.ext fun k hk => ?_) hd
  rcases Nat.lt_or_ge k s.depth with hlt | hge
  · have hk' := live_getElem? hk hlt
    rw [h, live_getElem? hk (hd ▸ hlt)] at hk'
    exact (Option.some.inj hk').symm
  · rw [hs k hk hge, ht k hk (hd ▸ hge)]

/-- A pop undoes a push: the address comes back and every slot is as before. -/
theorem pop_of_push {s t : CallStack} {a : Int} (hs : s.IsClean) (h : s.push a = .ok t) :
    t.pop = .ok (UInt16.ofInt (a % 4096), s) := by
  obtain ⟨hd, rfl⟩ := push_eq_ok_iff.1 h
  refine pop_eq_ok_iff.2 ⟨Nat.succ_pos _, hd, ?_, ?_⟩
  · simp only [Nat.add_sub_cancel, Vector.getElem_set_self]
  · refine CallStack.ext (Vector.ext fun k hk => ?_) rfl
    simp only [Nat.add_sub_cancel, Vector.getElem_set]
    split
    · next hk' => rw [hs k hk (Nat.le_of_eq hk')]
    · rfl

end Chip8.CallStack
