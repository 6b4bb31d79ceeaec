/-
  The call stack as a list of at most sixteen addresses.

  * an `Operation` pushes an address, pops one or looks at all of them; one that
    fails leaves the stack as it was (`perform`);
  * `performOnList` is the same on a list, the oldest address first;
  * `perform_addresses`: on a stack whose slots out of use are zero an operation
    answers as on the list of its addresses, and leaves the two alike;
  * `answers_addresses`: so do operations in a row;
  * `refines_bounded_list`: on the empty stack they answer as on the empty list, and
    the pointer and the slots behind them are determined by the list.
-/
import Chip8.Proofs.Stack
import Mathlib.Algebra.Group.Int.Defs

namespace Chip8.CallStack

/-! ## Operations -/

/-- An operation on a stack of addresses. -/
inductive Operation where
  | push (address : Int)
  | pop
  | peek

/-- What an operation gives back. -/
inductive Answer where
  | pushed
  | popped (address : Int)
  | peeked (addresses : List Int)
deriving DecidableEq

/-- The addresses in use as numbers, oldest first. -/
def addresses (s : CallStack) : List Int := s.live.map fun a => (a.toNat : Int)

/-- What an operation answers and the stack behind it; one that fails leaves the
    stack as it was. -/
def perform (s : CallStack) : Operation → Except Fault Answer × CallStack
  | .push a =>
    match s.push a with
    | .error f => (.error f, s)
    | .ok t => (.ok .pushed, t)
  | .pop =>
    match s.pop with
    | .error f => (.error f, s)
    | .ok (a, t) => (.ok (.popped a.toNat), t)
  | .peek => (.ok (.peeked s.addresses), s)

/-- What an operation answers on a list of at most sixteen addresses, the newest one
    last, and the list behind it. -/
def performOnList (l : List Int) : Operation → Except Fault Answer × List Int
  | .push a =>
    if l.length = 16 then (.error .stackOverflow, l) else (.ok .pushed, l ++ [a % 4096])
  | .pop =>
    match l.getLast? with
    | none => (.error .stackUnderflow, l)
    | some a => (.ok (.popped a), l.dropLast)
  | .peek => (.ok (.peeked l), l)

/-- The answers to operations in a row and the state behind the last of them. -/
def answers {σ : Type} (f : σ → Operation → Except Fault Answer × σ) :
    σ → List Operation → List (Except Fault Answer) × σ
  | s, [] => ([], s)
  | s, op :: ops =>
    let first := f s op
    let rest := answers f first.2 ops
    (first.1 :: rest.1, rest.2)

/-! ## Addresses in use -/

theorem addresses_length (s : CallStack) : s.addresses.length = s.depth := by
  rw [addresses, List.length_map, live_length]

theorem addresses_empty : empty.addresses = [] := by rw [addresses, live_empty, List.map_nil]

theorem addresses_push {s t : CallStack} {a : Int} (h : s.push a = .ok t) :
    t.addresses = s.addresses ++ [a % 4096] := by
  simp only [addresses, live_push h, List.map_append, List.map_singleton, toNat_ofInt_mod]

theorem addresses_pop {s t : CallStack} {a : UInt16} (h : s.pop = .ok (a, t)) :
    s.addresses = t.addresses ++ [(a.toNat : Int)] := by
  simp only [addresses, live_pop h, List.map_append, List.map_singleton]

/-! ## One operation -/

/-- An operation on a clean stack answers as on the list of its addresses, and leaves
    a clean stack with the addresses of that list. -/
theorem perform_addresses {s : CallStack} (hs : s.IsClean) (op : Operation) :
    (s.perform op).1 = (performOnList s.addresses op).1 ∧
      (s.perform op).2.addresses = (performOnList s.addresses op).2 ∧
      (s.perform op).2.IsClean := by
  cases op with
  | push a =>
    cases h : s.push a with
    | error f =>
      obtain ⟨rfl, hd⟩ := push_eq_error_iff.1 h
      simp only [perform, performOnList, h, addresses_length, hd, if_true, true_and]
      exact hs
    | ok t =>
      obtain ⟨hd, -⟩ := push_eq_ok_iff.1 h
      simp only [perform, performOnList, h, addresses_length, Nat.ne_of_lt hd, if_false,
        addresses_push h, true_and]
      exact hs.push h
  | pop =>
    cases h : s.pop with
    | error f =>
      obtain ⟨rfl, hd⟩ := pop_eq_error_iff.1 h
      have hnil : s.addresses = [] := List.eq_nil_of_length_eq_zero (by rw [addresses_length, hd])
      simp only [perform, performOnList, h, hnil, List.getLast?_nil, true_and]
      exact hs
    | ok top =>
      obtain ⟨a, t⟩ := top
      simp only [perform, performOnList, h, addresses_pop h, List.getLast?_concat,
        List.dropLast_concat, true_and]
      exact hs.pop h
  | peek => exact ⟨rfl, rfl, hs⟩

/-! ## Operations in a row -/

theorem answers_addresses {s : CallStack} (hs : s.IsClean) (ops : List Operation) :
    (answers perform s ops).1 = (answers performOnList s.addresses ops).1 ∧
      (answers perform s ops).2.addresses = (answers performOnList s.addresses ops).2 ∧
      (answers perform s ops).2.IsClean := by
  induction ops generalizing s with
  | nil => exact ⟨rfl, rfl, hs⟩
  | cons op ops ih =>
    obtain ⟨hfirst, hnext, hclean⟩ := perform_addresses hs op
    obtain ⟨hrest, hlast, hend⟩ := ih hclean
    simp only [answers, hfirst, ← hnext]
    exact ⟨congrArg _ hrest, hlast, hend⟩

/-- **The call stack refines a bounded list.**  Whatever operations came before, the
    empty stack answers as the empty list; its pointer is the last position of the
    list, every slot above it is zero, and a pop undoes a further push altogether. -/
theorem refines_bounded_list (ops : List Operation) :
    let stack := (answers perform empty ops).2
    let list := (answers performOnList [] ops).2
    (answers perform empty ops).1 = (answers performOnList [] ops).1 ∧
      stack.addresses = list ∧
      stack.pointer = (list.length : Int) - 1 ∧ stack.depth = list.length ∧
      (∀ (k : Nat) (h : k < 16), stack.pointer < k → stack.slots[k] = 0) ∧
      ∀ (a : Int) (t : CallStack), stack.push a = .ok t →
        ∃ v : UInt16, t.pop = .ok (v, stack) ∧ (v.toNat : Int) = a % 4096 := by
  intro stack list
  obtain ⟨hanswers, hlist, hclean⟩ := answers_addresses isClean_empty ops
  rw [addresses_empty] at hanswers hlist
  have hdepth : stack.depth = list.length := by rw [← addresses_length, hlist]
  refine ⟨hanswers, hlist, ?_, hdepth, ?_, ?_⟩
  · rw [pointer, hdepth]
  · intro k hk hlt
    have hle : stack.depth ≤ k := by
      unfold pointer at hlt
      omega
    exact hclean k hk hle
  · intro a t h
    exact ⟨_, pop_of_push hclean h, toNat_ofInt_mod a⟩

/-- Two addresses of more than 12 bits, one of them below zero: a pop too many finds
    the stack empty, and a push behind all that is undone by a pop. -/
theorem long_addresses_refine :
    (answers perform empty [.push (-1), .push (2 ^ 70 + 5), .peek, .pop, .pop, .pop]).1 =
      [.ok .pushed, .ok .pushed, .ok (.peeked [4095, 5]), .ok (.popped 5), .ok (.popped 4095),
        .error .stackUnderflow] ∧
    ∃ t v, (answers perform empty [.push (-1)]).2.push 0x1234 = .ok t ∧
      t.pop = .ok (v, (answers perform empty [.push (-1)]).2) ∧ (v.toNat : Int) = 0x234 := by
  obtain ⟨hanswers, -⟩ := refines_bounded_list
    [.push (-1), .push (2 ^ 70 + 5), .peek, .pop, .pop, .pop]
  obtain ⟨-, -, -, -, -, hpop⟩ := refines_bounded_list [.push (-1)]
  obtain ⟨t, ht⟩ : ∃ t, (answers perform empty [.push (-1)]).2.push 0x1234 = .ok t := ⟨_, rfl⟩
  obtain ⟨v, hv, hlow⟩ := hpop 0x1234 t ht
  exact ⟨hanswers.trans rfl, t, v, ht, hv, hlow⟩

end Chip8.CallStack
