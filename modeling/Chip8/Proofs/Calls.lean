/-
  Calls and returns along a run.

  A return belongs to the latest call that no return before it belongs to.
  `openCalls` are the calls of a run that none belongs to, the oldest first.

  * `Runs.live`: the return addresses in use are those at which the open calls
    were fetched;
  * `openCalls_split`: the calls that were open before an open call are those
    that were open when it was executed;
  * `calls_matched`: a return goes to the word behind its call and leaves the
    stack as it was before that call, whatever was executed in between; a call
    overflows the stack iff sixteen are open, and a return underflows it iff none
    is.
-/
import Chip8.Proofs.Runs
import Mathlib.Data.List.Induction

namespace Chip8

/-! ## Open calls -/

/-- The open calls behind a further cycle: a call opens itself, and a return closes
    the last one. -/
def Cycle.settle (calls : List Cycle) (c : Cycle) : List Cycle :=
  if c.word.family.val = 2 then calls ++ [c]
  else if c.word.raw.toNat = 0x00EE then calls.dropLast
  else calls

/-- The calls of some cycles that no return among them belongs to. -/
def openCalls (cs : List Cycle) : List Cycle := cs.foldl Cycle.settle []

theorem openCalls_append (cs : List Cycle) (c : Cycle) :
    openCalls (cs ++ [c]) = Cycle.settle (openCalls cs) c := by
  simp only [openCalls, List.foldl_append, List.foldl_cons, List.foldl_nil]

theorem Cycle.settle_call {calls : List Cycle} {c : Cycle} (h : c.word.opcode? = some .call) :
    Cycle.settle calls c = calls ++ [c] :=
  if_pos (Instruction.opcode?_eq_call_iff.1 h)

theorem Cycle.settle_ret {calls : List Cycle} {c : Cycle} (h : c.word.opcode? = some .ret) :
    Cycle.settle calls c = calls.dropLast := by
  have hw : c.word.raw.toNat = 0x00EE := Instruction.opcode?_eq_ret_iff.1 h
  have hf : c.word.family.val ≠ 2 := by
    rw [Instruction.family_val]
    omega
  unfold settle
  rw [if_neg hf, if_pos hw]

theorem Cycle.settle_other {calls : List Cycle} {c : Cycle} (hr : c.word.opcode? ≠ some .ret)
    (hc : c.word.opcode? ≠ some .call) : Cycle.settle calls c = calls := by
  have hw : c.word.raw.toNat ≠ 0x00EE := mt Instruction.opcode?_eq_ret_iff.2 hr
  have hf : c.word.family.val ≠ 2 := mt Instruction.opcode?_eq_call_iff.2 hc
  unfold settle
  rw [if_neg hf, if_neg hw]

/-- An open call was executed when the open calls before it were the open ones. -/
theorem openCalls_split {cs outer inner : List Cycle} {call : Cycle}
    (h : openCalls cs = outer ++ call :: inner) :
    call.word.family.val = 2 ∧
      ∃ before after, cs = before ++ call :: after ∧ openCalls before = outer := by
  induction cs using List.reverseRecOn generalizing inner with
  | nil => exact absurd h (by simp [openCalls])
  | append_singleton cs c ih =>
    -- an open call of the shorter list stays where it was executed
    have extend : ∀ {inner'}, openCalls cs = outer ++ call :: inner' →
        call.word.family.val = 2 ∧
          ∃ before after, cs ++ [c] = before ++ call :: after ∧ openCalls before = outer := by
      intro inner' h'
      obtain ⟨hf, before, after, rfl, ho⟩ := ih h'
      exact ⟨hf, before, after ++ [c], by simp, ho⟩
    rw [openCalls_append, Cycle.settle] at h
    split at h
    · next hf =>
      rcases Machine.snoc_eq_append_cons h with ⟨rfl, rfl, -⟩ | ⟨rest, hrest, -⟩
      · exact ⟨hf, cs, [], rfl, rfl⟩
      · exact extend hrest
    split at h
    · have hne : openCalls cs ≠ [] := by
        rintro hnil
        rw [hnil] at h
        exact absurd h (by simp)
      have hopen : openCalls cs = outer ++ call :: (inner ++ [(openCalls cs).getLast hne]) := by
        rw [← List.cons_append, ← List.append_assoc, ← h, List.dropLast_concat_getLast]
      exact extend hopen
    · exact extend h

namespace Machine

/-! ## The stack along a run -/

/-- The return addresses in use behind a cycle, and the open calls. -/
theorem settle_live {m t : Machine} {keys : Option BitGrid} {i : Instruction} {calls : List Cycle}
    (hs : m.step keys = .ok (t, i)) (hl : m.stack.live = calls.map fun c => c.before.pc) :
    t.stack.live = (Cycle.settle calls ⟨m, i, t⟩).map fun c => c.before.pc := by
  obtain ⟨k, -, hf, hg, -, rfl⟩ := step_eq_ok_iff.1 hs
  show ((m.polled k).nextStack i).live = _
  rcases stack_cases hg with ⟨ho, h⟩ | ⟨ho, h⟩ | ⟨hr, hc, h⟩
  · rw [Cycle.settle_ret (c := ⟨m, i, _⟩) ho, List.map_dropLast, ← hl, ← polled_stack m k,
      CallStack.live_pop h, List.dropLast_concat]
  · have hp := (fetch_eq_ok_iff.1 hf).1
    have hlow : UInt16.ofInt ((m.pc.toNat : Int) % 4096) = m.pc := by
      refine UInt16.toNat_inj.1 ?_
      have := CallStack.toNat_ofInt_mod m.pc.toNat
      omega
    rw [Cycle.settle_call (c := ⟨m, i, _⟩) ho, List.map_append, ← hl, CallStack.live_push h]
    simp only [polled_stack, polled_pc, hlow, List.map_cons, List.map_nil]
  · rw [Cycle.settle_other (c := ⟨m, i, _⟩) hr hc, h, polled_stack, hl]

/-- **The return addresses in use** are those at which the open calls were
    fetched. -/
theorem Runs.live {m₀ m : Machine} {cs : List Cycle} (h₀ : m₀.stack = .empty)
    (h : Runs m₀ cs m) : m.stack.live = (openCalls cs).map fun c => c.before.pc := by
  induction h with
  | start =>
    rw [h₀]
    rfl
  | step _ hs ih =>
    rw [openCalls_append]
    exact settle_live hs ih

/-- A return goes to the word behind its call and takes the stack back to it. -/
theorem Runs.ret {m₀ m : Machine} {cs before after : List Cycle} {c : Cycle} (h₀ : m₀.Bounded)
    (hstack : m₀.stack = .empty) (h : Runs m₀ cs m) (hcs : cs = before ++ c :: after)
    (hret : c.word.opcode? = some .ret) :
    ∃ outer call inner, before = outer ++ call :: inner ∧
      openCalls before = openCalls outer ++ [call] ∧ call.word.family.val = 2 ∧
      c.after.pc.toNat = call.before.pc.toNat + 2 ∧ c.after.stack = call.before.stack := by
  obtain ⟨hb, keys, hs⟩ := h.split hcs
  obtain ⟨k, -, -, hg, -, ht⟩ := step_eq_ok_iff.1 hs
  rcases stack_cases hg with ⟨-, hpop⟩ | ⟨hcall, -⟩ | ⟨hne, -⟩
  · have hlive := hb.live hstack
    have hafter : c.after.stack = ((c.before.polled k).nextStack c.word) := by rw [ht]; rfl
    have htop := CallStack.live_pop hpop
    rw [polled_stack, hlive, ← hafter] at htop
    obtain ⟨calls, last, hcalls, hmap, hlast⟩ := List.map_eq_append_iff.1 htop
    obtain ⟨call, rfl, hpc⟩ := List.map_eq_singleton_iff.1 hlast
    obtain ⟨hfam, outer, inner, rfl, rfl⟩ := openCalls_split hcalls
    refine ⟨outer, call, inner, rfl, hcalls, hfam, ?_, ?_⟩
    · have hle : call.before.pc.toNat ≤ 4094 := hb.pc_le rfl
      have hnext : (c.before.polled k).nextPc c.word = call.before.pc.toNat + 2 := by
        simp only [nextPc, hret, hpc]
        rfl
      rw [ht]
      simp only [hnext, UInt16.toNat_ofNat']
      omega
    · obtain ⟨houter, -⟩ := hb.split rfl
      have hclean := ((hb.reachable.bounded h₀).step hs).clean
      refine hclean.ext (houter.reachable.bounded h₀).clean ?_
      rw [← hmap, houter.live hstack]
  · rw [hret] at hcall
    cases hcall
  · exact absurd hret hne

/-- A call overflows the stack iff every slot is in use. -/
theorem step_overflow_iff {m : Machine} {keys : Option BitGrid} {i : Instruction}
    (hk : ∀ g ∈ keys, g.shape = [16]) (hf : m.fetch = .ok i) (hi : i.opcode? = some .call) :
    m.step keys = .error .stackOverflow ↔ m.stack.depth = 16 := by
  obtain ⟨k, hok⟩ := keysFrom_ok (m := m) hk
  have hguard : (m.polled k).guard i = (m.stack.push m.pc.toNat).map fun _ => () := by
    simp only [guard, hi]
    rfl
  simp only [step_eq_error_iff, hok, hf, hguard, map_eq_error, CallStack.push_eq_error_iff,
    reduceCtorEq, false_or, Except.ok.injEq, exists_eq_left', true_and, and_false, or_false]

/-- A return underflows the stack iff no slot is in use. -/
theorem step_underflow_iff {m : Machine} {keys : Option BitGrid} {i : Instruction}
    (hk : ∀ g ∈ keys, g.shape = [16]) (hf : m.fetch = .ok i) (hi : i.opcode? = some .ret) :
    m.step keys = .error .stackUnderflow ↔ m.stack.depth = 0 := by
  obtain ⟨k, hok⟩ := keysFrom_ok (m := m) hk
  have hguard : (m.polled k).guard i = m.stack.pop.map fun _ => () := by
    simp only [guard, hi]
    rfl
  simp only [step_eq_error_iff, hok, hf, hguard, map_eq_error, CallStack.pop_eq_error_iff,
    reduceCtorEq, false_or, Except.ok.injEq, exists_eq_left', true_and, and_false, or_false]

theorem start_stack {rng : Random.Source} {rom : List Int} {m : Machine}
    (h : (initial rng).load rom = .ok m) : m.stack = .empty := by
  rw [load_frame h]
  rfl

/-- **Calls and returns match** along every run of a loaded program. -/
theorem calls_matched {rng : Random.Source} {rom : List Int} {m₀ m : Machine} {cs : List Cycle}
    (hload : (initial rng).load rom = .ok m₀) (h : Runs m₀ cs m) :
    m.stack.live = (openCalls cs).map (fun c => c.before.pc) ∧
    (∀ before c after, cs = before ++ c :: after → c.word.raw = 0x00EE →
      ∃ outer call inner, before = outer ++ call :: inner ∧
        openCalls before = openCalls outer ++ [call] ∧ call.word.family.val = 2 ∧
        c.after.pc.toNat = call.before.pc.toNat + 2 ∧ c.after.stack = call.before.stack) ∧
    ∀ (keys : Option BitGrid) i, (∀ g ∈ keys, g.shape = [16]) → m.fetch = .ok i →
      (i.family.val = 2 → (m.step keys = .error .stackOverflow ↔ (openCalls cs).length = 16)) ∧
      (i.raw = 0x00EE → (m.step keys = .error .stackUnderflow ↔ openCalls cs = [])) := by
  have hstack := start_stack hload
  have hlive := h.live hstack
  have hdepth : m.stack.depth = (openCalls cs).length := by
    rw [← CallStack.live_length, hlive, List.length_map]
  refine ⟨hlive, ?_, ?_⟩
  · intro before c after hcs hc
    have hw : c.word.raw.toNat = 0x00EE := by rw [hc]; rfl
    exact h.ret (.start hload) hstack hcs (Instruction.opcode?_eq_ret_iff.2 hw)
  · intro keys i hk hf
    constructor
    · intro hi
      rw [step_overflow_iff hk hf (Instruction.opcode?_eq_call_iff.2 hi), hdepth]
    · intro hi
      have hw : i.raw.toNat = 0x00EE := by rw [hi]; rfl
      rw [step_underflow_iff hk hf (Instruction.opcode?_eq_ret_iff.2 hw), hdepth,
        List.length_eq_zero_iff]

/-- A call and its return: the program goes on behind the call with the stack
    empty again. -/
theorem call_returns : ∃ m₀ c d m,
    (initial (.ofSeed 0)).load [0x22, 0x04, 0x12, 0x02, 0x00, 0xEE] = .ok m₀ ∧ Runs m₀ [c, d] m ∧
      d.word.raw = 0x00EE ∧ d.after.pc.toNat = c.before.pc.toNat + 2 ∧
      d.after.stack = c.before.stack ∧
      m.stack.live = (openCalls [c, d]).map (fun c => c.before.pc) := by
  have hrun : (((initial (.ofSeed 0)).load [0x22, 0x04, 0x12, 0x02, 0x00, 0xEE]).map fun m₀ =>
      (m₀.record [none, none]).1.map fun c => c.word.raw).toOption = some [0x2204, 0x00EE] := by
    decide +kernel
  obtain ⟨m₀, hload, hwords⟩ := map_eq_ok.1 (toOption_eq_some.1 hrun)
  have hruns := record_runs m₀ [none, none]
  obtain ⟨c, ds, hcs, -, hd⟩ := List.map_eq_cons_iff.1 hwords
  obtain ⟨d, rfl, hret⟩ := List.map_eq_singleton_iff.1 hd
  rw [hcs] at hruns
  obtain ⟨hlive, hmatch, -⟩ := calls_matched hload hruns
  obtain ⟨outer, call, inner, hbefore, -, -, hpc, hstack⟩ := hmatch [c] d [] rfl hret
  obtain ⟨rfl, hcall⟩ | ⟨_, -, h⟩ := List.cons_eq_append_iff.1 hbefore
  · cases hcall
    exact ⟨m₀, c, d, _, hload, hruns, hret, hpc, hstack, hlive⟩
  · exact absurd h (by simp)

end Machine

end Chip8
