/-
  Runs: the cycles that a machine completes one after another, each with a key
  snapshot of its own.

  * `Runs m₀ cs m`: the cycles `cs` lead from `m₀` to `m`;
  * `Runs.invariant`: what each cycle keeps, a run keeps;
  * `Runs.split`: a cycle of a run stands between a shorter run and a step;
  * `record` gives the cycles that a list of key snapshots leads to, up to the
    fault that ends them; `record_runs` and `record_fault` say that it is a run
    and that its last machine fails.
-/
import Chip8.Proofs.Reachable

namespace Chip8.Machine

/-! ## Runs -/

/-- The cycles completed from a first machine to a last one. -/
inductive Runs (m₀ : Machine) : List Cycle → Machine → Prop
  | start : Runs m₀ [] m₀
  | step {cs m t keys i} : Runs m₀ cs m → m.step keys = .ok (t, i) → Runs m₀ (cs ++ [⟨m, i, t⟩]) t

theorem Runs.reachable {m₀ m : Machine} {cs : List Cycle} (h : Runs m₀ cs m) : Reachable m₀ m := by
  induction h with
  | start => exact .start
  | step _ hs ih => exact ih.step hs

/-- What each cycle of a kind keeps, a run of such cycles keeps. -/
theorem Runs.invariant {P : Machine → Prop} {Q : Cycle → Prop} {m₀ m : Machine} {cs : List Cycle}
    (hkeep : ∀ {m t keys i}, m.step keys = .ok (t, i) → Q ⟨m, i, t⟩ → P m → P t)
    (h : Runs m₀ cs m) (h₀ : P m₀) (hs : ∀ c ∈ cs, Q c) : P m := by
  induction h with
  | start => exact h₀
  | step _ hstep ih =>
    obtain ⟨hbefore, hlast⟩ := List.forall_mem_append.1 hs
    exact hkeep hstep (hlast _ (List.mem_singleton_self _)) (ih hbefore)

theorem Runs.cons {m t u : Machine} {keys : Option BitGrid} {i : Instruction} {cs : List Cycle}
    (hs : m.step keys = .ok (t, i)) (h : Runs t cs u) : Runs m (⟨m, i, t⟩ :: cs) u := by
  induction h with
  | start => exact .step .start hs
  | step _ hs' ih => exact .step ih hs'

/-- A cycle of a list with one more is the last one or one of those before. -/
theorem snoc_eq_append_cons {cs before after : List Cycle} {last c : Cycle}
    (h : cs ++ [last] = before ++ c :: after) :
    (before = cs ∧ c = last ∧ after = []) ∨
      ∃ rest, cs = before ++ c :: rest ∧ after = rest ++ [last] := by
  rcases List.eq_nil_or_concat after with rfl | ⟨rest, d, rfl⟩
  · obtain ⟨hcs, hc⟩ := List.append_inj' h rfl
    exact .inl ⟨hcs.symm, (List.singleton_inj.1 hc).symm, rfl⟩
  · rw [List.concat_eq_append, ← List.cons_append, ← List.append_assoc] at h
    obtain ⟨hcs, hd⟩ := List.append_inj' h rfl
    exact .inr ⟨rest, hcs, by rw [List.concat_eq_append, hd]⟩

/-- A cycle of a run was completed where the cycles before it lead. -/
theorem Runs.split {m₀ m : Machine} {cs before after : List Cycle} {c : Cycle}
    (h : Runs m₀ cs m) (hcs : cs = before ++ c :: after) :
    Runs m₀ before c.before ∧ ∃ keys, c.before.step keys = .ok (c.after, c.word) := by
  induction h generalizing after with
  | start => exact absurd hcs (by simp)
  | @step cs m t keys i hr hs ih =>
    rcases snoc_eq_append_cons hcs with ⟨rfl, rfl, -⟩ | ⟨rest, hrest, -⟩
    · exact ⟨hr, keys, hs⟩
    · exact ih hrest

/-- A run reaches the machine behind each of its cycles. -/
theorem Runs.upTo {m₀ m : Machine} {cs before after : List Cycle} {c : Cycle}
    (h : Runs m₀ cs m) (hcs : cs = before ++ c :: after) : Runs m₀ (before ++ [c]) c.after := by
  obtain ⟨hb, keys, hs⟩ := h.split hcs
  exact hb.step hs

theorem Runs.pc_le {m₀ m : Machine} {cs before after : List Cycle} {c : Cycle}
    (h : Runs m₀ cs m) (hcs : cs = before ++ c :: after) : c.before.pc.toNat ≤ 4094 := by
  obtain ⟨-, keys, hs⟩ := h.split hcs
  obtain ⟨k, -, hf, -⟩ := step_eq_ok_iff.1 hs
  exact (fetch_eq_ok_iff.1 hf).1

/-! ## Recording a run -/

/-- The cycles completed with one key snapshot each, and the fault that ended them
    before the last snapshot. -/
def record (m : Machine) : List (Option BitGrid) → List Cycle × Option Fault
  | [] => ([], none)
  | keys :: rest =>
    match m.step keys with
    | .error f => ([], some f)
    | .ok next =>
      let r := record next.1 rest
      (⟨m, next.2, next.1⟩ :: r.1, r.2)

theorem record_cons_error {m : Machine} {keys : Option BitGrid} {rest : List (Option BitGrid)}
    {f : Fault} (h : m.step keys = .error f) : m.record (keys :: rest) = ([], some f) := by
  simp only [record, h]

theorem record_cons_ok {m t : Machine} {keys : Option BitGrid} {rest : List (Option BitGrid)}
    {i : Instruction} (h : m.step keys = .ok (t, i)) :
    m.record (keys :: rest) = (⟨m, i, t⟩ :: (t.record rest).1, (t.record rest).2) := by
  simp only [record, h]

theorem afterAll_cons (m : Machine) (c : Cycle) (cs : List Cycle) :
    m.afterAll (c :: cs) = c.after.afterAll cs := by
  cases cs with
  | nil => rfl
  | cons d ds => simp [afterAll, List.getLast?_cons]

theorem record_runs (m : Machine) (keys : List (Option BitGrid)) :
    Runs m (m.record keys).1 (m.afterAll (m.record keys).1) := by
  induction keys generalizing m with
  | nil => exact .start
  | cons k rest ih =>
    cases hs : m.step k with
    | error f =>
      rw [record_cons_error hs]
      exact .start
    | ok next =>
      rw [record_cons_ok hs, afterAll_cons]
      exact .cons hs (ih next.1)

/-- A record without a fault has a cycle for every snapshot. -/
theorem record_length {m : Machine} {keys : List (Option BitGrid)} {cs : List Cycle}
    (h : m.record keys = (cs, none)) : cs.length = keys.length := by
  induction keys generalizing m cs with
  | nil =>
    cases h
    rfl
  | cons k rest ih =>
    cases hs : m.step k with
    | error f =>
      rw [record_cons_error hs] at h
      cases h
    | ok next =>
      rw [record_cons_ok hs] at h
      obtain ⟨rfl, hn⟩ := Prod.mk.inj h
      simp only [List.length_cons, ih (Prod.ext rfl hn)]

/-- A record that ends in a fault ends where the next snapshot fails. -/
theorem record_fault {m : Machine} {keys : List (Option BitGrid)} {cs : List Cycle} {f : Fault}
    (h : m.record keys = (cs, some f)) :
    ∃ k, keys[cs.length]? = some k ∧ (m.afterAll cs).step k = .error f := by
  induction keys generalizing m cs with
  | nil => cases h
  | cons k rest ih =>
    cases hs : m.step k with
    | error g =>
      rw [record_cons_error hs] at h
      cases h
      exact ⟨k, rfl, hs⟩
    | ok next =>
      rw [record_cons_ok hs] at h
      obtain ⟨rfl, hf⟩ := Prod.mk.inj h
      rw [afterAll_cons]
      exact ih (Prod.ext rfl hf)

end Chip8.Machine
