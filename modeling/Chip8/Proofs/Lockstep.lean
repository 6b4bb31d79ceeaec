/-
  Two machines side by side.

  * `Lockstep`: a relation between two machines makes their next cycles fail alike,
    or execute one word and end in machines so related;
  * `record_lockstep`: two records of machines so related have the same words and
    the same fault, and every two machines that they pass through side by side are
    related.

  * `LockstepIf.recordsAlike`: it is enough that they do so as long as a condition holds
    of the cycles that the first machine completes.

  The relation may depend on the cycles that the first machine has completed and on
  the key snapshots that are left to both.
-/
import Chip8.Proofs.Runs

namespace Chip8.Machine

variable {S : List Cycle → List (Option BitGrid) → List (Option BitGrid) → Machine → Machine → Prop}

/-- The cycles of related machines fail alike, or execute one word and relate the
    machines behind them. -/
def Lockstep
    (S : List Cycle → List (Option BitGrid) → List (Option BitGrid) → Machine → Machine → Prop) :
    Prop :=
  ∀ done k ks k' ks' m n, S done (k :: ks) (k' :: ks') m n →
    (∃ f, m.step k = .error f ∧ n.step k' = .error f) ∨
    ∃ t u i, m.step k = .ok (t, i) ∧ n.step k' = .ok (u, i) ∧ S (done ++ [⟨m, i, t⟩]) ks ks' t u

theorem Lockstep.record_from (hS : Lockstep S) {ks ks' : List (Option BitGrid)}
    (hlength : ks.length = ks'.length) {done : List Cycle} {m n : Machine} (h : S done ks ks' m n) :
    ∃ cs ds fault, m.record ks = (cs, fault) ∧ n.record ks' = (ds, fault) ∧
      ds.map Cycle.word = cs.map Cycle.word ∧
      ∀ j ≤ cs.length, S (done ++ cs.take j) (ks.drop j) (ks'.drop j)
        (m.afterAll (cs.take j)) (n.afterAll (ds.take j)) := by
  -- the completed cycles are carried along, since the relation may look back at them
  induction ks generalizing ks' done m n with
  | nil =>
    cases List.length_eq_zero_iff.1 hlength.symm
    refine ⟨[], [], none, rfl, rfl, rfl, ?_⟩
    intro j hj
    cases Nat.le_zero.1 hj
    exact (List.append_nil done).symm ▸ h
  | cons k ks ih =>
    obtain ⟨k', ks', rfl⟩ := List.exists_cons_of_length_eq_add_one hlength.symm
    have hstart : S (done ++ []) (k :: ks) (k' :: ks') m n := (List.append_nil done).symm ▸ h
    rcases hS _ _ _ _ _ _ _ h with ⟨f, hm, hn⟩ | ⟨t, u, i, hm, hn, hnext⟩
    · refine ⟨[], [], some f, record_cons_error hm, record_cons_error hn, rfl, ?_⟩
      intro j hj
      cases Nat.le_zero.1 hj
      exact hstart
    · obtain ⟨cs, ds, fault, hcs, hds, hwords, hrel⟩ := ih (Nat.succ.inj hlength) hnext
      refine ⟨⟨m, i, t⟩ :: cs, ⟨n, i, u⟩ :: ds, fault, ?_, ?_, ?_, ?_⟩
      · rw [record_cons_ok hm, hcs]
      · rw [record_cons_ok hn, hds]
      · rw [List.map_cons, List.map_cons, hwords]
      · intro j hj
        cases j with
        | zero => exact hstart
        | succ j =>
          have hrest := hrel j (Nat.le_of_succ_le_succ hj)
          rw [List.append_assoc] at hrest
          simp only [List.take_succ_cons, List.drop_succ_cons, afterAll_cons]
          exact hrest

/-- **Machines in lockstep** have records alike. -/
theorem record_lockstep (hS : Lockstep S) {ks ks' : List (Option BitGrid)}
    (hlength : ks.length = ks'.length) {m n : Machine} (h : S [] ks ks' m n) :
    ∃ cs ds fault, m.record ks = (cs, fault) ∧ n.record ks' = (ds, fault) ∧
      ds.map Cycle.word = cs.map Cycle.word ∧
      ∀ j ≤ cs.length, S (cs.take j) (ks.drop j) (ks'.drop j)
        (m.afterAll (cs.take j)) (n.afterAll (ds.take j)) :=
  hS.record_from hlength h

/-! ## Lockstep under a condition -/

variable {P : List Cycle → Option BitGrid → Option BitGrid → Cycle → Prop}

/-- The cycles of related machines fail alike, or execute one word and relate the
    machines behind them, if the condition holds of the cycle that the first machine
    completes, should it complete one. -/
def LockstepIf (P : List Cycle → Option BitGrid → Option BitGrid → Cycle → Prop)
    (S : List Cycle → List (Option BitGrid) → List (Option BitGrid) → Machine → Machine → Prop) :
    Prop :=
  ∀ done k ks k' ks' m n, S done (k :: ks) (k' :: ks') m n →
    (∀ t i, m.step k = .ok (t, i) → P done k k' ⟨m, i, t⟩) →
    (∃ f, m.step k = .error f ∧ n.step k' = .error f) ∨
    ∃ t u i, m.step k = .ok (t, i) ∧ n.step k' = .ok (u, i) ∧ S (done ++ [⟨m, i, t⟩]) ks ks' t u

/-- The condition holds of every cycle of the record of a machine, each with the
    cycles before it and the two snapshots at its place. -/
def Throughout (P : List Cycle → Option BitGrid → Option BitGrid → Cycle → Prop)
    (ks ks' : List (Option BitGrid)) (m : Machine) : Prop :=
  ∀ before c after k k', (m.record ks).1 = before ++ c :: after →
    ks[before.length]? = some k → ks'[before.length]? = some k' → P before k k' c

/-- The records of two machines have the same words and the same fault, and what the
    machines pass through side by side is related. -/
def RecordsAlike (R : Machine → Machine → Prop) (ks ks' : List (Option BitGrid))
    (m n : Machine) : Prop :=
  ∃ cs ds fault, m.record ks = (cs, fault) ∧ n.record ks' = (ds, fault) ∧
    ds.map Cycle.word = cs.map Cycle.word ∧
    ∀ j ≤ cs.length, R (m.afterAll (cs.take j)) (n.afterAll (ds.take j))

theorem Throughout.head {k k' : Option BitGrid} {ks ks' : List (Option BitGrid)} {m t : Machine}
    {i : Instruction} (h : Throughout P (k :: ks) (k' :: ks') m) (hs : m.step k = .ok (t, i)) :
    P [] k k' ⟨m, i, t⟩ :=
  h [] _ _ k k' (by rw [record_cons_ok hs]; rfl) rfl rfl

theorem Throughout.tail {k k' : Option BitGrid} {ks ks' : List (Option BitGrid)} {m t : Machine}
    {i : Instruction} (h : Throughout P (k :: ks) (k' :: ks') m) (hs : m.step k = .ok (t, i)) :
    Throughout (fun before => P (⟨m, i, t⟩ :: before)) ks ks' t := by
  intro before c after k₁ k₁' hrest hk hk'
  refine h (⟨m, i, t⟩ :: before) c after k₁ k₁' ?_ hk hk'
  rw [record_cons_ok hs, hrest]
  rfl

/-- **Machines in lockstep under a condition** that holds throughout the record of the
    first have records alike. -/
theorem LockstepIf.recordsAlike (hS : LockstepIf P S) {R : Machine → Machine → Prop}
    (hR : ∀ done ks ks' m n, S done ks ks' m n → R m n) {ks ks' : List (Option BitGrid)}
    (hlength : ks.length = ks'.length) {m n : Machine} (h : S [] ks ks' m n)
    (hP : Throughout P ks ks' m) : RecordsAlike R ks ks' m n := by
  have hlockstep : Lockstep fun done ks ks' m n =>
      S done ks ks' m n ∧ Throughout (fun before => P (done ++ before)) ks ks' m := by
    rintro done k ks k' ks' m n ⟨h, hP⟩
    have hcycle : ∀ t i, m.step k = .ok (t, i) → P done k k' ⟨m, i, t⟩ := by
      intro t i hs
      have := hP.head hs
      rwa [List.append_nil] at this
    refine (hS _ _ _ _ _ _ _ h hcycle).imp_right ?_
    rintro ⟨t, u, i, hm, hn, hnext⟩
    refine ⟨t, u, i, hm, hn, hnext, ?_⟩
    have := hP.tail hm
    simpa only [List.append_assoc, List.singleton_append] using this
  obtain ⟨cs, ds, fault, hcs, hds, hwords, hrel⟩ := record_lockstep hlockstep hlength ⟨h, hP⟩
  exact ⟨cs, ds, fault, hcs, hds, hwords, fun j hj => hR _ _ _ _ _ (hrel j hj).1⟩

end Chip8.Machine
