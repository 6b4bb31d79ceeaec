/-
  Random bytes along a run.

  The sources of a run form a stream: each is the one before it or the next one.  By
  which generator does not matter.

  * `bytesDrawn` counts the random bytes that some cycles drew; `Runs.rng`: the source
    is as many draws on;
  * `step_random`: a byte drawn goes to its register under the mask of the word;
  * `random_stream`: the bytes drawn are those of the stream in order, and of the
    first source only the bytes drawn matter, and of these the bits under their masks.
-/
import Chip8.Proofs.Dependence
import Chip8.Proofs.Lockstep
import Mathlib.Logic.Function.Iterate

namespace Chip8.Machine

open Random.Source (next)

variable {m t : Machine} {keys : Option BitGrid} {i : Instruction}

/-- The number of random bytes that some cycles drew. -/
def bytesDrawn (cs : List Cycle) : Nat := cs.countP fun c => decide (c.word.family.val = 0xC)

theorem bytesDrawn_append (cs : List Cycle) (c : Cycle) :
    bytesDrawn (cs ++ [c]) = bytesDrawn cs + if c.word.family.val = 0xC then 1 else 0 := by
  simp [bytesDrawn, List.countP_append, List.countP_singleton]

/-! ## One cycle -/

theorem opcode?_eq_random_iff : i.opcode? = some .random ↔ i.family.val = 0xC :=
  Instruction.opcode?_eq_some_iff_hasForm

theorem nextRng_eq (m : Machine) (i : Instruction) :
    m.nextRng i = if i.family.val = 0xC then m.rng.next else m.rng := by
  unfold nextRng
  split
  · next ho => rw [if_pos (opcode?_eq_random_iff.1 ho)]
  · next ho => rw [if_neg (mt opcode?_eq_random_iff.2 ho)]

/-- A cycle that draws a byte leaves the source after it, even under an empty mask. -/
theorem step_rng (h : m.step keys = .ok (t, i)) :
    t.rng = next^[if i.family.val = 0xC then 1 else 0] m.rng := by
  obtain ⟨k, -, -, -, -, rfl⟩ := step_eq_ok_iff.1 h
  show (m.polled k).nextRng i = _
  rw [nextRng_eq]
  split <;> rfl

/-- The byte drawn goes to VX under the mask, and no flag is written. -/
theorem step_random (h : m.step keys = .ok (t, i)) (hi : i.family.val = 0xC) :
    t.reg i.x = m.rng.byte &&& i.nn ∧
      (i.x ≠ flagRegister → t.reg flagRegister = m.reg flagRegister) := by
  obtain ⟨k, -, -, -, -, rfl⟩ := step_eq_ok_iff.1 h
  have hreg : ∀ z, ((m.polled k).nextRegisters i)[z] =
      ((m.polled k).setReg i.x (m.rng.byte &&& i.nn)).reg z := by
    intro z
    simp only [nextRegisters, opcode?_eq_random_iff.2 hi]
    rfl
  constructor
  · exact (hreg i.x).trans (by rw [reg_setReg, if_pos rfl])
  · intro hx
    exact (hreg flagRegister).trans (by rw [reg_setReg, if_neg hx]; rfl)

/-! ## Runs -/

/-- **The source behind a run** is as many draws on as bytes were drawn. -/
theorem Runs.rng {m₀ : Machine} {cs : List Cycle} (h : Runs m₀ cs m) :
    m.rng = next^[bytesDrawn cs] m₀.rng := by
  induction h with
  | start => rfl
  | step _ hs ih => rw [step_rng hs, ih, bytesDrawn_append, Nat.add_comm, Function.iterate_add_apply]

/-! ## Two sources -/

/-- Two machines are the same but for the sources of their random bytes. -/
def SameButRng (m n : Machine) : Prop := n = { m with rng := n.rng }

/-- A cycle that draws a byte finds the same under its mask in the streams of two
    sources. -/
def DrawsAlike (src src' : Random.Source) (before : List Cycle) (c : Cycle) : Prop :=
  c.word.family.val = 0xC →
    (next^[bytesDrawn before] src).byte &&& c.word.nn =
      (next^[bytesDrawn before] src').byte &&& c.word.nn

/-- Machines that got equally far in two streams, the same otherwise. -/
structure OnStreams (src src' : Random.Source) (done : List Cycle) (m n : Machine) : Prop where
  rng : m.rng = next^[bytesDrawn done] src
  others : n = { m with rng := next^[bytesDrawn done] src' }

namespace OnStreams

variable {src src' : Random.Source} {done : List Cycle} {n : Machine}

theorem sameButRng (h : OnStreams src src' done m n) : SameButRng m n := by
  rw [h.others]
  rfl

theorem alikeTo (h : OnStreams src src' done m n) {k : Keypad}
    (hi : i.family.val = 0xC → (next^[bytesDrawn done] src).byte &&& i.nn =
      (next^[bytesDrawn done] src').byte &&& i.nn) :
    AlikeTo i (m.polled k) (n.polled k) := by
  obtain ⟨hrng, rfl⟩ := h
  refine ⟨rfl, rfl, rfl, rfl, rfl, rfl, fun _ _ => rfl, fun _ => rfl, fun _ => rfl, ?_⟩
  intro ho
  show m.rng.byte &&& i.nn = _
  rw [hrng]
  exact hi (opcode?_eq_random_iff.1 ho)

theorem behind (h : OnStreams src src' done m n) {k : Keypad}
    (ha : AlikeTo i (m.polled k) (n.polled k)) (hg : (m.polled k).guard i = .ok ()) :
    OnStreams src src' (done ++ [⟨m, i, (m.polled k).behind i⟩])
      ((m.polled k).behind i) ((n.polled k).behind i) := by
  have hregisters := ha.nextRegisters_eq hg
  obtain ⟨hrng, rfl⟩ := h
  have hstream : ∀ r, (if i.family.val = 0xC then next (next^[bytesDrawn done] r)
      else next^[bytesDrawn done] r) =
        next^[bytesDrawn (done ++ [⟨m, i, (m.polled k).behind i⟩])] r := by
    intro r
    rw [bytesDrawn_append]
    split
    · rw [Function.iterate_succ_apply']
    · rfl
  constructor
  · show (m.polled k).nextRng i = _
    rw [nextRng_eq, ← hstream src, ← hrng]
    rfl
  · refine Machine.ext rfl hregisters.symm rfl rfl rfl rfl rfl rfl rfl rfl rfl ?_
    show Machine.nextRng _ i = _
    rw [nextRng_eq]
    exact hstream src'

/-- A cycle of two such machines fails alike, or leaves them so, if what it draws is
    the same under its mask. -/
theorem lockstepIf (src src' : Random.Source) :
    LockstepIf (fun before _ _ c => DrawsAlike src src' before c)
      fun done ks ks' m n => ks = ks' ∧ OnStreams src src' done m n := by
  rintro done k ks k' ks' m n ⟨hks, h⟩ hP
  cases hks
  have hkeys : m.keysFrom k = n.keysFrom k := by
    rw [h.others]
    cases k <;> rfl
  have halike : ∀ pad i, m.keysFrom k = .ok pad → m.fetch = .ok i →
      AlikeTo i (m.polled pad) (n.polled pad) := by
    intro pad i hpad hf
    refine h.alikeTo fun hi => ?_
    -- a word that draws is never refused, so its cycle is completed
    have ho := opcode?_eq_random_iff.2 hi
    obtain ⟨t, ht⟩ := step_of_fetch hpad hf (by simp only [guard, ho]) (by simp [ho])
    exact hP t i ht hi
  have hfetch : m.fetch = n.fetch := by
    rw [h.others]
    rfl
  rcases step_alike_same_keys hkeys (fun pad hpad => ⟨hfetch, fun i => halike pad i hpad⟩) with
    hfail | ⟨pad, i, hpad, hf, hg, hm, hn⟩
  · exact .inl hfail
  · exact .inr ⟨_, _, i, hm, hn, rfl, h.behind (halike pad i hpad hf) hg⟩

end OnStreams

end Chip8.Machine
