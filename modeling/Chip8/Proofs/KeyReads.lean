/-
  Keys matter only where they are read.

  * `Instruction.ReadsKeys`: the words that look at keys; they are never refused, so
    their cycles are completed (`step_of_readsKeys`);
  * `KeysAlike`: a cycle finds the same in two key snapshots; a skip looks at one key
    only, and a wait for the lowest one that is down;
  * `SameButKeypad.lockstepIf`: cycles that find the same in their snapshots fail alike,
    or leave machines that are the same but for their keys;
  * `keys_matter_where_read`: so do whole runs, each on snapshots of its own.
-/
import Chip8.Proofs.Dependence
import Chip8.Proofs.Lockstep

namespace Chip8

open Instruction (opcode?_eq_some_iff_hasForm)

/-! ## Reading keys -/

def BitGrid.keypad (g : BitGrid) : Keypad := .ofFn fun k => g.cell k

def BitGrid.lowestKey? (g : BitGrid) : Option Nibble := (List.finRange 16).find? fun k => g.cell k

/-- Whether a word looks at keys: it skips by one of them or waits for any. -/
def Instruction.ReadsKeys (i : Instruction) : Prop :=
  Opcode.skipKeyDown.hasForm i ∨ Opcode.skipKeyUp.hasForm i ∨ Opcode.waitKey.hasForm i

/-- A cycle finds the same in two key snapshots. -/
structure KeysAlike (c : Cycle) (g g' : BitGrid) : Prop where
  /-- a skip by a key looks at the key of the low digit of VX -/
  key : Opcode.skipKeyDown.hasForm c.word ∨ Opcode.skipKeyUp.hasForm c.word →
    g.cell ((c.before.reg c.word.x).toNat % 16) = g'.cell ((c.before.reg c.word.x).toNat % 16)
  /-- a wait looks for the lowest key that is down, of which there may be none -/
  lowest : Opcode.waitKey.hasForm c.word → g.lowestKey? = g'.lowestKey?

theorem KeysAlike.of_unread {c : Cycle} (h : ¬ c.word.ReadsKeys) (g g' : BitGrid) :
    KeysAlike c g g' where
  key := fun hskip => absurd (hskip.imp_right .inl) h
  lowest := fun hwait => absurd (.inr (.inr hwait)) h

namespace Machine

variable {m n : Machine} {g g' : BitGrid} {i : Instruction}

/-! ## One cycle -/

theorem keysFrom_some (m : Machine) (h : g.shape = [16]) : m.keysFrom (some g) = .ok g.keypad :=
  if_pos h

theorem keyDown_polled (m : Machine) (g : BitGrid) (v : UInt8) :
    (m.polled g.keypad).keyDown v = g.cell (v.toNat % 16) := by
  simp [keyDown, polled, tick, BitGrid.keypad]

theorem lowestKey?_polled (m : Machine) (g : BitGrid) :
    (m.polled g.keypad).lowestKey? = g.lowestKey? := by
  simp [lowestKey?, polled, tick, BitGrid.keypad, BitGrid.lowestKey?]

theorem step_of_readsKeys (hg : g.shape = [16]) (hf : m.fetch = .ok i) (hi : i.ReadsKeys) :
    ∃ t, m.step (some g) = .ok (t, i) := by
  have ho : i.opcode? = some .skipKeyDown ∨ i.opcode? = some .skipKeyUp ∨
      i.opcode? = some .waitKey := by
    simp only [opcode?_eq_some_iff_hasForm]
    exact hi
  refine step_of_fetch (m.keysFrom_some hg) hf ?_ ?_
  · rcases ho with ho | ho | ho <;> simp only [guard, ho]
  · rcases ho with ho | ho | ho <;> simp [ho]

/-- Two machines are the same but for which keys are down. -/
def SameButKeypad (m n : Machine) : Prop := n = { m with keypad := n.keypad }

namespace SameButKeypad

theorem fetch_eq (h : SameButKeypad m n) : m.fetch = n.fetch := by
  rw [h]
  rfl

/-- A poll forgets the keys from before it. -/
theorem polled_eq (h : SameButKeypad m n) (k : Keypad) : n.polled k = m.polled k := by
  rw [h]
  rfl

end SameButKeypad

theorem alikeTo_polled
    (hkey : Opcode.skipKeyDown.hasForm i ∨ Opcode.skipKeyUp.hasForm i →
      g.cell ((m.reg i.x).toNat % 16) = g'.cell ((m.reg i.x).toNat % 16))
    (hlowest : Opcode.waitKey.hasForm i → g.lowestKey? = g'.lowestKey?) :
    AlikeTo i (m.polled g.keypad) (m.polled g'.keypad) := by
  have hdown : i.opcode? = some .skipKeyDown ∨ i.opcode? = some .skipKeyUp →
      (m.polled g.keypad).keyDown ((m.polled g.keypad).reg i.x) =
        (m.polled g'.keypad).keyDown ((m.polled g'.keypad).reg i.x) := by
    intro ho
    simp only [opcode?_eq_some_iff_hasForm] at ho
    rw [keyDown_polled, keyDown_polled]
    exact hkey ho
  have hfind : i.opcode? = some .waitKey →
      (m.polled g.keypad).lowestKey? = (m.polled g'.keypad).lowestKey? := by
    intro ho
    rw [lowestKey?_polled, lowestKey?_polled]
    exact hlowest (opcode?_eq_some_iff_hasForm.1 ho)
  -- nothing else in them depends on what the two keypads hold
  generalize g.keypad = k, g'.keypad = k' at hdown hfind ⊢
  exact ⟨rfl, rfl, rfl, rfl, rfl, rfl, fun _ _ => rfl, hdown, hfind, fun _ => rfl⟩

theorem behind_sameButKeypad {k k' : Keypad} (h : AlikeTo i (m.polled k) (m.polled k'))
    (hg : (m.polled k).guard i = .ok ()) :
    SameButKeypad ((m.polled k).behind i) ((m.polled k').behind i) :=
  Machine.ext rfl (h.nextRegisters_eq hg).symm rfl (congrArg UInt16.ofNat h.nextPc_eq.symm)
    rfl rfl rfl rfl rfl rfl rfl rfl

/-- A cycle of two such machines fails alike, or leaves them so, if it finds the same
    in their snapshots. -/
theorem SameButKeypad.lockstepIf :
    LockstepIf (fun _ k k' c => ∀ g ∈ k, ∀ g' ∈ k', KeysAlike c g g')
      fun _ ks ks' m n => (∀ k ∈ ks, ∃ g, k = some g ∧ g.shape = [16]) ∧
        (∀ k ∈ ks', ∃ g, k = some g ∧ g.shape = [16]) ∧ SameButKeypad m n := by
  rintro done k ks k' ks' m n ⟨hks, hks', h⟩ hP
  obtain ⟨⟨g, rfl, hg⟩, hrest⟩ := List.forall_mem_cons.1 hks
  obtain ⟨⟨g', rfl, hg'⟩, hrest'⟩ := List.forall_mem_cons.1 hks'
  have halike : ∀ i, m.fetch = .ok i → AlikeTo i (m.polled g.keypad) (n.polled g'.keypad) := by
    intro i hf
    rw [h.polled_eq]
    have hfound : i.ReadsKeys → ∃ t, KeysAlike ⟨m, i, t⟩ g g' := by
      intro hi
      obtain ⟨t, ht⟩ := step_of_readsKeys hg hf hi
      exact ⟨t, hP t i ht g rfl g' rfl⟩
    refine alikeTo_polled ?_ ?_
    · intro hskip
      obtain ⟨t, ht⟩ := hfound (hskip.imp_right .inl)
      exact ht.key hskip
    · intro hwait
      obtain ⟨t, ht⟩ := hfound (.inr (.inr hwait))
      exact ht.lowest hwait
  refine (step_alike (m.keysFrom_some hg) (n.keysFrom_some hg') h.fetch_eq halike).imp_right ?_
  rintro ⟨i, hf, hguard, hm, hn⟩
  rw [h.polled_eq] at hn halike
  exact ⟨_, _, i, hm, hn, hrest, hrest', behind_sameButKeypad (halike i hf) hguard⟩

/-! ## Runs -/

/-- **Keys matter only where they are read.**  Each on key snapshots of its own, two
    machines that are the same but for their keys execute the same words, fail alike and
    stay the same but for their keys, as long as every cycle that looks at keys finds the
    same in the snapshots of both; in particular on any snapshots if no cycle looks. -/
theorem keys_matter_where_read {m n : Machine} {gs gs' : List BitGrid} (h : SameButKeypad m n)
    (hlength : gs.length = gs'.length) (hshape : ∀ g ∈ gs ++ gs', g.shape = [16]) :
    ((∀ before c after g g', (m.record (gs.map some)).1 = before ++ c :: after →
        gs[before.length]? = some g → gs'[before.length]? = some g' → KeysAlike c g g') →
      RecordsAlike SameButKeypad (gs.map some) (gs'.map some) m n) ∧
    ((∀ c ∈ (m.record (gs.map some)).1, ¬ c.word.ReadsKeys) →
      RecordsAlike SameButKeypad (gs.map some) (gs'.map some) m n) := by
  have hgs : ∀ k ∈ gs.map some, ∃ g, k = some g ∧ g.shape = [16] :=
    List.forall_mem_map.2 fun g hg => ⟨g, rfl, hshape g (List.mem_append_left _ hg)⟩
  have hgs' : ∀ k ∈ gs'.map some, ∃ g, k = some g ∧ g.shape = [16] :=
    List.forall_mem_map.2 fun g hg => ⟨g, rfl, hshape g (List.mem_append_right _ hg)⟩
  have halike : (∀ before c after g g', (m.record (gs.map some)).1 = before ++ c :: after →
      gs[before.length]? = some g → gs'[before.length]? = some g' → KeysAlike c g g') →
      RecordsAlike SameButKeypad (gs.map some) (gs'.map some) m n := by
    intro hfound
    refine SameButKeypad.lockstepIf.recordsAlike (fun _ _ _ _ _ h => h.2.2) (by simpa using hlength)
      ⟨hgs, hgs', h⟩ ?_
    intro before c after k k' hcs hk hk' g hg g' hg'
    simp only [List.getElem?_map, Option.map_eq_some_iff] at hk hk'
    obtain ⟨_, hk, rfl⟩ := hk
    obtain ⟨_, hk', rfl⟩ := hk'
    cases hg
    cases hg'
    exact hfound before c after g g' hcs hk hk'
  refine ⟨halike, fun hunread => halike ?_⟩
  intro before c after g g' hcs _ _
  refine .of_unread (hunread c ?_) g g'
  rw [hcs]
  exact List.mem_append_right _ (List.mem_cons_self ..)

/-- A wait and a skip, both at key 0: whether key 1 is down does not matter, nor did it
    before the run.  A word that looks at no key runs alike on any. -/
theorem other_keys_irrelevant : ∃ m n : Machine,
    (initial (.ofSeed 0)).load [0xF1, 0x0A, 0xE1, 0x9E] = .ok m ∧
      (m.record [some ⟨[16], #[true]⟩, some ⟨[16], #[true]⟩]).1.map Cycle.word =
        [⟨0xF10A⟩, ⟨0xE19E⟩] ∧
      RecordsAlike SameButKeypad [some ⟨[16], #[true]⟩, some ⟨[16], #[true]⟩]
        [some ⟨[16], #[true, true]⟩, some ⟨[16], #[true, true]⟩] m
        { m with keypad := .replicate 16 true } ∧
      (initial (.ofSeed 0)).load [0x60, 0x05] = .ok n ∧
      RecordsAlike SameButKeypad [some ⟨[16], #[]⟩] [some ⟨[16], #[true]⟩] n n := by
  have hreads : (((initial (.ofSeed 0)).load [0xF1, 0x0A, 0xE1, 0x9E]).map fun m =>
      let cs := (m.record [some ⟨[16], #[true]⟩, some ⟨[16], #[true]⟩]).1
      (cs.map Cycle.word, cs.map fun c => c.before.reg c.word.x)).toOption =
        some ([⟨0xF10A⟩, ⟨0xE19E⟩], [0, 0]) := by
    decide +kernel
  have hsets : (((initial (.ofSeed 0)).load [0x60, 0x05]).map fun n =>
      (n.record [some ⟨[16], #[]⟩]).1.map Cycle.word).toOption = some [⟨0x6005⟩] := by
    decide +kernel
  have hlowest : (⟨[16], #[true]⟩ : BitGrid).lowestKey? =
      (⟨[16], #[true, true]⟩ : BitGrid).lowestKey? := by decide
  obtain ⟨m, hm, hcycles⟩ := map_eq_ok.1 (toOption_eq_some.1 hreads)
  obtain ⟨n, hn, hword⟩ := map_eq_ok.1 (toOption_eq_some.1 hsets)
  obtain ⟨hwords, hkeys⟩ := Prod.mk.inj hcycles
  have hsame : SameButKeypad m { m with keypad := .replicate 16 true } := rfl
  have htwo : [(⟨[16], #[true]⟩ : BitGrid), ⟨[16], #[true]⟩].length =
      [(⟨[16], #[true, true]⟩ : BitGrid), ⟨[16], #[true, true]⟩].length := rfl
  have hone : [(⟨[16], #[]⟩ : BitGrid)].length = [(⟨[16], #[true]⟩ : BitGrid)].length := rfl
  refine ⟨m, n, hm, hwords, (keys_matter_where_read hsame htwo (by decide)).1 ?_, hn,
    (keys_matter_where_read (m := n) (n := n) rfl hone (by decide)).2 ?_⟩
  · intro before c after g g' hcs hg hg'
    have hkey : c.before.reg c.word.x = 0 := by
      have hc := List.mem_map_of_mem (f := fun c => c.before.reg c.word.x) (a := c)
        (hcs ▸ List.mem_append_right before (List.mem_cons_self ..))
      simp only [List.map_cons, List.map_nil] at hc
      rw [hkeys] at hc
      simpa using hc
    have hg := List.mem_of_getElem? hg
    have hg' := List.mem_of_getElem? hg'
    simp only [List.mem_cons, List.not_mem_nil, or_false, or_self] at hg hg'
    subst hg hg'
    exact ⟨fun _ => by rw [hkey]; rfl, fun _ => hlowest⟩
  · intro c hc
    have hc := List.mem_map_of_mem (f := Cycle.word) hc
    simp only [List.map_cons, List.map_nil] at hc
    rw [hword, List.mem_singleton] at hc
    rw [hc]
    simp only [Instruction.ReadsKeys, Opcode.hasForm]
    decide

end Machine

end Chip8
