/-
  How instructions and cycles fail.

  * `Misuse` are the failures of the stack and of memory, read off the digits of a
    word; an instruction is refused for these only (`guard_eq_error_iff`);
  * `Advances` is where an instruction lets the program counter advance to, and
    `Successor` also where it jumps; an address beyond 16 bits is always one to advance
    to (`advances_of_nextPc`);
  * `exec_eq_ok_iff_of_spans`: a word that works on bytes from the index on succeeds as soon
    as these lie in memory and the program counter can move on;
  * `exec_failures`: which failure each word leads to on each machine, and that
    there is no other; a cycle fails for its keys first, then for its fetch, and
    then as the fetched word does.
-/
import Chip8.Proofs.Effect

namespace Chip8

open Instruction (opcode?_eq_some_iff_hasForm opcode?_eq_call_iff opcode?_eq_ret_iff)

/-! ## Misuse -/

/-- The bytes from the index on that a word works on: the name of the operation and
    their number. -/
inductive Instruction.Spans (i : Instruction) : String → Nat → Prop
  | draw : i.family.val = 0xD → Spans i "draw" i.n.val
  | decimal : i.family.val = 0xF → i.nn.toNat = 0x33 → Spans i "bcd" 3
  | dump : i.family.val = 0xF → i.nn.toNat = 0x55 → Spans i "register dump" (i.x.val + 1)
  | load : i.family.val = 0xF → i.nn.toNat = 0x65 → Spans i "register load" (i.x.val + 1)

namespace Machine

variable {m : Machine} {i : Instruction}

/-- What an instruction is refused for. -/
inductive Misuse (m : Machine) (i : Instruction) : Fault → Prop
  | ret : i.raw.toNat = 0x00EE → m.stack.pointer = -1 → Misuse m i .stackUnderflow
  | call : i.family.val = 0x2 → m.stack.pointer = 15 → Misuse m i .stackOverflow
  | bytes {operation n} : i.Spans operation n → 4096 < m.index.toNat + n →
      Misuse m i (.outOfBounds operation m.index.toNat n)

theorem guard_of_spans {operation : String} {n : Nat} (h : i.Spans operation n) :
    m.guard i = Memory.checkRange operation m.index.toNat n := by
  cases h with
  | draw hf =>
    have ho : i.opcode? = some .draw := opcode?_eq_some_iff_hasForm.2 hf
    simp only [guard, ho]
  | decimal hf hn =>
    have ho : i.opcode? = some .decimal := opcode?_eq_some_iff_hasForm.2 ⟨hf, hn⟩
    simp only [guard, ho]
    rfl
  | dump hf hn =>
    have ho : i.opcode? = some .dump := opcode?_eq_some_iff_hasForm.2 ⟨hf, hn⟩
    simp only [guard, ho]
    rfl
  | load hf hn =>
    have ho : i.opcode? = some .load := opcode?_eq_some_iff_hasForm.2 ⟨hf, hn⟩
    simp only [guard, ho]
    rfl

theorem Misuse.of_checkRange {operation : String} {n : Nat} {f : Fault}
    (hs : i.Spans operation n) (h : Memory.checkRange operation m.index.toNat n = .error f) :
    m.Misuse i f := by
  obtain ⟨hout, rfl⟩ := Memory.checkRange_eq_error_iff.1 h
  exact .bytes hs (by omega)

/-- **An instruction is refused for misuse only.** -/
theorem guard_eq_error_iff {f : Fault} : m.guard i = .error f ↔ m.Misuse i f := by
  constructor
  · intro h
    unfold guard at h
    split at h
    · next ho =>
      obtain ⟨rfl, hd⟩ := CallStack.pop_eq_error_iff.1 (map_eq_error.1 h)
      exact .ret (opcode?_eq_ret_iff.1 ho) (by simp [CallStack.pointer, hd])
    · next ho =>
      obtain ⟨rfl, hd⟩ := CallStack.push_eq_error_iff.1 (map_eq_error.1 h)
      exact .call (opcode?_eq_call_iff.1 ho) (by simp [CallStack.pointer, hd])
    · next ho => exact .of_checkRange (.draw (opcode?_eq_some_iff_hasForm.1 ho)) h
    · next ho =>
      obtain ⟨hf, hn⟩ := opcode?_eq_some_iff_hasForm.1 ho
      exact .of_checkRange (.decimal hf hn) h
    · next ho =>
      obtain ⟨hf, hn⟩ := opcode?_eq_some_iff_hasForm.1 ho
      exact .of_checkRange (.dump hf hn) h
    · next ho =>
      obtain ⟨hf, hn⟩ := opcode?_eq_some_iff_hasForm.1 ho
      exact .of_checkRange (.load hf hn) h
    · cases h
  · intro h
    cases h with
    | ret hw hp =>
      have hd : m.stack.depth = 0 := by
        unfold CallStack.pointer at hp
        omega
      simp only [guard, opcode?_eq_ret_iff.2 hw]
      exact map_eq_error.2 (CallStack.pop_eq_error_iff.2 ⟨rfl, hd⟩)
    | call hf hp =>
      have hd : m.stack.depth = 16 := by
        unfold CallStack.pointer at hp
        omega
      simp only [guard, opcode?_eq_call_iff.2 hf]
      exact map_eq_error.2 (CallStack.push_eq_error_iff.2 ⟨rfl, hd⟩)
    | bytes hs hlt =>
      rw [guard_of_spans hs]
      exact Memory.checkRange_eq_error_iff.2 ⟨.inr (by omega), rfl⟩

theorem guard_eq_ok_iff : m.guard i = .ok () ↔ ∀ f, ¬ m.Misuse i f := by
  simp only [← guard_eq_error_iff]
  cases m.guard i with
  | ok u => exact ⟨fun _ f => nofun, fun _ => rfl⟩
  | error f => exact ⟨nofun, fun h => absurd rfl (h f)⟩

/-! ## Moving on -/

/-- Whether an instruction takes a skip. -/
inductive TakesSkip (m : Machine) (i : Instruction) : Prop
  | equalByte : i.family.val = 0x3 → m.reg i.x = i.nn → TakesSkip m i
  | unequalByte : i.family.val = 0x4 → m.reg i.x ≠ i.nn → TakesSkip m i
  | equal : i.family.val = 0x5 → i.n.val = 0 → m.reg i.x = m.reg i.y → TakesSkip m i
  | unequal : i.family.val = 0x9 → i.n.val = 0 → m.reg i.x ≠ m.reg i.y → TakesSkip m i
  | keyDown : i.family.val = 0xE → i.nn.toNat = 0x9E → m.keyDown (m.reg i.x) = true → TakesSkip m i
  | keyUp : i.family.val = 0xE → i.nn.toNat = 0xA1 → m.keyDown (m.reg i.x) = false → TakesSkip m i

theorem skips_iff : m.skips i = true ↔ m.TakesSkip i := by
  constructor
  · intro h
    unfold skips at h
    split at h
    · next ho => exact .equalByte (opcode?_eq_some_iff_hasForm.1 ho) (eq_of_beq h)
    · next ho => exact .unequalByte (opcode?_eq_some_iff_hasForm.1 ho) (bne_iff_ne.1 h)
    · next ho =>
      obtain ⟨hf, hn⟩ := opcode?_eq_some_iff_hasForm.1 ho
      exact .equal hf hn (eq_of_beq h)
    · next ho =>
      obtain ⟨hf, hn⟩ := opcode?_eq_some_iff_hasForm.1 ho
      exact .unequal hf hn (bne_iff_ne.1 h)
    · next ho =>
      obtain ⟨hf, hn⟩ := opcode?_eq_some_iff_hasForm.1 ho
      exact .keyDown hf hn h
    · next ho =>
      obtain ⟨hf, hn⟩ := opcode?_eq_some_iff_hasForm.1 ho
      exact .keyUp hf hn (by simpa using h)
    · cases h
  · intro h
    cases h with
    | equalByte hf h =>
      have ho : i.opcode? = some .skipEqualByte := opcode?_eq_some_iff_hasForm.2 hf
      simp only [skips, ho, h, beq_self_eq_true]
    | unequalByte hf h =>
      have ho : i.opcode? = some .skipUnequalByte := opcode?_eq_some_iff_hasForm.2 hf
      simp only [skips, ho, bne_iff_ne, ne_eq, h, not_false_eq_true]
    | equal hf hn h =>
      have ho : i.opcode? = some .skipEqual := opcode?_eq_some_iff_hasForm.2 ⟨hf, hn⟩
      simp only [skips, ho, h, beq_self_eq_true]
    | unequal hf hn h =>
      have ho : i.opcode? = some .skipUnequal := opcode?_eq_some_iff_hasForm.2 ⟨hf, hn⟩
      simp only [skips, ho, bne_iff_ne, ne_eq, h, not_false_eq_true]
    | keyDown hf hn h =>
      have ho : i.opcode? = some .skipKeyDown := opcode?_eq_some_iff_hasForm.2 ⟨hf, hn⟩
      simp only [skips, ho, h]
    | keyUp hf hn h =>
      have ho : i.opcode? = some .skipKeyUp := opcode?_eq_some_iff_hasForm.2 ⟨hf, hn⟩
      simp only [skips, ho, h, Bool.not_false]

/-- Where an instruction lets the program counter advance to: behind the call, past
    a skipped word or to the next word.  Jumps and a wait with no key down do not
    advance. -/
inductive Advances (m : Machine) (i : Instruction) : Nat → Prop
  | ret : i.raw.toNat = 0x00EE → Advances m i (m.stack.top.toNat + 2)
  | skip : m.TakesSkip i → Advances m i (m.pc.toNat + 4)
  | next : i.raw.toNat ≠ 0x00EE → i.family.val ≠ 0x1 → i.family.val ≠ 0x2 → i.family.val ≠ 0xB →
      (i.family.val = 0xF → i.nn.toNat = 0x0A → ∃ k : Nibble, m.keypad[k] = true) →
      ¬ m.TakesSkip i → Advances m i (m.pc.toNat + 2)

theorem Advances.nextPc_eq {v : Nat} (h : m.Advances i v) : m.nextPc i = v := by
  cases h with
  | ret hw => simp only [nextPc, opcode?_eq_ret_iff.2 hw]
  | skip hs =>
    have hskip := skips_iff.2 hs
    unfold nextPc
    split
    case h_6 => rw [if_pos hskip]
    all_goals
      next ho => simp [skips, ho] at hskip
  | next hw h1 h2 hb hk hs =>
    have hskip : m.skips i = false := Bool.of_not_eq_true (mt skips_iff.1 hs)
    unfold nextPc
    split
    · next ho => exact absurd (opcode?_eq_ret_iff.1 ho) hw
    · next ho => exact absurd (opcode?_eq_some_iff_hasForm.1 ho) h1
    · next ho => exact absurd (opcode?_eq_some_iff_hasForm.1 ho) h2
    · next ho => exact absurd (opcode?_eq_some_iff_hasForm.1 ho) hb
    · next ho =>
      obtain ⟨hf, hn⟩ := opcode?_eq_some_iff_hasForm.1 ho
      rw [if_pos (lowestKey?_isSome.2 (hk hf hn))]
    · rw [hskip]
      rfl

theorem advances_next (hr : i.opcode? ≠ some .ret) (hj : i.opcode? ≠ some .jump)
    (hc : i.opcode? ≠ some .call) (hb : i.opcode? ≠ some .jumpOffset)
    (hk : i.opcode? = some .waitKey → m.lowestKey?.isSome = true) (hs : m.skips i = false) :
    m.Advances i (m.pc.toNat + 2) := by
  refine .next (mt opcode?_eq_ret_iff.2 hr) (fun hf => hj (opcode?_eq_some_iff_hasForm.2 hf))
    (mt opcode?_eq_call_iff.2 hc) (fun hf => hb (opcode?_eq_some_iff_hasForm.2 hf)) ?_ ?_
  · intro hf hn
    exact lowestKey?_isSome.1 (hk (opcode?_eq_some_iff_hasForm.2 ⟨hf, hn⟩))
  · rw [← skips_iff, hs]
    exact Bool.false_ne_true

/-- Where an instruction leads: to the address of a jump or a call, to where it is while
    it waits for a key, or to where it advances. -/
inductive Successor (m : Machine) (i : Instruction) : Nat → Prop
  | jump : i.family.val = 0x1 → Successor m i i.nnn.toNat
  | call : i.family.val = 0x2 → Successor m i i.nnn.toNat
  | jumpOffset : i.family.val = 0xB →
      Successor m i ((i.nnn.toNat + (m.reg 0).toNat) % 4096)
  | wait : i.family.val = 0xF → i.nn.toNat = 0x0A → (∀ k : Nibble, m.keypad[k] = false) →
      Successor m i m.pc.toNat
  | advance {v : Nat} : m.Advances i v → Successor m i v

theorem successor_nextPc (m : Machine) (i : Instruction) : m.Successor i (m.nextPc i) := by
  unfold nextPc
  split
  · next ho => exact .advance (.ret (opcode?_eq_ret_iff.1 ho))
  · next ho => exact .jump (opcode?_eq_some_iff_hasForm.1 ho)
  · next ho => exact .call (opcode?_eq_some_iff_hasForm.1 ho)
  · next ho => exact .jumpOffset (opcode?_eq_some_iff_hasForm.1 ho)
  · next ho =>
    split
    · next hk =>
      refine .advance (advances_next ?_ ?_ ?_ ?_ (fun _ => hk) ?_)
      all_goals simp [ho, skips]
    · next hk =>
      obtain ⟨hf, hn⟩ := opcode?_eq_some_iff_hasForm.1 ho
      refine .wait hf hn fun k => Bool.of_not_eq_true fun hdown => hk ?_
      exact lowestKey?_isSome.2 ⟨k, hdown⟩
  · next hr hj hc hb hk =>
    split
    · next hs => exact .advance (.skip (skips_iff.1 hs))
    · next hs =>
      exact .advance (advances_next hr hj hc hb (fun ho => absurd ho hk) (Bool.of_not_eq_true hs))

/-- An address beyond 16 bits is one to advance to. -/
theorem advances_of_nextPc {v : Nat} (hv : m.nextPc i = v) (h : 65535 < v) : m.Advances i v := by
  have hpc := m.pc.toNat_lt
  have hnnn := i.nnn.toNat_lt
  have hnext := successor_nextPc m i
  rw [hv] at hnext
  cases hnext with
  | advance ha => exact ha
  | _ => omega

/-! ## Failures -/

/-- **How an instruction fails.** -/
theorem exec_eq_error_iff_misuse {f : Fault} :
    m.exec i = .error f ↔ m.Misuse i f ∨
      (∀ g, ¬ m.Misuse i g) ∧ ∃ v, m.Advances i v ∧ 65535 < v ∧ f = .pcRange v := by
  rw [exec_eq_error_iff, guard_eq_error_iff, guard_eq_ok_iff]
  refine or_congr_right (and_congr_right fun _ => ?_)
  constructor
  · rintro ⟨hlt, rfl⟩
    exact ⟨_, advances_of_nextPc rfl hlt, hlt, rfl⟩
  · rintro ⟨v, ha, hlt, rfl⟩
    rw [ha.nextPc_eq]
    exact ⟨hlt, rfl⟩

/-- When an instruction succeeds. -/
theorem exec_succeeds_iff :
    (∃ t, m.exec i = .ok t) ↔ (∀ f, ¬ m.Misuse i f) ∧ ∀ v, m.Advances i v → v ≤ 65535 := by
  simp only [exec_eq_ok_iff, guard_eq_ok_iff, exists_and_left, exists_eq, and_true]
  refine and_congr_right fun _ => ?_
  constructor
  · intro hlt v ha
    have := ha.nextPc_eq
    omega
  · intro h
    refine Nat.lt_of_not_le fun hle => ?_
    exact absurd (h _ (advances_of_nextPc rfl hle)) (Nat.not_le.2 hle)

/-! ## Words that work on bytes from the index on -/

variable {t : Machine} {operation : String} {n : Nat}

theorem opcode?_of_spans (h : i.Spans operation n) :
    i.opcode? = some .draw ∨ i.opcode? = some .decimal ∨ i.opcode? = some .dump ∨
      i.opcode? = some .load := by
  simp only [opcode?_eq_some_iff_hasForm]
  cases h with
  | draw hf => exact .inl hf
  | decimal hf hn => exact .inr (.inl ⟨hf, hn⟩)
  | dump hf hn => exact .inr (.inr (.inl ⟨hf, hn⟩))
  | load hf hn => exact .inr (.inr (.inr ⟨hf, hn⟩))

theorem nextPc_of_spans (h : i.Spans operation n) : m.nextPc i = m.pc.toNat + 2 := by
  rcases opcode?_of_spans h with ho | ho | ho | ho <;>
    simp only [nextPc, skips, ho, Bool.false_eq_true, if_false]

theorem exec_eq_ok_iff_of_spans (h : i.Spans operation n) :
    m.exec i = .ok t ↔ m.index.toNat + n ≤ 4096 ∧ m.pc.toNat + 2 < 65536 ∧
      t = { m.effect i with pc := UInt16.ofNat (m.pc.toNat + 2) } := by
  have hinside : m.guard i = .ok () ↔ m.index.toNat + n ≤ 4096 := by
    rw [guard_of_spans h, Memory.checkRange_eq_ok_iff]
    omega
  rw [exec_eq_ok_iff, hinside, nextPc_of_spans h]

/-! ## One failure at a time -/

theorem exec_underflow_iff :
    m.exec i = .error .stackUnderflow ↔ i.raw.toNat = 0x00EE ∧ m.stack.pointer = -1 := by
  rw [exec_eq_error_iff_misuse]
  constructor
  · rintro (h | ⟨-, v, -, -, h⟩)
    · cases h with
      | ret hw hp => exact ⟨hw, hp⟩
    · cases h
  · rintro ⟨hw, hp⟩
    exact .inl (.ret hw hp)

theorem exec_overflow_iff :
    m.exec i = .error .stackOverflow ↔ i.family.val = 0x2 ∧ m.stack.pointer = 15 := by
  rw [exec_eq_error_iff_misuse]
  constructor
  · rintro (h | ⟨-, v, -, -, h⟩)
    · cases h with
      | call hf hp => exact ⟨hf, hp⟩
    · cases h
  · rintro ⟨hf, hp⟩
    exact .inl (.call hf hp)

theorem exec_outOfBounds_iff {operation : String} {a n : Int} :
    m.exec i = .error (.outOfBounds operation a n) ↔
      a = m.index.toNat ∧ 4096 < a + n ∧ ∃ count : Nat, n = count ∧ i.Spans operation count := by
  rw [exec_eq_error_iff_misuse]
  constructor
  · rintro (h | ⟨-, v, -, -, h⟩)
    · cases h with
      | bytes hs hlt => exact ⟨rfl, by omega, _, rfl, hs⟩
    · cases h
  · rintro ⟨rfl, hlt, count, rfl, hs⟩
    exact .inl (.bytes hs (by omega))

theorem exec_pcRange_iff {v : Nat} :
    m.exec i = .error (.pcRange v) ↔
      (∀ f, ¬ m.Misuse i f) ∧ m.Advances i v ∧ 65535 < v := by
  rw [exec_eq_error_iff_misuse]
  constructor
  · rintro (h | ⟨hm, u, ha, hlt, h⟩)
    · cases h
    · cases h
      exact ⟨hm, ha, hlt⟩
  · rintro ⟨hm, ha, hlt⟩
    exact .inr ⟨hm, v, ha, hlt, rfl⟩

/-! ## Cycles -/

theorem step_of_shape_ne {g : BitGrid} (h : g.shape ≠ [16]) :
    m.step (some g) = .error (.keypadShape g.shape) := by
  rw [step_eq, keysFrom, Keypad.ofGrid, if_neg h]
  rfl

/-- Behind its fetch a cycle fails as the fetched instruction does. -/
theorem step_eq_error_iff_exec {keys : Option BitGrid} {k : Keypad} {f : Fault}
    (hk : m.keysFrom keys = .ok k) (hf : m.fetch = .ok i) :
    m.step keys = .error f ↔ (m.polled k).exec i = .error f := by
  rw [step_eq, hk, hf]
  exact map_eq_error

theorem step_fetch_error_iff {keys : Option BitGrid} {k : Keypad}
    (hk : m.keysFrom keys = .ok k) :
    m.step keys = .error (.outOfBounds "fetch" m.pc.toNat 2) ↔ 4094 < m.pc.toNat := by
  constructor
  · intro h
    refine Nat.lt_of_not_le fun hle => ?_
    -- no instruction asks for its own word
    rw [step_eq_error_iff_exec hk (fetch_eq_ok_iff.2 ⟨hle, rfl⟩), exec_eq_error_iff_misuse] at h
    rcases h with h | ⟨-, v, -, -, h⟩
    · generalize hf : Fault.outOfBounds "fetch" m.pc.toNat 2 = f at h
      cases h with
      | bytes hs => cases hs <;> exact absurd (Fault.outOfBounds.inj hf).1 (by decide)
      | _ => cases hf
    · cases h
  · intro h
    have hf : m.fetch = .error (.outOfBounds "fetch" m.pc.toNat 2) :=
      fetch_eq_error_iff.2 ⟨h, rfl⟩
    rw [step_eq, hk, hf]
    rfl

/-- **Which failure each word leads to**, and each cycle. -/
theorem exec_failures (m : Machine) (w : Int) :
    let i := Instruction.ofInt w
    (i.raw.toNat : Int) = w % 65536 ∧
    (m.exec i = .error .stackUnderflow ↔ i.raw.toNat = 0x00EE ∧ m.stack.pointer = -1) ∧
    (m.exec i = .error .stackOverflow ↔ i.family.val = 0x2 ∧ m.stack.pointer = 15) ∧
    (∀ operation a n, m.exec i = .error (.outOfBounds operation a n) ↔
      a = m.index.toNat ∧ 4096 < a + n ∧ ∃ count : Nat, n = count ∧ i.Spans operation count) ∧
    (∀ v, m.exec i = .error (.pcRange v) ↔
      (∀ f, ¬ m.Misuse i f) ∧ m.Advances i v ∧ 65535 < v) ∧
    ((∃ t, m.exec i = .ok t) ↔ (∀ f, ¬ m.Misuse i f) ∧ ∀ v, m.Advances i v → v ≤ 65535) ∧
    (∀ g : BitGrid, g.shape ≠ [16] → m.step (some g) = .error (.keypadShape g.shape)) ∧
    ∀ g : BitGrid, g.shape = [16] → ∃ k, Keypad.ofGrid g = .ok k ∧
      (m.step (some g) = .error (.outOfBounds "fetch" m.pc.toNat 2) ↔ 4094 < m.pc.toNat) ∧
      (m.pc.toNat ≤ 4094 → ∀ f, m.step (some g) = .error f ↔
        ({ m with keypad := k }.tick).exec (.ofBytes (m.memory.byte m.pc.toNat).toNat
          (m.memory.byte (m.pc.toNat + 1)).toNat) = .error f) := by
  intro i
  refine ⟨Instruction.raw_ofInt_toNat w, exec_underflow_iff, exec_overflow_iff,
    fun operation a n => exec_outOfBounds_iff, fun v => exec_pcRange_iff, exec_succeeds_iff,
    fun g => step_of_shape_ne, ?_⟩
  intro g hg
  have hk : m.keysFrom (some g) = .ok (.ofFn fun k => g.cell k) := if_pos hg
  refine ⟨_, hk, step_fetch_error_iff hk, ?_⟩
  intro hle f
  exact step_eq_error_iff_exec hk (fetch_eq_ok_iff.2 ⟨hle, rfl⟩)

end Machine

end Chip8
