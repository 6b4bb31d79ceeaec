/-
  What an instruction does, field by field.

  * `guard` is what keeps an instruction from having an effect, `effect` the
    machine it leaves but for the program counter, and `nextPc` where that goes;
    every field of `effect` has a function of its own (`nextMemory`,
    `nextRegisters`, …), which names the operations that change it;
  * `exec_eq`: executing an instruction is its guard, its effect and the move of
    the program counter; `execAll` executes some in a row;
  * `step_eq_ok_iff` and `step_eq_error_iff`: the same for a whole cycle, which
    executes on the machine with its keys taken and its timers run down
    (`polled`).
-/
import Chip8.Run
import Chip8.Proofs.Decoding
import Chip8.Proofs.Stack

namespace Chip8

namespace Machine

/-! ## Steps that may fail -/

theorem bind_eq_ok {α β : Type} {x : Except Fault α} {f : α → Except Fault β} {b : β} :
    x.bind f = .ok b ↔ ∃ a, x = .ok a ∧ f a = .ok b := by
  cases x <;> simp [Except.bind]

theorem bind_eq_error {α β : Type} {x : Except Fault α} {f : α → Except Fault β} {e : Fault} :
    x.bind f = .error e ↔ x = .error e ∨ ∃ a, x = .ok a ∧ f a = .error e := by
  cases x <;> simp [Except.bind]

theorem map_eq_ok {α β : Type} {x : Except Fault α} {f : α → β} {b : β} :
    x.map f = .ok b ↔ ∃ a, x = .ok a ∧ f a = b := by
  cases x <;> simp [Except.map]

theorem map_eq_error {α β : Type} {x : Except Fault α} {f : α → β} {e : Fault} :
    x.map f = .error e ↔ x = .error e := by
  cases x <;> simp [Except.map]

/-- Options can be compared where steps cannot. -/
theorem toOption_eq_some {ε α : Type} {x : Except ε α} {a : α} :
    x.toOption = some a ↔ x = .ok a := by
  cases x <;> simp [Except.toOption]

/-! ## One instruction -/

/-- Whether an instruction skips the one behind it. -/
def skips (m : Machine) (i : Instruction) : Bool :=
  match i.opcode? with
  | some .skipEqualByte => m.reg i.x == i.nn
  | some .skipUnequalByte => m.reg i.x != i.nn
  | some .skipEqual => m.reg i.x == m.reg i.y
  | some .skipUnequal => m.reg i.x != m.reg i.y
  | some .skipKeyDown => m.keyDown (m.reg i.x)
  | some .skipKeyUp => !m.keyDown (m.reg i.x)
  | _ => false

/-- Where an instruction moves the program counter. -/
def nextPc (m : Machine) (i : Instruction) : Nat :=
  match i.opcode? with
  | some .ret => m.stack.top.toNat + 2
  | some .jump | some .call => i.nnn.toNat
  | some .jumpOffset => (i.nnn.toNat + (m.reg (.ofNat 0)).toNat) % 4096
  | some .waitKey => if m.lowestKey?.isSome then m.pc.toNat + 2 else m.pc.toNat
  | _ => m.pc.toNat + if m.skips i then 4 else 2

theorem lowestKey?_isSome {m : Machine} :
    m.lowestKey?.isSome = true ↔ ∃ k : Nibble, m.keypad[k] = true := by
  simp only [lowestKey?, List.find?_isSome, List.mem_finRange, true_and]

/-- Refuse an instruction that misuses the stack or leaves memory. -/
def guard (m : Machine) (i : Instruction) : Except Fault Unit :=
  match i.opcode? with
  | some .ret => m.stack.pop.map fun _ => ()
  | some .call => (m.stack.push m.pc.toNat).map fun _ => ()
  | some .draw => Memory.checkRange "draw" m.index.toNat i.n.val
  | some .decimal => Memory.checkRange "bcd" m.index.toNat 3
  | some .dump => Memory.checkRange "register dump" m.index.toNat (i.x.val + 1)
  | some .load => Memory.checkRange "register load" m.index.toNat (i.x.val + 1)
  | _ => .ok ()

def nextMemory (m : Machine) (i : Instruction) : Memory :=
  match i.opcode? with
  | some .decimal => m.memory.write m.index.toNat (decimalDigits (m.reg i.x))
  | some .dump => m.memory.write m.index.toNat (m.registersTo i.x)
  | _ => m.memory

def nextRegisters (m : Machine) (i : Instruction) : Registers :=
  match i.opcode? with
  | some .setByte => m.registers.set i.x i.nn
  | some .addByte => m.registers.set i.x (m.reg i.x + i.nn)
  | some (.alu op) => (m.combine op i.x i.y).registers
  | some .random => m.registers.set i.x (m.rng.byte &&& i.nn)
  | some .draw => (m.drawSprite (m.reg i.x) (m.reg i.y) i.n.val).registers
  | some .getDelay => m.registers.set i.x m.delay
  | some .waitKey =>
    match m.lowestKey? with
    | none => m.registers
    | some key => m.registers.set i.x (UInt8.ofNat key.val)
  | some .load => (m.loadRegisters i.x).registers
  | _ => m.registers

def nextIndex (m : Machine) (i : Instruction) : UInt16 :=
  match i.opcode? with
  | some .setIndex => i.nnn
  | some .addIndex => m.index + (m.reg i.x).toUInt16
  | some .glyph => UInt16.ofNat ((m.reg i.x).toNat % 16 * 5)
  | _ => m.index

def nextStack (m : Machine) (i : Instruction) : CallStack :=
  match i.opcode? with
  | some .ret => (m.stack.pop.toOption.map Prod.snd).getD m.stack
  | some .call => (m.stack.push m.pc.toNat).toOption.getD m.stack
  | _ => m.stack

def nextDelay (m : Machine) (i : Instruction) : UInt8 :=
  match i.opcode? with
  | some .setDelay => m.reg i.x
  | _ => m.delay

def nextSound (m : Machine) (i : Instruction) : UInt8 :=
  match i.opcode? with
  | some .setSound => m.reg i.x
  | _ => m.sound

def nextDisplay (m : Machine) (i : Instruction) : Display :=
  match i.opcode? with
  | some .clearScreen => .blank
  | some .draw => (m.drawSprite (m.reg i.x) (m.reg i.y) i.n.val).display
  | _ => m.display

def nextRng (m : Machine) (i : Instruction) : Random.Source :=
  match i.opcode? with
  | some .random => m.rng.next
  | _ => m.rng

/-- The machine after an instruction, with the program counter where it was. -/
def effect (m : Machine) (i : Instruction) : Machine :=
  { m with
    memory := m.nextMemory i
    registers := m.nextRegisters i
    index := m.nextIndex i
    stack := m.nextStack i
    delay := m.nextDelay i
    sound := m.nextSound i
    display := m.nextDisplay i
    drawPending := m.drawPending || i.draws
    rng := m.nextRng i }

/-- Point the program counter at an address. -/
def goTo (m : Machine) (a : Nat) : Except Fault Machine :=
  if a < 65536 then .ok { m with pc := UInt16.ofNat a } else .error (.pcRange a)

theorem goTo_pc (m : Machine) : m.goTo m.pc.toNat = .ok m := by
  simp [goTo, m.pc.toNat_lt]

theorem goTo_word (m : Machine) (a : UInt16) : m.goTo a.toNat = .ok { m with pc := a } := by
  simp [goTo, a.toNat_lt]

theorem skipIf_eq (m : Machine) (c : Bool) :
    m.skipIf c = m.goTo (m.pc.toNat + if c then 4 else 2) := by
  cases c <;> rfl

theorem combine_eq (m : Machine) (op : AluOp) (x y : Nibble) :
    m.combine op x y = { m with registers := (m.combine op x y).registers } := by
  unfold combine
  dsimp only
  split <;> rfl

/-- An operation on two registers reads nothing but registers. -/
theorem combine_registers {m n : Machine} (h : m.registers = n.registers) (op : AluOp)
    (x y : Nibble) : (m.combine op x y).registers = (n.combine op x y).registers := by
  have hr : ∀ r, m.reg r = n.reg r := by
    intro r
    simp only [reg, h]
  simp only [combine, hr]
  cases (op.apply (n.reg x) (n.reg y)).2 <;> simp only [setReg, h]

theorem exec_of_opcode {m : Machine} {i : Instruction} {op : Opcode} (h : i.opcode? = some op) :
    m.exec i = m.perform i op := by
  simp only [exec, h]

theorem advance_of_lt {m : Machine} (h : m.pc.toNat + 2 < 65536) :
    m.advance = .ok { m with pc := UInt16.ofNat (m.pc.toNat + 2) } :=
  if_pos h

theorem exec_eq (m : Machine) (i : Instruction) :
    m.exec i = (m.guard i).bind fun _ => (m.effect i).goTo (m.nextPc i) := by
  unfold exec guard effect nextPc skips nextMemory nextRegisters nextIndex nextStack nextDelay
    nextSound nextDisplay nextRng Instruction.draws
  rcases ho : i.opcode? with _ | op
  · simp only [Bool.or_false]
    rfl
  cases op with
  | ret =>
    cases hp : m.stack.pop with
    | error f => simp [perform, hp, bind, Except.bind, Except.map]
    | ok top =>
      simp [perform, hp, bind, Except.bind, Except.map, CallStack.top_of_pop hp]
      rfl
  | call =>
    cases hp : m.stack.push m.pc.toNat with
    | error f =>
      simp only [perform, hp]
      rfl
    | ok stack =>
      simp only [perform, hp, Bool.or_false]
      exact (goTo_word { m with stack := stack } i.nnn).symm
  | alu op =>
    simp only [perform, Bool.or_false]
    rw [combine_eq]
    rfl
  | waitKey =>
    cases hk : m.lowestKey? with
    | none => simp [perform, hk, Except.bind, goTo_pc]
    | some key =>
      simp [perform, hk, Except.bind]
      rfl
  | jump => simp [perform, Except.bind, goTo_word]
  | jumpOffset =>
    have h : (i.nnn.toNat + (m.reg (.ofNat 0)).toNat) % 4096 < 65536 := by omega
    simp [perform, Except.bind, goTo, and_addressMask, h]
  | addIndex =>
    simp only [perform, Bool.or_false, ofNat_and_indexMask]
    rfl
  | glyph =>
    simp only [perform, Bool.or_false, Memory.glyphAddress_eq]
    rfl
  | skipEqualByte | skipUnequalByte | skipEqual | skipUnequal | skipKeyDown | skipKeyUp =>
    simp only [perform, Bool.or_false, skipIf_eq]
    rfl
  | draw | clearScreen =>
    simp only [Bool.or_true]
    rfl
  | _ =>
    simp only [Bool.or_false]
    rfl

theorem goTo_eq_ok_iff {m t : Machine} {a : Nat} :
    m.goTo a = .ok t ↔ a < 65536 ∧ t = { m with pc := UInt16.ofNat a } := by
  unfold goTo
  split
  · next h => simp only [Except.ok.injEq, h, true_and, eq_comm (a := t)]
  · next h => simp only [reduceCtorEq, h, false_and]

theorem goTo_eq_error_iff {m : Machine} {a : Nat} {f : Fault} :
    m.goTo a = .error f ↔ 65536 ≤ a ∧ f = .pcRange a := by
  unfold goTo
  split
  · next h => simp only [reduceCtorEq, Nat.not_le.2 h, false_and]
  · next h => simp only [Except.error.injEq, Nat.le_of_not_lt h, true_and, eq_comm (a := f)]

/-- **What an instruction does.** -/
theorem exec_eq_ok_iff {m t : Machine} {i : Instruction} :
    m.exec i = .ok t ↔ m.guard i = .ok () ∧ m.nextPc i < 65536 ∧
      t = { m.effect i with pc := UInt16.ofNat (m.nextPc i) } := by
  rw [exec_eq]
  cases m.guard i with
  | error f => simp only [Except.bind, reduceCtorEq, false_and]
  | ok u => simp only [Except.bind, goTo_eq_ok_iff, true_and]

/-- What an instruction fails with. -/
theorem exec_eq_error_iff {m : Machine} {i : Instruction} {f : Fault} :
    m.exec i = .error f ↔ m.guard i = .error f ∨
      m.guard i = .ok () ∧ 65536 ≤ m.nextPc i ∧ f = .pcRange (m.nextPc i) := by
  rw [exec_eq]
  cases m.guard i with
  | error g => simp only [Except.bind, Except.error.injEq, reduceCtorEq, false_and, or_false]
  | ok u => simp only [Except.bind, goTo_eq_error_iff, reduceCtorEq, true_and, false_or]

theorem nextDisplay_of_not_draws {m : Machine} {i : Instruction} (h : i.draws = false) :
    m.nextDisplay i = m.display := by
  unfold Instruction.draws at h
  unfold nextDisplay
  split
  · next ho => simp [ho] at h
  · next ho => simp [ho] at h
  · rfl

/-- Returns pop the stack, calls push the program counter, and no other
    instruction touches the stack. -/
theorem stack_cases {m : Machine} {i : Instruction} (h : m.guard i = .ok ()) :
    (i.opcode? = some .ret ∧ m.stack.pop = .ok (m.stack.top, m.nextStack i)) ∨
    (i.opcode? = some .call ∧ m.stack.push m.pc.toNat = .ok (m.nextStack i)) ∨
    (i.opcode? ≠ some .ret ∧ i.opcode? ≠ some .call ∧ m.nextStack i = m.stack) := by
  by_cases hr : i.opcode? = some .ret
  · simp only [guard, hr, map_eq_ok] at h
    obtain ⟨⟨a, s⟩, hs, -⟩ := h
    refine .inl ⟨hr, ?_⟩
    simp only [nextStack, hr, hs, CallStack.top_of_pop hs]
    rfl
  by_cases hc : i.opcode? = some .call
  · simp only [guard, hc, map_eq_ok] at h
    obtain ⟨s, hs, -⟩ := h
    refine .inr (.inl ⟨hc, ?_⟩)
    simp only [nextStack, hc, hs]
    rfl
  · refine .inr (.inr ⟨hr, hc, ?_⟩)
    unfold nextStack
    split <;> simp_all

/-- The return addresses in use behind an instruction. -/
theorem live_nextStack {m : Machine} {i : Instruction} (h : m.guard i = .ok ()) :
    (m.nextStack i).live =
      if i.opcode? = some .ret then m.stack.live.dropLast
      else if i.opcode? = some .call then
        m.stack.live ++ [UInt16.ofInt ((m.pc.toNat : Int) % 4096)]
      else m.stack.live := by
  rcases stack_cases h with ⟨ho, hs⟩ | ⟨ho, hs⟩ | ⟨hr, hc, hs⟩
  · rw [if_pos ho, CallStack.live_pop hs, List.dropLast_concat]
  · rw [if_neg (by simp [ho]), if_pos ho, CallStack.live_push hs]
  · rw [if_neg hr, if_neg hc, hs]

/-- What holds of the return addresses in use, and of the one that a call leaves,
    holds of those behind an instruction. -/
theorem forall_live_nextStack {m : Machine} {i : Instruction} {P : UInt16 → Prop}
    (h : m.guard i = .ok ()) (hcall : P (UInt16.ofInt ((m.pc.toNat : Int) % 4096)))
    (hlive : ∀ a ∈ m.stack.live, P a) : ∀ a ∈ (m.nextStack i).live, P a := by
  rw [live_nextStack h]
  split
  · intro a ha
    exact hlive a (List.dropLast_subset _ ha)
  split
  · exact List.forall_mem_append.2 ⟨hlive, List.forall_mem_singleton.2 hcall⟩
  · exact hlive

theorem nextStack_isClean {m : Machine} {i : Instruction} (h : m.guard i = .ok ())
    (hc : m.stack.IsClean) : (m.nextStack i).IsClean := by
  rcases stack_cases h with ⟨-, hs⟩ | ⟨-, hs⟩ | ⟨-, -, hs⟩
  · exact hc.pop hs
  · exact hc.push hs
  · rw [hs]
    exact hc

/-! ## Instructions in a row -/

/-- Execute some words one after another. -/
def execAll (m : Machine) : List Instruction → Except Fault Machine
  | [] => .ok m
  | i :: is => (m.exec i).bind fun t => t.execAll is

/-! ## One cycle -/

/-- The keypad after a key snapshot, if there is one. -/
def keysFrom (m : Machine) : Option BitGrid → Except Fault Keypad
  | none => .ok m.keypad
  | some g => Keypad.ofGrid g

/-- The machine on which a cycle executes: its keys are taken and its timers have
    run down. -/
def polled (m : Machine) (keys : Keypad) : Machine := { m with keypad := keys }.tick

@[simp] theorem polled_pc (m : Machine) (k : Keypad) : (m.polled k).pc = m.pc := rfl

@[simp] theorem polled_stack (m : Machine) (k : Keypad) : (m.polled k).stack = m.stack := rfl

theorem fetch_eq_ok_iff {m : Machine} {i : Instruction} :
    m.fetch = .ok i ↔ m.pc.toNat ≤ 4094 ∧
      i = .ofBytes (m.memory.byte m.pc.toNat).toNat (m.memory.byte (m.pc.toNat + 1)).toNat := by
  unfold fetch Memory.checkRange
  split
  · simp only [bind, Except.bind, reduceCtorEq, false_iff]
    omega
  · simp only [bind, Except.bind, pure, Except.pure, Except.ok.injEq, eq_comm (a := i),
      iff_and_self]
    omega

theorem fetch_eq_error_iff {m : Machine} {f : Fault} :
    m.fetch = .error f ↔ 4094 < m.pc.toNat ∧ f = .outOfBounds "fetch" m.pc.toNat 2 := by
  unfold fetch Memory.checkRange
  split
  · simp only [bind, Except.bind, Except.error.injEq, eq_comm (a := f), iff_and_self]
    omega
  · simp only [bind, Except.bind, pure, Except.pure, reduceCtorEq, false_iff]
    omega

theorem step_eq (m : Machine) (keys : Option BitGrid) :
    m.step keys = (m.keysFrom keys).bind fun k => m.fetch.bind fun i =>
      ((m.polled k).exec i).map fun t => ({ t with lastWord := i.raw }, i) := by
  have hc : ∀ k : Keypad, { m with keypad := k }.cycle = m.fetch.bind fun i =>
      ((m.polled k).exec i).map fun t => ({ t with lastWord := i.raw }, i) := by
    intro k
    have hf : (m.polled k).fetch = m.fetch := rfl
    unfold cycle
    rw [show Machine.tick { m with keypad := k } = m.polled k from rfl, hf]
    cases m.fetch with
    | error f => rfl
    | ok i =>
      show Except.bind ((m.polled k).exec i) _ = Except.map _ ((m.polled k).exec i)
      cases (m.polled k).exec i <;> rfl
  cases keys with
  | none => exact hc m.keypad
  | some g =>
    simp only [step, withKeys, setKeys, keysFrom]
    cases hg : Keypad.ofGrid g with
    | error f => rfl
    | ok k => exact hc k

/-- **What a completed cycle does.** -/
theorem step_eq_ok_iff {m t : Machine} {keys : Option BitGrid} {i : Instruction} :
    m.step keys = .ok (t, i) ↔ ∃ k, m.keysFrom keys = .ok k ∧ m.fetch = .ok i ∧
      (m.polled k).guard i = .ok () ∧ (m.polled k).nextPc i < 65536 ∧
      t = { (m.polled k).effect i with
        pc := UInt16.ofNat ((m.polled k).nextPc i), lastWord := i.raw } := by
  simp only [step_eq, bind_eq_ok, map_eq_ok, exec_eq_ok_iff, Prod.mk.injEq]
  constructor
  · rintro ⟨k, hk, i, hi, t, ⟨hg, hlt, rfl⟩, rfl, rfl⟩
    exact ⟨k, hk, hi, hg, hlt, rfl⟩
  · rintro ⟨k, hk, hi, hg, hlt, rfl⟩
    exact ⟨k, hk, i, hi, _, ⟨hg, hlt, rfl⟩, rfl, rfl⟩

/-- What a cycle fails with. -/
theorem step_eq_error_iff {m : Machine} {keys : Option BitGrid} {f : Fault} :
    m.step keys = .error f ↔ m.keysFrom keys = .error f ∨ ∃ k, m.keysFrom keys = .ok k ∧
      (m.fetch = .error f ∨ ∃ i, m.fetch = .ok i ∧ ((m.polled k).guard i = .error f ∨
        (m.polled k).guard i = .ok () ∧ 65536 ≤ (m.polled k).nextPc i ∧
          f = .pcRange ((m.polled k).nextPc i))) := by
  simp only [step_eq, bind_eq_error, map_eq_error, exec_eq_error_iff]

end Machine

end Chip8
