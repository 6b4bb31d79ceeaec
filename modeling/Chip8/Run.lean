/-
  Cycles of the machine and runs of them.

  * `cycle` lets the timers run down, then fetches and executes one instruction;
    `step` takes a key snapshot first;
  * `run n` is `n` cycles, all or nothing;
  * `history n` keeps what happened: the cycles completed, at most `n`, and the
    fault that ended them early.
-/
import Chip8.Exec

namespace Chip8

/-- A completed cycle: the machine before it, the word it executed and the
    machine after it. -/
structure Cycle where
  before : Machine
  word : Instruction
  after : Machine

/-- The machine after a cycle that executed the word. -/
abbrev Stepped := Machine × Instruction

namespace Machine

/-- One cycle with the keys as they are. -/
def cycle (m : Machine) : Except Fault Stepped := do
  let i ← m.tick.fetch
  let next ← m.tick.exec i
  return ({ next with lastWord := i.raw }, i)

/-- The machine with a key snapshot, if there is one. -/
def withKeys (m : Machine) : Option BitGrid → Except Fault Machine
  | none => .ok m
  | some g => m.setKeys g

/-- One cycle after taking a key snapshot, if there is one. -/
def step (m : Machine) (keys : Option BitGrid) : Except Fault Stepped := do
  (← m.withKeys keys).cycle

/-- Some cycles in a row with the keys as they are. -/
def cycles : Nat → Machine → Except Fault Machine
  | 0, m => .ok m
  | n + 1, m => do
    let next ← m.cycle
    cycles n next.1

/-- `n` cycles with one key snapshot; none if `n` is not positive. -/
def run (m : Machine) (n : Int) (keys : Option BitGrid) : Except Fault Machine := do
  cycles n.toNat (← m.withKeys keys)

/-- The cycles completed out of at most `n`, and the fault that ended them
    before. -/
def history : Nat → Machine → List Cycle × Option Fault
  | 0, _ => ([], none)
  | n + 1, m =>
    match m.cycle with
    | .error f => ([], some f)
    | .ok next =>
      let rest := history n next.1
      (⟨m, next.2, next.1⟩ :: rest.1, rest.2)

/-- The machine at the end of some cycles. -/
def afterAll (m : Machine) (done : List Cycle) : Machine :=
  (done.getLast?.map Cycle.after).getD m

end Machine

end Chip8
