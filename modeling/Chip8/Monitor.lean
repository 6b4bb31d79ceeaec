/-
  The monitor: commands that inspect, change and run a machine, one at a time.

  A monitor holds a machine and a tracer.  `Monitor.perform` answers a command
  with a result or the failure that left the machine as it was, and with the
  messages written meanwhile.
-/
import Chip8.Render
import Chip8.Tracer

namespace Chip8

/-! ## Changes of the machine from outside -/

/-- A field of the machine replaced. -/
inductive Edit where
  | register (r : Nibble) (v : UInt8)
  | index (v : UInt16)
  | pc (v : UInt16)
  | delay (v : UInt8)
  | sound (v : UInt8)
  | lastWord (v : UInt16)
  /-- the whole call stack, oldest address first -/
  | stack (addresses : List UInt16)
  | memory (address : Nat) (bytes : List UInt8)
  | display (d : Display)

/-- The machine with a field replaced. -/
def Machine.edit (m : Machine) : Edit → Machine
  | .register r v => m.setReg r v
  | .index v => { m with index := v }
  | .pc v => { m with pc := v }
  | .delay v => { m with delay := v }
  | .sound v => { m with sound := v }
  | .lastWord v => { m with lastWord := v }
  | .stack addresses => { m with stack := .ofList addresses }
  | .memory address bytes => { m with memory := m.memory.write address bytes }
  | .display d => { m with display := d }

/-! ## Commands and answers -/

/-- The commands of the monitor. -/
inductive Command where
  | state
  | edit (edits : List Edit)
  | load (rom : List Int)
  | exec (i : Instruction)
  | step (keys : Option NestedBits)
  /-- so many cycles, with a progress bar or without -/
  | run (cycles : Int) (keys : Option NestedBits) (bar : Bool)
  /-- up to so many cycles, with a line for each -/
  | trace (cycles : Nat)
  | fetch
  | tick
  | keys (keys : NestedBits)
  /-- lower the flag of a pending drawing -/
  | acknowledge
  | read (address length : Int)
  /-- the return addresses in use -/
  | calls
  | render (scheme : String) (scale : Int)
  /-- a new tracer -/
  | tracer (enabled : Option Bool)
  /-- let the tracer observe the machine -/
  | observe

/-- The results of commands. -/
inductive Result where
  | none
  | word (i : Instruction)
  | instruction (i : Instruction)
  | bytes (bs : List UInt8)
  | addresses (as : List UInt16)
  | frame (f : Frame)
  | enabled (b : Bool)
  | count (n : Nat)
  /-- the lines of some cycles and the failure that stopped them -/
  | trace (lines : List String) (stop : Option Fault)

/-- The failures of commands. -/
inductive CommandFault where
  | machine (f : Fault)
  | render (f : RenderFault)

/-- The text of a failure. -/
def CommandFault.message : CommandFault → String
  | machine f => f.message
  | render f => f.message

/-- A machine and a tracer under inspection. -/
structure Monitor where
  machine : Machine
  tracer : Tracer
  environmentTrace : Option String
  /-- the number of bytes for which a frame finds room -/
  room : Nat

/-- The answer to a command. -/
structure Reply where
  result : Except CommandFault Result
  entries : List LogEntry
  monitor : Monitor

namespace Monitor

/-- The monitor of a machine that was just switched on. -/
def start (rng : Random.Source) (environmentTrace : Option String) (room : Nat) : Monitor :=
  ⟨.initial rng, .start none environmentTrace, environmentTrace, room⟩

/-- An answer that changes nothing. -/
def answer (mon : Monitor) (result : Result) : Reply := ⟨.ok result, [], mon⟩

/-- The answer of a machine that an operation left, or failed to leave. -/
def settle (mon : Monitor) (entries : List LogEntry) : Except Fault (Machine × Result) → Reply
  | .ok (m, result) => ⟨.ok result, entries, { mon with machine := m }⟩
  | .error f => ⟨.error (.machine f), entries, mon⟩

/-- A painted display, or the failure to paint it. -/
def paint (mon : Monitor) (scheme : String) (scale : Int) : Reply :=
  match Palette.ofName scheme >>= Frame.paint mon.room mon.machine.display.toGrid scale with
  | .ok f => mon.answer (.frame f)
  | .error f => ⟨.error (.render f), [], mon⟩

/-- The cycles of a trace.  A failure of the program ends them and is part of
    the result; any other is a failure of the command. -/
def traceCycles (mon : Monitor) (cycles : Nat) : Reply :=
  let done := mon.machine.history cycles
  let lines := done.1.map fun c => (Snapshot.ofMachine c.after).line
  mon.settle (Cycle.notices done.1) <|
    match done.2 with
    | some f =>
      if f.isMachine then .ok (mon.machine.afterAll done.1, .trace lines (some f)) else .error f
    | none => .ok (mon.machine.afterAll done.1, .trace lines none)

/-- The grid of a key snapshot, which nested lists have to form. -/
def keyGrid (keys : NestedBits) : Except Fault BitGrid :=
  match keys.grid? with
  | .ok g => .ok g
  | .error f => .error (.keypadNesting f)

/-- The grid of a key snapshot, if there is one. -/
def keyGrid? : Option NestedBits → Except Fault (Option BitGrid)
  | none => .ok none
  | some keys => (keyGrid keys).map some

/-- One cycle after taking a key snapshot, if there is one. -/
def stepWith (m : Machine) (keys : Option NestedBits) : Except Fault Stepped := do
  m.step (← keyGrid? keys)

/-- The machine before the cycles of a run: with the keys, and once the progress
    bar is set up if one is asked for. -/
def beforeRun (m : Machine) (cycles : Int) (keys : Option NestedBits) (bar : Bool) :
    Except Fault Machine := do
  let ready ← m.withKeys (← keyGrid? keys)
  if bar then checkTotal cycles
  return ready

/-- The notes on the cycles of a run. -/
def runNotices (cycles : Int) : Except Fault Machine → List LogEntry
  | .ok ready => Cycle.notices (ready.history cycles.toNat).1
  | .error _ => []

/-- The notes on a cycle, which there are only if it is completed. -/
def stepNotices (m : Machine) : Except Fault Stepped → List LogEntry
  | .ok next => (m.notice? next.2).toList
  | .error _ => []

/-- Answer a command. -/
def perform (mon : Monitor) (c : Command) : Reply :=
  let m := mon.machine
  match c with
  | .state => mon.answer .none
  | .edit edits => { mon with machine := edits.foldl Machine.edit m }.answer .none
  | .load rom => mon.settle [] ((m.load rom).map fun m => (m, .none))
  | .exec i => mon.settle (m.notice? i).toList ((m.exec i).map fun m => (m, .none))
  | .step keys =>
    let next := stepWith m keys
    mon.settle (stepNotices m next) (next.map fun s => (s.1, .word s.2))
  | .run cycles keys bar =>
    let ready := beforeRun m cycles keys bar
    mon.settle (runNotices cycles ready)
      ((ready >>= fun m => m.run cycles none).map fun m => (m, .none))
  | .trace cycles => mon.traceCycles cycles
  | .fetch => mon.settle [] (m.fetch.map fun i => (m, .instruction i))
  | .tick => { mon with machine := m.tick }.answer .none
  | .keys keys => mon.settle [] ((keyGrid keys >>= m.setKeys).map fun m => (m, .none))
  | .acknowledge => { mon with machine := { m with drawPending := false } }.answer .none
  | .read address length => mon.answer (.bytes (m.memory.slice address (address + length)))
  | .calls => mon.answer (.addresses m.stack.live)
  | .render scheme scale => mon.paint scheme scale
  | .tracer enabled =>
    let tracer := Tracer.start enabled mon.environmentTrace
    { mon with tracer := tracer }.answer (.enabled tracer.enabled)
  | .observe =>
    let seen := mon.tracer.observe m
    ⟨.ok (.count seen.1.count), seen.2, { mon with tracer := seen.1 }⟩

end Monitor

end Chip8
