/-
  Messages about the running machine: a note on every word that names no
  operation, and a trace line after every cycle.

  * `Machine.notice?` is the note on executing a word;
  * a `Tracer` counts cycles whether it is enabled or not, and writes a numbered
    line for each while it is (`Tracer.observe`);
  * `progressLabel` is the label of a progress bar over a number of cycles.
-/
import Chip8.Log
import Chip8.Run
import Chip8.Snapshot

namespace Chip8

/-- The note on a word at an address that names no operation. -/
def Instruction.unlistedEntry (i : Instruction) (pc : UInt16) : LogEntry :=
  ⟨"chip8vm.cpu", .debug, "No-op for unrecognised instruction " ++ String.ofList i.chars ++
    " at 0x" ++ String.ofList (Text.hex 3 pc.toNat)⟩

/-- The note on executing a word. -/
def Machine.notice? (m : Machine) (i : Instruction) : Option LogEntry :=
  match i.opcode? with
  | some _ => none
  | none => some (i.unlistedEntry m.pc)

/-- The notes on some cycles. -/
def Cycle.notices (cs : List Cycle) : List LogEntry :=
  cs.filterMap fun c => c.before.notice? c.word

/-- A counter of cycles that may write a line for each. -/
structure Tracer where
  enabled : Bool
  count : Nat
deriving DecidableEq, Repr

/-- Whether a value of the environment turns tracing on: any but the empty one
    and `0`. -/
def traceEnabled (environment : Option String) : Bool :=
  match environment with
  | none | some "" | some "0" => false
  | some _ => true

namespace Tracer

/-- A tracer before the first cycle; without a choice the environment decides. -/
def start (enabled : Option Bool) (environment : Option String) : Tracer :=
  ⟨enabled.getD (traceEnabled environment), 0⟩

/-- The line of a numbered cycle. -/
def entry (number : Nat) (m : Machine) : LogEntry :=
  ⟨"chip8vm.trace", .info,
    "#" ++ String.ofList ((Text.digits number).rightpad 8 ' ') ++ " " ++
      (Snapshot.ofMachine m).line⟩

/-- Count a cycle that ended in a machine, and write its line. -/
def observe (t : Tracer) (m : Machine) : Tracer × List LogEntry :=
  (⟨t.enabled, t.count + 1⟩, if t.enabled then [entry (t.count + 1) m] else [])

end Tracer

/-! ## Progress bars -/

/-- Refuse a number of cycles that no progress bar can count to. -/
def checkTotal (total : Int) : Except Fault Unit :=
  if Text.isBeyondRange total then .error .totalRange else .ok ()

/-- The label of a progress bar over a number of cycles. -/
def progressLabel (total : Int) (given : Option String) : Except Fault String := do
  checkTotal total
  return given.getD ("Running (" ++ String.ofList (Text.grouped total) ++ " cycles)")

end Chip8
