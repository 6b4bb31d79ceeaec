/-
  Snapshots of the machine and the trace line of one.

  A snapshot holds plain integers, so that a line is defined for any values: a
  field has a least width, and longer values take more room.

  * `Snapshot.ofMachine` reads a machine after a cycle;
  * `Snapshot.chars` is the line: fields with a name each, the call stack oldest
    first in brackets (a dash if it is empty), then the registers.
-/
import Chip8.Machine

namespace Chip8

/-- What a trace line shows of a machine. -/
structure Snapshot where
  opcode : Int
  pc : Int
  /-- the position of the top of the stack, -1 if it is empty -/
  sp : Int
  /-- the return addresses in use, oldest first -/
  stack : List Int
  index : Int
  registers : List Int
  delay : Int
  sound : Int
deriving DecidableEq, Repr

namespace Snapshot

/-- What a trace line shows of this machine. -/
def ofMachine (m : Machine) : Snapshot where
  opcode := m.lastWord.toNat
  pc := m.pc.toNat
  sp := m.stack.pointer
  stack := m.stack.live.map fun a => (a.toNat : Int)
  index := m.index.toNat
  registers := m.registers.toList.map fun v => (v.toNat : Int)
  delay := m.delay.toNat
  sound := m.sound.toNat

/-- The addresses on the stack, separated by commas. -/
def stackChars : List Int → List Char
  | [] => ['-']
  | as => [','].intercalate (as.map (Text.hex 3))

/-- A register with its number. -/
def registerChars (number : Nat) (v : Int) : List Char :=
  'V' :: Text.hexDigits number ++ '=' :: Text.hex 2 v

/-- The registers in order, separated by spaces. -/
def registersChars (vs : List Int) : List Char :=
  [' '].intercalate (vs.mapIdx registerChars)

/-- The trace line of a snapshot. -/
def chars (s : Snapshot) : List Char :=
  "op=".toList ++ Text.hex 4 s.opcode ++ " pc=".toList ++ Text.hex 3 s.pc ++
    " sp=".toList ++ Text.decimal s.sp ++ " stack=[".toList ++ stackChars s.stack ++
    "] I=".toList ++ Text.hex 3 s.index ++ " DT=".toList ++ Text.decimal s.delay ++
    " ST=".toList ++ Text.decimal s.sound ++ ' ' :: registersChars s.registers

/-- The trace line as a string. -/
def line (s : Snapshot) : String := String.ofList s.chars

end Snapshot

end Chip8
