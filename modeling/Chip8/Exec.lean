/-
  Execution of one instruction.

  `perform` is the effect of an operation with the operands of an instruction
  word, and `exec` that of a word: a word that names no operation only moves the
  program counter on.

  A failing instruction has no effect at all.  Where several things are wrong,
  the stack and the bounds of memory are looked at before the program counter.
-/
import Chip8.Machine
import Chip8.Opcode
import Chip8.Sprite

namespace Chip8

namespace Machine

/-- Skip the next instruction word if a condition holds. -/
def skipIf (m : Machine) (condition : Bool) : Except Fault Machine :=
  m.advanceBy (if condition then 2 else 1)

/-- Combine two registers.  The flag is written last, so it wins if the result
    goes to VF. -/
def combine (m : Machine) (op : AluOp) (x y : Nibble) : Machine :=
  let result := op.apply (m.reg x) (m.reg y)
  match result.2 with
  | none => m.setReg x result.1
  | some flag => (m.setReg x result.1).setReg flagRegister (flagByte flag)

/-- Draw a sprite of `n` rows from the index on; VF says whether a lit pixel
    went dark. -/
def drawSprite (m : Machine) (x y : UInt8) (n : Nat) : Machine :=
  let mask := sprite (m.memory.read m.index.toNat n) (x.toNat % 64 : Nat) (y.toNat % 32 : Nat)
  { m.setReg flagRegister (flagByte (m.display.meets mask)) with
    display := m.display.xor mask
    drawPending := true }

/-- The three decimal digits of a byte. -/
def decimalDigits (v : UInt8) : List UInt8 := [v / 100, v / 10 % 10, v % 10]

/-- The registers V0 to VX. -/
def registersTo (m : Machine) (x : Nibble) : List UInt8 := m.registers.toList.take (x.val + 1)

/-- The machine with V0 to VX replaced by the bytes from the index on. -/
def loadRegisters (m : Machine) (x : Nibble) : Machine :=
  { m with
    registers := .ofFn fun k =>
      if k ≤ x then m.memory.byte (m.index.toNat + k.val) else m.reg k }

/-- The effect of an operation with the operands of an instruction word. -/
def perform (m : Machine) (i : Instruction) : Opcode → Except Fault Machine
  | .clearScreen => { m with display := .blank, drawPending := true }.advance
  | .ret => do
    let top ← m.stack.pop
    { m with stack := top.2, pc := top.1 }.advance
  | .jump => .ok { m with pc := i.nnn }
  | .call => do
    let stack ← m.stack.push m.pc.toNat
    return { m with stack := stack, pc := i.nnn }
  | .skipEqualByte => m.skipIf (m.reg i.x == i.nn)
  | .skipUnequalByte => m.skipIf (m.reg i.x != i.nn)
  | .skipEqual => m.skipIf (m.reg i.x == m.reg i.y)
  | .setByte => (m.setReg i.x i.nn).advance
  | .addByte => (m.setReg i.x (m.reg i.x + i.nn)).advance
  | .alu op => (m.combine op i.x i.y).advance
  | .skipUnequal => m.skipIf (m.reg i.x != m.reg i.y)
  | .setIndex => { m with index := i.nnn }.advance
  | .jumpOffset =>
    .ok { m with pc := UInt16.ofNat ((i.nnn.toNat + (m.reg (.ofNat 0)).toNat) &&& addressMask) }
  | .random => { m.setReg i.x (m.rng.byte &&& i.nn) with rng := m.rng.next }.advance
  | .draw => do
    Memory.checkRange "draw" m.index.toNat i.n.val
    (m.drawSprite (m.reg i.x) (m.reg i.y) i.n.val).advance
  | .skipKeyDown => m.skipIf (m.keyDown (m.reg i.x))
  | .skipKeyUp => m.skipIf (!m.keyDown (m.reg i.x))
  | .getDelay => (m.setReg i.x m.delay).advance
  | .waitKey =>
    match m.lowestKey? with
    | none => .ok m
    | some key => (m.setReg i.x (UInt8.ofNat key.val)).advance
  | .setDelay => { m with delay := m.reg i.x }.advance
  | .setSound => { m with sound := m.reg i.x }.advance
  | .addIndex =>
    { m with index := UInt16.ofNat ((m.index.toNat + (m.reg i.x).toNat) &&& indexMask) }.advance
  | .glyph => { m with index := UInt16.ofNat (Memory.glyphAddress (m.reg i.x)) }.advance
  | .decimal => do
    Memory.checkRange "bcd" m.index.toNat 3
    { m with memory := m.memory.write m.index.toNat (decimalDigits (m.reg i.x)) }.advance
  | .dump => do
    Memory.checkRange "register dump" m.index.toNat (i.x.val + 1)
    { m with memory := m.memory.write m.index.toNat (m.registersTo i.x) }.advance
  | .load => do
    Memory.checkRange "register load" m.index.toNat (i.x.val + 1)
    (m.loadRegisters i.x).advance

/-- The effect of an instruction word. -/
def exec (m : Machine) (i : Instruction) : Except Fault Machine :=
  match i.opcode? with
  | none => m.advance
  | some op => m.perform i op

end Machine

end Chip8
