/-
  The operations of the machine and how an instruction word names one.

  * `Opcode` lists the 34 operations, those of the family `8XYN` by their
    arithmetic operation;
  * `Opcode.table` has a row per operation: the bits of the word that matter
    and their values;
  * `Instruction.opcode?` is the operation of the first row a word fits, `none`
    for a word that names no operation.
-/
import Chip8.Alu
import Chip8.Instruction

namespace Chip8

/-- The operations of the machine. -/
inductive Opcode where
  /-- `00E0`: turn every pixel off -/
  | clearScreen
  /-- `00EE`: return from a subroutine -/
  | ret
  /-- `1NNN`: go on at NNN -/
  | jump
  /-- `2NNN`: call the subroutine at NNN -/
  | call
  /-- `3XNN`: skip if VX is NN -/
  | skipEqualByte
  /-- `4XNN`: skip if VX is not NN -/
  | skipUnequalByte
  /-- `5XY0`: skip if VX is VY -/
  | skipEqual
  /-- `6XNN`: VX becomes NN -/
  | setByte
  /-- `7XNN`: add NN to VX, without a carry -/
  | addByte
  /-- `8XYN`: combine VX with VY -/
  | alu (op : AluOp)
  /-- `9XY0`: skip if VX is not VY -/
  | skipUnequal
  /-- `ANNN`: the index becomes NNN -/
  | setIndex
  /-- `BNNN`: go on at NNN + V0 -/
  | jumpOffset
  /-- `CXNN`: VX becomes a random byte under the mask NN -/
  | random
  /-- `DXYN`: draw N rows from the index at (VX, VY) -/
  | draw
  /-- `EX9E`: skip if the key VX is down -/
  | skipKeyDown
  /-- `EXA1`: skip if the key VX is up -/
  | skipKeyUp
  /-- `FX07`: VX becomes the delay timer -/
  | getDelay
  /-- `FX0A`: wait for a key and store it in VX -/
  | waitKey
  /-- `FX15`: the delay timer becomes VX -/
  | setDelay
  /-- `FX18`: the sound timer becomes VX -/
  | setSound
  /-- `FX1E`: add VX to the index -/
  | addIndex
  /-- `FX29`: the index becomes the address of the glyph of VX -/
  | glyph
  /-- `FX33`: store the decimal digits of VX from the index on -/
  | decimal
  /-- `FX55`: store V0 to VX from the index on -/
  | dump
  /-- `FX65`: load V0 to VX from the index on -/
  | load
deriving DecidableEq, Repr

/-- A row of the table of operations: the words that are `pattern` under `mask`
    name `opcode`. -/
structure OpcodeRow where
  mask : Nat
  pattern : Nat
  opcode : Opcode

namespace Opcode

/-- The rows of the family `8XYN`. -/
def aluRows : List OpcodeRow :=
  AluOp.all.map fun op => ⟨0xF00F, 0x8000 + op.code, .alu op⟩

/-- The table of operations; the first row that fits counts. -/
def table : List OpcodeRow :=
  [⟨0xFFFF, 0x00E0, .clearScreen⟩,
   ⟨0xFFFF, 0x00EE, .ret⟩,
   ⟨0xF000, 0x1000, .jump⟩,
   ⟨0xF000, 0x2000, .call⟩,
   ⟨0xF000, 0x3000, .skipEqualByte⟩,
   ⟨0xF000, 0x4000, .skipUnequalByte⟩,
   ⟨0xF00F, 0x5000, .skipEqual⟩,
   ⟨0xF000, 0x6000, .setByte⟩,
   ⟨0xF000, 0x7000, .addByte⟩] ++
  aluRows ++
  [⟨0xF00F, 0x9000, .skipUnequal⟩,
   ⟨0xF000, 0xA000, .setIndex⟩,
   ⟨0xF000, 0xB000, .jumpOffset⟩,
   ⟨0xF000, 0xC000, .random⟩,
   ⟨0xF000, 0xD000, .draw⟩,
   ⟨0xF0FF, 0xE09E, .skipKeyDown⟩,
   ⟨0xF0FF, 0xE0A1, .skipKeyUp⟩,
   ⟨0xF0FF, 0xF007, .getDelay⟩,
   ⟨0xF0FF, 0xF00A, .waitKey⟩,
   ⟨0xF0FF, 0xF015, .setDelay⟩,
   ⟨0xF0FF, 0xF018, .setSound⟩,
   ⟨0xF0FF, 0xF01E, .addIndex⟩,
   ⟨0xF0FF, 0xF029, .glyph⟩,
   ⟨0xF0FF, 0xF033, .decimal⟩,
   ⟨0xF0FF, 0xF055, .dump⟩,
   ⟨0xF0FF, 0xF065, .load⟩]

/-- The operation of the first row that a word fits. -/
def find? (rows : List OpcodeRow) (i : Instruction) : Option Opcode :=
  (rows.find? fun r => i.fits r.mask r.pattern).map OpcodeRow.opcode

end Opcode

/-- The operation that a word names, if it names one. -/
def Instruction.opcode? (i : Instruction) : Option Opcode := Opcode.find? Opcode.table i

end Chip8
