/-
  The state of the machine and what happens to it outside instructions: loading
  a program, the key snapshot, the timers, and fetching the next word.

  Every field has the width of the hardware, so only the program counter can be
  asked to hold a value it has no room for; `advanceBy` refuses that.
-/
import Chip8.CallStack
import Chip8.Display
import Chip8.Instruction
import Chip8.Memory
import Chip8.Random

namespace Chip8

/-- The sixteen registers V0 to VF. -/
abbrev Registers := Vector UInt8 16

/-- Which of the sixteen keys are down. -/
abbrev Keypad := Vector Bool 16

/-- Every key can be looked up. -/
instance : GetElem Keypad Nibble Bool fun _ _ => True where
  getElem keys key _ := keys.get key

@[simp] theorem Keypad.getElem_eq (keys : Keypad) (key : Nibble) : keys[key] = keys[key.val] := rfl

/-- The bits of the index register. -/
def indexMask : Nat := 0xFFFF

/-- The index register counts on modulo its size. -/
theorem ofNat_and_indexMask (index : UInt16) (v : UInt8) :
    UInt16.ofNat ((index.toNat + v.toNat) &&& indexMask) = index + v.toUInt16 := by
  have hlow : (index.toNat + v.toNat) &&& indexMask = (index.toNat + v.toNat) % 2 ^ 16 :=
    Nat.and_two_pow_sub_one_eq_mod _ 16
  rw [hlow, ← UInt16.toNat_inj, UInt16.toNat_ofNat', UInt16.toNat_add, UInt8.toNat_toUInt16,
    Nat.mod_mod]

/-- The register that the machine puts flags into, VF. -/
def flagRegister : Nibble := .ofNat 15

/-- A keypad with one key held or not. -/
def Keypad.setKey (k : Keypad) (key : Nibble) (isDown : Bool) : Keypad := k.set key isDown

/-- The state of the machine. -/
@[ext]
structure Machine where
  memory : Memory
  registers : Registers
  /-- the index register I -/
  index : UInt16
  pc : UInt16
  stack : CallStack
  delay : UInt8
  sound : UInt8
  display : Display
  keypad : Keypad
  /-- whether the display was drawn on since the flag was last lowered -/
  drawPending : Bool
  /-- the word of the last completed cycle -/
  lastWord : UInt16
  rng : Random.Source

/-- The keypad of a grid with one flag per key. -/
def Keypad.ofGrid (g : BitGrid) : Except Fault Keypad :=
  if g.shape = [16] then .ok (.ofFn fun k => g.cell k) else .error (.keypadShape g.shape)

namespace Machine

/-- The machine as it is switched on, with a source of random bytes. -/
def initial (rng : Random.Source) : Machine where
  memory := .initial
  registers := .replicate 16 0
  index := 0
  pc := UInt16.ofNat programStart
  stack := .empty
  delay := 0
  sound := 0
  display := .blank
  keypad := .replicate 16 false
  drawPending := false
  lastWord := 0
  rng := rng

/-- The value of a register. -/
def reg (m : Machine) (r : Nibble) : UInt8 := m.registers[r]

/-- The machine with a register replaced. -/
def setReg (m : Machine) (r : Nibble) (v : UInt8) : Machine :=
  { m with registers := m.registers.set r v }

/-- Whether the key of the low digit of a byte is down. -/
def keyDown (m : Machine) (v : UInt8) : Bool :=
  m.keypad[Nibble.ofNat v.toNat]

/-- The lowest key that is down. -/
def lowestKey? (m : Machine) : Option Nibble :=
  (List.finRange 16).find? fun k => m.keypad[k]

/-- Move the program counter past some instruction words. -/
def advanceBy (m : Machine) (words : Nat) : Except Fault Machine :=
  if m.pc.toNat + 2 * words < 65536 then
    .ok { m with pc := UInt16.ofNat (m.pc.toNat + 2 * words) }
  else .error (.pcRange (m.pc.toNat + 2 * words))

/-- Move the program counter to the next instruction word. -/
def advance (m : Machine) : Except Fault Machine := m.advanceBy 1

/-- Replace the keypad by a snapshot. -/
def setKeys (m : Machine) (g : BitGrid) : Except Fault Machine := do
  let keys ← Keypad.ofGrid g
  return { m with keypad := keys }

/-- Let both timers run down by one, stopping at zero. -/
def tick (m : Machine) : Machine :=
  { m with
    delay := UInt8.ofNat (m.delay.toNat - 1)
    sound := UInt8.ofNat (m.sound.toNat - 1) }

/-- The instruction at the program counter. -/
def fetch (m : Machine) : Except Fault Instruction := do
  Memory.checkRange "fetch" m.pc.toNat 2
  return .ofBytes (m.memory.byte m.pc.toNat).toNat (m.memory.byte (m.pc.toNat + 1)).toNat

/-- Put a program, given as numbers, at its place in memory and point the
    program counter there.  A number that is no byte is reported before a
    program that is too long. -/
def load (m : Machine) (rom : List Int) : Except Fault Machine :=
  if rom.any fun b => b < 0 || 255 < b then .error .notBytes
  else if maxRomSize < rom.length then .error (.romTooLarge rom.length maxRomSize)
  else .ok { m with
    memory := m.memory.write programStart (rom.map fun b => UInt8.ofNat b.toNat)
    pc := UInt16.ofNat programStart }

end Machine

end Chip8
