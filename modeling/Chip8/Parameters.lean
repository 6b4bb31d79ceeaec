/-
  The numbers that fix the machine, each read off the part that it belongs to.
-/
import Chip8.Exec

namespace Chip8.Parameters

def memorySize : Nat := Memory.initial.size

def registerCount : Nat := (Machine.initial (.ofSeed 0)).registers.size

def keyCount : Nat := (Machine.initial (.ofSeed 0)).keypad.size

/-- The number of slots of the call stack. -/
def stackSize : Nat := CallStack.empty.slots.size

def screenWidth : Nat := Display.blank.rows[0].size

def screenHeight : Nat := Display.blank.rows.size

end Chip8.Parameters
