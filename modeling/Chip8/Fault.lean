/-
  What can go wrong while the machine is loaded or runs, and the text of each
  cause.

  The failures of the interpreted program (a ROM that does not fit, a misused call
  stack, an access past the end of memory) are errors of the interpreter
  (`Fault.raised?`).  The other causes are values that the machine cannot hold at
  all; a session ends in good order on the former only (`Fault.isMachine`).

  * `isMachine_eq`: the errors of all classes are failures of the program;
  * `construct_raised`: they have the text that their class gives them.
-/
import Chip8.BitGrid
import Chip8.ErrorClass

namespace Chip8

/-- The causes of failure. -/
inductive Fault where
  /-- a ROM of `size` bytes where `limit` fit -/
  | romTooLarge (size limit : Int)
  /-- a call with every slot of the stack in use -/
  | stackOverflow
  /-- a return with no call to return from -/
  | stackUnderflow
  /-- an operation on `length` bytes from `address` that leaves memory -/
  | outOfBounds (operation : String) (address length : Int)
  /-- a program counter that does not fit 16 bits -/
  | pcRange (value : Nat)
  /-- a key snapshot that does not have one flag per key -/
  | keypadShape (shape : List Nat)
  /-- a key snapshot whose nested lists form no grid -/
  | keypadNesting (f : NestingFault)
  /-- a coordinate of a sprite that does not fit 32 bits with a sign -/
  | spritePosition (value : Int)
  /-- a number of cycles beyond the range of progress bars -/
  | totalRange
  /-- a ROM given as numbers that are not all bytes -/
  | notBytes
deriving DecidableEq, Repr

namespace Fault

/-- The class of the error that is raised, and what it is made of. -/
def raised? : Fault → Option (ErrorClass × List ErrorArgument)
  | romTooLarge size limit => some (.romTooLarge, [.int size, .int limit])
  | stackOverflow =>
    some (.stackOverflow, [.text "call with 16 return addresses already on the stack"])
  | stackUnderflow => some (.stackUnderflow, [.text "return executed with an empty stack"])
  | outOfBounds operation address length =>
    some (.memoryBounds, [.text operation, .int address, .int length])
  | pcRange .. | keypadShape .. | keypadNesting .. | spritePosition .. | totalRange | notBytes =>
    none

/-- Whether the cause lies in the interpreted program. -/
def isMachine (f : Fault) : Bool := f.raised?.any fun e => e.1.isA .base

theorem isMachine_eq (f : Fault) : f.isMachine = f.raised?.isSome := by
  unfold isMachine
  cases f.raised? with
  | none => rfl
  | some e => exact e.1.isA_base

/-- The text of a cause. -/
def message : Fault → String
  | romTooLarge size limit => sizeText (Text.int size) (Text.int limit)
  | stackOverflow => "call with 16 return addresses already on the stack"
  | stackUnderflow => "return executed with an empty stack"
  | outOfBounds operation address length =>
    boundsText operation (Text.hex 4 address) (Text.int length)
  | pcRange value => "Python integer " ++ Text.int value ++ " out of bounds for uint16"
  | keypadShape shape => "Expected keypad shape (16,), got " ++ shapeText shape
  | keypadNesting f => f.message
  | spritePosition value =>
    "An overflow was encountered while parsing an argument to a jitted computation, whose " ++
      "argument path is y. Got <class 'int'> with value " ++ Text.int value
  | totalRange => "int too large to convert to float"
  | notBytes => "bytes must be in range(0, 256)"

/-- The error that is raised has the text of its cause. -/
theorem construct_raised {f : Fault} {c : ErrorClass} {args : List ErrorArgument}
    (h : f.raised? = some (c, args)) :
    ∃ attributes, c.construct args = .ok ⟨f.message, attributes⟩ := by
  cases f <;> cases h <;> exact ⟨_, rfl⟩

end Fault

end Chip8
