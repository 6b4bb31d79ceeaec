/-
  The random bytes of the machine.

  A `Generator` splits a key into the key of the next draw and a byte; both depend
  on the key alone, so a run draws the same bytes from the same first key.  A
  machine draws from a `Source`, a generator that has come to a key, and may do so
  with any generator.

  `threefry` is the counter-based generator Threefry-2x32 with 20 rounds, and
  `Source.ofSeed` the source of its bytes from the key of a seed on.
-/

namespace Chip8.Random

/-- A key, and likewise a counter or an output: two words of 32 bits. -/
structure Key where
  high : UInt32
  low : UInt32
deriving DecidableEq, Repr

/-- How random bytes are made. -/
structure Generator where
  /-- the key of the next draw -/
  next : Key → Key
  /-- the byte drawn with a key -/
  byte : Key → UInt8

/-- A generator and the key it has come to. -/
structure Source where
  generator : Generator
  key : Key

/-- The source after a draw. -/
def Source.next (s : Source) : Source := { s with key := s.generator.next s.key }

/-- The byte that a source gives next. -/
def Source.byte (s : Source) : UInt8 := s.generator.byte s.key

/-! ## Threefry -/

/-- A word rotated to the left. -/
def rotateLeft (w : UInt32) (r : UInt32) : UInt32 := (w <<< r) ||| (w >>> (32 - r))

/-- One round: add, rotate, mix. -/
def mix (s : Key) (r : UInt32) : Key :=
  let sum := s.high + s.low
  ⟨sum, rotateLeft s.low r ^^^ sum⟩

/-- The rotations of the even and of the odd groups of four rounds. -/
def rotations (group : Nat) : List UInt32 :=
  if group % 2 = 0 then [13, 15, 26, 6] else [17, 29, 16, 24]

/-- The three words a key is extended to. -/
def schedule (k : Key) (i : Nat) : UInt32 :=
  match i % 3 with
  | 0 => k.high
  | 1 => k.low
  | _ => k.high ^^^ k.low ^^^ 0x1BD11BDA

/-- A group of four rounds and the key words added after it. -/
def group (k : Key) (s : Key) (i : Nat) : Key :=
  let m := (rotations i).foldl mix s
  ⟨m.high + schedule k (i + 1), m.low + schedule k (i + 2) + UInt32.ofNat (i + 1)⟩

/-- The image of a counter under a key. -/
def block (k counter : Key) : Key :=
  (List.range 5).foldl (group k) ⟨counter.high + schedule k 0, counter.low + schedule k 1⟩

/-- The byte of a key, behind two more splits. -/
def blockByte (k : Key) : UInt8 :=
  let bits := block (block (block k ⟨0, 1⟩) ⟨0, 1⟩) ⟨0, 0⟩
  (bits.high ^^^ bits.low).toUInt8

/-- The generator that splits a key by the images of the counters 0 and 1. -/
def threefry : Generator where
  next k := block k ⟨0, 0⟩
  byte := blockByte

/-- The source of a seed. -/
def Source.ofSeed (seed : UInt32) : Source := ⟨threefry, ⟨0, seed⟩⟩

end Chip8.Random
