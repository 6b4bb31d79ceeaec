/-
  Memory: 4096 bytes, the glyphs of the hexadecimal digits at its start.

  * `byte`, `read` and `write` are one byte, a run of bytes and its
    replacement; an address outside memory reads as zero and is not written;
  * `slice` is the run between two positions, which may count from the end;
  * `checkRange` refuses a range that does not lie inside memory;
  * `byte_write`: a write changes the bytes it covers and no other; `read_write` and
    `read_write_of_disjoint` say the same of a run of bytes, and by `write_write` a
    later write hides one that is not longer.
-/
import Chip8.Fault

namespace Chip8

/-- The bytes of the machine. -/
abbrev Memory := Vector UInt8 4096

/-- The address at which programs are loaded and started. -/
def programStart : Nat := 0x200

/-- The number of bytes from `programStart` to the end of memory. -/
def maxRomSize : Nat := 4096 - programStart

/-- The address of the first glyph. -/
def fontStart : Nat := 0

/-- The number of rows of a glyph. -/
def glyphSize : Nat := 5

/-- The glyphs of the sixteen digits, one after another. -/
def fontData : List UInt8 :=
  [0xF0, 0x90, 0x90, 0x90, 0xF0,
   0x20, 0x60, 0x20, 0x20, 0x70,
   0xF0, 0x10, 0xF0, 0x80, 0xF0,
   0xF0, 0x10, 0xF0, 0x10, 0xF0,
   0x90, 0x90, 0xF0, 0x10, 0x10,
   0xF0, 0x80, 0xF0, 0x10, 0xF0,
   0xF0, 0x80, 0xF0, 0x90, 0xF0,
   0xF0, 0x10, 0x20, 0x40, 0x40,
   0xF0, 0x90, 0xF0, 0x90, 0xF0,
   0xF0, 0x90, 0xF0, 0x10, 0xF0,
   0xF0, 0x90, 0xF0, 0x90, 0x90,
   0xE0, 0x90, 0xE0, 0x90, 0xE0,
   0xF0, 0x80, 0x80, 0x80, 0xF0,
   0xE0, 0x90, 0x90, 0x90, 0xE0,
   0xF0, 0x80, 0xF0, 0x80, 0xF0,
   0xF0, 0x80, 0xF0, 0x80, 0x80]

namespace Memory

/-- The byte at an address. -/
def byte (m : Memory) (a : Nat) : UInt8 := m[a]?.getD 0

/-- The `count` bytes from an address on. -/
def read (m : Memory) (a count : Nat) : List UInt8 :=
  (List.range count).map fun k => m.byte (a + k)

/-- The address of a position; negative ones count from the end, and those outside
    memory stand for its nearer end. -/
def position (p : Int) : Nat := min (if p < 0 then p + 4096 else p).toNat 4096

/-- The bytes from one position up to another. -/
def slice (m : Memory) (first last : Int) : List UInt8 :=
  m.read (position first) (position last - position first)

/-- Memory with some bytes put in from an address on. -/
def write (m : Memory) (a : Nat) : List UInt8 → Memory
  | [] => m
  | b :: bs => write (m.setIfInBounds a b) (a + 1) bs

/-- Memory before a program is loaded: the glyphs at their place, zeros
    elsewhere. -/
def initial : Memory := write (.replicate 4096 0) fontStart fontData

/-- The address of the glyph of the low digit of a byte. -/
def glyphAddress (v : UInt8) : Nat := fontStart + (v.toNat &&& 0xF) * glyphSize

/-- Refuse the `length` bytes from `address` on unless they lie in memory. -/
def checkRange (operation : String) (address length : Int) : Except Fault Unit :=
  if address < 0 ∨ 4096 < address + length then
    .error (.outOfBounds operation address length)
  else .ok ()

theorem glyphAddress_eq (v : UInt8) : glyphAddress v = v.toNat % 16 * 5 := by
  have hlow : v.toNat &&& 0xF = v.toNat % 16 := Nat.and_two_pow_sub_one_eq_mod v.toNat 4
  rw [glyphAddress, hlow, fontStart, glyphSize, Nat.zero_add]

/-! ## Reading what was written -/

theorem byte_setIfInBounds (m : Memory) (a i : Nat) (b : UInt8) :
    byte (m.setIfInBounds a b) i = if a = i ∧ a < 4096 then b else m.byte i := by
  simp only [byte, Vector.getElem?_setIfInBounds]
  split
  · next h =>
    subst h
    by_cases ha : a < 4096 <;> simp [ha]
  · next h => simp [h]

/-- A write changes the bytes it covers and no other. -/
theorem byte_write (m : Memory) (a i : Nat) (bs : List UInt8) :
    (m.write a bs).byte i =
      if a ≤ i ∧ i < 4096 then bs[i - a]?.getD (m.byte i) else m.byte i := by
  induction bs generalizing m a with
  | nil => simp [write]
  | cons b bs ih =>
    rw [write, ih, byte_setIfInBounds]
    rcases Nat.lt_trichotomy a i with h | h | h
    · rw [show i - a = (i - (a + 1)) + 1 by omega]
      have : a ≠ i := Nat.ne_of_lt h
      simp only [this, false_and, if_false, List.getElem?_cons_succ]
      by_cases hi : i < 4096 <;> simp [hi, Nat.le_of_lt h, Nat.succ_le_of_lt h]
    · subst h
      have h1 : ¬ a + 1 ≤ a := by omega
      simp [h1]
    · have h1 : ¬ a + 1 ≤ i := by omega
      have h2 : ¬ a ≤ i := by omega
      have h3 : a ≠ i := by omega
      simp [h1, h2, h3]

/-- Memory is what its bytes are. -/
theorem ext_byte {m n : Memory} (h : ∀ a < 4096, m.byte a = n.byte a) : m = n := by
  refine Vector.ext fun a ha => ?_
  have hbyte := h a ha
  simpa [byte, ha] using hbyte

/-- A write over one that is not longer leaves nothing of it. -/
theorem write_write {m : Memory} {a : Nat} {bs cs : List UInt8} (h : bs.length ≤ cs.length) :
    (m.write a bs).write a cs = m.write a cs := by
  refine ext_byte fun i _ => ?_
  rw [byte_write, byte_write m a i cs]
  split
  · next hin =>
    rcases Nat.lt_or_ge (i - a) cs.length with hlt | hge
    · rw [List.getElem?_eq_getElem hlt, Option.getD_some, Option.getD_some]
    · rw [byte_write, if_pos hin, List.getElem?_eq_none (Nat.le_trans h hge), Option.getD_none]
  · next hout => rw [byte_write, if_neg hout]

theorem read_length (m : Memory) (a count : Nat) : (m.read a count).length = count := by
  simp [read]

theorem read_getElem? {m : Memory} {a count k : Nat} (h : k < count) :
    (m.read a count)[k]? = some (m.byte (a + k)) := by
  simp [read, h]

theorem read_congr {m n : Memory} {a count : Nat}
    (h : ∀ k < count, m.byte (a + k) = n.byte (a + k)) : m.read a count = n.read a count :=
  List.map_congr_left fun k hk => h k (List.mem_range.1 hk)

/-- A part of a run of bytes is a run of its own. -/
theorem read_sub {m : Memory} {a k count length : Nat} (h : k + count ≤ length) :
    ((m.read a length).drop k).take count = m.read (a + k) count := by
  refine List.ext_getElem? fun j => ?_
  rcases Nat.lt_or_ge j count with hj | hj
  · have hin : k + j < length := by omega
    rw [List.getElem?_take_of_lt hj, List.getElem?_drop, read_getElem? hin, read_getElem? hj,
      Nat.add_assoc]
  · rw [List.getElem?_eq_none, List.getElem?_eq_none]
    · rwa [read_length]
    · rw [List.length_take, List.length_drop, read_length]
      omega

/-- What was written is read back. -/
theorem read_write {m : Memory} {a : Nat} {bs : List UInt8} (h : a + bs.length ≤ 4096) :
    (m.write a bs).read a bs.length = bs := by
  refine List.ext_getElem (by rw [read_length]) fun k hk hk' => ?_
  have hin : a ≤ a + k ∧ a + k < 4096 := by omega
  simp [read, byte_write, hin, hk']

/-- A write elsewhere does not show. -/
theorem read_write_of_disjoint {m : Memory} {a b count : Nat} {bs : List UInt8}
    (h : b + count ≤ a ∨ a + bs.length ≤ b) : (m.write a bs).read b count = m.read b count := by
  refine read_congr fun k hk => ?_
  rw [byte_write]
  split
  · rw [List.getElem?_eq_none (by omega)]
    rfl
  · rfl

theorem checkRange_eq_ok_iff {operation : String} {address length : Int} :
    checkRange operation address length = .ok () ↔
      0 ≤ address ∧ address + length ≤ 4096 := by
  unfold checkRange
  split
  · simp only [reduceCtorEq, false_iff]; omega
  · simp only [true_iff]; omega

theorem checkRange_eq_error_iff {operation : String} {address length : Int} {f : Fault} :
    checkRange operation address length = .error f ↔
      (address < 0 ∨ 4096 < address + length) ∧ f = .outOfBounds operation address length := by
  unfold checkRange
  split
  · next h => simp only [Except.error.injEq, h, true_and, eq_comm (a := f)]
  · next h => simp only [reduceCtorEq, h, false_and]

end Memory

end Chip8
