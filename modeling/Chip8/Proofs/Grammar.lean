/-
  The grammar of instruction words.

  * `Opcode.ofWord?` reads the operation of a word off its first digit, in some families
    also off the last digit or the last two;
  * `ofWord?_eq_some_iff`: it is the operation of which the word has the form, so the table
    of masks and patterns realises the grammar;
  * `countP_fits_le_one` and `find?_perm`: of rows that fit no common word one at most fits
    a word, and they may stand in any order.
-/
import Chip8.Proofs.Decoding

namespace Chip8

namespace Opcode

/-! ## The grammar -/

/-- The operation of a word `8XYN`, by its last digit. -/
def ofArithmetic? (n : Nat) : Option Opcode :=
  match n with
  | 0x0 => some (.alu .set)
  | 0x1 => some (.alu .or)
  | 0x2 => some (.alu .and)
  | 0x3 => some (.alu .xor)
  | 0x4 => some (.alu .add)
  | 0x5 => some (.alu .subtract)
  | 0x6 => some (.alu .shiftRight)
  | 0x7 => some (.alu .subtractFrom)
  | 0xE => some (.alu .shiftLeft)
  | _ => none

/-- The operation of a word `EXNN`, by its low byte. -/
def ofKeyTest? (nn : Nat) : Option Opcode :=
  match nn with
  | 0x9E => some .skipKeyDown
  | 0xA1 => some .skipKeyUp
  | _ => none

/-- The operation of a word `FXNN`, by its low byte. -/
def ofTransfer? (nn : Nat) : Option Opcode :=
  match nn with
  | 0x07 => some .getDelay
  | 0x0A => some .waitKey
  | 0x15 => some .setDelay
  | 0x18 => some .setSound
  | 0x1E => some .addIndex
  | 0x29 => some .glyph
  | 0x33 => some .decimal
  | 0x55 => some .dump
  | 0x65 => some .load
  | _ => none

/-- The operation of a word of sixteen bits; none for a word that only moves the program
    counter on. -/
def ofWord? (w : Nat) : Option Opcode :=
  match w / 0x1000 with
  | 0x0 => if w = 0x00E0 then some .clearScreen else if w = 0x00EE then some .ret else none
  | 0x1 => some .jump
  | 0x2 => some .call
  | 0x3 => some .skipEqualByte
  | 0x4 => some .skipUnequalByte
  | 0x5 => if w % 0x10 = 0x0 then some .skipEqual else none
  | 0x6 => some .setByte
  | 0x7 => some .addByte
  | 0x8 => ofArithmetic? (w % 0x10)
  | 0x9 => if w % 0x10 = 0x0 then some .skipUnequal else none
  | 0xA => some .setIndex
  | 0xB => some .jumpOffset
  | 0xC => some .random
  | 0xD => some .draw
  | 0xE => ofKeyTest? (w % 0x100)
  | 0xF => ofTransfer? (w % 0x100)
  | _ => none

variable {i : Instruction} {op : Opcode}

theorem div_raw (i : Instruction) : i.raw.toNat / 0x1000 = i.family.val :=
  i.family_val.symm

theorem mod_raw_digit (i : Instruction) : i.raw.toNat % 0x10 = i.n.val :=
  i.n_val.symm

theorem mod_raw_byte (i : Instruction) : i.raw.toNat % 0x100 = i.nn.toNat :=
  i.nn_toNat.symm

theorem hasForm_of_ofWord? (h : ofWord? i.raw.toNat = some op) : op.hasForm i := by
  unfold ofWord? at h
  rw [div_raw, mod_raw_digit, mod_raw_byte] at h
  split at h
  -- The named cases are the families 0, 5, 8, 9, E and F, where the first digit is not enough.
  case h_1 =>
    split at h
    · next hw =>
      cases h
      exact hw
    split at h
    · next hw =>
      cases h
      exact hw
    · cases h
  case h_6 hf =>
    split at h
    · next hn =>
      cases h
      exact ⟨hf, hn⟩
    · cases h
  case h_9 hf =>
    unfold ofArithmetic? at h
    split at h
    case h_10 => cases h
    all_goals
      next hn =>
        cases h
        exact ⟨hf, hn⟩
  case h_10 hf =>
    split at h
    · next hn =>
      cases h
      exact ⟨hf, hn⟩
    · cases h
  case h_15 hf =>
    unfold ofKeyTest? at h
    split at h
    case h_3 => cases h
    all_goals
      next hn =>
        cases h
        exact ⟨hf, hn⟩
  case h_16 hf =>
    unfold ofTransfer? at h
    split at h
    case h_10 => cases h
    all_goals
      next hn =>
        cases h
        exact ⟨hf, hn⟩
  case h_17 => cases h
  all_goals
    next hf =>
      cases h
      exact hf

theorem ofWord?_of_hasForm (h : op.hasForm i) : ofWord? i.raw.toNat = some op := by
  cases op with
  | clearScreen | ret =>
    change i.raw.toNat = _ at h
    rw [h]
    rfl
  | alu op =>
    obtain ⟨hf, hn⟩ := h
    simp only [ofWord?, div_raw, mod_raw_digit, hf, hn]
    cases op <;> rfl
  | skipEqual | skipUnequal =>
    obtain ⟨hf, hn⟩ := h
    simp only [ofWord?, div_raw, mod_raw_digit, hf, hn, if_true]
  | skipKeyDown | skipKeyUp =>
    obtain ⟨hf, hn⟩ := h
    simp only [ofWord?, div_raw, mod_raw_byte, hf, hn, ofKeyTest?]
  | getDelay | waitKey | setDelay | setSound | addIndex | glyph | decimal | dump | load =>
    obtain ⟨hf, hn⟩ := h
    simp only [ofWord?, div_raw, mod_raw_byte, hf, hn, ofTransfer?]
  | _ =>
    change i.family.val = _ at h
    simp only [ofWord?, div_raw, h]

/-- The grammar gives a word the operation of which it has the form. -/
theorem ofWord?_eq_some_iff : ofWord? i.raw.toNat = some op ↔ op.hasForm i :=
  ⟨hasForm_of_ofWord?, ofWord?_of_hasForm⟩

/-! ## The order of the rows -/

variable {rows : List OpcodeRow}

/-- Of rows that fit no common word one at most fits a word. -/
theorem countP_fits_le_one
    (hp : rows.Pairwise fun a b => a.pattern &&& b.mask ≠ b.pattern &&& a.mask) :
    (rows.countP fun r => i.fits r.mask r.pattern) ≤ 1 := by
  induction rows with
  | nil => exact Nat.zero_le 1
  | cons r rows ih =>
    rw [List.countP_cons]
    cases hf : i.fits r.mask r.pattern with
    | false =>
      rw [if_neg Bool.false_ne_true]
      exact ih hp.of_cons
    | true =>
      have hrest : (rows.countP fun r => i.fits r.mask r.pattern) = 0 := by
        refine List.countP_eq_zero.2 fun b hb => ?_
        rw [not_fits_rest hp hf b hb]
        exact Bool.false_ne_true
      exact Nat.le_of_eq (by rw [hrest, if_pos rfl])

/-- The rows of the table may stand in any order. -/
theorem find?_perm (h : rows.Perm table) (i : Instruction) : find? rows i = i.opcode? := by
  -- Being disjoint is symmetric, so it holds of the rows in any order.
  have hp : rows.Pairwise fun a b => a.pattern &&& b.mask ≠ b.pattern &&& a.mask :=
    h.symm.pairwise table_disjoint fun hab => Ne.symm hab
  refine Option.ext fun op => ?_
  rw [find?_eq_some_iff hp, Instruction.opcode?_eq_some_iff]
  simp only [h.mem_iff]

end Opcode

open Instruction (opcode?_eq_some_iff_hasForm)

/-- The table realises the grammar. -/
theorem Instruction.opcode?_eq_ofWord? (i : Instruction) :
    i.opcode? = Opcode.ofWord? i.raw.toNat := by
  refine Option.ext fun op => ?_
  rw [opcode?_eq_some_iff_hasForm, Opcode.ofWord?_eq_some_iff]

/-- **The table is the grammar**, in whatever order its rows stand: no two of them fit the
    same word, and the one that fits, if any does, names the operation that the grammar
    gives to the low sixteen bits of the word. -/
theorem dispatch_grammar (w : Int) :
    (Opcode.table.countP fun r => (Instruction.ofInt w).fits r.mask r.pattern) ≤ 1 ∧
    (∀ rows : List OpcodeRow, rows.Perm Opcode.table →
      Opcode.find? rows (.ofInt w) = (Instruction.ofInt w).opcode?) ∧
    (Instruction.ofInt w).opcode? = Opcode.ofWord? (w % 65536).toNat := by
  refine ⟨Opcode.countP_fits_le_one Opcode.table_disjoint,
    fun rows h => Opcode.find?_perm h _, ?_⟩
  rw [Instruction.opcode?_eq_ofWord?, ← Instruction.raw_ofInt_toNat, Int.toNat_natCast]

/-- A word below zero names the operation of the last row, also when that row stands first. -/
theorem last_row_first : Opcode.table.reverse.Perm Opcode.table ∧
    Opcode.find? Opcode.table.reverse (.ofInt (0xF165 - 65536)) = some .load := by
  obtain ⟨-, hperm, hgrammar⟩ := dispatch_grammar (0xF165 - 65536)
  have hreverse := List.reverse_perm Opcode.table
  refine ⟨hreverse, ?_⟩
  rw [hperm _ hreverse, hgrammar]
  rfl

end Chip8
