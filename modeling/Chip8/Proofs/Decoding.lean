/-
  Which words name which operation.

  * `table_disjoint`: two rows of the table never fit one word, so the order of
    the rows does not matter (`find?_eq_some_iff`) and a word names an operation
    iff it fits the row of that operation (`opcode?_eq_some_iff`);
  * `Opcode.hasForm` is the form of an operation's words, read off their digits;
    a word names the operation of its form (`opcode?_eq_some_iff_hasForm`);
  * `Instruction.ofDigits` is the word of four digits, and its digits are these;
    `Instruction.ofByte` that of two digits and a byte;
  * `Instruction.draws` are the words that clear the display or draw on it.
-/
import Chip8.Opcode

namespace Chip8

/-! ## Masks and digits -/

namespace Instruction

theorem fits_iff {i : Instruction} {mask pattern : Nat} :
    i.fits mask pattern = true ↔ i.raw.toNat &&& mask = pattern := by
  rw [fits, Bits.and_ofNat, beq_iff_eq, Int.natCast_inj]

/-- A mask acts on the first digit and on the rest of the word apart. -/
theorem and_mask {w mask : Nat} :
    w &&& mask = 4096 * (w / 4096 &&& mask / 4096) + (w % 4096 &&& mask % 4096) := by
  have hq : (w &&& mask) / 2 ^ 12 = w / 2 ^ 12 &&& mask / 2 ^ 12 := Nat.and_div_two_pow
  have hr : (w &&& mask) % 2 ^ 12 = (w % 2 ^ 12) &&& (mask % 2 ^ 12) := Nat.and_mod_two_pow
  simp only [Nat.reducePow] at hq hr
  omega

theorem and_family_ones {w : Nat} (h : w < 65536) : w / 4096 &&& 15 = w / 4096 := by
  have := Nat.and_two_pow_sub_one_eq_mod (w / 4096) 4
  simp only [Nat.reducePow, Nat.reduceSub] at this
  omega

/-- The mask of the whole word. -/
theorem fits_word {i : Instruction} {p : Nat} :
    i.fits 0xFFFF p = true ↔ i.raw.toNat = p := by
  have hw := i.raw.toNat_lt
  have hr := Nat.and_two_pow_sub_one_eq_mod (i.raw.toNat % 4096) 12
  simp only [Nat.reducePow, Nat.reduceSub] at hr
  rw [show (0xFFFF : Int) = (0xFFFF : Nat) from rfl, fits_iff, and_mask,
    show 0xFFFF / 4096 = 15 from rfl, show 0xFFFF % 4096 = 4095 from rfl, and_family_ones hw, hr]
  omega

/-- The mask of the first digit. -/
theorem fits_family {i : Instruction} {p : Nat} (hp : p % 4096 = 0) :
    i.fits 0xF000 p = true ↔ i.family.val = p / 4096 := by
  have hw := i.raw.toNat_lt
  rw [show (0xF000 : Int) = (0xF000 : Nat) from rfl, fits_iff, and_mask,
    show 0xF000 / 4096 = 15 from rfl, show 0xF000 % 4096 = 0 from rfl, and_family_ones hw,
    Nat.and_zero, family_val]
  omega

/-- The mask of the first and the last digit. -/
theorem fits_family_n {i : Instruction} {p : Nat} (hp : p % 4096 / 16 = 0) :
    i.fits 0xF00F p = true ↔ i.family.val = p / 4096 ∧ i.n.val = p % 16 := by
  have hw := i.raw.toNat_lt
  have hr := Nat.and_two_pow_sub_one_eq_mod (i.raw.toNat % 4096) 4
  simp only [Nat.reducePow, Nat.reduceSub] at hr
  rw [show (0xF00F : Int) = (0xF00F : Nat) from rfl, fits_iff, and_mask,
    show 0xF00F / 4096 = 15 from rfl, show 0xF00F % 4096 = 15 from rfl, and_family_ones hw, hr,
    family_val, n_val]
  omega

/-- The mask of the first digit and the last two. -/
theorem fits_family_nn {i : Instruction} {p : Nat} (hp : p % 4096 / 256 = 0) :
    i.fits 0xF0FF p = true ↔ i.family.val = p / 4096 ∧ i.nn.toNat = p % 256 := by
  have hw := i.raw.toNat_lt
  have hr := Nat.and_two_pow_sub_one_eq_mod (i.raw.toNat % 4096) 8
  simp only [Nat.reducePow, Nat.reduceSub] at hr
  rw [show (0xF0FF : Int) = (0xF0FF : Nat) from rfl, fits_iff, and_mask,
    show 0xF0FF / 4096 = 15 from rfl, show 0xF0FF % 4096 = 255 from rfl, and_family_ones hw, hr,
    family_val, nn_toNat]
  omega

end Instruction

/-! ## The rows of the table -/

namespace Opcode

/-- Two rows fit no common word: of the bits that both look at, some differ. -/
theorem table_disjoint :
    table.Pairwise fun a b => a.pattern &&& b.mask ≠ b.pattern &&& a.mask := by
  decide +kernel

theorem not_fits_both {a b : OpcodeRow} {i : Instruction}
    (h : a.pattern &&& b.mask ≠ b.pattern &&& a.mask)
    (hfa : i.fits a.mask a.pattern = true) : i.fits b.mask b.pattern = false := by
  rw [Instruction.fits_iff] at hfa
  refine Bool.eq_false_iff.2 ?_
  intro hfb
  refine h ?_
  rw [Instruction.fits_iff] at hfb
  rw [← hfa, ← hfb, Nat.and_assoc, Nat.and_assoc, Nat.and_comm a.mask]

/-- A word that fits the first of some disjoint rows fits none of the others. -/
theorem not_fits_rest {r : OpcodeRow} {rows : List OpcodeRow} {i : Instruction}
    (hp : (r :: rows).Pairwise fun a b => a.pattern &&& b.mask ≠ b.pattern &&& a.mask)
    (hf : i.fits r.mask r.pattern = true) : ∀ b ∈ rows, i.fits b.mask b.pattern = false := by
  intro b hb
  exact not_fits_both (List.rel_of_pairwise_cons hp hb) hf

/-- Among disjoint rows, which one comes first does not matter. -/
theorem find?_eq_some_iff {rows : List OpcodeRow} {i : Instruction} {op : Opcode}
    (hp : rows.Pairwise fun a b => a.pattern &&& b.mask ≠ b.pattern &&& a.mask) :
    find? rows i = some op ↔ ∃ r ∈ rows, r.opcode = op ∧ i.fits r.mask r.pattern = true := by
  induction rows with
  | nil => simp [find?]
  | cons r rows ih =>
    cases hf : i.fits r.mask r.pattern with
    | false =>
      have hskip : find? (r :: rows) i = find? rows i := by simp [find?, hf]
      rw [hskip, ih hp.of_cons]
      constructor
      · rintro ⟨b, hb, h⟩
        exact ⟨b, List.mem_cons_of_mem _ hb, h⟩
      · rintro ⟨b, hb, hop, hfb⟩
        rcases List.mem_cons.1 hb with rfl | hb
        · rw [hf] at hfb
          cases hfb
        · exact ⟨b, hb, hop, hfb⟩
    | true =>
      have hrest := not_fits_rest hp hf
      have hfirst : find? (r :: rows) i = some r.opcode := by simp [find?, hf]
      rw [hfirst, Option.some.injEq]
      constructor
      · intro h
        exact ⟨r, List.mem_cons_self .., h, hf⟩
      · rintro ⟨b, hb, hop, hfb⟩
        rcases List.mem_cons.1 hb with rfl | hb
        · exact hop
        · rw [hrest b hb] at hfb
          cases hfb

end Opcode

namespace Instruction

/-- A word names an operation iff it fits the row of that operation. -/
theorem opcode?_eq_some_iff {i : Instruction} {op : Opcode} :
    i.opcode? = some op ↔
      ∃ r ∈ Opcode.table, r.opcode = op ∧ i.fits r.mask r.pattern = true :=
  Opcode.find?_eq_some_iff Opcode.table_disjoint

end Instruction

/-! ## The form of an operation's words -/

/-- Whether a word has the form of an operation, read off its digits. -/
def Opcode.hasForm (op : Opcode) (i : Instruction) : Prop :=
  match op with
  | .clearScreen => i.raw.toNat = 0x00E0
  | .ret => i.raw.toNat = 0x00EE
  | .jump => i.family.val = 0x1
  | .call => i.family.val = 0x2
  | .skipEqualByte => i.family.val = 0x3
  | .skipUnequalByte => i.family.val = 0x4
  | .skipEqual => i.family.val = 0x5 ∧ i.n.val = 0
  | .setByte => i.family.val = 0x6
  | .addByte => i.family.val = 0x7
  | .alu op => i.family.val = 0x8 ∧ i.n.val = op.code
  | .skipUnequal => i.family.val = 0x9 ∧ i.n.val = 0
  | .setIndex => i.family.val = 0xA
  | .jumpOffset => i.family.val = 0xB
  | .random => i.family.val = 0xC
  | .draw => i.family.val = 0xD
  | .skipKeyDown => i.family.val = 0xE ∧ i.nn.toNat = 0x9E
  | .skipKeyUp => i.family.val = 0xE ∧ i.nn.toNat = 0xA1
  | .getDelay => i.family.val = 0xF ∧ i.nn.toNat = 0x07
  | .waitKey => i.family.val = 0xF ∧ i.nn.toNat = 0x0A
  | .setDelay => i.family.val = 0xF ∧ i.nn.toNat = 0x15
  | .setSound => i.family.val = 0xF ∧ i.nn.toNat = 0x18
  | .addIndex => i.family.val = 0xF ∧ i.nn.toNat = 0x1E
  | .glyph => i.family.val = 0xF ∧ i.nn.toNat = 0x29
  | .decimal => i.family.val = 0xF ∧ i.nn.toNat = 0x33
  | .dump => i.family.val = 0xF ∧ i.nn.toNat = 0x55
  | .load => i.family.val = 0xF ∧ i.nn.toNat = 0x65

namespace Opcode

theorem exists_row (op : Opcode) : ∃ r ∈ table, r.opcode = op := by
  have h : op ∈ table.map OpcodeRow.opcode := by
    cases op with
    | alu op => cases op <;> decide
    | _ => decide
  exact List.mem_map.1 h

open Instruction in
/-- The words that fit a row are those of the form of its operation. -/
theorem fits_iff_hasForm {i : Instruction} :
    ∀ r ∈ table, i.fits r.mask r.pattern = true ↔ r.opcode.hasForm i := by
  simp only [table, aluRows, AluOp.all, List.map_cons, List.map_nil, List.forall_mem_cons,
    List.cons_append, List.nil_append]
  exact ⟨fits_word, fits_word, fits_family rfl, fits_family rfl, fits_family rfl, fits_family rfl,
    fits_family_n rfl, fits_family rfl, fits_family rfl, fits_family_n rfl, fits_family_n rfl,
    fits_family_n rfl, fits_family_n rfl, fits_family_n rfl, fits_family_n rfl, fits_family_n rfl,
    fits_family_n rfl, fits_family_n rfl, fits_family_n rfl, fits_family rfl, fits_family rfl,
    fits_family rfl, fits_family rfl, fits_family_nn rfl, fits_family_nn rfl, fits_family_nn rfl,
    fits_family_nn rfl, fits_family_nn rfl, fits_family_nn rfl, fits_family_nn rfl,
    fits_family_nn rfl, fits_family_nn rfl, fits_family_nn rfl, fits_family_nn rfl, nofun⟩

end Opcode

/-- **A word names an operation iff it has its form.** -/
theorem Instruction.opcode?_eq_some_iff_hasForm {i : Instruction} {op : Opcode} :
    i.opcode? = some op ↔ op.hasForm i := by
  rw [opcode?_eq_some_iff]
  constructor
  · rintro ⟨r, hr, rfl, hf⟩
    exact (Opcode.fits_iff_hasForm r hr).1 hf
  · intro h
    obtain ⟨r, hr, rfl⟩ := op.exists_row
    exact ⟨r, hr, rfl, (Opcode.fits_iff_hasForm r hr).2 h⟩

theorem Instruction.opcode?_eq_call_iff {i : Instruction} :
    i.opcode? = some .call ↔ i.family.val = 2 :=
  opcode?_eq_some_iff_hasForm

theorem Instruction.opcode?_eq_ret_iff {i : Instruction} :
    i.opcode? = some .ret ↔ i.raw.toNat = 0x00EE :=
  opcode?_eq_some_iff_hasForm

/-! ## Words written in digits -/

namespace Instruction

/-- The word of four digits. -/
def ofDigits (family x y n : Nibble) : Instruction :=
  ofInt (4096 * family.val + 256 * x.val + 16 * y.val + n.val : Nat)

variable (f x y n : Nibble)

theorem raw_ofDigits :
    (ofDigits f x y n).raw.toNat = 4096 * f.val + 256 * x.val + 16 * y.val + n.val := by
  have h := raw_ofInt_toNat (4096 * f.val + 256 * x.val + 16 * y.val + n.val : Nat)
  unfold ofDigits
  omega

@[simp] theorem family_ofDigits : (ofDigits f x y n).family = f := by
  ext
  rw [family_val, raw_ofDigits]
  omega

@[simp] theorem x_ofDigits : (ofDigits f x y n).x = x := by
  ext
  rw [x_val, raw_ofDigits]
  omega

@[simp] theorem y_ofDigits : (ofDigits f x y n).y = y := by
  ext
  rw [y_val, raw_ofDigits]
  omega

@[simp] theorem n_ofDigits : (ofDigits f x y n).n = n := by
  ext
  rw [n_val, raw_ofDigits]
  omega

@[simp] theorem nn_ofDigits : (ofDigits f x y n).nn.toNat = 16 * y.val + n.val := by
  rw [nn_eq_digits, y_ofDigits, n_ofDigits]

theorem form_ofDigits :
    (ofDigits f x y n).family.val = f.val ∧ (ofDigits f x y n).nn.toNat = 16 * y.val + n.val :=
  ⟨congrArg Fin.val (family_ofDigits f x y n), nn_ofDigits f x y n⟩

/-- The word of two digits and a byte. -/
def ofByte (family x : Nibble) (nn : UInt8) : Instruction :=
  ofDigits family x (.ofNat (nn.toNat / 16)) (.ofNat nn.toNat)

variable (b : UInt8)

@[simp] theorem family_ofByte : (ofByte f x b).family = f := family_ofDigits ..

@[simp] theorem x_ofByte : (ofByte f x b).x = x := x_ofDigits ..

@[simp] theorem nn_ofByte : (ofByte f x b).nn = b := by
  have hb := b.toNat_lt
  refine UInt8.toNat_inj.1 ?_
  rw [ofByte, nn_ofDigits, Nibble.ofNat_val, Nibble.ofNat_val]
  omega

end Instruction

/-! ## Words that draw -/

/-- Whether a word clears the display or draws on it. -/
def Instruction.draws (i : Instruction) : Bool :=
  match i.opcode? with
  | some .clearScreen | some .draw => true
  | _ => false

theorem Instruction.draws_iff {i : Instruction} :
    i.draws = true ↔ i.raw.toNat = 0x00E0 ∨ i.family.val = 0xD := by
  have hc : i.opcode? = some .clearScreen ↔ i.raw.toNat = 0x00E0 := opcode?_eq_some_iff_hasForm
  have hd : i.opcode? = some .draw ↔ i.family.val = 0xD := opcode?_eq_some_iff_hasForm
  rw [← hc, ← hd, draws]
  split <;> simp_all

end Chip8
