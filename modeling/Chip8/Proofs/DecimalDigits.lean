/-
  The decimal digits of a register.

  * `AreDigits v a b c`: three bytes are digits, and the number they write, highest first,
    is `v`;
  * `areDigits_decimalDigits`: the bytes that the conversion stores are the digits of the
    register (`Stores.areDigits`);
  * `digits_loaded`: in memory they replace nothing else, and a load into V0 to V2 finds them
    there, also where it overwrites the register they come from.
-/
import Chip8.Proofs.Transfer

namespace Chip8

open Instruction (opcode?_eq_some_iff_hasForm ofDigits)

/-- Three bytes are the decimal digits of a number, highest first. -/
structure AreDigits (v : Nat) (a b c : UInt8) : Prop where
  hundreds : a.toNat ≤ 9
  tens : b.toNat ≤ 9
  ones : c.toNat ≤ 9
  value : 100 * a.toNat + 10 * b.toNat + c.toNat = v

namespace Machine

variable {m t u : Machine} {x : Nibble}

theorem areDigits_decimalDigits (v : UInt8) :
    AreDigits v.toNat (v / 100) (v / 10 % 10) (v % 10) := by
  have hv := v.toNat_lt
  have hhundreds : (v / 100).toNat = v.toNat / 100 := UInt8.toNat_div v 100
  have htens : (v / 10 % 10).toNat = v.toNat / 10 % 10 := by
    rw [UInt8.toNat_mod, UInt8.toNat_div]
    rfl
  have hones : (v % 10).toNat = v.toNat % 10 := UInt8.toNat_mod v 10
  constructor <;> omega

/-- Digits that are stored can be read off memory. -/
theorem Stores.areDigits {v : UInt8} (ht : m.Stores (decimalDigits v) t) :
    AreDigits v.toNat (t.memory.byte m.index.toNat) (t.memory.byte (m.index.toNat + 1))
      (t.memory.byte (m.index.toNat + 2)) := by
  have hhundreds := ht.bytes 0 _ rfl
  have htens := ht.bytes 1 _ rfl
  have hones := ht.bytes 2 _ rfl
  rw [Nat.add_zero] at hhundreds
  rw [hhundreds, htens, hones]
  exact areDigits_decimalDigits v

theorem hasForm_decimal (x : Nibble) : Opcode.decimal.hasForm (ofDigits 0xF x 3 3) :=
  Instruction.form_ofDigits 0xF x 3 3

theorem exec_decimal (hindex : m.index.toNat + 3 ≤ 4096) (hpc : m.pc.toNat + 2 ≤ 65535) :
    ∃ t, m.exec (ofDigits 0xF x 3 3) = .ok t ∧ m.Stores (decimalDigits (m.reg x)) t := by
  have ho := opcode?_eq_some_iff_hasForm.2 (hasForm_decimal x)
  have hstores := exec_stores (m := m) (.inl ho)
  simp only [Instruction.storeCount, stored, ho, Instruction.x_ofDigits] at hstores
  exact hstores hindex hpc

/-- **The digits of a register, in memory and back**: the conversion stores the three decimal
    digits of VX from the index on and changes no other byte and no register; a load of V0 to
    V2 behind it finds them there, so that these registers write what VX held. -/
theorem digits_loaded {m : Machine} {x : Nibble} (hindex : m.index.toNat + 3 ≤ 4096)
    (hpc : m.pc.toNat + 2 ≤ 65535) :
    ∃ t, m.exec (ofDigits 0xF x 3 3) = .ok t ∧
      AreDigits (m.reg x).toNat (t.memory.byte m.index.toNat)
        (t.memory.byte (m.index.toNat + 1)) (t.memory.byte (m.index.toNat + 2)) ∧
      (∀ a, a < m.index.toNat ∨ m.index.toNat + 3 ≤ a →
        t.memory.byte a = m.memory.byte a) ∧
      t = { m with memory := t.memory, pc := t.pc } ∧
      (m.pc.toNat + 4 ≤ 65535 →
        ∃ u, t.exec (ofDigits 0xF 2 6 5) = .ok u ∧
          u.reg 0 = t.memory.byte m.index.toNat ∧
          u.reg 1 = t.memory.byte (m.index.toNat + 1) ∧
          u.reg 2 = t.memory.byte (m.index.toNat + 2) ∧
          (∀ j, 2 < j → u.reg j = m.reg j) ∧ u.memory = t.memory ∧
          AreDigits (m.reg x).toNat (u.reg 0) (u.reg 1) (u.reg 2)) := by
  obtain ⟨t, hok, ht⟩ := exec_decimal (x := x) hindex hpc
  refine ⟨t, hok, ht.areDigits, ht.elsewhere, ht.rest, fun hroom => ?_⟩
  have hsame : t.index = m.index := by rw [ht.rest]
  have hnext := ht.pc
  have hroom' : t.pc.toNat + 2 ≤ 65535 := by omega
  obtain ⟨u, hok', hu⟩ := exec_load (x := 2) (hsame ▸ hindex) hroom'
  have h0 := hu.bytes 0 (by decide)
  have h1 := hu.bytes 1 (by decide)
  have h2 := hu.bytes 2 (by decide)
  rw [hsame] at h0 h1 h2
  have habove : ∀ j, 2 < j → u.reg j = m.reg j := by
    intro j hj
    rw [hu.above j hj, ht.rest]
    rfl
  refine ⟨u, hok', h0, h1, h2, habove, by rw [hu.rest], ?_⟩
  rw [h0, h1, h2]
  exact ht.areDigits

/-- The digits of V1 in the last three bytes of memory, of which the second is loaded over
    it. -/
theorem digits_over_source : ∃ m t u : Machine, m.index = 0xFFD ∧ m.pc = 0xFFFB ∧
    m.reg 1 = 254 ∧ m.exec (ofDigits 0xF 1 3 3) = .ok t ∧ t.exec (ofDigits 0xF 2 6 5) = .ok u ∧
    u.reg 0 = 2 ∧ u.reg 1 = 5 ∧ u.reg 2 = 4 := by
  obtain ⟨m, hm⟩ : ∃ m : Machine,
      m = { initial (.ofSeed 0) with index := 0xFFD, pc := 0xFFFB }.setReg 1 254 := ⟨_, rfl⟩
  have hindex : m.index = 0xFFD := by rw [hm]; rfl
  have hpc : m.pc = 0xFFFB := by rw [hm]; rfl
  have hreg : m.reg 1 = 254 := by rw [hm, reg_setReg, if_pos rfl]
  obtain ⟨t, ht, -, -, -, hload⟩ :=
    @digits_loaded m 1 (by rw [hindex]; decide) (by rw [hpc]; decide)
  obtain ⟨u, hu, -, -, -, -, -, hundreds, htens, hones, hvalue⟩ := hload (by rw [hpc]; decide)
  have hv : (m.reg 1).toNat = 254 := by rw [hreg]; rfl
  have h0 : (u.reg 0).toNat = 2 := by omega
  have h1 : (u.reg 1).toNat = 5 := by omega
  have h2 : (u.reg 2).toNat = 4 := by omega
  exact ⟨m, t, u, hindex, hpc, hreg, ht, hu, UInt8.toNat_inj.1 h0, UInt8.toNat_inj.1 h1,
    UInt8.toNat_inj.1 h2⟩

end Machine

end Chip8
