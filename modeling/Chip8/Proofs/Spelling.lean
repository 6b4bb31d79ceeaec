/-
  Texts that say what they were written from.

  * `Spelling write alphabet`: different values are written differently, with the
    characters of an alphabet;
  * a character outside the alphabet marks where such a text ends, so that the value and
    what follows can be told (`Spelling.append_inj`); between the texts of a list it tells
    the members (`intercalate_inj`);
  * `hexValue` reads hexadecimal digits back, zeros in front or not;
  * `spelling_hex` and `spelling_decimal`: numbers in hexadecimal, of any least width, and
    in decimal.
-/
import Chip8.Text.Number

namespace Chip8.Text

/-- Different values are written differently, with the characters of an alphabet. -/
structure Spelling {α : Type} (write : α → List Char) (alphabet : List Char) : Prop where
  inj : ∀ {a b : α}, write a = write b → a = b
  mem : ∀ {a : α} {c : Char}, c ∈ write a → c ∈ alphabet

/-! ## Ends of texts -/

/-- Behind texts without a mark its first place tells them from what follows. -/
theorem append_mark_inj {mark : Char} {xs ys as bs : List Char} (hx : mark ∉ xs)
    (hy : mark ∉ ys) (h : xs ++ mark :: as = ys ++ mark :: bs) : xs = ys ∧ as = bs := by
  have hplace := congrArg (List.idxOf mark) h
  rw [List.idxOf_append, List.idxOf_append, if_neg hx, if_neg hy, List.idxOf_cons_self,
    List.idxOf_cons_self, Nat.zero_add, Nat.zero_add] at hplace
  obtain ⟨hxy, hrest⟩ := List.append_inj h hplace
  exact ⟨hxy, (List.cons.inj hrest).2⟩

/-- A label that begins outside the alphabet ends a text. -/
theorem Spelling.append_inj {α : Type} {write : α → List Char} {alphabet : List Char}
    (hw : Spelling write alphabet) {mark : Char} (hmark : mark ∉ alphabet) {label : List Char}
    (hlabel : label.head? = some mark) {a b : α} {as bs : List Char}
    (h : write a ++ (label ++ as) = write b ++ (label ++ bs)) : a = b ∧ as = bs := by
  obtain ⟨rest, rfl⟩ := List.head?_eq_some_iff.1 hlabel
  have ha : mark ∉ write a := fun hm => hmark (hw.mem hm)
  have hb : mark ∉ write b := fun hm => hmark (hw.mem hm)
  obtain ⟨hab, hrest⟩ := append_mark_inj ha hb h
  exact ⟨hw.inj hab, List.append_cancel_left hrest⟩

/-- Marks between texts tell them apart, if none is empty. -/
theorem intercalate_inj {mark : Char} {as bs : List (List Char)}
    (ha : ∀ l ∈ as, mark ∉ l ∧ l ≠ []) (hb : ∀ l ∈ bs, mark ∉ l ∧ l ≠ [])
    (h : [mark].intercalate as = [mark].intercalate bs) : as = bs := by
  have hsplit : ∀ {ls : List (List Char)}, (∀ l ∈ ls, mark ∉ l ∧ l ≠ []) → ls ≠ [] →
      ([mark].intercalate ls).splitOn mark = ls :=
    fun hls hne => List.splitOn_intercalate mark (fun l hl => (hls l hl).1) hne
  have hnil : ∀ {ls : List (List Char)}, (∀ l ∈ ls, mark ∉ l ∧ l ≠ []) →
      [mark].intercalate ls = [] → ls = [] := by
    intro ls hls hempty
    refine Decidable.byContradiction fun hne => ?_
    have hone := hsplit hls hne
    rw [hempty, List.splitOn_nil] at hone
    exact (hls [] (hone ▸ List.mem_singleton_self _)).2 rfl
  by_cases hane : as = []
  · subst hane
    exact (hnil hb h.symm).symm
  by_cases hbne : bs = []
  · subst hbne
    exact absurd (hnil ha h) hane
  rw [← hsplit ha hane, h, hsplit hb hbne]

theorem mem_intercalate {mark c : Char} {ls : List (List Char)}
    (h : c ∈ [mark].intercalate ls) : c = mark ∨ ∃ l ∈ ls, c ∈ l := by
  induction ls with
  | nil => cases h
  | cons l ls ih =>
    cases ls with
    | nil => exact .inr ⟨l, List.mem_cons_self .., by simpa using h⟩
    | cons l' ls =>
      rw [List.intercalate_cons_cons, List.mem_append, List.mem_append, List.mem_singleton] at h
      rcases h with (hl | hmark) | hls
      · exact .inr ⟨l, List.mem_cons_self .., hl⟩
      · exact .inl hmark
      · rcases ih hls with hmark | ⟨k, hk, hc⟩
        · exact .inl hmark
        · exact .inr ⟨k, List.mem_cons_of_mem _ hk, hc⟩

/-! ## Digits -/

/-- The digits of numbers. -/
def digitChars : List Char := "0123456789ABCDEF".toList

/-- The number that a digit stands for. -/
def digitValue (c : Char) : Nat := if c.toNat < 58 then c.toNat - 48 else c.toNat - 55

/-- The number of some hexadecimal digits. -/
def hexValue (cs : List Char) : Nat := cs.foldl (fun v c => 16 * v + digitValue c) 0

theorem digitValue_hexDigit : ∀ d : Fin 16, digitValue (hexDigit d.val) = d.val := by
  decide

theorem hexDigit_mem : ∀ d : Fin 16, hexDigit d.val ∈ digitChars := by
  decide

theorem hexValue_hexDigits (n : Nat) : hexValue (hexDigits n) = n := by
  induction n using Nat.strongRecOn with
  | ind n ih =>
    rw [hexDigits]
    split
    · next h => exact (Nat.zero_add _).trans (digitValue_hexDigit ⟨n, h⟩)
    · next h =>
      have hdigit := digitValue_hexDigit ⟨n % 16, Nat.mod_lt n (by decide)⟩
      have hrest : (hexDigits (n / 16)).foldl (fun v c => 16 * v + digitValue c) 0 = n / 16 :=
        ih (n / 16) (by omega)
      rw [hexValue, List.foldl_append, hrest, List.foldl_cons, List.foldl_nil, hdigit]
      exact Nat.div_add_mod n 16

/-- Zeros in front of the digits do not count. -/
theorem hexValue_leftpad (width : Nat) (cs : List Char) :
    hexValue (cs.leftpad width '0') = hexValue cs := by
  have hzeros : ∀ k, (List.replicate k '0').foldl (fun v c => 16 * v + digitValue c) 0 = 0 := by
    intro k
    induction k with
    | zero => rfl
    | succ k ih => exact ih
  rw [hexValue, List.leftpad, List.foldl_append, hzeros, hexValue]

theorem mem_hexDigits {n : Nat} {c : Char} (h : c ∈ hexDigits n) : c ∈ digitChars := by
  induction n using Nat.strongRecOn with
  | ind n ih =>
    rw [hexDigits] at h
    split at h
    · next hn =>
      rw [List.mem_singleton.1 h]
      exact hexDigit_mem ⟨n, hn⟩
    · rcases List.mem_append.1 h with h | h
      · exact ih (n / 16) (by omega) h
      · rw [List.mem_singleton.1 h]
        exact hexDigit_mem ⟨n % 16, Nat.mod_lt n (by decide)⟩

theorem spelling_hexDigits (width : Nat) :
    Spelling (fun n => (hexDigits n).leftpad width '0') digitChars where
  inj {m n} h := by
    have hvalue := congrArg hexValue h
    rwa [hexValue_leftpad, hexValue_leftpad, hexValue_hexDigits, hexValue_hexDigits] at hvalue
  mem {n c} h := by
    rcases List.mem_append.1 h with h | h
    · rw [List.eq_of_mem_replicate h]
      decide
    · exact mem_hexDigits h

theorem mem_digitChars_of_isDigit {c : Char} (h : c.isDigit = true) : c ∈ digitChars := by
  simp only [Char.isDigit, Bool.and_eq_true, decide_eq_true_eq] at h
  have h0 : 48 ≤ c.toNat := UInt32.le_iff_toNat_le.1 h.1
  have h9 : c.toNat ≤ 57 := UInt32.le_iff_toNat_le.1 h.2
  have hdigit : hexDigit (c.toNat - 48) = c := by
    rw [hexDigit, if_pos (by omega), Nat.add_sub_cancel' h0, Char.ofNat_toNat]
  exact hdigit ▸ hexDigit_mem ⟨c.toNat - 48, by omega⟩

theorem spelling_digits : Spelling digits digitChars where
  inj {m n} h := by
    have hvalue := congrArg (Nat.ofDigitChars 10 · 0) h
    rwa [digits, digits, Nat.ofDigitChars_ten_toDigits, Nat.ofDigitChars_ten_toDigits] at hvalue
  mem h := mem_digitChars_of_isDigit (Nat.isDigit_of_mem_toDigits (by decide) (by decide) h)

/-! ## Numbers with a sign -/

/-- The characters of numbers. -/
def numberChars : List Char := '-' :: digitChars

/-- Digits behind a sign for numbers below zero, and alone for all others. -/
theorem Spelling.signed {write : Int → List Char} {plain minus : Nat → List Char}
    (hplain : Spelling plain digitChars) (hminus : Spelling minus digitChars)
    (hnat : ∀ n : Nat, write n = plain n)
    (hneg : ∀ n : Nat, write (.negSucc n) = '-' :: minus (n + 1)) :
    Spelling write numberChars where
  inj {v w} h := by
    have hsign : ∀ {m n : Nat}, plain m ≠ '-' :: minus n := by
      intro m n hmn
      have hmem : '-' ∈ plain m := hmn ▸ List.mem_cons_self ..
      exact absurd (hplain.mem hmem) (by decide)
    cases v with
    | ofNat m =>
      cases w with
      | ofNat n => exact congrArg _ (hplain.inj ((hnat m).symm.trans (h.trans (hnat n))))
      | negSucc n => exact absurd ((hnat m).symm.trans (h.trans (hneg n))) hsign
    | negSucc m =>
      cases w with
      | ofNat n => exact absurd ((hnat n).symm.trans (h.symm.trans (hneg m))) hsign
      | negSucc n =>
        have hdigits := (hneg m).symm.trans (h.trans (hneg n))
        exact congrArg _ (Nat.succ.inj (hminus.inj (List.cons.inj hdigits).2))
  mem {v c} h := by
    cases v with
    | ofNat n => exact List.mem_cons_of_mem _ (hplain.mem (hnat n ▸ h))
    | negSucc n =>
      rw [hneg] at h
      rcases List.mem_cons.1 h with rfl | h
      · exact List.mem_cons_self ..
      · exact List.mem_cons_of_mem _ (hminus.mem h)

theorem spelling_hex (width : Nat) : Spelling (hex width) numberChars :=
  .signed (spelling_hexDigits width) (spelling_hexDigits (width - 1)) (fun _ => rfl) fun _ => rfl

theorem spelling_decimal : Spelling decimal numberChars :=
  .signed spelling_digits spelling_digits (fun _ => rfl) fun _ => rfl

theorem le_length_hex (width : Nat) (v : Int) : width ≤ (hex width v).length := by
  cases v with
  | ofNat n =>
    rw [hex, List.length_leftpad]
    exact Nat.le_max_left ..
  | negSucc n =>
    rw [hex, List.length_cons, List.length_leftpad]
    omega

end Chip8.Text
