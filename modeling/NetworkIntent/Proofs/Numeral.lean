import Mathlib.Data.Nat.Digits.Defs
import Mathlib.Data.List.Lex
import NetworkIntent.Text.Numeral

/-!
# Numerals read back

Numerals that are filled up with zeros to one width are ordered as their numbers are, and so are
texts that are made of such parts. A numeral is read back as its number, in any base whose digits
have a value each.

## Main results

* `padZeros_inj`, `padZeros_lt_iff`: filled numerals are equal and ordered as their numbers.
* `exists_values_toDigits`: the digits of a number have values, which make up the number.
* `readUnsigned?_toDigits`: a numeral is read back as a bounded number.
-/

set_option autoImplicit false

namespace NetworkIntent

/-! ## The order of texts in parts -/

/-- Of two texts whose first parts have the same length, the first parts are compared first. -/
theorem append_lt_append_iff {as bs : List Char} (h : as.length = bs.length) (cs ds : List Char) :
    as ++ cs < bs ++ ds ↔ as < bs ∨ as = bs ∧ cs < ds := by
  induction as generalizing bs with
  | nil =>
    obtain rfl := List.length_eq_zero_iff.mp h.symm
    simp
  | cons a as ih =>
    cases bs with
    | nil => cases h
    | cons b bs =>
      have htail := ih (Nat.succ.inj h)
      simp only [List.cons_append, List.cons_lt_cons_iff, htail, List.cons.injEq]
      tauto

/-! ## Filled numerals -/

section Filled

variable {width n m : Nat}

/-- The zeros before a numeral do not count. -/
theorem ofDigitChars_padZeros (width n : Nat) :
    Nat.ofDigitChars 10 (padZeros width (Nat.toDigits 10 n)) 0 = n := by
  rw [padZeros, Nat.ofDigitChars_append, Nat.ofDigitChars_replicate_zero, Nat.mul_zero,
    Nat.ofDigitChars_ten_toDigits]

/-- Filled numerals are equal only for equal numbers. -/
theorem padZeros_inj :
    padZeros width (Nat.toDigits 10 n) = padZeros width (Nat.toDigits 10 m) ↔ n = m := by
  constructor
  · intro h
    rw [← ofDigitChars_padZeros width n, h, ofDigitChars_padZeros]
  · intro h
    rw [h]

/-- A number of few digits fills up the width. -/
theorem length_padZeros (hwidth : 0 < width) (h : n < 10 ^ width) :
    (padZeros width (Nat.toDigits 10 n)).length = width := by
  have hle := (Nat.length_toDigits_le_iff (by decide) hwidth).mpr h
  rw [padZeros, List.length_append, List.length_replicate]
  omega

/-- The last digit of a filled numeral comes after the filled numeral of the tenth. -/
theorem padZeros_succ (hwidth : 0 < width) (n : Nat) :
    padZeros (width + 1) (Nat.toDigits 10 n) =
      padZeros width (Nat.toDigits 10 (n / 10)) ++ [Nat.digitChar (n % 10)] := by
  obtain ⟨width, rfl⟩ : ∃ fewer, width = fewer + 1 := ⟨width - 1, by omega⟩
  by_cases h : n < 10
  · have hzero : n / 10 = 0 := by omega
    rw [Nat.toDigits_of_lt_base h, hzero, Nat.mod_eq_of_lt h, Nat.toDigits_zero]
    simp [padZeros, List.replicate_succ']
  · rw [Nat.toDigits_of_base_le (by decide) (by omega)]
    simp [padZeros]

/-- **Filled numerals are ordered as their numbers are.** -/
theorem padZeros_lt_iff (hwidth : 0 < width) (hn : n < 10 ^ width) (hm : m < 10 ^ width) :
    padZeros width (Nat.toDigits 10 n) < padZeros width (Nat.toDigits 10 m) ↔ n < m := by
  have hdigits : ∀ a < 10, ∀ b < 10, ([Nat.digitChar a] < [Nat.digitChar b] ↔ a < b) := by decide
  induction width generalizing n m with
  | zero => omega
  | succ width ih =>
    rcases Nat.eq_zero_or_pos width with rfl | hpos
    · simp only [Nat.zero_add, Nat.pow_one] at hn hm
      rw [Nat.toDigits_of_lt_base hn, Nat.toDigits_of_lt_base hm]
      exact hdigits n hn m hm
    · have htenth : ∀ k, k < 10 ^ (width + 1) → k / 10 < 10 ^ width := by
        intro k hk
        rw [Nat.pow_succ] at hk
        omega
      have hlength : (padZeros width (Nat.toDigits 10 (n / 10))).length =
          (padZeros width (Nat.toDigits 10 (m / 10))).length := by
        rw [length_padZeros hpos (htenth n hn), length_padZeros hpos (htenth m hm)]
      have hfront : padZeros width (Nat.toDigits 10 (n / 10)) <
          padZeros width (Nat.toDigits 10 (m / 10)) ↔ n / 10 < m / 10 :=
        ih hpos (htenth n hn) (htenth m hm)
      have hlast := hdigits (n % 10) (by omega) (m % 10) (by omega)
      rw [padZeros_succ hpos, padZeros_succ hpos, append_lt_append_iff hlength, padZeros_inj, hlast,
        hfront]
      omega

/-- A filled numeral has nothing but digits. -/
theorem isDigit_of_mem_padZeros {c : Char} (h : c ∈ padZeros width (Nat.toDigits 10 n)) :
    c.isDigit = true := by
  rcases List.mem_append.mp h with h | h
  · rw [List.eq_of_mem_replicate h]
    rfl
  · exact Nat.isDigit_of_mem_toDigits (by decide) (by decide) h

end Filled

/-! ## Reading -/

/-- The digits of a number are characters for digits of the base. -/
theorem exists_of_mem_toDigits {base n : Nat} {c : Char} (hbase : 1 < base)
    (h : c ∈ Nat.toDigits base n) : ∃ d < base, c = Nat.digitChar d := by
  induction n using Nat.strongRecOn with
  | ind n ih =>
    by_cases hn : n < base
    · rw [Nat.toDigits_of_lt_base hn] at h
      exact ⟨n, hn, List.mem_singleton.mp h⟩
    · have hle : base ≤ n := by omega
      rw [Nat.toDigits_of_base_le hbase hle] at h
      rcases List.mem_append.mp h with h | h
      · exact ih (n / base) (Nat.div_lt_self (by omega) hbase) h
      · exact ⟨n % base, Nat.mod_lt n (by omega), List.mem_singleton.mp h⟩

section Reading

variable {value : Char → Option Nat} {base : Nat}

/-- The digits of a number have values, which make up the number. -/
theorem exists_values_toDigits (hbase : 1 < base)
    (hvalue : ∀ d < base, value (Nat.digitChar d) = some d) (n : Nat) :
    ∃ digits, (Nat.toDigits base n).map value = digits.map some ∧ ofDigits base digits = n := by
  induction n using Nat.strongRecOn with
  | ind n ih =>
    by_cases hn : n < base
    · refine ⟨[n], ?_, ?_⟩
      · rw [Nat.toDigits_of_lt_base hn, List.map_singleton, hvalue n hn, List.map_singleton]
      · simp [ofDigits]
    · have hle : base ≤ n := by omega
      obtain ⟨digits, hmap, hdigits⟩ := ih (n / base) (Nat.div_lt_self (by omega) hbase)
      refine ⟨digits ++ [n % base], ?_, ?_⟩
      · rw [Nat.toDigits_of_base_le hbase hle, List.map_append, List.map_append, hmap,
          List.map_singleton, List.map_singleton, hvalue _ (Nat.mod_lt n (by omega))]
      · unfold ofDigits at hdigits ⊢
        rw [List.foldl_append, hdigits]
        exact Nat.div_add_mod' n base

end Reading

/-- A number that is not zero does not start with a zero. -/
theorem head?_toDigits_ne {n : Nat} (h : n ≠ 0) : (Nat.toDigits 10 n).head? ≠ some '0' := by
  have hdigit : ∀ d < 10, d ≠ 0 → Nat.digitChar d ≠ '0' := by decide
  induction n using Nat.strongRecOn with
  | ind n ih =>
    by_cases hn : n < 10
    · rw [Nat.toDigits_of_lt_base hn, List.head?_cons]
      exact fun heq => hdigit n hn h (Option.some.inj heq)
    · rw [Nat.toDigits_of_base_le (by decide) (by omega),
        List.head?_append_of_ne_nil _ Nat.toDigits_ne_nil]
      exact ih (n / 10) (by omega) (by omega)

/-- A decimal digit has its value. -/
theorem digitValue?_digitChar : ∀ d < 10, digitValue? (Nat.digitChar d) = some d := by decide

/-- A hexadecimal digit has its value. -/
theorem hexValue?_digitChar : ∀ d < 16, hexValue? (Nat.digitChar d) = some d := by decide

/-- A numeral is a run of digits of its number. -/
theorem readDigits?_toDigits (n : Nat) : readDigits? (Nat.toDigits 10 n) = some n := by
  obtain ⟨digits, hmap, hdigits⟩ := exists_values_toDigits (by decide) digitValue?_digitChar n
  have hvalues : (Nat.toDigits 10 n).mapM digitValue? = some digits := by
    calc
      (Nat.toDigits 10 n).mapM digitValue? = ((Nat.toDigits 10 n).map digitValue?).mapM id :=
        (List.mapM_map (m := Option) (f := digitValue?) (g := id)).symm
      _ = digits.mapM (id ∘ some) := by rw [hmap, List.mapM_map]
      _ = some digits := by
        have hpure := List.mapM_pure (m := Option) (l := digits) (f := id)
        rwa [List.map_id] at hpure
  have hne : (Nat.toDigits 10 n).isEmpty = false := by
    rw [List.isEmpty_eq_false_iff]
    exact Nat.toDigits_ne_nil
  rw [readDigits?, hne, hvalues]
  exact congrArg some hdigits

/-- **A numeral is read back** as a bounded number. -/
theorem readUnsigned?_toDigits {limit n : Nat} (h : n ≤ limit) :
    readUnsigned? limit (Nat.toDigits 10 n) = some n := by
  obtain ⟨c, cs, hcons⟩ := List.exists_cons_of_ne_nil (Nat.toDigits_ne_nil (n := n) (b := 10))
  have hplus : c ≠ '+' := by
    rintro rfl
    have hmem : '+' ∈ Nat.toDigits 10 n := hcons ▸ List.mem_cons_self
    exact absurd (Nat.isDigit_of_mem_toDigits (by decide) (by decide) hmem) (by decide)
  have hread := readDigits?_toDigits n
  rw [hcons] at hread ⊢
  simp [readUnsigned?, hplus, hread, h]

end NetworkIntent
