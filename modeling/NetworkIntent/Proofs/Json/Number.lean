import NetworkIntent.Json.Printer
import NetworkIntent.Proofs.Json.Storable
import NetworkIntent.Proofs.Utf8

/-!
# How numbers are spelled

The numeral of a whole number within 64 bits is read as this number, if no further digit, point or
exponent follows. It is one of the spellings of numbers, which may also have a fraction and an
exponent.

## Main definitions

* `Json.decimals`: the decimal digits of a number.
* `Json.Follows`: what may come after a value.
* `Json.SpellsNumber`: the spellings of numbers.

## Main results

* `Json.readNumeral_decimals`: the digits of a number are read as this number.
* `Json.wholeNumeral_natAbs`: a whole number is made of its sign and its digits.
* `Json.spellsNumber_writeInt`: a whole number is written in one of the spellings of numbers.
-/

set_option autoImplicit false

namespace NetworkIntent.Json

/-! ## Decimal digits -/

/-- The decimal digits of a number, the highest first. -/
def decimals (n : Nat) : List Nat :=
  (Nat.toDigits 10 n).map fun c => c.toNat - 48

/-- The byte of a decimal digit. -/
def digitByte (d : Nat) : UInt8 :=
  UInt8.ofNat (48 + d)

private theorem toNat_digitChar : ∀ d < 10, (Nat.digitChar d).toNat = 48 + d := by decide

/-- A number below ten is its only digit. -/
theorem decimals_of_lt {n : Nat} (h : n < 10) : decimals n = [n] := by
  rw [decimals, Nat.toDigits_of_lt_base h, List.map_singleton, toNat_digitChar n h,
    Nat.add_sub_cancel_left]

/-- The last digit of a number comes after the digits of its tenth. -/
theorem decimals_of_le {n : Nat} (h : 10 ≤ n) : decimals n = decimals (n / 10) ++ [n % 10] := by
  have hmod : n % 10 < 10 := Nat.mod_lt n (by decide)
  rw [decimals, Nat.toDigits_of_base_le (by decide) h, List.map_append, List.map_singleton,
    toNat_digitChar _ hmod, Nat.add_sub_cancel_left, decimals]

/-- Numbers are made of digits below ten. -/
theorem lt_of_mem_decimals (n : Nat) : ∀ d ∈ decimals n, d < 10 := by
  induction n using Nat.strongRecOn with
  | ind n ih =>
    by_cases h : n < 10
    · rw [decimals_of_lt h]
      simpa using h
    · rw [decimals_of_le (Nat.le_of_not_lt h)]
      intro d hd
      rcases List.mem_append.mp hd with hd | hd
      · exact ih (n / 10) (by omega) d hd
      · obtain rfl := List.mem_singleton.mp hd
        exact Nat.mod_lt n (by decide)

/-- The digits of a number amount to this number. -/
theorem foldl_decimals (n : Nat) : (decimals n).foldl (fun m d => m * 10 + d) 0 = n := by
  induction n using Nat.strongRecOn with
  | ind n ih =>
    by_cases h : n < 10
    · simp [decimals_of_lt h]
    · rw [decimals_of_le (Nat.le_of_not_lt h), List.foldl_append, ih (n / 10) (by omega),
        List.foldl_cons, List.foldl_nil]
      omega

/-- A number has a digit, and the first one is zero only if it is the only one. -/
theorem exists_decimals_eq_cons (n : Nat) :
    ∃ d ds, decimals n = d :: ds ∧ (d = 0 → ds = []) ∧ (n ≠ 0 → d ≠ 0) := by
  induction n using Nat.strongRecOn with
  | ind n ih =>
    by_cases h : n < 10
    · exact ⟨n, [], decimals_of_lt h, fun _ => rfl, fun hne => hne⟩
    · obtain ⟨d, ds, heq, -, hne⟩ := ih (n / 10) (by omega)
      have hd : d ≠ 0 := hne (by omega)
      exact ⟨d, ds ++ [n % 10], by rw [decimals_of_le (Nat.le_of_not_lt h), heq, List.cons_append],
        fun hzero => absurd hzero hd, fun _ => hd⟩

/-- The numeral of a number has one byte for each digit. -/
theorem encode_toDigits (n : Nat) :
    Utf8.encode (Nat.toDigits 10 n) = (decimals n).map digitByte := by
  induction n using Nat.strongRecOn with
  | ind n ih =>
    have hdigit : ∀ d < 10, Utf8.encode [Nat.digitChar d] = [digitByte d] := by decide
    by_cases h : n < 10
    · rw [decimals_of_lt h, Nat.toDigits_of_lt_base h, hdigit n h]
      rfl
    · rw [decimals_of_le (Nat.le_of_not_lt h), Nat.toDigits_of_base_le (by decide)
        (Nat.le_of_not_lt h), Utf8.encode_append, ih (n / 10) (by omega),
        hdigit _ (Nat.mod_lt n (by decide)), List.map_append]
      rfl

/-! ## Reading digits -/

/-- What may come after a value: the end of the text, a blank, a comma, or the end of a list or an
object. -/
def Follows : Bytes → Prop
  | [] => True
  | b :: _ => isGap b = true ∨ b = 0x2C ∨ b = 0x5D ∨ b = 0x7D

/-- What may come after a value does not go on with a number. -/
theorem Follows.not_digit {b : UInt8} {rest : Bytes} (h : Follows (b :: rest)) :
    isDigit b = false ∧ b ≠ 0x2E ∧ b ≠ 0x65 ∧ b ≠ 0x45 := by
  have hgap : isGap b = true → b = 0x20 ∨ b = 0x0A ∨ b = 0x09 ∨ b = 0x0D := by
    simp [isGap, or_assoc]
  rcases h with h | rfl | rfl | rfl
  · rcases hgap h with rfl | rfl | rfl | rfl <;> decide
  · decide
  · decide
  · decide

/-- All digits before something else are read. -/
theorem spanDigits_append {digits : List Nat} (h : ∀ d ∈ digits, d < 10) {rest : Bytes}
    (hrest : ∀ b after, rest = b :: after → isDigit b = false) :
    spanDigits (digits.map digitByte ++ rest) = (digits, rest) := by
  have hdigit : ∀ d < 10, isDigit (digitByte d) = true ∧ digitValue (digitByte d) = d := by decide
  have hall : ∀ b ∈ digits.map digitByte, isDigit b = true := by
    intro b hb
    obtain ⟨d, hd, rfl⟩ := List.mem_map.mp hb
    exact (hdigit d (h d hd)).1
  have hvalues : (digits.map digitByte).map digitValue = digits := by
    rw [List.map_map]
    exact (List.map_congr_left fun d hd => (hdigit d (h d hd)).2).trans (List.map_id digits)
  have htake : rest.takeWhile isDigit = [] := by
    cases rest with
    | nil => rfl
    | cons b after => simp [hrest b after rfl]
  have hdrop : rest.dropWhile isDigit = rest := by
    cases rest with
    | nil => rfl
    | cons b after => simp [hrest b after rfl]
  rw [spanDigits, List.takeWhile_append_of_pos hall, List.dropWhile_append_of_pos hall, htake,
    hdrop, List.append_nil, hvalues]

/-- Further digits only make a number greater. -/
private theorem le_foldl_digits (digits : List Nat) : ∀ m : Nat,
    m ≤ digits.foldl (fun m d => m * 10 + d) m := by
  induction digits with
  | nil => exact fun m => Nat.le_refl m
  | cons d digits ih =>
    intro m
    exact Nat.le_trans (by omega) (ih (m * 10 + d))

/-- Digits that amount to no more than the greatest significand are all appended to it. -/
theorem appendDigits_eq (digits : List Nat) : ∀ m : Nat,
    digits.foldl (fun m d => m * 10 + d) m ≤ maxSignificand →
    appendDigits m digits = (digits.foldl (fun m d => m * 10 + d) m, digits.length) := by
  induction digits with
  | nil => exact fun m _ => rfl
  | cons d digits ih =>
    intro m h
    rw [List.foldl_cons] at h
    have hle : m * 10 + d ≤ maxSignificand := Nat.le_trans (le_foldl_digits digits _) h
    rw [appendDigits, if_pos hle, ih _ h]
    rfl

/-- The digits of a number are read as this number. -/
theorem readNumeral_decimals (negative : Bool) {n : Nat} (h : n ≤ maxSignificand) {rest : Bytes}
    (hrest : Follows rest) :
    readNumeral negative ((decimals n).map digitByte ++ rest) =
      .ok (wholeNumeral negative n, rest) := by
  have hspan : spanDigits ((decimals n).map digitByte ++ rest) = (decimals n, rest) :=
    spanDigits_append (lt_of_mem_decimals n) fun b after heq =>
      (Follows.not_digit (heq ▸ hrest)).1
  have happend := appendDigits_eq (decimals n) 0 (by rwa [foldl_decimals])
  rw [foldl_decimals] at happend
  obtain ⟨d, ds, heq, hzero, -⟩ := exists_decimals_eq_cons n
  unfold readNumeral
  simp only [hspan]
  rw [heq] at happend ⊢
  have hfirst : ¬(d = 0 ∧ ds ≠ []) := fun hd => hd.2 (hzero hd.1)
  dsimp only
  rw [if_neg hfirst, happend]
  cases rest with
  | nil => simp
  | cons b after =>
    obtain ⟨-, hpoint, hlower, hupper⟩ := hrest.not_digit
    simp [hpoint, hlower, hupper]

/-- A whole number within the range is read from its sign and its digits. -/
theorem wholeNumeral_natAbs {value : Int} (h : InRange value) :
    wholeNumeral (decide (value < 0)) value.natAbs = .int value ∧
      value.natAbs ≤ maxSignificand := by
  obtain ⟨hlow, hhigh⟩ := h
  have hsignificand : maxSignificand = 18446744073709551615 := rfl
  have hsize : UInt64.size / 2 = 9223372036854775808 := rfl
  refine ⟨?_, by omega⟩
  rw [wholeNumeral, hsize]
  by_cases hneg : value < 0
  · have hbounds : 0 < value.natAbs ∧ value.natAbs ≤ 9223372036854775808 := by omega
    simp only [hneg, decide_true, Bool.not_true, Bool.false_eq_true, if_false]
    rw [if_pos hbounds]
    congr
    omega
  · simp only [hneg, decide_false, Bool.not_false, if_true]
    congr
    omega

/-! ## Numerals -/

/-- Decimal digits, at least one. -/
def IsDigits (digits : List Nat) : Prop :=
  digits ≠ [] ∧ ∀ d ∈ digits, d < 10

/-- The spellings of a fraction, if there is one. -/
inductive SpellsFraction : Bytes → Prop where
  | none : SpellsFraction []
  | digits {digits : List Nat} (h : IsDigits digits) :
    SpellsFraction (0x2E :: digits.map digitByte)

/-- The spellings of an exponent, if there is one. -/
inductive SpellsExponent : Bytes → Prop where
  | none : SpellsExponent []
  | digits {letter : UInt8} {sign : Bytes} {digits : List Nat}
    (hletter : letter = 0x65 ∨ letter = 0x45) (hsign : sign = [] ∨ sign = [0x2B] ∨ sign = [0x2D])
    (h : IsDigits digits) : SpellsExponent (letter :: sign ++ digits.map digitByte)

/-- The spellings of a number: a sign, digits without a zero before them, a fraction and an
exponent. -/
inductive SpellsNumber : Bytes → Prop where
  | parts {sign fraction exponent : Bytes} {digits : List Nat} (hsign : sign = [] ∨ sign = [0x2D])
    (hdigits : IsDigits digits) (hzero : digits.head? = some 0 → digits = [0])
    (hfraction : SpellsFraction fraction) (hexponent : SpellsExponent exponent) :
    SpellsNumber (sign ++ (digits.map digitByte ++ (fraction ++ exponent)))

/-- A number starts with a sign or a digit. -/
theorem SpellsNumber.exists_cons {text : Bytes} (h : SpellsNumber text) :
    ∃ b bytes, text = b :: bytes ∧ (b = 0x2D ∨ ∃ d < 10, b = digitByte d) := by
  obtain ⟨hsign, ⟨hne, hdigits⟩, -, -, -⟩ := h
  rcases hsign with rfl | rfl
  · obtain ⟨d, digits, rfl⟩ := List.exists_cons_of_ne_nil hne
    exact ⟨_, _, rfl, .inr ⟨d, hdigits d List.mem_cons_self, rfl⟩⟩
  · exact ⟨_, _, rfl, .inl rfl⟩

/-- The numeral of a whole number is one of a number. -/
theorem spellsNumber_writeInt (value : Int) : SpellsNumber (Utf8.encode (writeInt value)) := by
  have hparts : ∀ n, IsDigits (decimals n) ∧ ((decimals n).head? = some 0 → decimals n = [0]) := by
    intro n
    obtain ⟨d, ds, heq, hzero, -⟩ := exists_decimals_eq_cons n
    refine ⟨⟨by simp [heq], lt_of_mem_decimals n⟩, fun hhead => ?_⟩
    obtain rfl : d = 0 := by simpa [heq] using hhead
    rw [heq, hzero rfl]
  cases value with
  | ofNat n =>
    have h := SpellsNumber.parts (.inl rfl) (hparts n).1 (hparts n).2 .none .none
    rwa [List.append_nil, List.append_nil, List.nil_append, ← encode_toDigits] at h
  | negSucc n =>
    have h := SpellsNumber.parts (.inr rfl) (hparts (n + 1)).1 (hparts (n + 1)).2 .none .none
    rwa [List.append_nil, List.append_nil, ← encode_toDigits] at h

end NetworkIntent.Json
