import NetworkIntent.Json.Decoder
import NetworkIntent.Proofs.Json.Spelled

/-!
# Skipping unknown values

The value of a field that a record does not have is skipped without being read. Whatever document
stands there, in whatever spelling, what is left is the text behind it: the skipper needs no more
rounds than the spelling has bytes, and knows no limit to its levels.

## Main definitions

* `Json.Skips`: a document is skipped wherever it is spelled.

## Main results

* `Json.SpellsNumber.skipNumeral`, `Json.SpellsText.skipText`: numbers and texts are skipped.
* `Json.skips`: whatever document is spelled, it is skipped.
* `Json.Spells.skip`: the value of an unknown field is skipped.
-/

set_option autoImplicit false

namespace NetworkIntent.Json

variable {text rest after : Bytes} {fuel : Nat}

/-! ## Numbers -/

/-- An exponent is skipped. -/
theorem SpellsExponent.skipExponent {exponent : Bytes} (h : SpellsExponent exponent)
    (hrest : Follows rest) : skipExponent (exponent ++ rest) = .ok rest := by
  cases h with
  | none =>
    cases rest with
    | nil => rw [List.nil_append, Json.skipExponent]
    | cons b after =>
      obtain ⟨-, -, hlower, hupper⟩ := hrest.not_digit
      simp [Json.skipExponent, hlower, hupper]
  | @digits letter sign digits hletter hsign h =>
    have hspan : spanDigits (digits.map digitByte ++ rest) = (digits, rest) :=
      spanDigits_append h.2 fun b after heq => (Follows.not_digit (heq ▸ hrest)).1
    have hempty : digits.isEmpty = false := List.isEmpty_eq_false_iff.mpr h.1
    obtain ⟨d, more, rfl⟩ := List.exists_cons_of_ne_nil h.1
    have hsigns : ∀ d < 10, digitByte d ≠ 0x2B ∧ digitByte d ≠ 0x2D := by decide
    obtain ⟨hplus, hminus⟩ := hsigns d (h.2 d List.mem_cons_self)
    have hletter : (letter = 0x65 || letter = 0x45) = true := by simpa using hletter
    rw [List.map_cons, List.cons_append] at hspan
    simp only [List.cons_append, List.append_assoc, List.map_cons, Json.skipExponent, hletter,
      if_true]
    rcases hsign with rfl | rfl | rfl <;>
      simp [hplus, hminus, hspan]

/-- A fraction is skipped together with the exponent behind it. -/
theorem SpellsFraction.skipNumeral {fraction exponent : Bytes} {digits : List Nat}
    (h : SpellsFraction fraction) (hexponent : SpellsExponent exponent) (hdigits : IsDigits digits)
    (hzero : digits.head? = some 0 → digits = [0]) (hrest : Follows rest) :
    skipNumeral (digits.map digitByte ++ (fraction ++ (exponent ++ rest))) = .ok rest := by
  have hexp := hexponent.skipExponent hrest
  have hmark : ∀ b after, exponent ++ rest = b :: after → isDigit b = false ∧ b ≠ 0x2E := by
    intro b after heq
    cases hexponent with
    | none =>
      obtain ⟨hdigit, hpoint, -⟩ := Follows.not_digit (heq ▸ hrest : Follows (b :: after))
      exact ⟨hdigit, hpoint⟩
    | digits hletter hsign h =>
      obtain rfl := (List.cons.inj heq).1
      rcases hletter with rfl | rfl <;> decide
  obtain ⟨d, more, rfl⟩ := List.exists_cons_of_ne_nil hdigits.1
  have hfirst : ¬(d = 0 ∧ more ≠ []) := by
    rintro ⟨rfl, hmore⟩
    exact hmore (List.cons.inj (hzero rfl)).2
  cases h with
  | none =>
    have hspan := spanDigits_append hdigits.2 fun b after heq => (hmark b after heq).1
    rw [List.nil_append]
    simp only [Json.skipNumeral, hspan, if_neg hfirst]
    cases hafter : exponent ++ rest with
    | nil =>
      obtain ⟨-, rfl⟩ := List.append_eq_nil_iff.mp hafter
      rfl
    | cons b after =>
      dsimp only
      rw [if_neg (hmark b after hafter).2, ← hafter, hexp]
  | @digits places h =>
    have hspan : spanDigits ((d :: more).map digitByte ++
        0x2E :: (places.map digitByte ++ (exponent ++ rest))) =
        (d :: more, 0x2E :: (places.map digitByte ++ (exponent ++ rest))) :=
      spanDigits_append hdigits.2 fun b after heq => by
        obtain rfl := (List.cons.inj heq).1
        decide
    have hspan' := spanDigits_append h.2 fun b after heq => (hmark b after heq).1
    simp only [List.cons_append, Json.skipNumeral, hspan, if_neg hfirst, if_true, hspan',
      List.isEmpty_eq_false_iff.mpr h.1, Bool.false_eq_true, if_false, hexp]

/-- A number is skipped. -/
theorem SpellsNumber.skipValue {part : Bytes} (h : SpellsNumber part) (hrest : Follows rest)
    (htext : skipGap text = part ++ rest) : skipValue (fuel + 1) text = .ok rest := by
  have hdigit : ∀ d < 10, digitByte d ≠ 0x6E ∧ digitByte d ≠ 0x74 ∧ digitByte d ≠ 0x66 ∧
      digitByte d ≠ 0x2D ∧ isDigit (digitByte d) = true := by decide
  obtain ⟨hsign, hdigits, hzero, hfraction, hexponent⟩ := h
  have hskip := hfraction.skipNumeral hexponent hdigits hzero hrest
  simp only [List.append_assoc] at htext
  rcases hsign with rfl | rfl
  · obtain ⟨d, more, rfl⟩ := List.exists_cons_of_ne_nil hdigits.1
    obtain ⟨hn, ht, hf, hminus, hd⟩ := hdigit d (hdigits.2 d List.mem_cons_self)
    simp only [List.map_cons, List.cons_append, List.nil_append] at htext hskip
    rw [Json.skipValue, htext]
    dsimp only
    rw [if_neg hn, if_neg ht, if_neg hf, if_neg hminus, if_pos hd, hskip]
  · rw [List.singleton_append] at htext
    rw [Json.skipValue, htext]
    dsimp only
    rw [if_neg (by decide), if_neg (by decide), if_neg (by decide), if_pos rfl, hskip]

/-! ## Texts -/

/-- Bytes that are neither quotes, backslashes nor control characters are skipped. -/
theorem skipText_plain (bytes : Bytes) (fuel : Nat) (text : Bytes)
    (h : ∀ b ∈ bytes, b ≠ 0x22 ∧ b ≠ 0x5C ∧ ¬b < 0x20) :
    skipText (fuel + bytes.length) (bytes ++ text) = skipText fuel text := by
  induction bytes with
  | nil => rfl
  | cons b bytes ih =>
    obtain ⟨⟨hquote, hbackslash, hcontrol⟩, hrest⟩ := List.forall_mem_cons.mp h
    rw [List.length_cons, ← Nat.add_assoc, List.cons_append, skipText.eq_def]
    dsimp only
    rw [if_neg hquote, if_neg hbackslash, if_neg hcontrol, ih hrest]

/-- The escape of a unit is skipped. -/
theorem SpellsUnit.skipText {unit : Nat} {digits : Bytes} (h : SpellsUnit unit digits)
    (fuel : Nat) (text : Bytes) :
    skipText (fuel + 1) (0x5C :: 0x75 :: (digits ++ text)) = skipText fuel text := by
  have hletter : (escapedByte? 0x75).isSome = false := by decide
  rw [Json.skipText.eq_def]
  dsimp only
  rw [if_neg (by decide), if_pos rfl]
  simp only [hletter, Bool.false_eq_true, if_false, if_true, h.readUnit]

/-- A spelled character is skipped, in no more rounds than there are bytes. -/
theorem SpellsChar.skipText {c : Char} {part : Bytes} (h : SpellsChar c part) :
    ∃ rounds ≤ part.length, ∀ (fuel : Nat) (text : Bytes),
      skipText (fuel + rounds) (part ++ text) = skipText fuel text := by
  cases h with
  | plain hquote hbackslash hcontrol =>
    exact ⟨_, Nat.le_refl _, fun fuel text =>
      skipText_plain _ fuel text (plain_encodeChar hquote hbackslash hcontrol)⟩
  | @letter letter h =>
    have hall : ∀ entry ∈ letterEscapes, ∃ b, Utf8.encodeChar entry.1 = [b] ∧
        (escapedByte? b).isSome = true := by
      simp only [letterEscapes, List.forall_mem_cons]
      refine ⟨?_, ?_, ?_, ?_, ?_, ?_, ?_, ?_, by simp⟩ <;> exact ⟨_, rfl, by decide⟩
    obtain ⟨b, hletter, hb⟩ := hall _ h
    refine ⟨1, by simp, fun fuel text => ?_⟩
    rw [hletter, List.cons_append, List.singleton_append, Json.skipText.eq_def]
    dsimp only
    rw [if_neg (by decide), if_pos rfl, if_pos hb]
  | unit h => exact ⟨1, by simp, fun fuel text => h.skipText fuel text⟩
  | pair hunits hhigh hlow =>
    refine ⟨2, by simp, fun fuel text => ?_⟩
    simp only [List.cons_append, List.append_assoc]
    rw [hhigh.skipText, hlow.skipText]

/-- Spelled characters are skipped, and the closing quote. -/
theorem skipText_flatten {cs : List Char} {parts : List Bytes}
    (h : List.Forall₂ SpellsChar cs parts) (rest : Bytes) {fuel : Nat}
    (hfuel : parts.flatten.length < fuel) :
    skipText fuel (parts.flatten ++ 0x22 :: rest) = .ok rest := by
  induction h generalizing fuel with
  | nil =>
    obtain ⟨fuel, rfl⟩ := Nat.exists_eq_succ_of_ne_zero (Nat.ne_of_gt hfuel)
    rfl
  | cons hc _ ih =>
    rw [List.flatten_cons, List.length_append] at hfuel
    obtain ⟨rounds, hrounds, hskip⟩ := hc.skipText
    obtain ⟨fuel, rfl⟩ : ∃ left, fuel = left + rounds := ⟨fuel - rounds, by omega⟩
    rw [List.flatten_cons, List.append_assoc, hskip, ih (by omega)]

/-- A text is skipped from its first character on. -/
theorem SpellsText.skipText {s : String} {part : Bytes} (h : SpellsText s part) :
    ∃ body, part = 0x22 :: body ∧ ∀ {rest fuel}, body.length ≤ fuel →
      skipText fuel (body ++ rest) = .ok rest := by
  obtain ⟨parts, hparts, rfl⟩ := h
  refine ⟨parts.flatten ++ [0x22], rfl, fun {rest fuel} hfuel => ?_⟩
  rw [List.length_append, List.length_singleton] at hfuel
  rw [List.append_assoc, List.singleton_append, skipText_flatten hparts rest (by omega)]

/-! ## Documents -/

/-- Wherever a document is spelled, it is skipped in no more rounds than its spelling has bytes. -/
def Skips (document : Json) : Prop :=
  ∀ ⦃part text rest : Bytes⦄ ⦃fuel : Nat⦄, Spells document part → skipGap text = part ++ rest →
    Follows rest → part.length ≤ fuel → skipValue fuel text = .ok rest

/-- There is a round for a document. -/
theorem skips_of_succ {document : Json}
    (h : ∀ {part text rest : Bytes} {fuel : Nat}, Spells document part →
      skipGap text = part ++ rest → Follows rest → part.length ≤ fuel + 1 →
      skipValue (fuel + 1) text = .ok rest) : Skips document := by
  intro part text rest fuel hpart htext hrest hfuel
  obtain ⟨b, bytes, rfl, -⟩ := hpart.exists_cons
  obtain ⟨fuel, rfl⟩ := Nat.exists_eq_add_of_lt (Nat.lt_of_lt_of_le (Nat.succ_pos _) hfuel)
  rw [Nat.zero_add] at hfuel ⊢
  exact h hpart htext hrest hfuel

/-- The items of a list are skipped from one of them on, and the closing bracket. -/
theorem skipItems_of_spells {items : List Json} (hitems : ∀ item ∈ items, Skips item)
    (hne : items ≠ []) {inner : Bytes} (h : SpellsItems true items inner)
    (hfuel : inner.length ≤ fuel) (htext : skipGap text = skipGap (inner ++ rest)) :
    skipItems fuel text = .ok rest := by
  induction items generalizing inner text fuel with
  | nil => exact absurd rfl hne
  | cons item items ih =>
    obtain ⟨hitem, hothers⟩ := List.forall_mem_cons.mp hitems
    obtain ⟨lead, part, after, hlead, hpart, hafter, rfl⟩ := h
    rw [List.append_assoc, List.append_assoc, Blank.skipGap_part hlead hpart] at htext
    have hlength := hafter.length_pos
    have hpos : 0 < part.length := by
      obtain ⟨b, bytes, rfl, -⟩ := hpart.exists_cons
      simp
    simp only [List.length_append] at hfuel
    obtain ⟨fuel, rfl⟩ := Nat.exists_eq_succ_of_ne_zero (n := fuel) (by omega)
    rw [skipItems, hitem hpart htext (hafter.follows rest) (by omega)]
    dsimp only
    rcases hafter.end_or_comma with ⟨gap, hgap, rfl⟩ | ⟨hne, gap, inner, hgap, hinner, rfl⟩
    · rw [List.append_assoc, List.singleton_append, hgap.skipGap_cons (by decide)]
      rfl
    · have hmore : skipItems fuel (inner ++ rest) = .ok rest :=
        ih hothers hne hinner
          (by simp only [List.length_append, List.length_cons] at hfuel; omega) rfl
      rw [List.append_assoc, List.cons_append, hgap.skipGap_cons (by decide)]
      dsimp only
      rw [if_neg (by decide), if_pos rfl, hmore]

/-- The entries of an object are skipped from one of them on, and the closing brace. -/
theorem skipFields_of_spells {fields : Fields} (hvalues : ∀ entry ∈ fields, Skips entry.2)
    (hne : fields ≠ []) {inner : Bytes} (h : SpellsFields true fields inner)
    (hfuel : inner.length ≤ fuel) (htext : skipGap text = skipGap (inner ++ rest)) :
    skipFields fuel text = .ok rest := by
  induction fields generalizing inner text fuel with
  | nil => exact absurd rfl hne
  | cons entry fields ih =>
    obtain ⟨hvalue, hothers⟩ := List.forall_mem_cons.mp hvalues
    obtain ⟨lead, name, gap, gap', part, after, hlead, hname, hgap, hgap', hpart, hafter, rfl⟩ := h
    obtain ⟨body, rfl, hkey⟩ := hname.skipText
    simp only [List.append_assoc, List.cons_append] at htext
    rw [Blank.skipGap_cons hlead (by decide)] at htext
    simp only [List.length_append, List.length_cons] at hfuel
    obtain ⟨fuel, rfl⟩ := Nat.exists_eq_succ_of_ne_zero (n := fuel) (by omega)
    rw [skipFields, htext]
    dsimp only
    rw [if_neg (by simp), hkey (by omega)]
    dsimp only
    rw [hgap.readColon]
    dsimp only
    rw [hvalue hpart (hgap'.skipGap_part hpart (after ++ rest)) (hafter.follows rest) (by omega)]
    dsimp only
    rcases hafter.end_or_comma with ⟨gap, hgap, rfl⟩ | ⟨hne, gap, inner, hgap, hinner, rfl⟩
    · rw [List.append_assoc, List.singleton_append, hgap.skipGap_cons (by decide)]
      rfl
    · have hmore : skipFields fuel (inner ++ rest) = .ok rest :=
        ih hothers hne hinner
          (by simp only [List.length_append, List.length_cons] at hfuel; omega) rfl
      rw [List.append_assoc, List.cons_append, hgap.skipGap_cons (by decide)]
      dsimp only
      rw [if_neg (by decide), if_pos rfl, hmore]

/-- A list is skipped if all its items are. -/
theorem skips_arr {items : List Json} (h : ∀ item ∈ items, Skips item) : Skips (.arr items) := by
  refine skips_of_succ fun {part text rest fuel} hpart htext _ hfuel => ?_
  obtain ⟨inner, rfl, hinner⟩ := hpart
  rw [skipValue, htext, List.cons_append]
  dsimp only
  rw [if_neg (by decide), if_neg (by decide), if_neg (by decide), if_neg (by decide),
    if_neg (by decide), if_neg (by decide), if_pos rfl]
  cases items with
  | nil =>
    obtain ⟨gap, hgap, rfl⟩ := hinner
    rw [List.append_assoc, List.singleton_append, hgap.skipGap_cons (by decide)]
    rfl
  | cons item items =>
    obtain ⟨b, bytes, hstart, hgap, hb⟩ := hinner.exists_cons rest
    have hskip : skipItems fuel (b :: bytes) = .ok rest :=
      skipItems_of_spells h (by simp) hinner (Nat.le_of_succ_le_succ hfuel)
        (by rw [hstart, skipGap_cons hgap])
    rw [hstart]
    dsimp only
    rw [if_neg hb, hskip]

/-- An object is skipped if all its values are. -/
theorem skips_obj {fields : Fields} (h : ∀ entry ∈ fields, Skips entry.2) :
    Skips (.obj fields) := by
  refine skips_of_succ fun {part text rest fuel} hpart htext _ hfuel => ?_
  obtain ⟨inner, rfl, hinner⟩ := hpart
  rw [skipValue, htext, List.cons_append]
  dsimp only
  rw [if_neg (by decide), if_neg (by decide), if_neg (by decide), if_neg (by decide),
    if_neg (by decide), if_neg (by decide), if_neg (by decide), if_pos rfl]
  cases fields with
  | nil =>
    obtain ⟨gap, hgap, rfl⟩ := hinner
    rw [List.append_assoc, List.singleton_append, hgap.skipGap_cons (by decide)]
    rfl
  | cons entry fields =>
    obtain ⟨bytes, hstart⟩ := hinner.exists_cons rest
    have hskip : skipFields fuel (0x22 :: bytes) = .ok rest :=
      skipFields_of_spells h (by simp) hinner (Nat.le_of_succ_le_succ hfuel)
        (by rw [hstart, skipGap_cons (by decide)])
    rw [hstart]
    dsimp only
    rw [if_neg (by decide), hskip]

/-- **Whatever document is spelled, it is skipped.** -/
theorem skips (document : Json) : Skips document := by
  induction document using Json.induction with
  | null =>
    refine skips_of_succ fun {part text rest fuel} hpart htext _ _ => ?_
    rw [Spells] at hpart
    rw [skipValue, htext, hpart]
    rfl
  | bool value =>
    refine skips_of_succ fun {part text rest fuel} hpart htext _ _ => ?_
    cases value <;> rw [Spells] at hpart <;> rw [skipValue, htext, hpart] <;> rfl
  | int value =>
    refine skips_of_succ fun {part text rest fuel} hpart htext hrest _ => ?_
    obtain ⟨-, rfl⟩ := hpart
    exact (spellsNumber_writeInt value).skipValue hrest htext
  | double value =>
    refine skips_of_succ fun {part text rest fuel} hpart htext hrest _ => ?_
    obtain ⟨hnumber, -⟩ := hpart
    exact hnumber.skipValue hrest htext
  | str s =>
    refine skips_of_succ fun {part text rest fuel} hpart htext _ hfuel => ?_
    obtain ⟨body, rfl, hskip⟩ := SpellsText.skipText hpart
    rw [skipValue, htext, List.cons_append]
    dsimp only
    rw [if_neg (by decide), if_neg (by decide), if_neg (by decide), if_neg (by decide),
      if_neg (by decide), if_pos rfl, hskip (Nat.le_of_succ_le_succ hfuel)]
  | arr items ih => exact skips_arr ih
  | obj fields ih => exact skips_obj ih

/-- **The value of an unknown field is skipped**, whatever document it is. -/
theorem Spells.skip {document : Json} {part : Bytes} (h : Spells document part)
    (htext : skipGap text = part ++ rest) (hrest : Follows rest) : skip text = .ok rest := by
  have hlength : part.length ≤ text.length := by
    have hsuffix := (List.dropWhile_suffix isGap (l := text)).length_le
    rw [show text.dropWhile isGap = part ++ rest from htext, List.length_append] at hsuffix
    omega
  exact skips document h htext hrest (by omega)

end NetworkIntent.Json
