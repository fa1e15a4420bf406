import Mathlib.Data.Nat.Digits.Defs
import NetworkIntent.Json.Printer
import NetworkIntent.Proofs.Utf8

/-!
# Documents in ASCII

A layout may ask for ASCII alone. Then every character beyond ASCII is written as the escapes of its
UTF-16 units, and all other characters stand as they do otherwise: numerals, brackets, line breaks
and indentation have ASCII characters only, and so have the escapes within a text.

## Main definitions

* `Json.AsciiOnly`: characters of ASCII.
* `Json.escaped`: a character of a document as it stands in ASCII.

## Main results

* `Json.unitEscape_eq`: the escape of a UTF-16 unit is its hexadecimal numeral of four digits.
* `Json.asciiOnly_writeInt`, `Json.asciiOnly_text`: numerals are ASCII characters.
* `Json.write_escaped`: in ASCII alone, each character is escaped that needs it.
* `Json.isAscii_render`, `Json.toList_render_escaped`: the text of a document in ASCII alone.
-/

set_option autoImplicit false

namespace NetworkIntent.Json

/-- Characters of ASCII. -/
def AsciiOnly (cs : List Char) : Prop :=
  ∀ c ∈ cs, c.toNat < 128

instance (cs : List Char) : Decidable (AsciiOnly cs) :=
  List.decidableBAll (fun c : Char => c.toNat < 128) cs

/-- A character of a document as it stands in ASCII: itself, or the escapes of its UTF-16 units,
each of them a lower-case hexadecimal numeral of four digits. -/
def escaped (c : Char) : List Char :=
  if c.toNat < 0x80 then [c]
  else (utf16Units c).flatMap fun unit => '\\' :: 'u' :: padZeros 4 (hexNumeral unit)

/-! ## ASCII characters -/

namespace AsciiOnly

variable {cs ds : List Char}

theorem append (h : AsciiOnly cs) (h' : AsciiOnly ds) : AsciiOnly (cs ++ ds) :=
  List.forall_mem_append.mpr ⟨h, h'⟩

theorem cons {c : Char} (hc : c.toNat < 128) (h : AsciiOnly cs) : AsciiOnly (c :: cs) :=
  List.forall_mem_cons.mpr ⟨hc, h⟩

theorem replicate {c : Char} (hc : c.toNat < 128) (n : Nat) :
    AsciiOnly (List.replicate n c) := by
  intro d hd
  rw [List.eq_of_mem_replicate hd]
  exact hc

/-- ASCII characters stand for themselves. -/
theorem flatMap_escaped (h : AsciiOnly cs) : cs.flatMap escaped = cs := by
  induction cs with
  | nil => rfl
  | cons c cs ih =>
    obtain ⟨hc, hcs⟩ := List.forall_mem_cons.mp h
    rw [List.flatMap_cons, ih hcs, escaped, if_pos hc]
    rfl

end AsciiOnly

/-! ## Numerals -/

/-- Digits of base ten are ASCII characters. -/
theorem asciiOnly_toDigits (n : Nat) : AsciiOnly (Nat.toDigits 10 n) := by
  intro c hc
  have hdigit := Nat.isDigit_of_mem_toDigits (by decide) (by decide) hc
  have hle : c.toNat ≤ 57 := (Char.isDigit_iff_toNat.mp hdigit).2
  omega

/-- The numeral of a whole number consists of ASCII characters. -/
theorem asciiOnly_writeInt (value : Int) : AsciiOnly (writeInt value) := by
  cases value with
  | ofNat n => exact asciiOnly_toDigits n
  | negSucc n => exact .cons (by decide) (asciiOnly_toDigits (n + 1))

/-- A numeral made of ASCII digits consists of ASCII characters. -/
theorem asciiOnly_numeral (form : Double.NumeralForm) {digits : List Char} (h : AsciiOnly digits)
    (unit : Int) : AsciiOnly (Double.numeral form digits unit) := by
  have hsome {part : List Char} (hpart : part.Sublist digits) : AsciiOnly part :=
    fun c hc => h c (hpart.subset hc)
  have hzeros (n : Nat) : AsciiOnly (List.replicate n '0') := .replicate (by decide) n
  unfold Double.numeral
  dsimp only
  split_ifs with hplain hunit htop hsign
  · exact (h.append (hzeros _)).append (by decide)
  · exact (hsome (List.take_sublist _ _)).append
      (.cons (by decide) (hsome (List.drop_sublist _ _)))
  · exact (AsciiOnly.append (by decide) (hzeros _)).append h
  -- The exponent has either sign, and the fraction before it may be empty.
  all_goals
    refine (((hsome (List.take_sublist _ _)).append ?_).append (by decide)).append
      (asciiOnly_toDigits _)
    split
    · decide
    · exact .cons (by decide) (hsome (List.tail_sublist digits))

/-- The numeral of a double consists of ASCII characters. -/
theorem asciiOnly_text (value : Double) : AsciiOnly value.text := by
  have hmagnitude : AsciiOnly (if value.isZero then ['0', '.', '0'] else
      Double.numeral Double.documentForm (Nat.toDigits 10 value.shortest.1) value.shortest.2) := by
    split
    · decide
    · exact asciiOnly_numeral _ (asciiOnly_toDigits _) _
  show AsciiOnly (if value.negative then '-' :: _ else _)
  split
  · exact .cons (by decide) hmagnitude
  · exact hmagnitude

/-- A hexadecimal digit is the last one of a numeral. -/
theorem hexDigit_eq_digitChar {n : Nat} (h : n < 16) : hexDigit n = Nat.digitChar n := by
  revert n
  decide

/-- The last digit of a numeral that is filled up to several digits comes after the others. -/
theorem padZeros_hexNumeral (width n : Nat) :
    padZeros (width + 2) (hexNumeral n) =
      padZeros (width + 1) (hexNumeral (n / 16)) ++ [hexDigit (n % 16)] := by
  rw [hexDigit_eq_digitChar (Nat.mod_lt n (by decide))]
  by_cases h : n < 16
  · have hdiv : n / 16 = 0 := Nat.div_eq_of_lt h
    rw [hexNumeral, hexNumeral, hdiv, Nat.mod_eq_of_lt h, Nat.toDigits_of_lt_base h]
    simp [padZeros, List.replicate_succ']
  · have hdigits : hexNumeral n = hexNumeral (n / 16) ++ [(n % 16).digitChar] :=
      Nat.toDigits_of_base_le (by decide) (Nat.le_of_not_lt h)
    rw [hdigits]
    simp [padZeros]

/-- **The escape of a UTF-16 unit is its lower-case hexadecimal numeral of four digits.** -/
theorem unitEscape_eq {unit : Nat} (h : unit < 0x10000) :
    unitEscape unit = '\\' :: 'u' :: padZeros 4 (hexNumeral unit) := by
  have hfirst : unit / 16 / 16 / 16 < 16 := by omega
  have hone : padZeros 1 (hexNumeral (unit / 16 / 16 / 16)) = [hexDigit (unit / 4096)] := by
    rw [hexNumeral, Nat.toDigits_of_lt_base hfirst, Nat.div_div_eq_div_mul, Nat.div_div_eq_div_mul,
      hexDigit_eq_digitChar (by omega)]
    rfl
  rw [padZeros_hexNumeral 2, padZeros_hexNumeral 1, padZeros_hexNumeral 0, hone,
    Nat.div_div_eq_div_mul]
  rfl

/-! ## Characters -/

/-- A UTF-16 unit has sixteen bits. -/
theorem lt_of_mem_utf16Units {c : Char} {unit : Nat} (h : unit ∈ utf16Units c) :
    unit < 0x10000 := by
  have hvalid := Utf8.toNat_valid c
  unfold utf16Units at h
  dsimp only at h
  split at h <;> simp only [List.mem_cons, List.not_mem_nil, or_false] at h <;> omega

/-- The escape of a UTF-16 unit consists of ASCII characters. -/
theorem asciiOnly_unitEscape {unit : Nat} (h : unit < 0x10000) : AsciiOnly (unitEscape unit) := by
  have hdigit : ∀ n < 16, (hexDigit n).toNat < 128 := by decide
  exact .cons (by decide) (.cons (by decide) (.cons (hdigit _ (by omega)) (.cons (hdigit _ (by omega))
    (.cons (hdigit _ (by omega)) (.cons (hdigit _ (by omega)) (by decide))))))

/-- A character beyond ASCII is escaped unit by unit. -/
theorem flatMap_unitEscape {c : Char} (h : ¬c.toNat < 0x80) :
    (utf16Units c).flatMap unitEscape = escaped c := by
  rw [escaped, if_neg h]
  exact List.flatMap_congr fun unit hunit => unitEscape_eq (lt_of_mem_utf16Units hunit)

/-- Every character stands in ASCII as ASCII characters. -/
theorem asciiOnly_escaped (c : Char) : AsciiOnly (escaped c) := by
  by_cases h : c.toNat < 0x80
  · rw [escaped, if_pos h]
    exact .cons h (by decide)
  · rw [← flatMap_unitEscape h]
    intro d hd
    obtain ⟨unit, hunit, hd⟩ := List.mem_flatMap.mp hd
    exact asciiOnly_unitEscape (lt_of_mem_utf16Units hunit) d hd

variable {indent : Option Nat}

/-- Within a text, the escapes that are there anyway stay, and a character beyond ASCII is escaped
that would stand for itself. -/
theorem writeChar_escaped (c : Char) :
    writeChar ⟨indent, true⟩ c = (writeChar ⟨indent, false⟩ c).flatMap escaped := by
  unfold writeChar
  simp only [Bool.true_and, Bool.false_and, Bool.false_eq_true, if_false, decide_eq_true_eq]
  split_ifs with _ _ _ _ _ _ _ hcontrol hbeyond
  iterate 7
    · rfl
  · exact (asciiOnly_unitEscape (by omega)).flatMap_escaped.symm
  · rw [flatMap_unitEscape (by omega), List.flatMap_singleton]
  · rw [List.flatMap_singleton, escaped, if_pos (by omega)]

/-- A text between quotes is escaped character by character. -/
theorem writeText_escaped (s : String) :
    writeText ⟨indent, true⟩ s = (writeText ⟨indent, false⟩ s).flatMap escaped := by
  have hquote : ['"'].flatMap escaped = ['"'] := AsciiOnly.flatMap_escaped (by decide)
  have hchars : s.toList.flatMap (writeChar ⟨indent, true⟩) =
      (s.toList.flatMap (writeChar ⟨indent, false⟩)).flatMap escaped := by
    rw [List.flatMap_assoc]
    exact List.flatMap_congr fun c _ => writeChar_escaped c
  show ['"'] ++ s.toList.flatMap _ ++ ['"'] = (['"'] ++ s.toList.flatMap _ ++ ['"']).flatMap escaped
  rw [List.flatMap_append, List.flatMap_append, hquote, hchars]

/-! ## Documents -/

/-- Line breaks and indentation are ASCII characters. -/
theorem asciiOnly_lineBreak (layout : Layout) (level : Nat) :
    AsciiOnly (layout.lineBreak level) := by
  unfold Layout.lineBreak
  split
  · decide
  · exact .cons (by decide) (.replicate (by decide) _)

/-- What separates a key from its value are ASCII characters. -/
theorem asciiOnly_colon (layout : Layout) : AsciiOnly layout.colon := by
  unfold Layout.colon
  split <;> decide

/-- Where a line breaks does not depend on which characters are escaped. -/
theorem lineBreak_escaped (level : Nat) : (⟨indent, true⟩ : Layout).lineBreak level =
    ((⟨indent, false⟩ : Layout).lineBreak level).flatMap escaped :=
  (asciiOnly_lineBreak ⟨indent, false⟩ level).flatMap_escaped.symm

/-- Neither does what separates a key from its value. -/
theorem colon_escaped :
    (⟨indent, true⟩ : Layout).colon = (⟨indent, false⟩ : Layout).colon.flatMap escaped :=
  (asciiOnly_colon ⟨indent, false⟩).flatMap_escaped.symm

/-- A bracket or a comma stands for itself before what is escaped. -/
theorem cons_flatMap_escaped {c : Char} (hc : c.toNat < 128) (cs : List Char) :
    c :: cs.flatMap escaped = (c :: cs).flatMap escaped := by
  rw [List.flatMap_cons, escaped, if_pos hc]
  rfl

mutual

/-- **In ASCII alone, a document is written as otherwise with every character escaped that is beyond
ASCII.**

**Proof sketch.** By induction on the document. Texts are escaped character by character; all other
parts consist of ASCII characters. -/
theorem write_escaped : (document : Json) → ∀ level,
    write ⟨indent, true⟩ level document = (write ⟨indent, false⟩ level document).flatMap escaped
  | .null, _ => rfl
  | .bool true, _ => rfl
  | .bool false, _ => rfl
  | .int value, _ => (asciiOnly_writeInt value).flatMap_escaped.symm
  | .double value, _ => (asciiOnly_text value).flatMap_escaped.symm
  | .str text, _ => writeText_escaped text
  | .arr [], _ => rfl
  | .arr (item :: rest), level => by
    simp only [write, List.cons_append, List.append_assoc]
    rw [lineBreak_escaped, write_escaped item, writeItems_escaped rest, ← List.flatMap_append,
      ← List.flatMap_append, cons_flatMap_escaped (by decide)]
  | .obj [], _ => rfl
  | .obj ((key, value) :: rest), level => by
    simp only [write, List.cons_append, List.append_assoc]
    rw [lineBreak_escaped, writeText_escaped, colon_escaped, write_escaped value,
      writeFields_escaped rest]
    simp only [← List.flatMap_append]
    rw [cons_flatMap_escaped (by decide)]

/-- The items of a list after its first one are written likewise. -/
theorem writeItems_escaped : (items : List Json) → ∀ level,
    writeItems ⟨indent, true⟩ level items =
      (writeItems ⟨indent, false⟩ level items).flatMap escaped
  | [], level => by
    rw [writeItems, writeItems, List.flatMap_append, ← lineBreak_escaped]
    rfl
  | item :: rest, level => by
    simp only [writeItems, List.cons_append, List.append_assoc]
    rw [lineBreak_escaped, write_escaped item, writeItems_escaped rest, ← List.flatMap_append,
      ← List.flatMap_append, cons_flatMap_escaped (by decide)]

/-- The entries of an object after its first one are written likewise. -/
theorem writeFields_escaped : (fields : Fields) → ∀ level,
    writeFields ⟨indent, true⟩ level fields =
      (writeFields ⟨indent, false⟩ level fields).flatMap escaped
  | [], level => by
    rw [writeFields, writeFields, List.flatMap_append, ← lineBreak_escaped]
    rfl
  | (key, value) :: rest, level => by
    simp only [writeFields, List.cons_append, List.append_assoc]
    rw [lineBreak_escaped, writeText_escaped, colon_escaped, write_escaped value,
      writeFields_escaped rest]
    simp only [← List.flatMap_append]
    rw [cons_flatMap_escaped (by decide)]

end

/-- The text of a document in ASCII alone is its text with all characters beyond ASCII escaped. -/
theorem toList_render_escaped (indent : Option Nat) (document : Json) :
    (document.render ⟨indent, true⟩).toList =
      (document.render ⟨indent, false⟩).toList.flatMap escaped := by
  rw [render, render, String.toList_ofList, String.toList_ofList, write_escaped]

/-- The text of a document in ASCII alone is one of ASCII characters. -/
theorem isAscii_render (indent : Option Nat) (document : Json) :
    IsAscii (document.render ⟨indent, true⟩) := by
  intro c hc
  rw [toList_render_escaped] at hc
  obtain ⟨d, -, hc⟩ := List.mem_flatMap.mp hc
  exact asciiOnly_escaped d c hc

end NetworkIntent.Json
