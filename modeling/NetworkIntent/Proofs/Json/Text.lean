import Mathlib.Data.List.Forall2
import NetworkIntent.Json.Printer
import NetworkIntent.Json.Reader
import NetworkIntent.Proofs.Utf8

/-!
# How texts are spelled

A character of a text is spelled by itself, by an escape of one letter, or by the escapes of its
UTF-16 units. A text is read from each of its spellings, and what is written for it is one of them
in every layout.

## Main definitions

* `Json.SpellsChar`: the spellings of a character.
* `Json.SpellsText`: the spellings of a text.

## Main results

* `Json.SpellsText.readText`: a text is read from each of its spellings.
* `Json.spellsText_writeText`: a text is written in one of its spellings.
-/

set_option autoImplicit false

namespace NetworkIntent.Json

/-! ## The grammar -/

/-- The letters of the escapes of one letter, with the characters that they stand for. -/
def letterEscapes : List (Char × Char) :=
  [('"', '"'), ('\\', '\\'), ('/', '/'), ('b', '\x08'), ('f', '\x0C'), ('n', '\n'), ('r', '\r'),
    ('t', '\t')]

/-- Four hexadecimal digits that amount to a UTF-16 unit. -/
def SpellsUnit (unit : Nat) (digits : Bytes) : Prop :=
  ∃ a b c d, digits = [a, b, c, d] ∧ hexUnit? a b c d = some unit

/-- The spellings of a character within a text. -/
inductive SpellsChar (c : Char) : Bytes → Prop where
  /-- The character itself. -/
  | plain (hquote : c ≠ '"') (hbackslash : c ≠ '\\') (hcontrol : ¬c.toNat < 0x20) :
    SpellsChar c (Utf8.encodeChar c)
  /-- An escape of one letter. -/
  | letter {letter : Char} (h : (letter, c) ∈ letterEscapes) :
    SpellsChar c (0x5C :: Utf8.encodeChar letter)
  /-- The escape of the only unit of the character. -/
  | unit {digits : Bytes} (h : SpellsUnit c.toNat digits) : SpellsChar c (0x5C :: 0x75 :: digits)
  /-- The escapes of the two units of the character. -/
  | pair {high low : Nat} {digits digits' : Bytes} (hunits : utf16Units c = [high, low])
    (hhigh : SpellsUnit high digits) (hlow : SpellsUnit low digits') :
    SpellsChar c (0x5C :: 0x75 :: (digits ++ 0x5C :: 0x75 :: digits'))

/-- The spellings of a text: those of its characters, between quotes. -/
def SpellsText (s : String) (text : Bytes) : Prop :=
  ∃ parts, List.Forall₂ SpellsChar s.toList parts ∧ text = 0x22 :: parts.flatten ++ [0x22]

/-! ## Escapes -/

/-- A unit is read from its digits. -/
theorem SpellsUnit.readUnit {unit : Nat} {digits : Bytes} (h : SpellsUnit unit digits)
    (text : Bytes) : readUnit (digits ++ text) = .ok (unit, text) := by
  obtain ⟨a, b, c, d, rfl, hunit⟩ := h
  simp only [List.cons_append, List.nil_append, Json.readUnit, hunit]

/-- A unit that is no surrogate stands for its character. -/
theorem readUnits_lone {unit : Nat} {digits text : Bytes}
    (h : readUnit (digits ++ text) = .ok (unit, text)) (hrange : unit < 0xD800 ∨ 0xDFFF < unit) :
    readUnits (digits ++ text) = .ok (Utf8.encodeChar (Char.ofNat unit), text) := by
  rw [readUnits, h]
  simp only [bind, Except.bind]
  rw [if_neg (by omega), if_pos (by omega)]
  rfl

/-- A leading surrogate with the trailing one that follows it stands for a character. -/
theorem readUnits_pair {high low : Nat} (hhigh : 0xD800 ≤ high) (hhigh' : high ≤ 0xDBFF)
    (hlow : 0xDC00 ≤ low) (hlow' : low ≤ 0xDFFF) {digits digits' text : Bytes}
    (h : ∀ text, readUnit (digits ++ text) = .ok (high, text))
    (h' : readUnit (digits' ++ text) = .ok (low, text)) :
    readUnits (digits ++ 0x5C :: 0x75 :: (digits' ++ text)) =
      .ok (Utf8.encodeChar (Char.ofNat (0x10000 + (high - 0xD800) * 1024 + (low - 0xDC00))),
        text) := by
  rw [readUnits, h]
  simp only [bind, Except.bind, readPairing, if_true, h']
  rw [if_neg (by omega), if_neg (by omega), if_neg (by omega)]
  rfl

/-- The units of a character beyond the first plane are a leading and a trailing surrogate, which
together give it back. -/
theorem pair_of_utf16Units {c : Char} {high low : Nat} (h : utf16Units c = [high, low]) :
    0xD800 ≤ high ∧ high ≤ 0xDBFF ∧ 0xDC00 ≤ low ∧ low ≤ 0xDFFF ∧
      Char.ofNat (0x10000 + (high - 0xD800) * 1024 + (low - 0xDC00)) = c := by
  have hvalid := Utf8.toNat_valid c
  rw [utf16Units] at h
  split at h
  · simp at h
  · next hplane =>
    obtain ⟨rfl, rfl⟩ : 0xD800 + (c.toNat - 0x10000) / 1024 = high ∧
        0xDC00 + (c.toNat - 0x10000) % 1024 = low := by simpa using h
    refine ⟨by omega, by omega, by omega, by omega, ?_⟩
    have hcode : 0x10000 + (0xD800 + (c.toNat - 0x10000) / 1024 - 0xD800) * 1024
        + (0xDC00 + (c.toNat - 0x10000) % 1024 - 0xDC00) = c.toNat := by omega
    rw [hcode, Char.ofNat_toNat]

/-- An escape of one letter is read as its character. -/
theorem readEscape_letter {letter c : Char} (h : (letter, c) ∈ letterEscapes) (text : Bytes) :
    readEscape (Utf8.encodeChar letter ++ text) = .ok (Utf8.encodeChar c, text) := by
  have hall : ∀ entry ∈ letterEscapes, ∃ b b', Utf8.encodeChar entry.1 = [b] ∧
      Utf8.encodeChar entry.2 = [b'] ∧ escapedByte? b = some b' := by
    simp only [letterEscapes, List.forall_mem_cons]
    refine ⟨?_, ?_, ?_, ?_, ?_, ?_, ?_, ?_, by simp⟩ <;> exact ⟨_, _, rfl, rfl, by decide⟩
  obtain ⟨b, b', hletter, hc, hb⟩ := hall _ h
  rw [hletter, hc, List.singleton_append, readEscape, hb]

/-! ## Reading -/

/-- Puts bytes before the ones that are read. -/
def prepend (bytes : Bytes) (result : Except Stop (Bytes × Bytes)) : Except Stop (Bytes × Bytes) :=
  (fun (more, rest) => (bytes ++ more, rest)) <$> result

/-- Bytes that are neither quotes, backslashes nor control characters are read as they are. -/
theorem readTextBytes_plain (bytes : Bytes) (fuel : Nat) (text : Bytes)
    (h : ∀ b ∈ bytes, b ≠ 0x22 ∧ b ≠ 0x5C ∧ ¬b < 0x20) :
    readTextBytes (fuel + bytes.length) (bytes ++ text) =
      prepend bytes (readTextBytes fuel text) := by
  induction bytes with
  | nil => cases hread : readTextBytes fuel text <;> simp [prepend, hread]
  | cons b bytes ih =>
    obtain ⟨hquote, hbackslash, hcontrol⟩ := h b List.mem_cons_self
    rw [List.length_cons, ← Nat.add_assoc, List.cons_append, readTextBytes]
    dsimp only
    rw [if_neg hquote, if_neg hbackslash, if_neg hcontrol,
      ih fun b' hb' => h b' (List.mem_cons_of_mem _ hb')]
    cases readTextBytes fuel text <;> rfl

/-- An escape is read as what it stands for. -/
theorem readTextBytes_escape {escape bytes text : Bytes}
    (h : readEscape (escape ++ text) = .ok (bytes, text)) (fuel : Nat) :
    readTextBytes (fuel + 1) (0x5C :: escape ++ text) =
      prepend bytes (readTextBytes fuel text) := by
  rw [List.cons_append, readTextBytes]
  dsimp only
  rw [if_neg (by decide), if_pos rfl, h]
  rfl

/-- A character that is written as itself has no byte of a quote, a backslash or a control
character. -/
theorem plain_encodeChar {c : Char} (hquote : c ≠ '"') (hbackslash : c ≠ '\\')
    (hcontrol : ¬c.toNat < 0x20) :
    ∀ b ∈ Utf8.encodeChar c, b ≠ 0x22 ∧ b ≠ 0x5C ∧ ¬b < 0x20 := by
  intro b hb
  by_cases hascii : c.toNat < 0x80
  · rw [Utf8.encodeChar_of_lt hascii, List.mem_singleton] at hb
    have hbyte : b.toNat = c.toNat := by
      rw [hb]
      exact UInt8.toNat_ofNat_of_lt' (by simp only [UInt8.size]; omega)
    have hne : ∀ d : Char, c ≠ d → b.toNat ≠ d.toNat := by
      intro d hcd heq
      exact hcd (Char.toNat_inj.mp (hbyte.symm.trans heq))
    refine ⟨fun heq => hne '"' hquote (heq ▸ rfl), fun heq => hne '\\' hbackslash (heq ▸ rfl), ?_⟩
    rw [UInt8.lt_iff_toNat_lt, hbyte]
    simpa using hcontrol
  · have hle := Utf8.le_of_mem_encodeChar (Nat.le_of_not_lt hascii) hb
    refine ⟨?_, ?_, ?_⟩
    · rintro rfl
      exact absurd hle (by decide)
    · rintro rfl
      exact absurd hle (by decide)
    · intro hlt
      rw [UInt8.le_iff_toNat_le] at hle
      rw [UInt8.lt_iff_toNat_lt] at hlt
      simp only [UInt8.reduceToNat] at hle hlt
      omega

/-- A spelled character is read as its bytes, in no more rounds than there are bytes. -/
theorem SpellsChar.readTextBytes {c : Char} {part : Bytes} (h : SpellsChar c part) :
    ∃ rounds ≤ part.length, ∀ (fuel : Nat) (text : Bytes),
      readTextBytes (fuel + rounds) (part ++ text) =
        prepend (Utf8.encodeChar c) (readTextBytes fuel text) := by
  have hescape : ∀ rest, readEscape (0x75 :: rest) = readUnits rest := fun rest => rfl
  have hvalid := Utf8.toNat_valid c
  cases h with
  | plain hquote hbackslash hcontrol =>
    exact ⟨_, Nat.le_refl _, fun fuel text =>
      readTextBytes_plain _ fuel text (plain_encodeChar hquote hbackslash hcontrol)⟩
  | letter h =>
    exact ⟨1, by simp, fun fuel text => readTextBytes_escape (readEscape_letter h text) fuel⟩
  | unit h =>
    refine ⟨1, by simp, fun fuel text => readTextBytes_escape ?_ fuel⟩
    rw [List.cons_append, hescape, readUnits_lone (h.readUnit text) (by omega), Char.ofNat_toNat]
  | pair hunits hhigh hlow =>
    obtain ⟨hhigh₁, hhigh₂, hlow₁, hlow₂, hc⟩ := pair_of_utf16Units hunits
    refine ⟨1, by simp, fun fuel text => readTextBytes_escape ?_ fuel⟩
    rw [List.cons_append, hescape, List.append_assoc, List.cons_append, List.cons_append,
      readUnits_pair hhigh₁ hhigh₂ hlow₁ hlow₂ hhigh.readUnit (hlow.readUnit text), hc]

/-- Spelled characters are read as their bytes, up to the closing quote. -/
theorem readTextBytes_flatten {cs : List Char} {parts : List Bytes}
    (h : List.Forall₂ SpellsChar cs parts) (rest : Bytes) {fuel : Nat}
    (hfuel : parts.flatten.length < fuel) :
    readTextBytes fuel (parts.flatten ++ 0x22 :: rest) = .ok (Utf8.encode cs, 0x22 :: rest) := by
  induction h generalizing fuel with
  | nil =>
    obtain ⟨fuel, rfl⟩ := Nat.exists_eq_succ_of_ne_zero (Nat.ne_of_gt hfuel)
    rfl
  | cons hc _ ih =>
    rw [List.flatten_cons, List.length_append] at hfuel
    obtain ⟨rounds, hrounds, hread⟩ := hc.readTextBytes
    obtain ⟨fuel, rfl⟩ : ∃ left, fuel = left + rounds := ⟨fuel - rounds, by omega⟩
    rw [List.flatten_cons, List.append_assoc, hread, ih (by omega)]
    rfl

/-- **A text is read from each of its spellings.** -/
theorem SpellsText.readText {s : String} {text : Bytes} (h : SpellsText s text) :
    ∃ body, text = 0x22 :: body ∧ ∀ rest, readText (body ++ rest) = .ok (s, rest) := by
  obtain ⟨parts, hparts, rfl⟩ := h
  refine ⟨parts.flatten ++ [0x22], rfl, fun rest => ?_⟩
  have hbytes : Utf8.encode s.toList = Utf8.ofString s := rfl
  rw [List.append_assoc, List.singleton_append, Json.readText,
    readTextBytes_flatten hparts rest (by rw [List.length_append]; omega)]
  dsimp only
  rw [hbytes, Utf8.toString?_ofString]
  rfl

/-! ## Writing -/

/-- The byte of a hexadecimal digit. -/
def hexByte (d : Nat) : UInt8 :=
  UInt8.ofNat (hexDigit d).toNat

/-- Four hexadecimal digits are read as their unit. -/
theorem hexUnit?_hexByte {unit : Nat} (h : unit < 0x10000) :
    hexUnit? (hexByte (unit / 4096)) (hexByte (unit / 256 % 16)) (hexByte (unit / 16 % 16))
      (hexByte (unit % 16)) = some unit := by
  have hvalue : ∀ d < 16,
      (if 0x30 ≤ hexByte d ∧ hexByte d ≤ 0x39 then some ((hexByte d).toNat - 0x30)
        else if 0x61 ≤ hexByte d ∧ hexByte d ≤ 0x66 then some ((hexByte d).toNat - 0x57)
        else if 0x41 ≤ hexByte d ∧ hexByte d ≤ 0x46 then some ((hexByte d).toNat - 0x37)
        else none) = some d := by decide
  have hmod : ∀ n, n % 16 < 16 := fun n => Nat.mod_lt n (by decide)
  unfold hexUnit?
  dsimp only
  rw [hvalue _ (by omega), hvalue _ (hmod _), hvalue _ (hmod _), hvalue _ (hmod _)]
  simp only [Option.pure_def, Option.bind_eq_bind, Option.bind_some, Option.some.injEq]
  omega

/-- The four digits of a unit. -/
def unitBytes (unit : Nat) : Bytes :=
  [hexByte (unit / 4096), hexByte (unit / 256 % 16), hexByte (unit / 16 % 16), hexByte (unit % 16)]

/-- The bytes of the escape of a unit. -/
theorem encode_unitEscape {unit : Nat} (h : unit < 0x10000) :
    Utf8.encode (unitEscape unit) = 0x5C :: 0x75 :: unitBytes unit := by
  have hdigit : ∀ d < 16, Utf8.encodeChar (hexDigit d) = [hexByte d] := by decide
  have hmod : ∀ n, n % 16 < 16 := fun n => Nat.mod_lt n (by decide)
  rw [unitEscape]
  simp only [Utf8.encode_cons, hdigit _ (hmod _), hdigit (unit / 4096) (by omega), Utf8.encode_nil]
  rfl

/-- The digits of a unit amount to it. -/
theorem spellsUnit_unitBytes {unit : Nat} (h : unit < 0x10000) :
    SpellsUnit unit (unitBytes unit) :=
  ⟨_, _, _, _, rfl, hexUnit?_hexByte h⟩

/-- The escapes of the units of a character are one of its spellings. -/
theorem spellsChar_units (c : Char) :
    SpellsChar c (Utf8.encode ((utf16Units c).flatMap unitEscape)) := by
  by_cases hplane : c.toNat < 0x10000
  · have hunits : utf16Units c = [c.toNat] := if_pos hplane
    rw [hunits, List.flatMap_singleton, encode_unitEscape hplane]
    exact .unit (spellsUnit_unitBytes hplane)
  · have hvalid := Utf8.toNat_valid c
    have hunits : utf16Units c = [0xD800 + (c.toNat - 0x10000) / 1024,
      0xDC00 + (c.toNat - 0x10000) % 1024] := if_neg hplane
    have hhigh : 0xD800 + (c.toNat - 0x10000) / 1024 < 0x10000 := by omega
    have hlow : 0xDC00 + (c.toNat - 0x10000) % 1024 < 0x10000 := by omega
    have h := SpellsChar.pair hunits (spellsUnit_unitBytes hhigh) (spellsUnit_unitBytes hlow)
    rwa [hunits, List.flatMap_cons, List.flatMap_singleton, Utf8.encode_append,
      encode_unitEscape hhigh, encode_unitEscape hlow]

/-- A character is written in one of its spellings. -/
theorem spellsChar_writeChar (layout : Layout) (c : Char) :
    SpellsChar c (Utf8.encode (writeChar layout c)) := by
  have hletter : ∀ {letter d : Char}, c = d → (letter, d) ∈ letterEscapes →
      SpellsChar c (Utf8.encode ['\\', letter]) := by
    rintro letter _ rfl h
    have hbytes : Utf8.encode ['\\', letter] = 0x5C :: Utf8.encodeChar letter := by
      simp [Utf8.encode_cons, show Utf8.encodeChar '\\' = [0x5C] from rfl]
    exact hbytes ▸ .letter h
  rw [writeChar]
  split
  · next h => exact hletter h (by decide)
  · next hquote =>
    split
    · next h => exact hletter h (by decide)
    · next hbackslash =>
      split
      · next h => exact hletter h (by decide)
      split
      · next h => exact hletter h (by decide)
      split
      · next h => exact hletter h (by decide)
      split
      · next h => exact hletter h (by decide)
      split
      · next h => exact hletter h (by decide)
      split
      · next hcontrol =>
        have hunits : utf16Units c = [c.toNat] := if_pos (by omega)
        have h := spellsChar_units c
        rwa [hunits, List.flatMap_singleton] at h
      · next hcontrol =>
        split
        · exact spellsChar_units c
        · have hbytes : Utf8.encode [c] = Utf8.encodeChar c := by simp [Utf8.encode]
          exact hbytes ▸ .plain hquote hbackslash hcontrol

/-- A text is written in one of its spellings. -/
theorem spellsText_writeText (layout : Layout) (s : String) :
    SpellsText s (Utf8.encode (writeText layout s)) := by
  refine ⟨s.toList.map fun c => Utf8.encode (writeChar layout c), ?_, ?_⟩
  · rw [List.forall₂_map_right_iff]
    exact List.forall₂_same.mpr fun c _ => spellsChar_writeChar layout c
  · have hparts : ∀ cs : List Char, Utf8.encode (cs.flatMap (writeChar layout)) =
        (cs.map fun c => Utf8.encode (writeChar layout c)).flatten := by
      intro cs
      induction cs with
      | nil => rfl
      | cons c cs ih => rw [List.flatMap_cons, Utf8.encode_append, ih, List.map_cons,
          List.flatten_cons]
    rw [writeText, List.cons_append, Utf8.encode_cons, Utf8.encode_append, hparts]
    rfl

end NetworkIntent.Json
