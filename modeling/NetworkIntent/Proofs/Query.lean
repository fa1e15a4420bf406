import Mathlib.Logic.Basic
import NetworkIntent.Http.Url
import NetworkIntent.Proofs.Utf8

/-!
# Queries read back

What a host makes of the query of an address: a list of pairs. Plus signs are taken for spaces
before the encoded bytes are read, so a plus sign of the text itself is not lost, since it is always
encoded. No name or value has a delimiter in it once it is written, whatever the text is.

## Main definitions

* `Percent.readForm`: the text that a name or a value of a query stands for.
* `Percent.readQuery`: the pairs of a query.

## Main results

* `Percent.readForm_form`: a name or a value is read back.
* `Percent.readQuery_query`: so are the pairs of a query.
-/

set_option autoImplicit false

namespace NetworkIntent.Percent

/-! ## Reading -/

/-- The text that a name or a value of a query stands for. -/
def readForm (cs : List Char) : String :=
  Utf8.repair (decode (cs.map fun c => if c = '+' then ' ' else c))

/-- The pair that a part of a query stands for: what comes before and after the first equals
sign. -/
def readPair (cs : List Char) : String × String :=
  (readForm (cs.takeWhile (· ≠ '=')), readForm ((cs.dropWhile (· ≠ '=')).drop 1))

/-- The pairs that the parts of a query stand for, without the empty ones. -/
def readQuery (query : String) : List (String × String) :=
  ((query.toList.splitOn '&').filter (· ≠ [])).map readPair

/-! ## Names and values -/

/-- How a byte of a name or a value is written. -/
def formByte (b : UInt8) : List Char :=
  if b = 0x20 then ['+'] else if isFormSafe b then [Char.ofNat b.toNat] else escapeByte b

/-- A name or a value is written byte by byte. -/
theorem form_eq_flatMap (s : String) : form s = (Utf8.ofString s).flatMap formByte := rfl

/-- A byte that stands for itself is its character's only one, and no character with another
meaning. -/
theorem formSafe_char : ∀ n < 256, isFormSafe (UInt8.ofNat n) = true →
    Utf8.encodeChar (Char.ofNat n) = [UInt8.ofNat n] ∧
      Char.ofNat n ∉ ['%', '+', '&', '='] := by
  decide +kernel

/-- Upper-case hexadecimal digits are read as their values, and have no other meaning. -/
theorem hexDigitUpper_char : ∀ n < 16, hexValue? (hexDigitUpper n) = some n ∧
    hexDigitUpper n ∉ ['+', '&', '='] := by
  decide

/-- A byte is written as a single character, or it is encoded. -/
theorem formByte_cases (b : UInt8) :
    (∃ c, formByte b = [c] ∧ c ∉ ['%', '&', '='] ∧
        Utf8.encodeChar (if c = '+' then ' ' else c) = [b]) ∨
      formByte b = escapeByte b := by
  by_cases hspace : b = 0x20
  · subst hspace
    exact .inl ⟨'+', rfl, by decide, by decide⟩
  by_cases hsafe : isFormSafe b = true
  · have hbyte : UInt8.ofNat b.toNat = b := UInt8.ofNat_toNat
    obtain ⟨hencode, hne⟩ := formSafe_char b.toNat b.toNat_lt (by rwa [hbyte])
    simp only [List.mem_cons, List.not_mem_nil, or_false, not_or] at hne
    refine .inl ⟨Char.ofNat b.toNat, ?_, ?_, ?_⟩
    · rw [formByte, if_neg hspace, if_pos hsafe]
    · simp [hne.1, hne.2.2.1, hne.2.2.2]
    · rw [if_neg hne.2.1, hencode, hbyte]
  · exact .inr (by rw [formByte, if_neg hspace, if_neg hsafe])

/-- No delimiter is written for a byte. -/
theorem not_mem_formByte (b : UInt8) : '&' ∉ formByte b ∧ '=' ∉ formByte b := by
  rcases formByte_cases b with ⟨c, hc, hne, -⟩ | hescape
  · simp only [List.mem_cons, List.not_mem_nil, or_false, not_or] at hne
    rw [hc]
    simp [Ne.symm hne.2.1, Ne.symm hne.2.2]
  · have hhigh := (hexDigitUpper_char (b.toNat / 16) (by have := b.toNat_lt; omega)).2
    have hlow := (hexDigitUpper_char (b.toNat % 16) (Nat.mod_lt _ (by decide))).2
    simp only [List.mem_cons, List.not_mem_nil, or_false, not_or] at hhigh hlow
    rw [hescape, escapeByte]
    simp [Ne.symm hhigh.2.1, Ne.symm hhigh.2.2, Ne.symm hlow.2.1, Ne.symm hlow.2.2]

/-- No delimiter is written in a name or a value. -/
theorem not_mem_form (s : String) : '&' ∉ form s ∧ '=' ∉ form s := by
  simp only [form_eq_flatMap, List.mem_flatMap, not_exists, not_and]
  exact ⟨fun b _ => (not_mem_formByte b).1, fun b _ => (not_mem_formByte b).2⟩

/-- A character that is no percent sign stands for itself. -/
theorem decode_cons_of_ne {c : Char} (h : c ≠ '%') (rest : List Char) :
    decode (c :: rest) = Utf8.encodeChar c ++ decode rest := by
  rw [decode]
  rintro a b more rfl
  exact absurd rfl h

/-- An encoded byte is read as this byte. -/
theorem decode_escapeByte (b : UInt8) (rest : List Char) :
    decode (escapeByte b ++ rest) = b :: decode rest := by
  have hb := b.toNat_lt
  have hhigh := (hexDigitUpper_char (b.toNat / 16) (by omega)).1
  have hlow := (hexDigitUpper_char (b.toNat % 16) (by omega)).1
  have hparts : b.toNat / 16 * 16 + b.toNat % 16 = b.toNat := by omega
  simp only [escapeByte, List.cons_append, List.nil_append, decode, hhigh, hlow, hparts]
  rw [UInt8.ofNat_toNat]

/-- There is no plus sign in an encoded byte. -/
theorem escapeByte_map (b : UInt8) :
    (escapeByte b).map (fun c => if c = '+' then ' ' else c) = escapeByte b := by
  have hb := b.toNat_lt
  have hhigh := (hexDigitUpper_char (b.toNat / 16) (by omega)).2
  have hlow := (hexDigitUpper_char (b.toNat % 16) (by omega)).2
  simp only [List.mem_cons, List.not_mem_nil, or_false, not_or] at hhigh hlow
  simp only [escapeByte, List.map_cons, List.map_nil, if_neg (show '%' ≠ '+' by decide),
    if_neg hhigh.1, if_neg hlow.1]

/-- What is written for a byte is read as this byte. -/
theorem decode_formByte (b : UInt8) (rest : List Char) :
    decode ((formByte b).map (fun c => if c = '+' then ' ' else c) ++ rest) = b :: decode rest := by
  rcases formByte_cases b with ⟨c, hc, hne, hencode⟩ | hescape
  · have hpercent : (if c = '+' then ' ' else c) ≠ '%' := by
      split
      · decide
      · rintro rfl
        simp at hne
    rw [hc]
    simp only [List.map_cons, List.map_nil, List.cons_append, List.nil_append]
    rw [decode_cons_of_ne hpercent, hencode]
    rfl
  · rw [hescape, escapeByte_map, decode_escapeByte]

/-- What is written for bytes is read as these bytes. -/
theorem decode_flatMap_formByte (bytes : Bytes) :
    decode ((bytes.flatMap formByte).map fun c => if c = '+' then ' ' else c) = bytes := by
  induction bytes with
  | nil => rfl
  | cons b bytes ih => rw [List.flatMap_cons, List.map_append, decode_formByte, ih]

/-- **A name or a value of a query is read back.** -/
theorem readForm_form (s : String) : readForm (form s) = s := by
  have hrepair : ∀ cs, Utf8.repair (Utf8.encode cs) = String.ofList cs := by
    intro cs
    rw [Utf8.repair, Utf8.repairFrom, Utf8.decode_encode]
  rw [readForm, form_eq_flatMap, decode_flatMap_formByte, Utf8.ofString, hrepair,
    String.ofList_toList]

/-! ## Pairs -/

/-- A pair is read back. -/
theorem readPair_form (name value : String) :
    readPair (form name ++ '=' :: form value) = (name, value) := by
  have hname : ∀ c ∈ form name, decide (c ≠ '=') = true := by
    intro c hc
    have hne : c ≠ '=' := by
      rintro rfl
      exact (not_mem_form name).2 hc
    exact decide_eq_true hne
  rw [readPair, List.takeWhile_append_of_pos hname, List.dropWhile_append_of_pos hname]
  simp [readForm_form]

/-- **The pairs of a query are read back.** -/
theorem readQuery_query (pairs : List (String × String)) : readQuery (query pairs) = pairs := by
  rcases eq_or_ne pairs [] with rfl | hne
  · rfl
  · have hquery : query pairs = String.ofList (List.intercalate ['&']
        (pairs.map fun pair => form pair.1 ++ '=' :: form pair.2)) := rfl
    have hdelimiter : ∀ part ∈ pairs.map (fun pair => form pair.1 ++ '=' :: form pair.2),
        '&' ∉ part := by
      intro part hpart
      obtain ⟨pair, -, rfl⟩ := List.mem_map.mp hpart
      simp [(not_mem_form pair.1).1, (not_mem_form pair.2).1]
    have hwritten : ∀ part ∈ pairs.map (fun pair => form pair.1 ++ '=' :: form pair.2),
        decide (part ≠ []) = true := by
      intro part hpart
      obtain ⟨pair, -, rfl⟩ := List.mem_map.mp hpart
      simp
    rw [hquery, readQuery, String.toList_ofList,
      List.splitOn_intercalate _ hdelimiter (by simpa using hne),
      List.filter_eq_self.mpr hwritten, List.map_map]
    exact List.map_id'' (fun pair => readPair_form pair.1 pair.2) pairs

/-- The pairs of two queries are those of both. -/
theorem readQuery_append (first second : String) :
    readQuery (first ++ "&" ++ second) = readQuery first ++ readQuery second := by
  have hsplit : (first ++ "&" ++ second).toList.splitOn '&' =
      first.toList.splitOn '&' ++ second.toList.splitOn '&' := by
    rw [String.toList_append, String.toList_append, List.append_assoc]
    exact List.splitOnP_append_cons first.toList second.toList (by decide : ('&' == '&') = true)
  rw [readQuery, hsplit, List.filter_append, List.map_append]
  rfl

@[simp] theorem readQuery_empty : readQuery "" = [] := rfl

end NetworkIntent.Percent

namespace NetworkIntent.Url

/-- **The pairs that are added to an address come after those of its own query.** -/
theorem readQuery_addQuery (url : Url) (pairs : List (String × String)) :
    Percent.readQuery ((url.addQuery pairs).query.getD "") =
      Percent.readQuery (url.query.getD "") ++ pairs := by
  have hadded := Percent.readQuery_query pairs
  obtain ⟨scheme, authority, path, query, fragment⟩ := url
  have hnonempty : ∀ query : String,
      (if query.isEmpty then none else some query).getD "" = query := by
    intro query
    split
    · next hempty => exact (String.isEmpty_iff.mp hempty).symm
    · rfl
  simp only [addQuery, hnonempty]
  cases query with
  | none => simpa using hadded
  | some before =>
    dsimp only [Option.getD_some]
    by_cases hbefore : before = ""
    · simp [hbefore, hadded]
    · rw [if_neg (by simpa using hbefore)]
      by_cases hempty : Percent.query pairs = ""
      · rw [hempty, Percent.readQuery_empty] at hadded
        rw [if_pos (by simpa using hempty), ← hadded, List.append_nil]
      · rw [if_neg (by simpa using hempty)]
        have happend := Percent.readQuery_append before (Percent.query pairs)
        rw [hadded] at happend
        exact happend

end NetworkIntent.Url
