import Mathlib.Data.String.Basic
import NetworkIntent.Proofs.Pointwise
import NetworkIntent.Text.Utf8

/-!
# UTF-8 read back

The bytes of a text are read as this text, and no other bytes are; texts come in the order of their
bytes. Characters beyond ASCII have no byte of ASCII among theirs, so bytes of ASCII within a text
always stand for themselves.

## Main definitions

* `IsAscii`: a text of ASCII characters.

## Main results

* `Utf8.decode_encode`: the bytes of characters are read as these characters.
* `Utf8.decode_eq_ok_iff`: bytes are read as the characters whose bytes they are, and as no others.
* `Utf8.toString?_ofString`: the bytes of a text are read as this text.
* `Utf8.le_of_mem_encodeChar`: the bytes of characters beyond ASCII.
* `Utf8.ofString_lt_iff`: texts are ordered as their bytes are.
-/

set_option autoImplicit false

namespace NetworkIntent

/-- A text of ASCII characters. -/
def IsAscii (text : String) : Prop :=
  ∀ c ∈ text.toList, c.toNat < 128

/-- A byte is given by its number. -/
theorem ofNat_eq_byte (b : UInt8) {n : Nat} (h : n = b.toNat) : UInt8.ofNat n = b :=
  h ▸ UInt8.ofNat_toNat

end NetworkIntent

namespace NetworkIntent.Utf8

/-! ## Bytes -/

theorem encode_append (cs ds : List Char) : encode (cs ++ ds) = encode cs ++ encode ds :=
  List.flatMap_append

@[simp] theorem encode_nil : encode [] = [] := rfl

theorem encode_cons (c : Char) (cs : List Char) : encode (c :: cs) = encodeChar c ++ encode cs :=
  rfl

/-- A byte given by a number that fits is compared by this number. -/
private theorem byte_lt_iff {n : Nat} (h : n < 256) (b : UInt8) :
    UInt8.ofNat n < b ↔ n < b.toNat := by
  rw [UInt8.lt_iff_toNat_lt, UInt8.toNat_ofNat_of_lt' h]

private theorem lt_byte_iff {n : Nat} (h : n < 256) (b : UInt8) :
    b < UInt8.ofNat n ↔ b.toNat < n := by
  rw [UInt8.lt_iff_toNat_lt, UInt8.toNat_ofNat_of_lt' h]

private theorem byte_eq_iff {n : Nat} (h : n < 256) (b : UInt8) :
    UInt8.ofNat n = b ↔ n = b.toNat := by
  rw [← UInt8.toNat_inj, UInt8.toNat_ofNat_of_lt' h]

/-- The code point of a character is no surrogate and exists. -/
theorem toNat_valid (c : Char) : c.toNat < 0xD800 ∨ 0xDFFF < c.toNat ∧ c.toNat < 0x110000 :=
  c.valid

/-- A character of ASCII is its own byte. -/
theorem encodeChar_of_lt {c : Char} (h : c.toNat < 0x80) :
    encodeChar c = [UInt8.ofNat c.toNat] := by
  rw [encodeChar, if_pos h]

/-- The four forms in which characters are written. -/
private theorem encodeChar_cases (c : Char) :
    (c.toNat < 0x80 ∧ encodeChar c = [UInt8.ofNat c.toNat]) ∨
    (0x80 ≤ c.toNat ∧ c.toNat < 0x800 ∧ encodeChar c =
      [UInt8.ofNat (0xC0 + c.toNat / 64), UInt8.ofNat (0x80 + c.toNat % 64)]) ∨
    (0x800 ≤ c.toNat ∧ c.toNat < 0x10000 ∧ encodeChar c =
      [UInt8.ofNat (0xE0 + c.toNat / 4096), UInt8.ofNat (0x80 + c.toNat / 64 % 64),
        UInt8.ofNat (0x80 + c.toNat % 64)]) ∨
    (0x10000 ≤ c.toNat ∧ encodeChar c =
      [UInt8.ofNat (0xF0 + c.toNat / 262144), UInt8.ofNat (0x80 + c.toNat / 4096 % 64),
        UInt8.ofNat (0x80 + c.toNat / 64 % 64), UInt8.ofNat (0x80 + c.toNat % 64)]) := by
  rw [encodeChar]
  by_cases h1 : c.toNat < 0x80
  · exact .inl ⟨h1, if_pos h1⟩
  · by_cases h2 : c.toNat < 0x800
    · exact .inr (.inl ⟨Nat.le_of_not_lt h1, h2, by rw [if_neg h1, if_pos h2]⟩)
    · by_cases h3 : c.toNat < 0x10000
      · exact .inr (.inr (.inl ⟨Nat.le_of_not_lt h2, h3, by rw [if_neg h1, if_neg h2, if_pos h3]⟩))
      · exact .inr (.inr (.inr ⟨Nat.le_of_not_lt h3, by rw [if_neg h1, if_neg h2, if_neg h3]⟩))

/-- Characters beyond ASCII have only bytes beyond ASCII. -/
theorem le_of_mem_encodeChar {c : Char} (h : 0x80 ≤ c.toNat) {b : UInt8} (hb : b ∈ encodeChar c) :
    0x80 ≤ b := by
  have hvalid := toNat_valid c
  have hbyte : ∀ n, 0x80 ≤ n → n < 256 → (0x80 : UInt8) ≤ UInt8.ofNat n := by
    intro n hle hlt
    rw [UInt8.le_iff_toNat_le, UInt8.toNat_ofNat_of_lt' hlt]
    exact hle
  rcases encodeChar_cases c with ⟨hlt, -⟩ | ⟨-, hlt, heq⟩ | ⟨-, hlt, heq⟩ | ⟨-, heq⟩
  · omega
  · rw [heq] at hb
    simp only [List.mem_cons, List.not_mem_nil, or_false] at hb
    rcases hb with rfl | rfl <;> exact hbyte _ (by omega) (by omega)
  · rw [heq] at hb
    simp only [List.mem_cons, List.not_mem_nil, or_false] at hb
    rcases hb with rfl | rfl | rfl <;> exact hbyte _ (by omega) (by omega)
  · rw [heq] at hb
    simp only [List.mem_cons, List.not_mem_nil, or_false] at hb
    rcases hb with rfl | rfl | rfl | rfl <;> exact hbyte _ (by omega) (by omega)

/-! ## Reading characters back -/

/-- What may follow the lead byte of two. -/
private theorem continuation_two {n : Nat} (h : 0xC2 ≤ n) (h' : n < 0xE0) :
    continuation (UInt8.ofNat n) = some (1, 0x80, 0xBF) := by
  have hlt : n < 256 := by omega
  rw [continuation, if_neg (by rw [byte_lt_iff hlt]; simpa using h),
    if_pos (by rw [byte_lt_iff hlt]; simpa using h')]

/-- What may follow the lead byte of three. -/
private theorem continuation_three {n : Nat} (h : 0xE0 ≤ n) (h' : n < 0xF0) :
    continuation (UInt8.ofNat n) =
      some (2, UInt8.ofNat (if n = 0xE0 then 0xA0 else 0x80),
        UInt8.ofNat (if n = 0xED then 0x9F else 0xBF)) := by
  have hlt : n < 256 := by omega
  rw [continuation]
  simp only [byte_lt_iff hlt, byte_eq_iff hlt, UInt8.reduceToNat]
  rw [if_neg (by omega), if_neg (by omega)]
  by_cases hE0 : n = 0xE0
  · simp [hE0]
  · by_cases hED : n = 0xED
    · simp [hED]
    · simp [hE0, hED, h']

/-- What may follow the lead byte of four. -/
private theorem continuation_four {n : Nat} (h : 0xF0 ≤ n) (h' : n ≤ 0xF4) :
    continuation (UInt8.ofNat n) =
      some (3, UInt8.ofNat (if n = 0xF0 then 0x90 else 0x80),
        UInt8.ofNat (if n = 0xF4 then 0x8F else 0xBF)) := by
  have hlt : n < 256 := by omega
  rw [continuation]
  simp only [byte_lt_iff hlt, byte_eq_iff hlt, UInt8.reduceToNat]
  rw [if_neg (by omega), if_neg (by omega), if_neg (by omega), if_neg (by omega), if_neg (by omega)]
  by_cases hF0 : n = 0xF0
  · simp [hF0]
  · by_cases hF4 : n = 0xF4
    · simp [hF4]
    · have hlt' : n < 0xF4 := by omega
      simp [hF0, hF4, hlt']

private theorem toNat_continuing {n : Nat} (h : n < 64) :
    (UInt8.ofNat (0x80 + n)).toNat = 0x80 + n := by
  have hlt : 0x80 + n < UInt8.size := by
    simp only [UInt8.size]
    omega
  exact UInt8.toNat_ofNat_of_lt' hlt

/-- A byte that continues a character carries six bits. -/
private theorem payload_ofNat {n : Nat} (h : n < 64) : payload (UInt8.ofNat (0x80 + n)) = n := by
  have hbyte := toNat_continuing h
  unfold payload
  omega

private theorem isContinuation_ofNat {n : Nat} (h : n < 64) :
    isContinuation (UInt8.ofNat (0x80 + n)) = true := by
  rw [isContinuation, Bool.and_eq_true, decide_eq_true_iff, decide_eq_true_iff,
    UInt8.le_iff_toNat_le, UInt8.le_iff_toNat_le, toNat_continuing h]
  simp only [UInt8.reduceToNat]
  omega

/-- Whether the byte after a lead byte is in the range that the lead byte leaves to it. -/
private theorem inRange_ofNat {n : Nat} (low high : Nat) (hn : n < 256) (hlow : low ≤ n)
    (hhigh : n ≤ high) (hhigh' : high < 256) :
    (decide (UInt8.ofNat n < UInt8.ofNat low) || decide (UInt8.ofNat high < UInt8.ofNat n)) =
      false := by
  rw [Bool.or_eq_false_iff, decide_eq_false_iff_not, decide_eq_false_iff_not, lt_byte_iff hn,
    byte_lt_iff hn, UInt8.toNat_ofNat_of_lt' hhigh', UInt8.toNat_ofNat_of_lt' (by
      simp only [UInt8.size]; omega)]
  omega

section

variable {lead next second third low high : UInt8}

/-- How two bytes are read. -/
private theorem decodeFrom_two (hlead : ¬lead < 0x80)
    (hcontinuation : continuation lead = some (1, low, high))
    (hnext : (decide (next < low) || decide (high < next)) = false) (index : Nat) (rest : Bytes) :
    decodeFrom index (lead :: next :: rest) =
      (Char.ofNat ((lead.toNat - 0xC0) * 64 + payload next) :: ·) <$>
        decodeFrom (index + 2) rest := by
  rw [decodeFrom, if_neg hlead, hcontinuation]
  simp [hnext]

/-- How three bytes are read. -/
private theorem decodeFrom_three (hlead : ¬lead < 0x80)
    (hcontinuation : continuation lead = some (2, low, high))
    (hnext : (decide (next < low) || decide (high < next)) = false)
    (hsecond : isContinuation second = true) (index : Nat) (rest : Bytes) :
    decodeFrom index (lead :: next :: second :: rest) =
      (Char.ofNat ((lead.toNat - 0xE0) * 4096 + payload next * 64 + payload second) :: ·) <$>
        decodeFrom (index + 3) rest := by
  rw [decodeFrom, if_neg hlead, hcontinuation]
  simp [hnext, hsecond]

/-- How four bytes are read. -/
private theorem decodeFrom_four (hlead : ¬lead < 0x80)
    (hcontinuation : continuation lead = some (3, low, high))
    (hnext : (decide (next < low) || decide (high < next)) = false)
    (hsecond : isContinuation second = true) (hthird : isContinuation third = true) (index : Nat)
    (rest : Bytes) :
    decodeFrom index (lead :: next :: second :: third :: rest) =
      (Char.ofNat ((lead.toNat - 0xF0) * 262144 + payload next * 4096 + payload second * 64
        + payload third) :: ·) <$> decodeFrom (index + 4) rest := by
  rw [decodeFrom, if_neg hlead, hcontinuation]
  simp [hnext, hsecond, hthird]

end

/-- The bytes of a character are read as this character.

**Proof sketch.** By the form of the character. The lead byte tells how many bytes follow, and the
ranges of the first of these exclude overlong forms and surrogates, which no character needs. -/
theorem decodeFrom_encodeChar (c : Char) (index : Nat) (rest : Bytes) :
    decodeFrom index (encodeChar c ++ rest) =
      (c :: ·) <$> decodeFrom (index + (encodeChar c).length) rest := by
  have hvalid := toNat_valid c
  have hlead : ∀ n, 0x80 ≤ n → n < 256 → ¬UInt8.ofNat n < 0x80 := by
    intro n hle hlt
    rw [byte_lt_iff hlt]
    simpa using hle
  have hsix : ∀ n : Nat, n % 64 < 64 := fun n => Nat.mod_lt n (by decide)
  rcases encodeChar_cases c with ⟨hlt, heq⟩ | ⟨hle, hlt, heq⟩ | ⟨hle, hlt, heq⟩ | ⟨hle, heq⟩
  · have hbyte : c.toNat < 256 := by omega
    rw [heq, List.singleton_append, decodeFrom, if_pos (by rw [byte_lt_iff hbyte]; exact hlt),
      UInt8.toNat_ofNat_of_lt' hbyte, Char.ofNat_toNat]
    rfl
  · rw [heq]
    refine (decodeFrom_two (hlead _ (by omega) (by omega))
      (continuation_two (by omega) (by omega))
      (inRange_ofNat 0x80 0xBF (by omega) (by omega) (by omega) (by omega))
      index rest).trans ?_
    rw [payload_ofNat (hsix _), UInt8.toNat_ofNat_of_lt' (by simp only [UInt8.size]; omega)]
    have hcode : (0xC0 + c.toNat / 64 - 0xC0) * 64 + c.toNat % 64 = c.toNat := by omega
    rw [hcode, Char.ofNat_toNat]
    rfl
  · rw [heq]
    refine (decodeFrom_three (hlead _ (by omega) (by omega))
      (continuation_three (by omega) (by omega))
      (inRange_ofNat _ _ (by omega) (by split <;> omega) (by split <;> omega) (by split <;> omega))
      (isContinuation_ofNat (hsix _)) index rest).trans ?_
    rw [payload_ofNat (hsix _), payload_ofNat (hsix _),
      UInt8.toNat_ofNat_of_lt' (by simp only [UInt8.size]; omega)]
    have hcode : (0xE0 + c.toNat / 4096 - 0xE0) * 4096 + c.toNat / 64 % 64 * 64 + c.toNat % 64 =
        c.toNat := by omega
    rw [hcode, Char.ofNat_toNat]
    rfl
  · rw [heq]
    refine (decodeFrom_four (hlead _ (by omega) (by omega))
      (continuation_four (by omega) (by omega))
      (inRange_ofNat _ _ (by omega) (by split <;> omega) (by split <;> omega) (by split <;> omega))
      (isContinuation_ofNat (hsix _)) (isContinuation_ofNat (hsix _)) index rest).trans ?_
    rw [payload_ofNat (hsix _), payload_ofNat (hsix _), payload_ofNat (hsix _),
      UInt8.toNat_ofNat_of_lt' (by simp only [UInt8.size]; omega)]
    have hcode : (0xF0 + c.toNat / 262144 - 0xF0) * 262144 + c.toNat / 4096 % 64 * 4096
        + c.toNat / 64 % 64 * 64 + c.toNat % 64 = c.toNat := by omega
    rw [hcode, Char.ofNat_toNat]
    rfl

/-- The bytes of characters are read as these characters, wherever they are in a text. -/
theorem decodeFrom_encode (cs : List Char) : ∀ index, decodeFrom index (encode cs) = .ok cs := by
  induction cs with
  | nil => exact fun index => rfl
  | cons c cs ih =>
    intro index
    rw [encode_cons, decodeFrom_encodeChar, ih]
    rfl

/-- **The bytes of characters are read as these characters.** -/
theorem decode_encode (cs : List Char) : decode (encode cs) = .ok cs :=
  decodeFrom_encode cs 0

/-- **The bytes of a text are read as this text.** -/
theorem toString?_ofString (s : String) : toString? (ofString s) = some s := by
  rw [toString?, ofString, decode_encode]
  simp

/-! ## What is read is written -/

/-- The code point of the character that a number stands for. -/
private theorem toNat_ofNat_of_valid {n : Nat} (h : n < 0xD800 ∨ 0xDFFF < n ∧ n < 0x110000) :
    (Char.ofNat n).toNat = n := by
  rw [Char.ofNat, dif_pos h]
  rfl

/-- The numbers of the bytes that continue a character. -/
private theorem toNat_of_isContinuation {b : UInt8} (h : isContinuation b = true) :
    0x80 ≤ b.toNat ∧ b.toNat ≤ 0xBF := by
  rw [isContinuation, Bool.and_eq_true, decide_eq_true_iff, decide_eq_true_iff] at h
  exact h

section

variable {lead next second third low high : UInt8} {more : Nat}

/-- The lead bytes by how many bytes follow them, with the numbers of the first of these. -/
private theorem next_cases (h : continuation lead = some (more, low, high))
    (hnext : ¬(decide (next < low) || decide (high < next)) = true) :
    (more = 1 ∧ 0xC2 ≤ lead.toNat ∧ lead.toNat < 0xE0 ∧ 0x80 ≤ next.toNat ∧ next.toNat ≤ 0xBF) ∨
    (more = 2 ∧ 0xE0 ≤ lead.toNat ∧ lead.toNat < 0xF0 ∧ 0x80 ≤ next.toNat ∧ next.toNat ≤ 0xBF ∧
      (lead.toNat = 0xE0 → 0xA0 ≤ next.toNat) ∧ (lead.toNat = 0xED → next.toNat ≤ 0x9F)) ∨
    (more = 3 ∧ 0xF0 ≤ lead.toNat ∧ lead.toNat ≤ 0xF4 ∧ 0x80 ≤ next.toNat ∧ next.toNat ≤ 0xBF ∧
      (lead.toNat = 0xF0 → 0x90 ≤ next.toNat) ∧ (lead.toNat = 0xF4 → next.toNat ≤ 0x8F)) := by
  rw [Bool.or_eq_true, decide_eq_true_iff, decide_eq_true_iff, not_or, UInt8.not_lt,
    UInt8.not_lt, UInt8.le_iff_toNat_le, UInt8.le_iff_toNat_le] at hnext
  obtain ⟨hlow, hhigh⟩ := hnext
  rw [continuation] at h
  simp only [UInt8.lt_iff_toNat_lt, ← UInt8.toNat_inj, UInt8.reduceToNat] at h
  split_ifs at h <;> cases h <;> simp only [UInt8.reduceToNat] at hlow hhigh <;> omega

/-- Two bytes are the ones of the character that is read from them. -/
private theorem encodeChar_two (hlead : 0xC2 ≤ lead.toNat) (hlead' : lead.toNat < 0xE0)
    (hnext : 0x80 ≤ next.toNat) (hnext' : next.toNat ≤ 0xBF) :
    encodeChar (Char.ofNat ((lead.toNat - 0xC0) * 64 + payload next)) = [lead, next] := by
  unfold payload
  rw [encodeChar, toNat_ofNat_of_valid (by omega), if_neg (by omega), if_pos (by omega),
    ofNat_eq_byte lead (by omega), ofNat_eq_byte next (by omega)]

/-- Three bytes are the ones of the character that is read from them. -/
private theorem encodeChar_three (hlead : 0xE0 ≤ lead.toNat) (hlead' : lead.toNat < 0xF0)
    (hnext : 0x80 ≤ next.toNat) (hnext' : next.toNat ≤ 0xBF)
    (hshortest : lead.toNat = 0xE0 → 0xA0 ≤ next.toNat)
    (hsurrogate : lead.toNat = 0xED → next.toNat ≤ 0x9F) (hsecond : isContinuation second = true) :
    encodeChar (Char.ofNat ((lead.toNat - 0xE0) * 4096 + payload next * 64 + payload second)) =
      [lead, next, second] := by
  obtain ⟨hsecond, hsecond'⟩ := toNat_of_isContinuation hsecond
  unfold payload
  rw [encodeChar, toNat_ofNat_of_valid (by omega), if_neg (by omega), if_neg (by omega),
    if_pos (by omega), ofNat_eq_byte lead (by omega),
    ofNat_eq_byte next (by omega), ofNat_eq_byte second (by omega)]

/-- Four bytes are the ones of the character that is read from them. -/
private theorem encodeChar_four (hlead : 0xF0 ≤ lead.toNat) (hlead' : lead.toNat ≤ 0xF4)
    (hnext : 0x80 ≤ next.toNat) (hnext' : next.toNat ≤ 0xBF)
    (hshortest : lead.toNat = 0xF0 → 0x90 ≤ next.toNat)
    (hgreatest : lead.toNat = 0xF4 → next.toNat ≤ 0x8F) (hsecond : isContinuation second = true)
    (hthird : isContinuation third = true) :
    encodeChar (Char.ofNat ((lead.toNat - 0xF0) * 262144 + payload next * 4096
      + payload second * 64 + payload third)) = [lead, next, second, third] := by
  obtain ⟨hsecond, hsecond'⟩ := toNat_of_isContinuation hsecond
  obtain ⟨hthird, hthird'⟩ := toNat_of_isContinuation hthird
  unfold payload
  rw [encodeChar, toNat_ofNat_of_valid (by omega), if_neg (by omega), if_neg (by omega),
    if_neg (by omega), ofNat_eq_byte lead (by omega),
    ofNat_eq_byte next (by omega), ofNat_eq_byte second (by omega),
    ofNat_eq_byte third (by omega)]

end

/-- What is read from some place on has the bytes of the characters.

**Proof sketch.** By the cases of the reading. A character is read from bytes of one of the four
forms, and the ranges that their first bytes leave to the second one are such that the character is
written in this form again. -/
theorem eq_encode_of_decodeFrom {bytes : Bytes} {index : Nat} {cs : List Char}
    (h : decodeFrom index bytes = .ok cs) : bytes = encode cs := by
  have hstep {c : Char} (first : Bytes) {rest : Bytes} {result : Except Fault (List Char)}
      (hfirst : encodeChar c = first) (hrest : ∀ {cs}, result = .ok cs → rest = encode cs)
      {cs : List Char} (h : (c :: ·) <$> result = .ok cs) : first ++ rest = encode cs := by
    obtain ⟨others, hothers, rfl⟩ := map_eq_ok_iff.mp h
    rw [encode_cons, hfirst, hrest hothers]
  fun_induction decodeFrom index bytes generalizing cs with
  | case1 =>
    cases h
    rfl
  | case2 index b rest hb ih =>
    refine hstep [b] ?_ ih h
    have hlt : b.toNat < 0x80 := hb
    rw [encodeChar, toNat_ofNat_of_valid (by omega), if_pos hlt, UInt8.ofNat_toNat]
  | case6 index b hb low high b₁ rest hnext hcontinuation ih =>
    refine hstep [b, b₁] ?_ ih h
    rcases next_cases hcontinuation hnext with ⟨-, h₁, h₂, h₃, h₄⟩ | ⟨hmore, -⟩ | ⟨hmore, -⟩
    · exact encodeChar_two h₁ h₂ h₃ h₄
    · omega
    · omega
  | case9 index b hb low high b₁ hnext b₂ rest hsecond hcontinuation hmore ih =>
    refine hstep [b, b₁, b₂] ?_ ih h
    rcases next_cases hcontinuation hnext with ⟨hmore, -⟩ | ⟨-, h₁, h₂, h₃, h₄, h₅, h₆⟩ | ⟨hmore, -⟩
    · omega
    · exact encodeChar_three h₁ h₂ h₃ h₄ h₅ h₆ (by simpa using hsecond)
    · omega
  | case12 index b hb more low high hcontinuation b₁ hnext hone b₂ hsecond htwo b₃ rest hthird ih =>
    refine hstep [b, b₁, b₂, b₃] ?_ ih h
    rcases next_cases hcontinuation hnext with ⟨hmore, -⟩ | ⟨hmore, -⟩ | ⟨-, h₁, h₂, h₃, h₄, h₅, h₆⟩
    · omega
    · omega
    · exact encodeChar_four h₁ h₂ h₃ h₄ h₅ h₆ (by simpa using hsecond) (by simpa using hthird)
  -- In the other cases the reading stops with a fault.
  | case3 | case4 | case5 | case7 | case8 | case10 | case11 => cases h

/-- **Bytes are read as characters exactly if they are the bytes of these characters.** -/
theorem decode_eq_ok_iff {bytes : Bytes} {cs : List Char} :
    decode bytes = .ok cs ↔ bytes = encode cs :=
  ⟨eq_encode_of_decodeFrom, fun h => h ▸ decode_encode cs⟩

/-! ## The order of texts -/

/-- Two bytes given by numbers that fit are compared by these numbers, and what follows them only
if they are the same. -/
private theorem ofNat_cons_lt_iff {m n : Nat} (hm : m < 256) (hn : n < 256) (bs cs : Bytes) :
    UInt8.ofNat m :: bs < UInt8.ofNat n :: cs ↔ m < n ∨ m = n ∧ bs < cs := by
  rw [List.cons_lt_cons_iff, byte_lt_iff hm, ← UInt8.toNat_inj, UInt8.toNat_ofNat_of_lt' hm,
    UInt8.toNat_ofNat_of_lt' hn]

/-- A character that comes before another one has bytes that do, whatever bytes follow. -/
theorem encodeChar_append_lt {c d : Char} (h : c < d) (bs cs : Bytes) :
    encodeChar c ++ bs < encodeChar d ++ cs := by
  have hlt : c.toNat < d.toNat := h
  have hc := toNat_valid c
  have hd := toNat_valid d
  -- A longer form starts with a larger byte; two bytes of one form split the same code point.
  rcases encodeChar_cases c with ⟨_, hce⟩ | ⟨_, _, hce⟩ | ⟨_, _, hce⟩ | ⟨_, hce⟩ <;>
    rcases encodeChar_cases d with ⟨_, hde⟩ | ⟨_, _, hde⟩ | ⟨_, _, hde⟩ | ⟨_, hde⟩ <;>
    first
    | omega
    | rw [hce, hde]
      simp (disch := omega) only [List.cons_append, List.nil_append, ofNat_cons_lt_iff]
      omega

/-- Every character has a byte. -/
theorem encodeChar_ne_nil (c : Char) : encodeChar c ≠ [] := by
  rcases encodeChar_cases c with ⟨_, h⟩ | ⟨_, _, h⟩ | ⟨_, _, h⟩ | ⟨_, h⟩ <;> rw [h] <;> nofun

/-- Characters that come before other ones have bytes that do. -/
theorem encode_lt_of_lt {cs ds : List Char} (h : cs < ds) : encode cs < encode ds := by
  induction h with
  | @nil d ds =>
    obtain ⟨b, bs, hb⟩ := List.exists_cons_of_ne_nil (encodeChar_ne_nil d)
    rw [encode_cons, hb]
    exact List.nil_lt_cons b _
  | rel hcd => exact encodeChar_append_lt hcd _ _
  | cons _ ih => exact List.append_left_lt ih

/-- **Texts are ordered as their bytes are.** -/
theorem ofString_lt_iff {s t : String} : ofString s < ofString t ↔ s < t := by
  rw [String.lt_iff_toList_lt]
  constructor
  · intro h
    rcases lt_trichotomy s.toList t.toList with hlt | heq | hgt
    · exact hlt
    · rw [ofString, ofString, heq] at h
      exact absurd h (List.lt_irrefl _)
    · exact absurd h (List.lt_asymm (encode_lt_of_lt hgt))
  · exact encode_lt_of_lt

end NetworkIntent.Utf8
