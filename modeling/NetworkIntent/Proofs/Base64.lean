import NetworkIntent.Proofs.Utf8
import NetworkIntent.Text.Base64

/-!
# Base64 read back

What is written in characters of Base64 is read back as the bytes that were written, whatever they
are. Every three bytes are four characters, and so the text has no character that stands alone.
Nothing else is read: a last group that is not filled up, or that sets a bit that belongs to no
byte, is refused, so no two texts are read as the same bytes.

## Main results

* `Base64.value?_digit`, `Base64.eq_digit_of_value?`: a character stands for its number, and no
  other one does.
* `Base64.decode_encode`: the encoding of bytes is read as these bytes.
* `Base64.decode_eq_ok_iff`: a text is read as bytes exactly if it is their encoding.
-/

set_option autoImplicit false

namespace NetworkIntent.Base64

/-! ## Characters -/

/-- A character of the alphabet stands for its number, and is no padding. -/
theorem value?_digit {n : Nat} (h : n < 64) : value? (digit n) = some n ∧ digit n ≠ pad := by
  have hall : ∀ n < 64, value? (digit n) = some n ∧ digit n ≠ pad := by decide
  exact hall n h

/-- Characters of the alphabet have their numbers. -/
theorem values_digits {a b c d : Nat} (ha : a < 64) (hb : b < 64) (hc : c < 64) (hd : d < 64)
    (offset : Nat) : values offset [digit a, digit b, digit c, digit d] = .ok [a, b, c, d] := by
  simp only [values, (value?_digit ha).1, (value?_digit hb).1, (value?_digit hc).1,
    (value?_digit hd).1]
  rfl

/-- A last group that starts with characters of the alphabet goes on after them. -/
theorem lastValues_digit {n : Nat} (h : n < 64) (offset index : Nat) (rest : Bytes) :
    lastValues offset index (digit n :: rest) =
      (fun (numbers, padding) => (n :: numbers, padding)) <$>
        lastValues offset (index + 1) rest := by
  obtain ⟨hvalue, hpad⟩ := value?_digit h
  rw [lastValues, if_neg hpad]
  simp only [hvalue]

/-! ## Groups -/

/-- A group of three bytes is read back. -/
theorem group_parts (a b c : UInt8) :
    group (a.toNat / 4) (a.toNat % 4 * 16 + b.toNat / 16) (b.toNat % 16 * 4 + c.toNat / 64)
      (c.toNat % 64) = [a, b, c] := by
  have ha := a.toNat_lt
  have hb := b.toNat_lt
  have hc := c.toNat_lt
  rw [group, ofNat_eq_byte a (by omega), ofNat_eq_byte b (by omega), ofNat_eq_byte c (by omega)]

/-- A last group of one byte is read back. -/
theorem decodeLast_one (a : UInt8) (offset : Nat) : decodeLast offset (encode [a]) = .ok [a] := by
  have ha := a.toNat_lt
  have hlast : lastValues offset 0 (encode [a]) = .ok ([a.toNat / 4, a.toNat % 4 * 16], 2) := by
    rw [encode, lastValues_digit (by omega), lastValues_digit (by omega)]
    rfl
  have hgroup : (group (a.toNat / 4) (a.toNat % 4 * 16) 0 0).take 1 = [a] := by
    rw [group, ofNat_eq_byte a (by omega)]
    rfl
  simp [decodeLast, hlast, hgroup]

/-- A last group of two bytes is read back. -/
theorem decodeLast_two (a b : UInt8) (offset : Nat) :
    decodeLast offset (encode [a, b]) = .ok [a, b] := by
  have ha := a.toNat_lt
  have hb := b.toNat_lt
  have hlast : lastValues offset 0 (encode [a, b]) =
      .ok ([a.toNat / 4, a.toNat % 4 * 16 + b.toNat / 16, b.toNat % 16 * 4], 1) := by
    rw [encode, lastValues_digit (by omega), lastValues_digit (by omega),
      lastValues_digit (by omega)]
    rfl
  have hgroup : (group (a.toNat / 4) (a.toNat % 4 * 16 + b.toNat / 16) (b.toNat % 16 * 4) 0).take 2
      = [a, b] := by
    rw [group, ofNat_eq_byte a (by omega), ofNat_eq_byte b (by omega)]
    rfl
  simp [decodeLast, hlast, hgroup]

/-- A last group of three bytes is read back. -/
theorem decodeLast_three (a b c : UInt8) (offset : Nat) :
    decodeLast offset (encode [a, b, c]) = .ok [a, b, c] := by
  have ha := a.toNat_lt
  have hb := b.toNat_lt
  have hc := c.toNat_lt
  have hlast : lastValues offset 0 (encode [a, b, c]) = .ok ([a.toNat / 4,
      a.toNat % 4 * 16 + b.toNat / 16, b.toNat % 16 * 4 + c.toNat / 64, c.toNat % 64], 0) := by
    rw [encode, encode, lastValues_digit (by omega), lastValues_digit (by omega),
      lastValues_digit (by omega), lastValues_digit (by omega)]
    rfl
  simp [decodeLast, hlast, group_parts]

/-! ## Texts -/

/-- A group of three bytes that others follow is read back before the others. -/
theorem decodeFrom_group (a b c : UInt8) {text : Bytes} (h : text ≠ []) (offset : Nat) :
    decodeFrom offset (digit (a.toNat / 4) :: digit (a.toNat % 4 * 16 + b.toNat / 16) ::
        digit (b.toNat % 16 * 4 + c.toNat / 64) :: digit (c.toNat % 64) :: text) =
      ([a, b, c] ++ ·) <$> decodeFrom (offset + 4) text := by
  have ha := a.toNat_lt
  have hb := b.toNat_lt
  have hc := c.toNat_lt
  obtain ⟨e, rest, rfl⟩ := List.exists_cons_of_ne_nil h
  rw [decodeFrom, values_digits (by omega) (by omega) (by omega) (by omega)]
  simp only [group_parts]

/-- Bytes are encoded in full groups of characters. -/
theorem length_encode_mod_four : (bytes : Bytes) → (encode bytes).length % 4 = 0
  | [] | [_] | [_, _] => by simp [encode]
  | _ :: _ :: _ :: rest => by
    have ih := length_encode_mod_four rest
    simp only [encode, List.length_cons]
    omega

/-- No bytes but none are encoded in no characters. -/
theorem encode_ne_nil : {bytes : Bytes} → bytes ≠ [] → encode bytes ≠ []
  | [], h => absurd rfl h
  | [_], _ | [_, _], _ | _ :: _ :: _ :: _, _ => by simp [encode]

/-- Only digits and padding are written. -/
theorem eq_of_mem_encode {b : UInt8} : {bytes : Bytes} → b ∈ encode bytes →
    b = pad ∨ ∃ n < 64, b = digit n
  | [x], h => by
    have hx := x.toNat_lt
    simp only [encode, List.mem_cons, List.not_mem_nil, or_false] at h
    rcases h with rfl | rfl | rfl | rfl
    exacts [.inr ⟨_, by omega, rfl⟩, .inr ⟨_, by omega, rfl⟩, .inl rfl, .inl rfl]
  | [x, y], h => by
    have hx := x.toNat_lt
    have hy := y.toNat_lt
    simp only [encode, List.mem_cons, List.not_mem_nil, or_false] at h
    rcases h with rfl | rfl | rfl | rfl
    exacts [.inr ⟨_, by omega, rfl⟩, .inr ⟨_, by omega, rfl⟩, .inr ⟨_, by omega, rfl⟩, .inl rfl]
  | x :: y :: z :: rest, h => by
    have hx := x.toNat_lt
    have hy := y.toNat_lt
    have hz := z.toNat_lt
    simp only [encode, List.mem_cons] at h
    rcases h with rfl | rfl | rfl | rfl | h
    exacts [.inr ⟨_, by omega, rfl⟩, .inr ⟨_, by omega, rfl⟩, .inr ⟨_, by omega, rfl⟩,
      .inr ⟨_, by omega, rfl⟩, eq_of_mem_encode h]

/-- The encoding of bytes is read as these bytes, wherever it starts. -/
theorem decodeFrom_encode : (bytes : Bytes) → ∀ offset,
    decodeFrom offset (encode bytes) = .ok bytes
  | [], _ => rfl
  | [a], offset => decodeLast_one a offset
  | [a, b], offset => decodeLast_two a b offset
  | [a, b, c], offset => decodeLast_three a b c offset
  | a :: b :: c :: d :: rest, offset => by
    rw [encode, decodeFrom_group a b c (encode_ne_nil (List.cons_ne_nil d rest)),
      decodeFrom_encode (d :: rest)]
    rfl

/-- **The encoding of bytes is read as these bytes.** -/
theorem decode_encode (bytes : Bytes) : decode (encode bytes) = .ok bytes := by
  have hstray : strayLast? (encode bytes) = none := by
    rw [strayLast?, if_neg (by rw [length_encode_mod_four]; decide)]
  rw [decode, hstray]
  exact decodeFrom_encode bytes 0

/-! ## What is read is written -/

/-- A number is the one of its own character only. -/
theorem eq_digit_of_value? {b : UInt8} {n : Nat} (h : value? b = some n) :
    n < 64 ∧ b = digit n := by
  have hall : ∀ m < 256, ∀ n ∈ value? (UInt8.ofNat m), n < 64 ∧ UInt8.ofNat m = digit n := by
    decide +kernel
  simpa using hall b.toNat b.toNat_lt n (by simpa using h)

/-- Numbers that characters of the alphabet have. -/
def AreValues (numbers : List Nat) : Prop :=
  ∀ n ∈ numbers, n < 64

/-- What has numbers consists of their characters. -/
theorem eq_digits_of_values {text : Bytes} {offset : Nat} {numbers : List Nat}
    (h : values offset text = .ok numbers) : text = numbers.map digit ∧ AreValues numbers := by
  induction text generalizing offset numbers with
  | nil =>
    cases h
    exact ⟨rfl, nofun⟩
  | cons b rest ih =>
    rw [values] at h
    split at h
    next n hb =>
      obtain ⟨others, hrest, rfl⟩ := map_eq_ok_iff.mp h
      obtain ⟨hn, rfl⟩ := eq_digit_of_value? hb
      obtain ⟨rfl, hothers⟩ := ih hrest
      exact ⟨rfl, List.forall_mem_cons.mpr ⟨hn, hothers⟩⟩
    next => cases h

/-- A last group consists of the characters of its numbers, and of padding after them. -/
theorem eq_digits_of_lastValues {text : Bytes} {offset index padding : Nat} {numbers : List Nat}
    (h : lastValues offset index text = .ok (numbers, padding)) :
    text = numbers.map digit ++ List.replicate padding pad ∧ AreValues numbers := by
  induction text generalizing index numbers with
  | nil =>
    cases h
    exact ⟨rfl, nofun⟩
  | cons b rest ih =>
    rw [lastValues] at h
    split at h
    next hpad =>
      split at h
      next hrest =>
        cases h
        have hall : rest = List.replicate rest.length pad :=
          List.eq_replicate_of_mem (by simpa using hrest.2)
        refine ⟨?_, nofun⟩
        rw [List.map_nil, List.nil_append, List.replicate_succ, hpad, ← hall]
      next => cases h
    next =>
      split at h
      next n hb =>
        obtain ⟨⟨others, _⟩, hrest, heq⟩ := map_eq_ok_iff.mp h
        cases heq
        obtain ⟨hn, rfl⟩ := eq_digit_of_value? hb
        obtain ⟨hrest, hothers⟩ := ih hrest
        refine ⟨?_, List.forall_mem_cons.mpr ⟨hn, hothers⟩⟩
        rw [List.map_cons, List.cons_append, ← hrest]
      next => cases h

section Groups

variable {a b c d : Nat}

/-- The bytes that four numbers make up. -/
theorem exists_group (ha : a < 64) (hb : b < 64) (hc : c < 64) (hd : d < 64) :
    ∃ x y z : UInt8, group a b c d = [x, y, z] ∧ x.toNat = a * 4 + b / 16 ∧
      y.toNat = b % 16 * 16 + c / 4 ∧ z.toNat = c % 4 * 64 + d :=
  ⟨_, _, _, rfl, UInt8.toNat_ofNat_of_lt' (by simp only [UInt8.size]; omega),
    UInt8.toNat_ofNat_of_lt' (by simp only [UInt8.size]; omega),
    UInt8.toNat_ofNat_of_lt' (by simp only [UInt8.size]; omega)⟩

/-- The bytes of four numbers are encoded by the characters of the numbers. -/
theorem encode_group_append (ha : a < 64) (hb : b < 64) (hc : c < 64) (hd : d < 64)
    (bytes : Bytes) : encode (group a b c d ++ bytes) =
      [digit a, digit b, digit c, digit d] ++ encode bytes := by
  obtain ⟨x, y, z, hgroup, hx, hy, hz⟩ := exists_group ha hb hc hd
  have hfirst : x.toNat / 4 = a := by omega
  have hsecond : x.toNat % 4 * 16 + y.toNat / 16 = b := by omega
  have hthird : y.toNat % 16 * 4 + z.toNat / 64 = c := by omega
  have hfourth : z.toNat % 64 = d := by omega
  simp only [hgroup, List.cons_append, List.nil_append, encode, hfirst, hsecond, hthird, hfourth]

/-- The first two bytes of three numbers are encoded by the characters of the numbers, if the last
one leaves the bits that belong to neither byte zero. -/
theorem encode_group_two (ha : a < 64) (hb : b < 64) (hc : c < 64) (hzero : c % 4 = 0) :
    encode ((group a b c 0).take 2) = [digit a, digit b, digit c, pad] := by
  obtain ⟨x, y, z, hgroup, hx, hy, -⟩ := exists_group ha hb hc (by decide : 0 < 64)
  have hfirst : x.toNat / 4 = a := by omega
  have hsecond : x.toNat % 4 * 16 + y.toNat / 16 = b := by omega
  have hthird : y.toNat % 16 * 4 = c := by omega
  simp only [hgroup, List.take, encode, hfirst, hsecond, hthird]

/-- The first byte of two numbers is encoded by the characters of the numbers, if the last one
leaves the bits that do not belong to the byte zero. -/
theorem encode_group_one (ha : a < 64) (hb : b < 64) (hzero : b % 16 = 0) :
    encode ((group a b 0 0).take 1) = [digit a, digit b, pad, pad] := by
  obtain ⟨x, y, z, hgroup, hx, -⟩ := exists_group ha hb (by decide : 0 < 64) (by decide : 0 < 64)
  have hfirst : x.toNat / 4 = a := by omega
  have hsecond : x.toNat % 4 * 16 = b := by omega
  simp only [hgroup, List.take, encode, hfirst, hsecond]

end Groups

/-- A last group that is read is the encoding of its bytes.

**Proof sketch.** The group has two to four characters of the alphabet, and with its padding it has
four characters. So the number of its characters determines its padding and the number of its
bytes. -/
theorem eq_encode_of_decodeLast {text bytes : Bytes} {offset : Nat} (hlength : text.length ≤ 4)
    (h : decodeLast offset text = .ok bytes) : text = encode bytes := by
  rw [decodeLast] at h
  split at h
  next => cases h
  next numbers padding hlast =>
    obtain ⟨rfl, hvalues⟩ := eq_digits_of_lastValues hlast
    rw [List.length_append, List.length_map, List.length_replicate] at hlength
    split_ifs at h with hfew hfull
    have hfour : numbers.length + padding = 4 := by omega
    match numbers with
    | [] | [_] => simp at hfew
    | [a, b] =>
      obtain rfl : padding = 2 := Nat.add_left_cancel hfour
      simp only at h
      split_ifs at h with hzero
      cases h
      exact (encode_group_one (hvalues a (by simp)) (hvalues b (by simp)) hzero).symm
    | [a, b, c] =>
      obtain rfl : padding = 1 := Nat.add_left_cancel hfour
      simp only at h
      split_ifs at h with hzero
      cases h
      exact (encode_group_two (hvalues a (by simp)) (hvalues b (by simp)) (hvalues c (by simp))
        hzero).symm
    | [a, b, c, d] =>
      obtain rfl : padding = 0 := Nat.add_left_cancel hfour
      cases h
      have hgroup := encode_group_append (hvalues a (by simp)) (hvalues b (by simp))
        (hvalues c (by simp)) (hvalues d (by simp)) []
      simpa [encode] using hgroup.symm
    | _ :: _ :: _ :: _ :: _ :: _ =>
      simp only [List.length_cons] at hfour
      omega

/-- What is read from some place on is the encoding of its bytes. -/
theorem eq_encode_of_decodeFrom {text bytes : Bytes} {offset : Nat}
    (h : decodeFrom offset text = .ok bytes) : text = encode bytes := by
  fun_induction decodeFrom offset text generalizing bytes with
  | case1 =>
    cases h
    rfl
  | case2 offset a b c d e rest v₁ v₂ v₃ v₄ hvalues ih =>
    obtain ⟨others, hothers, rfl⟩ := map_eq_ok_iff.mp h
    obtain ⟨heq, hbound⟩ := eq_digits_of_values hvalues
    rw [encode_group_append (hbound v₁ (by simp)) (hbound v₂ (by simp)) (hbound v₃ (by simp))
      (hbound v₄ (by simp)), ← ih hothers]
    exact congrArg (· ++ e :: rest) heq
  | case3 offset a b c d e rest numbers hnumbers hvalues =>
    have hfour := congrArg List.length (eq_digits_of_values hvalues).1
    rw [List.length_map] at hfour
    match numbers, hfour with
    | [v₁, v₂, v₃, v₄], _ => exact (hnumbers v₁ v₂ v₃ v₄ rfl).elim
  | case4 => cases h
  | case5 offset text hnil hfive =>
    refine eq_encode_of_decodeLast ?_ h
    match text with
    | [] | [_] | [_, _] | [_, _, _] | [_, _, _, _] => simp
    | a :: b :: c :: d :: e :: rest => exact (hfive a b c d e rest rfl).elim

/-- **A text is read as bytes exactly if it is their encoding.** -/
theorem decode_eq_ok_iff {text bytes : Bytes} : decode text = .ok bytes ↔ text = encode bytes := by
  refine ⟨fun h => ?_, fun h => h ▸ decode_encode bytes⟩
  rw [decode] at h
  split at h
  next => cases h
  next => exact eq_encode_of_decodeFrom h

end NetworkIntent.Base64
