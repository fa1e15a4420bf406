import NetworkIntent.Text.Utf8

/-!
# Base64

Bytes as text of sixty-four characters, in the standard alphabet and with canonical padding: three
bytes are four characters, and a last group of one or two bytes is filled up with equals signs and
leaves its unused bits zero.

`Base64.decode` accepts exactly what `Base64.encode` writes, and names the fault of everything
else.

## Main definitions

* `Base64.encode`, `Base64.decode`: the two directions.
* `Base64.Fault`: why a text is not the encoding of any bytes.
-/

set_option autoImplicit false

namespace NetworkIntent.Base64

/-- The character of a number below sixty-four. -/
def digit (n : Nat) : UInt8 :=
  if n < 26 then UInt8.ofNat (0x41 + n)
  else if n < 52 then UInt8.ofNat (0x61 + (n - 26))
  else if n < 62 then UInt8.ofNat (0x30 + (n - 52))
  else if n = 62 then 0x2B
  else 0x2F

/-- The number of a character of the alphabet. -/
def value? (b : UInt8) : Option Nat :=
  if 0x41 ≤ b ∧ b ≤ 0x5A then some (b.toNat - 0x41)
  else if 0x61 ≤ b ∧ b ≤ 0x7A then some (b.toNat - 0x61 + 26)
  else if 0x30 ≤ b ∧ b ≤ 0x39 then some (b.toNat - 0x30 + 52)
  else if b = 0x2B then some 62
  else if b = 0x2F then some 63
  else none

/-- The padding character, an equals sign. -/
def pad : UInt8 := 0x3D

/-- The encoding of bytes. -/
def encode : Bytes → Bytes
  | [] => []
  | [a] => [digit (a.toNat / 4), digit (a.toNat % 4 * 16), pad, pad]
  | [a, b] =>
    [digit (a.toNat / 4), digit (a.toNat % 4 * 16 + b.toNat / 16), digit (b.toNat % 16 * 4), pad]
  | a :: b :: c :: rest =>
    digit (a.toNat / 4) :: digit (a.toNat % 4 * 16 + b.toNat / 16)
      :: digit (b.toNat % 16 * 4 + c.toNat / 64) :: digit (c.toNat % 64) :: encode rest

/-- Why a text is not the encoding of any bytes. -/
inductive Fault where
  /-- A character that is not of the alphabet, or padding before the end. -/
  | symbol (byte : UInt8) (offset : Nat)
  /-- The last character sets bits that belong to no byte. -/
  | lastSymbol (byte : UInt8) (offset : Nat)
  /-- The number of characters leaves a group of a single one. -/
  | length (count : Nat)
  /-- The last group is not filled up as it should be. -/
  | padding
  deriving DecidableEq, Repr

/-- The description of a fault. -/
def Fault.message : Fault → String
  | .symbol byte offset => s!"Invalid symbol {byte.toNat}, offset {offset}."
  | .lastSymbol byte offset => s!"Invalid last symbol {byte.toNat}, offset {offset}."
  | .length count => s!"Invalid input length: {count}"
  | .padding => "Invalid padding"

/-- The numbers of the characters from `offset` on, or the first that has none. -/
def values (offset : Nat) : Bytes → Except Fault (List Nat)
  | [] => .ok []
  | b :: rest =>
    match value? b with
    | some v => (v :: ·) <$> values (offset + 1) rest
    | none => .error (.symbol b offset)

/-- The three bytes of four numbers. -/
def group (a b c d : Nat) : Bytes :=
  [UInt8.ofNat (a * 4 + b / 16), UInt8.ofNat (b % 16 * 16 + c / 4), UInt8.ofNat (c % 4 * 64 + d)]

/-- The numbers and the count of padding characters of the last group of a text. The group starts
at `offset`, and its characters before the one numbered `index` are no padding. Padding may only
follow two characters, and only padding may follow padding. -/
def lastValues (offset : Nat) : (index : Nat) → Bytes → Except Fault (List Nat × Nat)
  | _, [] => .ok ([], 0)
  | index, b :: rest =>
    if b = pad then
      if 2 ≤ index ∧ rest.all (· = pad) then .ok ([], rest.length + 1)
      else .error (.symbol pad (offset + index))
    else
      match value? b with
      | some v => (fun (vs, padding) => (v :: vs, padding)) <$> lastValues offset (index + 1) rest
      | none => .error (.symbol b (offset + index))

/-- The bytes of the last group of a text, which starts at `offset` and has at most four
characters. -/
def decodeLast (offset : Nat) (text : Bytes) : Except Fault Bytes :=
  match lastValues offset 0 text with
  | .error fault => .error fault
  | .ok (numbers, padding) =>
    if numbers.length < 2 then .error (.length (offset + numbers.length))
    else if (numbers.length + padding) % 4 ≠ 0 then .error .padding
    else
      match numbers with
      | [a, b] =>
        if b % 16 = 0 then .ok ((group a b 0 0).take 1)
        else .error (.lastSymbol (digit b) (offset + 1))
      | [a, b, c] =>
        if c % 4 = 0 then .ok ((group a b c 0).take 2)
        else .error (.lastSymbol (digit c) (offset + 2))
      | [a, b, c, d] => .ok (group a b c d)
      | _ => .ok []

/-- The bytes of a text whose remaining characters start at `offset`. -/
def decodeFrom (offset : Nat) : Bytes → Except Fault Bytes
  | [] => .ok []
  | a :: b :: c :: d :: e :: rest =>
    match values offset [a, b, c, d] with
    | .ok [v₁, v₂, v₃, v₄] => (group v₁ v₂ v₃ v₄ ++ ·) <$> decodeFrom (offset + 4) (e :: rest)
    | .ok _ => .ok []
    | .error fault => .error fault
  | text => decodeLast offset text

/-- The character that stands alone after the last full group, if it is neither of the alphabet
nor padding. It is reported before any other fault: most often it is a stray line break. -/
def strayLast? (text : Bytes) : Option UInt8 :=
  if text.length % 4 = 1 then
    text.getLast?.filter fun b => b ≠ pad && (value? b).isNone
  else none

/-- The bytes of a text. -/
def decode (text : Bytes) : Except Fault Bytes :=
  match strayLast? text with
  | some b => .error (.symbol b (text.length - 1))
  | none => decodeFrom 0 text

end NetworkIntent.Base64
