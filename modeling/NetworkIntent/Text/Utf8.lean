/-!
# UTF-8

Text as the bytes in which files, requests and answers carry it.

`Utf8.encode` writes every character in its shortest form. `Utf8.decode` reads exactly such
bytes: it refuses overlong forms, surrogates and code points above `0x10FFFF`, and says where
the first ill-formed sequence starts and how much of it could have been the start of a
character.

## Main definitions

* `Bytes`: a sequence of bytes.
* `Utf8.encode`, `Utf8.decode`: the two directions.
* `Utf8.Fault`: the first ill-formed sequence of a text, with its description.
* `Utf8.repair`: the text of bytes that need not be well formed.
-/

set_option autoImplicit false

namespace NetworkIntent

/-- A sequence of bytes: the content of a file or the body of a message. -/
abbrev Bytes := List UInt8

namespace Utf8

/-- The bytes of one character, in the shortest of the four forms. -/
def encodeChar (c : Char) : Bytes :=
  let n := c.toNat
  if n < 0x80 then
    [UInt8.ofNat n]
  else if n < 0x800 then
    [UInt8.ofNat (0xC0 + n / 64), UInt8.ofNat (0x80 + n % 64)]
  else if n < 0x10000 then
    [UInt8.ofNat (0xE0 + n / 4096), UInt8.ofNat (0x80 + n / 64 % 64),
      UInt8.ofNat (0x80 + n % 64)]
  else
    [UInt8.ofNat (0xF0 + n / 262144), UInt8.ofNat (0x80 + n / 4096 % 64),
      UInt8.ofNat (0x80 + n / 64 % 64), UInt8.ofNat (0x80 + n % 64)]

/-- The bytes of a sequence of characters. -/
def encode (cs : List Char) : Bytes :=
  cs.flatMap encodeChar

/-- The bytes of a text. -/
def ofString (s : String) : Bytes :=
  encode s.toList

/-- The first ill-formed sequence of a text. -/
structure Fault where
  /-- The number of well-formed bytes before the sequence. -/
  index : Nat
  /-- How many bytes the sequence has, or `none` where the text ends within a character. -/
  length : Option Nat
  deriving DecidableEq, Repr

/-- The description of an ill-formed sequence. -/
def Fault.message (f : Fault) : String :=
  match f.length with
  | some n => s!"invalid utf-8 sequence of {n} bytes from index {f.index}"
  | none => s!"incomplete utf-8 byte sequence from index {f.index}"

/-- What may follow a lead byte: how many bytes, and the range of the first of them. The later
ones are plain continuation bytes. The narrower ranges after `E0`, `ED`, `F0` and `F4` exclude
overlong forms, surrogates and code points that do not exist. -/
def continuation (lead : UInt8) : Option (Nat × UInt8 × UInt8) :=
  if lead < 0xC2 then none
  else if lead < 0xE0 then some (1, 0x80, 0xBF)
  else if lead = 0xE0 then some (2, 0xA0, 0xBF)
  else if lead = 0xED then some (2, 0x80, 0x9F)
  else if lead < 0xF0 then some (2, 0x80, 0xBF)
  else if lead = 0xF0 then some (3, 0x90, 0xBF)
  else if lead < 0xF4 then some (3, 0x80, 0xBF)
  else if lead = 0xF4 then some (3, 0x80, 0x8F)
  else none

/-- Whether a byte continues a character. -/
def isContinuation (b : UInt8) : Bool :=
  0x80 ≤ b && b ≤ 0xBF

/-- The six bits that a continuation byte carries. -/
def payload (b : UInt8) : Nat :=
  b.toNat - 0x80

/-- Reads the bytes from position `index` of a text on. -/
def decodeFrom (index : Nat) : Bytes → Except Fault (List Char)
  | [] => .ok []
  | b :: rest =>
    if b < 0x80 then
      (Char.ofNat b.toNat :: ·) <$> decodeFrom (index + 1) rest
    else
      match continuation b with
      | none => .error ⟨index, some 1⟩
      | some (more, low, high) =>
        match rest with
        | [] => .error ⟨index, none⟩
        | b₁ :: rest₁ =>
          if b₁ < low || high < b₁ then .error ⟨index, some 1⟩
          else if more = 1 then
            (Char.ofNat ((b.toNat - 0xC0) * 64 + payload b₁) :: ·) <$>
              decodeFrom (index + 2) rest₁
          else
            match rest₁ with
            | [] => .error ⟨index, none⟩
            | b₂ :: rest₂ =>
              if !isContinuation b₂ then .error ⟨index, some 2⟩
              else if more = 2 then
                (Char.ofNat ((b.toNat - 0xE0) * 4096 + payload b₁ * 64 + payload b₂) :: ·) <$>
                  decodeFrom (index + 3) rest₂
              else
                match rest₂ with
                | [] => .error ⟨index, none⟩
                | b₃ :: rest₃ =>
                  if !isContinuation b₃ then .error ⟨index, some 3⟩
                  else
                    (Char.ofNat ((b.toNat - 0xF0) * 262144 + payload b₁ * 4096
                        + payload b₂ * 64 + payload b₃) :: ·) <$>
                      decodeFrom (index + 4) rest₃

/-- Reads a whole text. -/
def decode (bytes : Bytes) : Except Fault (List Char) :=
  decodeFrom 0 bytes

/-- The text of well-formed bytes. -/
def toString? (bytes : Bytes) : Option String :=
  match decode bytes with
  | .ok cs => some (String.ofList cs)
  | .error _ => none

/-- Reads a text in which every ill-formed sequence stands for the replacement character. Each
round of `fuel` consumes at least one byte. -/
def repairFrom : (fuel : Nat) → Bytes → List Char
  | 0, _ => []
  | fuel + 1, bytes =>
    match decode bytes with
    | .ok cs => cs
    | .error fault =>
      let wellFormed := match decode (bytes.take fault.index) with
        | .ok cs => cs
        | .error _ => []
      let skipped := fault.index + fault.length.getD bytes.length
      wellFormed ++ '\uFFFD' :: repairFrom fuel (bytes.drop skipped)

/-- The text of arbitrary bytes, with the replacement character for what is ill formed. -/
def repair (bytes : Bytes) : String :=
  String.ofList (repairFrom (bytes.length + 1) bytes)

end Utf8

end NetworkIntent
