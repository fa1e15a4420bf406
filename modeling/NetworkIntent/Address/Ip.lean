import NetworkIntent.Text.Numeral

/-!
# Internet addresses

Addresses of both versions, with their usual text.

An address of version 4 is four decimal parts. An address of version 6 is eight groups of up to
four hexadecimal digits, where one run of zero groups may be left out and the last two groups may be
written as an address of version 4. Many texts stand for one address of version 6; the written one
leaves out the longest run of at least two zero groups, the first of several.

## Main definitions

* `Ipv4`, `Ipv6`, `IpAddress`: the addresses.
* `IpAddress.read?`: the address that a text stands for.
* `IpAddress.text`: the text that is written for an address.
-/

set_option autoImplicit false

namespace NetworkIntent

/-- An address of version 4: four bytes. -/
structure Ipv4 where
  a : UInt8
  b : UInt8
  c : UInt8
  d : UInt8
  deriving DecidableEq, Repr

/-- An address of version 6: eight groups of sixteen bits. -/
structure Ipv6 where
  groups : List UInt16
  length_groups : groups.length = 8
  deriving DecidableEq, Repr

/-- An address of either version. -/
inductive IpAddress where
  | v4 (address : Ipv4)
  | v6 (address : Ipv6)
  deriving DecidableEq, Repr

/-! ### Reading -/

/-- Reads a run of digits of the given base, of which there are at most `most`, and leaves the
rest. -/
def readRun? (value : Char → Option Nat) (base most : Nat) (cs : List Char) :
    Option (Nat × List Char) :=
  let digits := (cs.takeWhile fun c => (value c).isSome).filterMap value
  if digits.isEmpty || most < digits.length then none
  else some (ofDigits base digits, cs.drop digits.length)

namespace Ipv4

/-- Reads one part of an address: a number below 256 without leading zeros. -/
def readPart? (cs : List Char) : Option (UInt8 × List Char) :=
  match readRun? digitValue? 10 3 cs with
  | none => none
  | some (n, rest) =>
    if 255 < n then none
    else if cs.head? = some '0' ∧ cs.length ≠ rest.length + 1 then none
    else some (UInt8.ofNat n, rest)

/-- Reads one part of an address after a point. -/
def readNextPart? : List Char → Option (UInt8 × List Char)
  | '.' :: rest => readPart? rest
  | _ => none

/-- Reads an address at the start of a text. -/
def readFrom? (cs : List Char) : Option (Ipv4 × List Char) := do
  let (a, rest) ← readPart? cs
  let (b, rest) ← readNextPart? rest
  let (c, rest) ← readNextPart? rest
  let (d, rest) ← readNextPart? rest
  return (⟨a, b, c, d⟩, rest)

/-- The two groups that an address takes up within one of version 6. -/
def groups (address : Ipv4) : List UInt16 :=
  [address.a.toUInt16 * 256 + address.b.toUInt16, address.c.toUInt16 * 256 + address.d.toUInt16]

/-- The address of two groups. -/
def ofGroups (high low : UInt16) : Ipv4 :=
  ⟨(high / 256).toUInt8, high.toUInt8, (low / 256).toUInt8, low.toUInt8⟩

/-- The characters of an address. -/
def write (address : Ipv4) : List Char :=
  let part (n : UInt8) : List Char := Nat.toDigits 10 n.toNat
  part address.a ++ '.' :: part address.b ++ '.' :: part address.c ++ '.' :: part address.d

end Ipv4

namespace Ipv6

/-- Reads one group of up to four hexadecimal digits. -/
def readGroup? (cs : List Char) : Option (UInt16 × List Char) :=
  (fun (n, rest) => (UInt16.ofNat n, rest)) <$> readRun? hexValue? 16 4 cs

/-- The text after the colon that comes before every group but the first. -/
def afterColon? (first : Bool) (cs : List Char) : Option (List Char) :=
  if first then some cs
  else
    match cs with
    | ':' :: rest => some rest
    | _ => none

/-- Reads up to `limit` groups, and tells whether the last two of them were written as an address of
version 4, which ends the groups. -/
def readGroups : (limit : Nat) → (first : Bool) → List Char → List UInt16 × Bool × List Char
  | 0, _, cs => ([], false, cs)
  | limit + 1, first, cs =>
    match afterColon? first cs with
    | none => ([], false, cs)
    | some body =>
      match if limit = 0 then none else Ipv4.readFrom? body with
      | some (address, rest) => (address.groups, true, rest)
      | none =>
        match readGroup? body with
        | none => ([], false, cs)
        | some (group, rest) =>
          let (more, embedded, rest) := readGroups limit false rest
          (group :: more, embedded, rest)

/-- The address of the groups before and after a run of zeros, of which there is at least one. -/
def ofParts? (head tail : List UInt16) : Option Ipv6 :=
  let groups := head ++ List.replicate (8 - head.length - tail.length) 0 ++ tail
  if h : groups.length = 8 then some ⟨groups, h⟩ else none

/-- Reads an address that is the whole text. -/
def read? (cs : List Char) : Option Ipv6 :=
  match readGroups 8 true cs with
  | (head, embedded, rest) =>
    if h : head.length = 8 then if rest.isEmpty then some ⟨head, h⟩ else none
    else if embedded then none
    else
      match rest with
      | ':' :: ':' :: rest =>
        match readGroups (7 - head.length) true rest with
        | (tail, _, []) => ofParts? head tail
        | _ => none
      | _ => none

/-- The number of zero groups from a position on. -/
def zeroRun (groups : List UInt16) (start : Nat) : Nat :=
  ((groups.drop start).takeWhile (· = 0)).length

/-- The start and the length of the longest run of zero groups, the first of several. -/
def longestZeroRun (groups : List UInt16) : Nat × Nat :=
  (List.range groups.length).foldl
    (fun (start, length) i =>
      if length < zeroRun groups i then (i, zeroRun groups i) else (start, length))
    (0, 0)

/-- Groups joined by colons. -/
def writeGroups (groups : List UInt16) : List Char :=
  List.intercalate [':'] (groups.map fun group => hexNumeral group.toNat)

/-- The characters of an address, with no part written as an address of version 4. -/
def writePlain (address : Ipv6) : List Char :=
  let groups := address.groups
  let (start, length) := longestZeroRun groups
  if 1 < length then
    writeGroups (groups.take start) ++ ':' :: ':' :: writeGroups (groups.drop (start + length))
  else writeGroups groups

/-- The characters of an address. The addresses that stand for those of version 4 show them. -/
def write (address : Ipv6) : List Char :=
  match address.groups with
  | [0, 0, 0, 0, 0, 0xFFFF, high, low] => "::ffff:".toList ++ (Ipv4.ofGroups high low).write
  | _ => address.writePlain

end Ipv6

namespace IpAddress

/-- The address that a text stands for. -/
def read? (cs : List Char) : Option IpAddress :=
  match Ipv4.readFrom? cs with
  | some (address, []) => some (.v4 address)
  | _ => .v6 <$> Ipv6.read? cs

/-- The characters of an address. -/
def write : IpAddress → List Char
  | .v4 address => address.write
  | .v6 address => address.write

/-- The text of an address. -/
def text (address : IpAddress) : String :=
  String.ofList address.write

/-- Whether an address is of version 6. -/
def isV6 : IpAddress → Bool
  | .v4 _ => false
  | .v6 _ => true

/-- The number of bits of an address, which is the greatest length of a network part. -/
def width : IpAddress → Nat
  | .v4 _ => 32
  | .v6 _ => 128

end IpAddress

end NetworkIntent
