import NetworkIntent.Address.Ip
import NetworkIntent.DomainName.Basic
import NetworkIntent.Text.Percent

/-!
# Hosts

What an address of the web names as its host: a domain name, or an internet address. An internet
address of version 4 may be written with fewer than four numbers, where the last one takes up the
rest of the address, and with hexadecimal and octal numbers. A name whose last label is a number has
to be such an address.

## Main definitions

* `Host`: a host, with `Host.text` for its normal form.
* `Host.read?`: the host that a text stands for.
* `Host.readOpaque?`: the host of an address whose scheme is unknown.
-/

set_option autoImplicit false

namespace NetworkIntent

/-- A host. -/
inductive Host where
  | domain (name : String)
  | v4 (address : Ipv4)
  | v6 (address : Ipv6)
  deriving DecidableEq, Repr

namespace Host

/-! ### Numbers -/

/-- The number that a label stands for: hexadecimal after `0x`, octal after another zero, and
otherwise decimal. No digits after `0x` are zero. -/
def readNumber? (label : List Char) : Option Nat :=
  let (base, digits) := match label with
    | '0' :: 'x' :: digits | '0' :: 'X' :: digits => (16, digits)
    | '0' :: d :: digits => (8, d :: digits)
    | digits => (10, digits)
  if label.isEmpty then none
  else
    match digits.mapM hexValue? with
    | none => none
    | some values => if values.all (· < base) then some (ofDigits base values) else none

/-- The labels of a name without an empty one at its end. -/
def labelsOf (name : List Char) : List (List Char) :=
  let labels := DomainName.labels name
  if labels.getLast? = some [] then labels.dropLast else labels

/-- Whether the last label of a name is a number. -/
def endsInNumber (name : List Char) : Bool :=
  match (labelsOf name).getLast? with
  | none => false
  | some label => (!label.isEmpty && label.all Char.isDigit) || (readNumber? label).isSome

/-- The address of version 4 with a number. -/
def ofNumber (n : Nat) : Ipv4 :=
  let byte (shift : Nat) : UInt8 := UInt8.ofNat (n / shift % 256)
  ⟨byte 0x1000000, byte 0x10000, byte 0x100, byte 1⟩

/-- The address of at most four numbers. All but the last one are bytes. -/
def ofNumbers? (numbers : List Nat) : Option Ipv4 :=
  match numbers.getLast? with
  | none => none
  | some last =>
    let bytes := numbers.dropLast
    if 3 < bytes.length ∨ bytes.any (255 < ·) then none
    else
      let room := Nat.pow 256 (4 - bytes.length)
      if last < room then some (ofNumber (ofDigits 256 bytes * room + last)) else none

/-- The address of version 4 that a name stands for. -/
def readV4? (name : List Char) : Option Ipv4 :=
  ((labelsOf name).mapM readNumber?).bind ofNumbers?

/-! ### Hosts -/

/-- The address of version 6 between brackets. -/
def readBrackets? (cs : List Char) : Option Host :=
  if cs.getLast? = some ']' then .v6 <$> Ipv6.read? cs.dropLast else none

/-- The host that a text stands for, in which characters may be encoded. -/
def read? (cs : List Char) : Option Host :=
  match cs with
  | '[' :: rest => readBrackets? rest
  | _ => do
    let text ← Utf8.toString? (Percent.decode cs)
    let name ← DomainName.toAscii? text.toList
    if name.isEmpty then none
    else if endsInNumber name then .v4 <$> readV4? name
    else return .domain (String.ofList name)

/-- Whether a character may be in the host of an address whose scheme is unknown. -/
def isOpaqueChar (c : Char) : Bool :=
  !("\x00\t\n\r #/:<>?@[\\]^|".toList.contains c)

/-- Whether a byte of such a host has to be encoded. -/
def isUnsafe (b : UInt8) : Bool :=
  b < 0x20 || 0x7F ≤ b

/-- The host of an address whose scheme is unknown. It is not interpreted, and may be empty. -/
def readOpaque? (cs : List Char) : Option Host :=
  match cs with
  | '[' :: rest => readBrackets? rest
  | _ =>
    if cs.all isOpaqueChar then
      some (.domain (String.ofList (Percent.encodeBytes (fun b => !isUnsafe b) (Utf8.encode cs))))
    else none

/-- The text of a host. -/
def text : Host → String
  | .domain name => name
  | .v4 address => String.ofList address.write
  | .v6 address => String.ofList ('[' :: address.writePlain ++ [']'])

end Host

end NetworkIntent
