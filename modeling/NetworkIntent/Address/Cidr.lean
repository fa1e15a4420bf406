import NetworkIntent.Address.Ip
import NetworkIntent.Json.Decoder

/-!
# Addresses with a mask

An address of an interface comes with the length of its network part, as in `10.0.0.1/24`. Some
uses want the bare address and others want both, so a `Cidr` gives either text.

## Main definitions

* `Cidr`: an address with the length of its network part, which fits the address.
* `Cidr.read`: the address that a text stands for, or why it stands for none.
* `Cidr.bare`, `Cidr.text`: the two texts.
-/

set_option autoImplicit false

namespace NetworkIntent

/-- An address with the length of its network part. -/
structure Cidr where
  address : IpAddress
  mask : Nat
  mask_le : mask ≤ address.width
  deriving DecidableEq, Repr

namespace Cidr

/-- Why a text is no address with a mask. -/
inductive Fault where
  /-- There is no slash in the text. -/
  | noMask (text : String)
  /-- The part before the slash is no address. -/
  | address (text : String)
  /-- The part after the slash of the whole text is no number of a byte. -/
  | form (text : String)
  /-- The length is greater than the address allows. -/
  | mask (length : Nat)
  deriving DecidableEq, Repr

/-- The description of a fault. -/
def Fault.message : Fault → String
  | .noMask text => s!"Missing prefix length: {text}"
  | .address text => s!"Invalid IP address format: {text}"
  | .form text => s!"Invalid CIDR notation: {text}"
  | .mask length =>
    s!"Invalid prefix length: {length} (must be 0-32 for IPv4, 0-128 for IPv6)"

/-- The parts of a text before and after its first slash. -/
def splitSlash? : List Char → Option (List Char × List Char)
  | [] => none
  | c :: rest =>
    if c = '/' then some ([], rest)
    else (fun (before, after) => (c :: before, after)) <$> splitSlash? rest

/-- Reads an address with a mask. -/
def read (text : String) : Except Fault Cidr :=
  match splitSlash? text.toList with
  | none => .error (.noMask text)
  | some (before, after) =>
    match IpAddress.read? before with
    | none => .error (.address (String.ofList before))
    | some address =>
      match readUnsigned? 255 after with
      | none => .error (.form text)
      | some length =>
        if h : length ≤ address.width then .ok ⟨address, length, h⟩ else .error (.mask length)

/-- The bare address. -/
def bare (cidr : Cidr) : String :=
  cidr.address.text

/-- The characters of the address with its mask. -/
def write (cidr : Cidr) : List Char :=
  cidr.address.write ++ '/' :: Nat.toDigits 10 cidr.mask

/-- The address with its mask. -/
def text (cidr : Cidr) : String :=
  String.ofList cidr.write

/-- Reads an address with a mask from a document. -/
def decoder : Json.Decoder Cidr :=
  Json.Decoder.text.refine fun text => (read text).mapError Fault.message

/-- The document of an address with a mask. -/
def toJson (cidr : Cidr) : Json :=
  .str cidr.text

end Cidr

end NetworkIntent
