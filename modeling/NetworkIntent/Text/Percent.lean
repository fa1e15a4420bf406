import NetworkIntent.Text.Numeral
import NetworkIntent.Text.Utf8

/-!
# Percent encoding

Text inside an address of the web, where most characters stand for themselves only as the
percent-encoded bytes of their UTF-8 form.

## Main definitions

* `Percent.component`: a text as one part of an address, safe between any two delimiters.
* `Percent.form`: a text as a name or value of a query.
* `Percent.query`: the pairs of a query.
* `Percent.decode`: the bytes that an encoded text stands for.
-/

set_option autoImplicit false

namespace NetworkIntent.Percent

/-- Whether a byte is an ASCII letter or digit. -/
def isAlphanumeric (b : UInt8) : Bool :=
  (0x30 ≤ b && b ≤ 0x39) || (0x41 ≤ b && b ≤ 0x5A) || (0x61 ≤ b && b ≤ 0x7A)

/-- The percent sign and the two upper-case hexadecimal digits of a byte. -/
def escapeByte (b : UInt8) : List Char :=
  ['%', hexDigitUpper (b.toNat / 16), hexDigitUpper (b.toNat % 16)]

/-- Encodes the bytes that are not kept. -/
def encodeBytes (keep : UInt8 → Bool) (bytes : Bytes) : List Char :=
  bytes.flatMap fun b => if keep b then [Char.ofNat b.toNat] else escapeByte b

/-- Whether a byte stands for itself in a component: letters, digits and `-._~`. -/
def isUnreserved (b : UInt8) : Bool :=
  isAlphanumeric b || b = 0x2D || b = 0x2E || b = 0x5F || b = 0x7E

/-- A text as one component of an address. -/
def component (s : String) : String :=
  String.ofList (encodeBytes isUnreserved (Utf8.ofString s))

/-- Whether a byte stands for itself in a query pair: letters, digits and `*-._`. -/
def isFormSafe (b : UInt8) : Bool :=
  isAlphanumeric b || b = 0x2A || b = 0x2D || b = 0x2E || b = 0x5F

/-- A text as the name or value of a query pair: as a component, but a space is a plus sign. -/
def form (s : String) : List Char :=
  (Utf8.ofString s).flatMap fun b =>
    if b = 0x20 then ['+']
    else if isFormSafe b then [Char.ofNat b.toNat]
    else escapeByte b

/-- The pairs of a query, each a name and a value around an equals sign, joined by ampersands. -/
def query (pairs : List (String × String)) : String :=
  let written := pairs.map fun (name, value) => form name ++ '=' :: form value
  String.ofList (List.intercalate ['&'] written)

/-- The bytes that an encoded text stands for: a percent sign with two hexadecimal digits is one
byte, and every other character its UTF-8 form. -/
def decode : List Char → Bytes
  | '%' :: a :: b :: rest =>
    match hexValue? a, hexValue? b with
    | some high, some low => UInt8.ofNat (high * 16 + low) :: decode rest
    | _, _ => Utf8.encodeChar '%' ++ decode (a :: b :: rest)
  | c :: rest => Utf8.encodeChar c ++ decode rest
  | [] => []

end NetworkIntent.Percent
