/-!
# Numerals

Decimal and hexadecimal numerals in ASCII.

## Main definitions

* `digitValue?`, `hexValue?`: the values of single digits.
* `ofDigits`, `readDigits?`: the value of a run of decimal digits.
* `readUnsigned?`: a bounded number with an optional plus sign.
* `hexNumeral`, `hexDigit`, `hexDigitUpper`: numerals of base sixteen.
* `padZeros`: a numeral filled up with zeros from the left.
-/

set_option autoImplicit false

namespace NetworkIntent

/-- The value of a decimal digit. -/
def digitValue? (c : Char) : Option Nat :=
  if '0' ≤ c ∧ c ≤ '9' then some (c.toNat - 48) else none

/-- The value of a hexadecimal digit of either case. -/
def hexValue? (c : Char) : Option Nat :=
  if '0' ≤ c ∧ c ≤ '9' then some (c.toNat - 48)
  else if 'a' ≤ c ∧ c ≤ 'f' then some (c.toNat - 87)
  else if 'A' ≤ c ∧ c ≤ 'F' then some (c.toNat - 55)
  else none

/-- The number with the given digits, the highest first. -/
def ofDigits (base : Nat) (digits : List Nat) : Nat :=
  digits.foldl (fun n d => n * base + d) 0

/-- The number written by a run of decimal digits, of which there is at least one. -/
def readDigits? (cs : List Char) : Option Nat :=
  if cs.isEmpty then none else ofDigits 10 <$> cs.mapM digitValue?

/-- A number up to `limit`: decimal digits, leading zeros among them, after an optional plus
sign. -/
def readUnsigned? (limit : Nat) (cs : List Char) : Option Nat :=
  let digits := match cs with
    | '+' :: rest => rest
    | _ => cs
  match readDigits? digits with
  | some n => if n ≤ limit then some n else none
  | none => none

/-- The lower-case hexadecimal digit of a number below sixteen. -/
def hexDigit (n : Nat) : Char :=
  if n < 10 then Char.ofNat (48 + n) else Char.ofNat (87 + n)

/-- The upper-case hexadecimal digit of a number below sixteen. -/
def hexDigitUpper (n : Nat) : Char :=
  if n < 10 then Char.ofNat (48 + n) else Char.ofNat (55 + n)

/-- The lower-case hexadecimal numeral of a number. -/
def hexNumeral (n : Nat) : List Char :=
  Nat.toDigits 16 n

/-- A numeral of at least `width` characters, filled up with zeros from the left. -/
def padZeros (width : Nat) (numeral : List Char) : List Char :=
  List.replicate (width - numeral.length) '0' ++ numeral

end NetworkIntent
