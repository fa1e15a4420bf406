/-!
# Punycode

Texts of any characters, written with the letters, digits and hyphens of ASCII. The ASCII characters
of a text come first and are followed by a hyphen. The others follow in the order of their code
points: each is given by the number of states that a decoder passes before it inserts the
character, where a state is a code point with a position to insert it at. These numbers are written
in a notation of base 36 whose digits end where they fall below a threshold, and the thresholds
adapt to the numbers before.

## Main definitions

* `Punycode.encode`: the ASCII form of a text.
* `Punycode.decode?`: the text of an ASCII form.
-/

set_option autoImplicit false

namespace NetworkIntent.Punycode

/-! ### Numbers -/

/-- The character of a digit below 36. -/
def digit (n : Nat) : Char :=
  if n < 26 then Char.ofNat (0x61 + n) else Char.ofNat (0x30 + (n - 26))

/-- The value of a digit, which may be of either case. -/
def value? (c : Char) : Option Nat :=
  if 'a' ≤ c ∧ c ≤ 'z' then some (c.toNat - 0x61)
  else if 'A' ≤ c ∧ c ≤ 'Z' then some (c.toNat - 0x41)
  else if '0' ≤ c ∧ c ≤ '9' then some (c.toNat - 0x30 + 26)
  else none

/-- The bias before the first number. -/
def firstBias : Nat := 72

/-- The least code point beyond ASCII. -/
def firstCode : Nat := 0x80

/-- The threshold of the digit at a place, where places are counted in steps of 36. -/
def threshold (place bias : Nat) : Nat :=
  if place ≤ bias then 1 else if bias + 26 ≤ place then 26 else place - bias

/-- Divides by 35 until the quotient is small, and counts the divisions in steps of 36. -/
def scale (n place : Nat) : Nat × Nat :=
  if 455 < n then scale (n / 35) (place + 36) else (n, place)
termination_by n
decreasing_by omega

/-- The bias after a number, with the number of characters so far. -/
def adapt (n count : Nat) (isFirst : Bool) : Nat :=
  let halved := if isFirst then n / 700 else n / 2
  let (small, place) := scale (halved + halved / count) 0
  place + 36 * small / (small + 38)

/-- The digits of a number from a place on. -/
def writeNumber (bias place n : Nat) : List Char :=
  let t := threshold place bias
  if n < t then [digit n]
  else digit (t + (n - t) % (36 - t)) :: writeNumber bias (place + 36) ((n - t) / (36 - t))
termination_by n
decreasing_by
  have : 1 ≤ threshold place bias := by unfold threshold; split <;> (try split) <;> omega
  have := Nat.div_le_self (n - threshold place bias) (36 - threshold place bias)
  omega

/-- Reads a number from a place on, whose digit there counts `weight`. -/
def readNumber? (bias : Nat) : (place weight n : Nat) → List Char → Option (Nat × List Char)
  | _, _, _, [] => none
  | place, weight, n, c :: rest =>
    match value? c with
    | none => none
    | some d =>
      let n := n + d * weight
      let t := threshold place bias
      if d < t then some (n, rest) else readNumber? bias (place + 36) (weight * (36 - t)) n rest

/-! ### Writing -/

/-- Where a writer is: what has been written, the states passed since the last inserted character,
the bias, and the number of characters so far. -/
structure Writer where
  written : List Char
  passed : Nat
  bias : Nat
  count : Nat

/-- Whether a character is one of ASCII. -/
def isBasic (c : Char) : Bool :=
  c.toNat < firstCode

/-- Passes one character of a text while the characters with code point `code` are inserted. -/
def Writer.pass (code basics : Nat) (writer : Writer) (c : Char) : Writer :=
  if c.toNat < code then { writer with passed := writer.passed + 1 }
  else if c.toNat = code then
    ⟨writer.written ++ writeNumber writer.bias 36 writer.passed, 0,
      adapt writer.passed (writer.count + 1) (writer.count = basics), writer.count + 1⟩
  else writer

/-- Inserts the characters with the given code points, in ascending order, from the state at code
point `next` on. -/
def Writer.insert (text : List Char) (basics : Nat) :
    (next : Nat) → (codes : List Nat) → Writer → Writer
  | _, [], writer => writer
  | next, code :: codes, writer =>
    let started := { writer with passed := writer.passed + (code - next) * (writer.count + 1) }
    let inserted := text.foldl (Writer.pass code basics) started
    Writer.insert text basics (code + 1) codes { inserted with passed := inserted.passed + 1 }

/-- The ASCII form of a text. -/
def encode (text : List Char) : List Char :=
  let basic := text.filter isBasic
  let codes := ((text.filter (!isBasic ·)).map Char.toNat).mergeSort.eraseDups
  let start : Writer := ⟨[], 0, firstBias, basic.length⟩
  (if basic.isEmpty then [] else basic ++ ['-'])
    ++ (start.insert text basic.length firstCode codes).written

/-! ### Reading -/

/-- Reads the numbers of the inserted characters, each from the position `index` and the code point
`code` on. Each round of `fuel` reads one number, which has at least one digit. -/
def insertAll? : (fuel code index bias : Nat) → (text numbers : List Char) → Option (List Char)
  | _, _, _, _, text, [] => some text
  | 0, _, _, _, _, _ => none
  | fuel + 1, code, index, bias, text, numbers => do
    let (n, rest) ← readNumber? bias 36 1 index numbers
    let count := text.length + 1
    let code := code + n / count
    if h : code.isValidChar then
      let position := n % count
      let inserted := text.take position ++ Char.ofNatAux code h :: text.drop position
      insertAll? fuel code (position + 1) (adapt (n - index) count (index = 0)) inserted rest
    else none

/-- The text of an ASCII form. The last hyphen, if it is not the first character, ends the
characters of ASCII. -/
def decode? (form : List Char) : Option (List Char) :=
  let numbers := (form.reverse.takeWhile (· ≠ '-')).reverse
  let basic := form.take (form.length - numbers.length - 1)
  let numbers := if basic.isEmpty then form else numbers
  if basic.all isBasic then insertAll? numbers.length firstCode 0 firstBias basic numbers else none

end NetworkIntent.Punycode
