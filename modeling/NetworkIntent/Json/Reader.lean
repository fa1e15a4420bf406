import NetworkIntent.Json.Basic
import NetworkIntent.Text.Utf8

/-!
# Reading documents

The grammar of JSON over bytes. Reading is strict: one document, with nothing but blanks around it,
at most 127 levels deep. A fault names its cause and the place: the line, and the column in bytes.

Readers take the bytes that are left and give back what they read with the bytes that are left
then, so a fault needs to know only how many bytes were left when it was found.

## Main definitions

* `Json.Fault`, `Json.Fault.message`: why a text is no document, and where.
* `Json.Reader`: functions that read a part of a text.
* `Json.Numeral`: numbers, whole and double.
* `Json.readList`, `Json.readEntries`: lists and objects, whatever their parts are.
* `Json.readValue`, `Json.parse`: a document within a text, and a whole text.
-/

set_option autoImplicit false

namespace NetworkIntent.Json

/-! ### Faults -/

/-- What is wrong with a text. -/
inductive FaultKind where
  | endInValue
  | endInList
  | endInObject
  | endInString
  | expectedValue
  | expectedWord
  | expectedColon
  | expectedListEnd
  | expectedObjectEnd
  | keyNotText
  | trailingComma
  | trailingCharacters
  | invalidNumber
  | numberOutOfRange
  | invalidEscape
  | controlCharacter
  | unpairedSurrogate
  | loneSurrogate
  | illFormed
  | tooDeep
  /-- A value that is not of the expected type, with the description of the difference. -/
  | mismatch (description : String)
  deriving DecidableEq, Repr

/-- The description of a fault without its place. -/
def FaultKind.message : FaultKind → String
  | .endInValue => "EOF while parsing a value"
  | .endInList => "EOF while parsing a list"
  | .endInObject => "EOF while parsing an object"
  | .endInString => "EOF while parsing a string"
  | .expectedValue => "expected value"
  | .expectedWord => "expected ident"
  | .expectedColon => "expected `:`"
  | .expectedListEnd => "expected `,` or `]`"
  | .expectedObjectEnd => "expected `,` or `\x7d`"
  | .keyNotText => "key must be a string"
  | .trailingComma => "trailing comma"
  | .trailingCharacters => "trailing characters"
  | .invalidNumber => "invalid number"
  | .numberOutOfRange => "number out of range"
  | .invalidEscape => "invalid escape"
  | .controlCharacter => "control character (\\u0000-\\u001F) found while parsing a string"
  | .unpairedSurrogate => "unexpected end of hex escape"
  | .loneSurrogate => "lone leading surrogate in hex escape"
  | .illFormed => "invalid unicode code point"
  | .tooDeep => "recursion limit exceeded"
  | .mismatch description => description

/-- A fault within a text: its kind, and how many bytes of the text come after its place. -/
structure Stop where
  kind : FaultKind
  left : Nat
  deriving DecidableEq, Repr

/-- A fault of a whole text, with its place. -/
structure Fault where
  kind : FaultKind
  line : Nat
  column : Nat
  deriving DecidableEq, Repr

/-- The description of a fault with its place. -/
def Fault.message (fault : Fault) : String :=
  s!"{fault.kind.message} at line {fault.line} column {fault.column}"

/-- The byte of a line break. -/
def lineFeed : UInt8 := 0x0A

/-- The fault of a text that a reader stopped at. The column counts the bytes of the line up to the
place. -/
def Stop.locate (stop : Stop) (text : Bytes) : Fault :=
  let before := text.take (text.length - stop.left)
  ⟨stop.kind, 1 + before.count lineFeed, (before.reverse.takeWhile (· ≠ lineFeed)).length⟩

/-- A function that reads a part of a text. -/
abbrev Reader (α : Type) := Bytes → Except Stop (α × Bytes)

/-- A fault at the end of what has been read. -/
def stopAt {α : Type} (kind : FaultKind) (rest : Bytes) : Except Stop α :=
  .error ⟨kind, rest.length⟩

/-- A fault of the next byte, or of the end of the text if there is none. -/
def stopOn {α : Type} (kind : FaultKind) (rest : Bytes) : Except Stop α :=
  .error ⟨kind, rest.length - 1⟩

/-! ### Blanks, words and digits -/

/-- Whether a byte is a blank between the parts of a document. -/
def isGap (b : UInt8) : Bool :=
  b = 0x20 || b = 0x0A || b = 0x09 || b = 0x0D

/-- Drops the blanks before the next part. -/
def skipGap (text : Bytes) : Bytes :=
  text.dropWhile isGap

/-- Reads the given letters. -/
def readWord : (letters : Bytes) → Bytes → Except Stop Bytes
  | [], text => .ok text
  | _ :: _, [] => stopAt .endInValue []
  | a :: letters, b :: rest =>
    if b = a then readWord letters rest else stopAt .expectedWord rest

/-- Whether a byte is a decimal digit. -/
def isDigit (b : UInt8) : Bool :=
  0x30 ≤ b && b ≤ 0x39

/-- The value of a decimal digit. -/
def digitValue (b : UInt8) : Nat :=
  b.toNat - 0x30

/-- The decimal digits at the start of a text, and the rest. -/
def spanDigits (text : Bytes) : List Nat × Bytes :=
  ((text.takeWhile isDigit).map digitValue, text.dropWhile isDigit)

/-! ### Numbers -/

/-- A number: whole, or a double. -/
inductive Numeral where
  | int (value : Int)
  | double (value : Double)
  deriving DecidableEq, Repr

/-- The document that is a number. -/
def Numeral.toJson : Numeral → Json
  | .int value => .int value
  | .double value => .double value

/-- The greatest significand. Further digits of a number only count for its size. -/
def maxSignificand : Nat := UInt64.size - 1

/-- Appends digits to a significand as long as it stays within bounds, and counts them. -/
def appendDigits (significand : Nat) : List Nat → Nat × Nat
  | [] => (significand, 0)
  | d :: rest =>
    if significand * 10 + d ≤ maxSignificand then
      let (result, count) := appendDigits (significand * 10 + d) rest
      (result, count + 1)
    else (significand, 0)

/-- The double nearest to a power of ten of at most 308. -/
def powerOfTen (exponent : Nat) : Double :=
  (Double.ofRatio? false (Nat.pow 10 exponent) 1).getD (Double.zero false)

/-- Divides by ten to the power `exponent`, in steps of 308. -/
def divPowerOfTen (x : Double) : (fuel exponent : Nat) → Double
  | 0, _ => x
  | fuel + 1, exponent =>
    if exponent ≤ 308 then (x.div? (powerOfTen exponent)).getD x
    else if x.isZero then x
    else divPowerOfTen ((x.div? (powerOfTen 308)).getD x) fuel (exponent - 308)

/-- The double of a significand and a power of ten: the significand is rounded to a double, which is
then multiplied or divided by the power. There is none beyond the largest double. -/
def scaleByTen (negative : Bool) (significand : Nat) (exponent : Int) : Option Double :=
  let magnitude := do
    let x ← Double.ofRatio? false significand 1
    match exponent with
    | .ofNat e =>
      if e ≤ 308 then x.mul? (powerOfTen e)
      else if x.isZero then some x
      else none
    | .negSucc e => some (divPowerOfTen x 4 (e + 1))
  magnitude.map fun x => { x with negative }

/-- The greatest exponent that is written out. -/
def maxExponent : Nat := 2147483647

/-- Appends digits to an exponent; where it exceeds the greatest one, there is only the text that
follows the digit too many. -/
def readExponentDigits (exponent : Nat) : Bytes → Except Bytes (Nat × Bytes)
  | [] => .ok (exponent, [])
  | b :: rest =>
    if isDigit b then
      if exponent * 10 + digitValue b ≤ maxExponent then
        readExponentDigits (exponent * 10 + digitValue b) rest
      else .error rest
    else .ok (exponent, b :: rest)

/-- Reads an exponent after its letter, of a number with the given significand and power of ten. -/
def readExponent (negative : Bool) (significand : Nat) (power : Int) : Reader Double := fun text =>
  let (down, text) := match text with
    | b :: rest => if b = 0x2B then (false, rest) else if b = 0x2D then (true, rest)
      else (false, b :: rest)
    | [] => (false, [])
  match text with
  | [] => stopAt .endInValue []
  | b :: rest =>
    if !isDigit b then stopAt .invalidNumber rest
    else
      match readExponentDigits (digitValue b) rest with
      | .error tooLong =>
        if significand ≠ 0 ∧ !down then stopAt .numberOutOfRange tooLong
        else .ok (Double.zero negative, tooLong.dropWhile isDigit)
      | .ok (exponent, rest) =>
        let power := if down then power - exponent else power + exponent
        match scaleByTen negative significand power with
        | some x => .ok (x, rest)
        | none => stopAt .numberOutOfRange rest

/-- Reads what may follow the digits of a number that is no whole one: an exponent. -/
def readScale (negative : Bool) (significand : Nat) (power : Int) : Reader Double := fun text =>
  match text with
  | b :: rest =>
    if b = 0x65 || b = 0x45 then readExponent negative significand power rest
    else
      match scaleByTen negative significand power with
      | some x => .ok (x, text)
      | none => stopAt .numberOutOfRange text
  | [] =>
    match scaleByTen negative significand power with
    | some x => .ok (x, [])
    | none => stopAt .numberOutOfRange []

/-- Reads a fraction after the point: at least one digit. Digits that the significand has no room
for are dropped. -/
def readFraction (negative : Bool) (significand : Nat) (power : Int) : Reader Double := fun text =>
  let (digits, rest) := spanDigits text
  match digits with
  | [] => stopOn (if rest.isEmpty then .endInValue else .invalidNumber) rest
  | _ :: _ =>
    let (significand, count) := appendDigits significand digits
    readScale negative significand (power - count) rest

/-- The number that is a significand with a sign. It is whole within 64 bits; `-0` and what is
below the least whole number are doubles. -/
def wholeNumeral (negative : Bool) (significand : Nat) : Numeral :=
  if !negative then .int significand
  else if 0 < significand ∧ significand ≤ UInt64.size / 2 then .int (-(significand : Int))
  else .double (((Double.ofRatio? true significand 1)).getD (Double.zero true))

/-- Reads a number after its sign. -/
def readNumeral (negative : Bool) : Reader Numeral := fun text =>
  let (digits, rest) := spanDigits text
  match digits with
  | [] =>
    match text with
    | [] => stopAt .endInValue []
    | _ :: rest => stopAt .invalidNumber rest
  | first :: more =>
    if first = 0 ∧ more ≠ [] then stopOn .invalidNumber (text.drop 1)
    else
      let (significand, count) := appendDigits 0 digits
      let dropped := digits.length - count
      let asDouble (result : Except Stop (Double × Bytes)) : Except Stop (Numeral × Bytes) :=
        (fun (x, rest) => (.double x, rest)) <$> result
      match rest with
      | b :: after =>
        if b = 0x2E then asDouble (readFraction negative significand dropped after)
        else if b = 0x65 || b = 0x45 then
          asDouble (readExponent negative significand dropped after)
        else if dropped = 0 then .ok (wholeNumeral negative significand, rest)
        else asDouble (readScale negative significand dropped rest)
      | [] =>
        if dropped = 0 then .ok (wholeNumeral negative significand, [])
        else asDouble (readScale negative significand dropped [])

/-! ### Texts -/

/-- The number of four hexadecimal digits. -/
def hexUnit? (a b c d : UInt8) : Option Nat := do
  let value (x : UInt8) : Option Nat :=
    if 0x30 ≤ x ∧ x ≤ 0x39 then some (x.toNat - 0x30)
    else if 0x61 ≤ x ∧ x ≤ 0x66 then some (x.toNat - 0x57)
    else if 0x41 ≤ x ∧ x ≤ 0x46 then some (x.toNat - 0x37)
    else none
  return (← value a) * 4096 + (← value b) * 256 + (← value c) * 16 + (← value d)

/-- Reads the four digits of a UTF-16 unit. -/
def readUnit : Reader Nat
  | a :: b :: c :: d :: rest =>
    match hexUnit? a b c d with
    | some unit => .ok (unit, rest)
    | none => stopAt .invalidEscape rest
  | _ => stopAt .endInString []

/-- Reads one expected byte between the two escapes of a surrogate pair. -/
def readPairing (expected : UInt8) : Bytes → Except Stop Bytes
  | [] => stopAt .endInString []
  | b :: rest => if b = expected then .ok rest else stopAt .unpairedSurrogate rest

/-- Reads a character given by its UTF-16 units, after the `\u` of the first one. -/
def readUnits : Reader Bytes := fun text => do
  let (unit, text) ← readUnit text
  if 0xDC00 ≤ unit ∧ unit ≤ 0xDFFF then stopAt .loneSurrogate text
  else if unit < 0xD800 ∨ 0xDBFF < unit then return (Utf8.encodeChar (Char.ofNat unit), text)
  else
    let text ← readPairing 0x5C text
    let text ← readPairing 0x75 text
    let (second, text) ← readUnit text
    if second < 0xDC00 ∨ 0xDFFF < second then stopAt .loneSurrogate text
    else
      let code := 0x10000 + (unit - 0xD800) * 1024 + (second - 0xDC00)
      return (Utf8.encodeChar (Char.ofNat code), text)

/-- The byte that an escape of one letter stands for. -/
def escapedByte? (b : UInt8) : Option UInt8 :=
  if b = 0x22 ∨ b = 0x5C ∨ b = 0x2F then some b
  else if b = 0x62 then some 0x08
  else if b = 0x66 then some 0x0C
  else if b = 0x6E then some 0x0A
  else if b = 0x72 then some 0x0D
  else if b = 0x74 then some 0x09
  else none

/-- Reads an escape after its backslash. -/
def readEscape : Reader Bytes
  | [] => stopAt .endInString []
  | b :: rest =>
    match escapedByte? b with
    | some escaped => .ok ([escaped], rest)
    | none => if b = 0x75 then readUnits rest else stopAt .invalidEscape rest

/-- Reads the bytes of a text up to its closing quote, which is left. Each round of `fuel` consumes
at least one byte. -/
def readTextBytes : (fuel : Nat) → Reader Bytes
  | 0, text => stopAt .endInString text
  | fuel + 1, text =>
    match text with
    | [] => stopAt .endInString []
    | b :: rest =>
      if b = 0x22 then .ok ([], text)
      else if b = 0x5C then
        match readEscape rest with
        | .error stop => .error stop
        | .ok (bytes, rest) =>
          (fun (more, rest) => (bytes ++ more, rest)) <$> readTextBytes fuel rest
      else if b < 0x20 then stopAt .controlCharacter rest
      else (fun (more, rest) => (b :: more, rest)) <$> readTextBytes fuel rest

/-- Reads a text after its opening quote. -/
def readText : Reader String := fun text =>
  match readTextBytes (text.length + 1) text with
  | .error stop => .error stop
  | .ok (bytes, rest) =>
    match Utf8.toString? bytes with
    | some s => .ok (s, rest.drop 1)
    | none => stopAt .illFormed rest

/-! ### Lists and objects -/

/-- Looks for the next item of a list: the text from the item on, or nothing before the closing
bracket. -/
def nextItem (first : Bool) (text : Bytes) : Except Stop (Option Bytes) :=
  match skipGap text with
  | [] => stopOn .endInList []
  | b :: rest =>
    if b = 0x5D then .ok none
    else if first then .ok (some (b :: rest))
    else if b = 0x2C then
      match skipGap rest with
      | [] => stopOn .endInValue []
      | c :: rest => if c = 0x5D then stopOn .trailingComma (c :: rest) else .ok (some (c :: rest))
    else stopOn .expectedListEnd (b :: rest)

/-- Reads the closing bracket of a list, all of whose expected items have been read. -/
def endList (text : Bytes) : Except Stop Bytes :=
  match skipGap text with
  | [] => stopOn .endInList []
  | b :: rest =>
    if b = 0x5D then .ok rest
    else if b = 0x2C then
      match skipGap rest with
      | c :: rest => stopOn (if c = 0x5D then .trailingComma else .trailingCharacters) (c :: rest)
      | [] => stopOn .trailingCharacters []
    else stopOn .trailingCharacters (b :: rest)

/-- Looks for the next key of an object: the text from its opening quote on, or nothing before the
closing brace. -/
def nextKey (first : Bool) (text : Bytes) : Except Stop (Option Bytes) :=
  match skipGap text with
  | [] => stopOn .endInObject []
  | b :: rest =>
    if b = 0x7D then .ok none
    else if first then
      if b = 0x22 then .ok (some (b :: rest)) else stopOn .keyNotText (b :: rest)
    else if b = 0x2C then
      match skipGap rest with
      | [] => stopOn .endInValue []
      | c :: rest =>
        if c = 0x22 then .ok (some (c :: rest))
        else stopOn (if c = 0x7D then .trailingComma else .keyNotText) (c :: rest)
    else stopOn .expectedObjectEnd (b :: rest)

/-- Reads the colon between a key and its value. -/
def readColon (text : Bytes) : Except Stop Bytes :=
  match skipGap text with
  | [] => stopOn .endInObject []
  | b :: rest => if b = 0x3A then .ok rest else stopOn .expectedColon (b :: rest)

/-- Reads the items of a list, each by `item`, and leaves the closing bracket. -/
def readItems {α : Type} (item : Reader α) : (fuel : Nat) → (first : Bool) → Reader (List α)
  | 0, _, text => stopOn .endInList text
  | fuel + 1, first, text =>
    match nextItem first text with
    | .error stop => .error stop
    | .ok none => .ok ([], skipGap text)
    | .ok (some text) =>
      match item text with
      | .error stop => .error stop
      | .ok (value, text) =>
        (fun (more, text) => (value :: more, text)) <$> readItems item fuel false text

/-- Reads a list after its opening bracket. -/
def readList {α : Type} (item : Reader α) : Reader (List α) := fun text =>
  match readItems item (text.length + 1) true text with
  | .error stop => .error stop
  | .ok (items, text) => .ok (items, text.drop 1)

/-- Reads the entries of an object, and leaves the closing brace. Each entry is read by `entry` from
the end of its key on, which knows the entries before it and may keep nothing of this one. -/
def readEntriesAfter {α : Type} (entry : (before : List α) → (key : String) → Reader (Option α)) :
    (fuel : Nat) → (first : Bool) → (before : List α) → Reader (List α)
  | 0, _, _, text => stopOn .endInObject text
  | fuel + 1, first, before, text =>
    match nextKey first text with
    | .error stop => .error stop
    | .ok none => .ok ([], skipGap text)
    | .ok (some text) =>
      match readText (text.drop 1) with
      | .error stop => .error stop
      | .ok (key, text) =>
        match entry before key text with
        | .error stop => .error stop
        | .ok (none, text) => readEntriesAfter entry fuel false before text
        | .ok (some value, text) =>
          (fun (more, text) => (value :: more, text)) <$>
            readEntriesAfter entry fuel false (before ++ [value]) text

/-- Reads the entries of an object after its opening brace, and leaves the closing one. -/
def readEntries {α : Type} (entry : (before : List α) → (key : String) → Reader (Option α)) :
    Reader (List α) := fun text =>
  readEntriesAfter entry (text.length + 1) true [] text

/-! ### Documents -/

/-- Reads a document whose lists and objects hold documents that are read by `inner`. Without it
there may be no lists and objects. -/
def readWith (inner : Option (Reader Json)) : Reader Json := fun text =>
  match skipGap text with
  | [] => stopOn .endInValue []
  | b :: rest =>
    if b = 0x6E then (fun rest => (.null, rest)) <$> readWord [0x75, 0x6C, 0x6C] rest
    else if b = 0x74 then (fun rest => (.bool true, rest)) <$> readWord [0x72, 0x75, 0x65] rest
    else if b = 0x66 then
      (fun rest => (.bool false, rest)) <$> readWord [0x61, 0x6C, 0x73, 0x65] rest
    else if b = 0x2D then
      (fun (value, rest) => (value.toJson, rest)) <$> readNumeral true rest
    else if isDigit b then
      (fun (value, rest) => (value.toJson, rest)) <$> readNumeral false (b :: rest)
    else if b = 0x22 then (fun (s, rest) => (.str s, rest)) <$> readText rest
    else if b = 0x5B then
      match inner with
      | none => stopOn .tooDeep (b :: rest)
      | some item => (fun (items, rest) => (.arr items, rest)) <$> readList item rest
    else if b = 0x7B then
      match inner with
      | none => stopOn .tooDeep (b :: rest)
      | some value =>
        let entry (_ : Fields) (key : String) : Reader (Option (String × Json)) := fun text => do
          let text ← readColon text
          let (document, text) ← value text
          return (some (key, document), text)
        (fun (entries, rest) => (.ofEntries entries, rest.drop 1)) <$> readEntries entry rest
    else stopOn .expectedValue (b :: rest)

/-- The number of levels of lists and objects that a document may have. -/
def maxDepth : Nat := 127

/-- Reads a document of at most `depth` levels of lists and objects. -/
def readValue : (depth : Nat) → Reader Json
  | 0 => readWith none
  | depth + 1 => readWith (some (readValue depth))

/-- Requires that nothing but blanks is left. -/
def atEnd (text : Bytes) : Except Stop Unit :=
  match skipGap text with
  | [] => .ok ()
  | rest => stopOn .trailingCharacters rest

/-- Reads a text that consists of one part. -/
def readAll {α : Type} (part : Reader α) (text : Bytes) : Except Fault α :=
  let result := do
    let (value, rest) ← part text
    atEnd rest
    return value
  match result with
  | .ok value => .ok value
  | .error stop => .error (stop.locate text)

/-- The document that a text is. -/
def parse (text : Bytes) : Except Fault Json :=
  readAll (readValue maxDepth) text

end NetworkIntent.Json
