import NetworkIntent.Json.Basic
import NetworkIntent.Text.Numeral

/-!
# Writing documents

The text of a document in one of three layouts: on one line, indented by two spaces for files, and
indented by four spaces and in ASCII alone for files under version control.

## Main definitions

* `Layout`: what a layout decides, with the layouts `Layout.line`, `Layout.file` and
  `Layout.repository`.
* `Json.write`: the characters of a document.
* `Json.render`: its text.
-/

set_option autoImplicit false

namespace NetworkIntent

/-- What a layout decides. -/
structure Layout where
  /-- The spaces by which each level is indented; without it everything stands on one line. -/
  indent : Option Nat
  /-- Whether characters beyond ASCII are escaped. -/
  asciiOnly : Bool
  deriving DecidableEq, Repr

namespace Layout

/-- Everything on one line without a blank: bodies of requests and values in messages. -/
def line : Layout := ⟨none, false⟩

/-- Two spaces for each level: stored artifacts. -/
def file : Layout := ⟨some 2, false⟩

/-- Four spaces for each level and ASCII alone: files under version control. -/
def repository : Layout := ⟨some 4, true⟩

/-- What separates two parts of a container at the given level: a line break and the
indentation. -/
def lineBreak (layout : Layout) (level : Nat) : List Char :=
  match layout.indent with
  | none => []
  | some width => '\n' :: List.replicate (width * level) ' '

/-- What separates a key from its value. -/
def colon (layout : Layout) : List Char :=
  match layout.indent with
  | none => [':']
  | some _ => [':', ' ']

end Layout

namespace Json

/-- The escape of one UTF-16 unit. -/
def unitEscape (unit : Nat) : List Char :=
  ['\\', 'u', hexDigit (unit / 4096), hexDigit (unit / 256 % 16), hexDigit (unit / 16 % 16),
    hexDigit (unit % 16)]

/-- The UTF-16 units of a character: one, or two surrogates beyond the first plane. -/
def utf16Units (c : Char) : List Nat :=
  let n := c.toNat
  if n < 0x10000 then [n]
  else [0xD800 + (n - 0x10000) / 1024, 0xDC00 + (n - 0x10000) % 1024]

/-- How a character is written within a text. -/
def writeChar (layout : Layout) (c : Char) : List Char :=
  if c = '"' then ['\\', '"']
  else if c = '\\' then ['\\', '\\']
  else if c = '\x08' then ['\\', 'b']
  else if c = '\x0C' then ['\\', 'f']
  else if c = '\n' then ['\\', 'n']
  else if c = '\r' then ['\\', 'r']
  else if c = '\t' then ['\\', 't']
  else if c.toNat < 0x20 then unitEscape c.toNat
  else if layout.asciiOnly && 0x80 ≤ c.toNat then (utf16Units c).flatMap unitEscape
  else [c]

/-- A text between quotes. -/
def writeText (layout : Layout) (s : String) : List Char :=
  '"' :: s.toList.flatMap (writeChar layout) ++ ['"']

/-- The numeral of a whole number. -/
def writeInt : Int → List Char
  | .ofNat n => Nat.toDigits 10 n
  | .negSucc n => '-' :: Nat.toDigits 10 (n + 1)

mutual

/-- The characters of a document at the given level of a larger one. -/
def write (layout : Layout) (level : Nat) : Json → List Char
  | .null => ['n', 'u', 'l', 'l']
  | .bool true => ['t', 'r', 'u', 'e']
  | .bool false => ['f', 'a', 'l', 's', 'e']
  | .int value => writeInt value
  | .double value => value.text
  | .str text => writeText layout text
  | .arr [] => ['[', ']']
  | .arr (item :: rest) =>
    '[' :: layout.lineBreak (level + 1) ++ write layout (level + 1) item
      ++ writeItems layout level rest
  | .obj [] => ['{', '}']
  | .obj ((key, value) :: rest) =>
    '{' :: layout.lineBreak (level + 1) ++ writeText layout key ++ layout.colon
      ++ write layout (level + 1) value ++ writeFields layout level rest

/-- The items of a list after its first one, and its end. -/
def writeItems (layout : Layout) (level : Nat) : List Json → List Char
  | [] => layout.lineBreak level ++ [']']
  | item :: rest =>
    ',' :: layout.lineBreak (level + 1) ++ write layout (level + 1) item
      ++ writeItems layout level rest

/-- The entries of an object after its first one, and its end. -/
def writeFields (layout : Layout) (level : Nat) : List (String × Json) → List Char
  | [] => layout.lineBreak level ++ ['}']
  | (key, value) :: rest =>
    ',' :: layout.lineBreak (level + 1) ++ writeText layout key ++ layout.colon
      ++ write layout (level + 1) value ++ writeFields layout level rest

end

/-- The text of a document. -/
def render (layout : Layout) (document : Json) : String :=
  String.ofList (write layout 0 document)

end Json

end NetworkIntent
