import NetworkIntent.Text.Numeral
import NetworkIntent.Text.Unprintable

/-!
# Quoted texts

How a text appears in a message: between double quotes, with everything escaped that a reader
could not see or could mistake.

## Main definitions

* `quotedChar`: one character within the quotes.
* `quoted`: a whole text.
-/

set_option autoImplicit false

namespace NetworkIntent

/-- An escaped code point: its hexadecimal number in braces. -/
def codePointEscape (c : Char) : List Char :=
  ['\\', 'u', '{'] ++ hexNumeral c.toNat ++ ['}']

/-- How a character is written within quotes: the quote, the backslash and four controls have an
escape of two characters, and whatever else has no glyph of its own is named by its code point. -/
def quotedChar (c : Char) : List Char :=
  if c = '"' then ['\\', '"']
  else if c = '\\' then ['\\', '\\']
  else if c = '\t' then ['\\', 't']
  else if c = '\r' then ['\\', 'r']
  else if c = '\n' then ['\\', 'n']
  else if c = '\x00' then ['\\', '0']
  else if c.toNat < 0x20 ∨ c.toNat = 0x7F then codePointEscape c
  else if c.toNat < 0x80 then [c]
  else if isUnprintable c then codePointEscape c
  else [c]

/-- A text between double quotes. -/
def quoted (s : String) : String :=
  String.ofList ('"' :: s.toList.flatMap quotedChar ++ ['"'])

end NetworkIntent
