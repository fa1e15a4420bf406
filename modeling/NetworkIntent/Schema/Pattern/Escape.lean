import NetworkIntent.Text.Numeral
import NetworkIntent.Text.Property

/-!
# Escapes in patterns

What a backslash and the characters after it stand for in a pattern, within classes and outside: a
character, or a set of characters. There are two manners of writing patterns. The plain manner knows
digits, words and blanks of ASCII only, and refuses escapes that it does not know. The extended one
goes by the properties of all characters.

## Main definitions

* `Manner`: the manners of writing patterns.
* `Refusal`: why a pattern cannot be read.
* `Escape`: what an escape stands for, with `Escape.read`.
-/

set_option autoImplicit false

namespace NetworkIntent.Schema

/-- The manners of writing patterns. -/
inductive Manner where
  | plain
  | extended
  deriving DecidableEq, Repr

/-- Why a pattern cannot be read. -/
inductive Refusal where
  /-- It is not well formed. -/
  | malformed
  /-- It goes beyond the plain manner where the given text follows. -/
  | beyond (rest : List Char)
  deriving DecidableEq, Repr

/-- What an escape stands for. -/
inductive Escape where
  /-- A character. -/
  | char (c : Char)
  /-- One of a set of characters, or of all others if `negated`. -/
  | set (negated : Bool) (set : CharSet)
  deriving DecidableEq, Repr

/-! ### Sets -/

/-- The digits of the plain manner. -/
def digitSet : CharSet := .range '0' '9'

/-- The characters of words of the plain manner. -/
def wordSet : CharSet :=
  .ofList [.range 'A' 'Z', .range 'a' 'z', digitSet, .single '_']

/-- The blanks of the plain manner. -/
def blankSet : CharSet :=
  .ofChars [' ', '\t', '\n', '\r', '\x0b', '\x0c', '\u00a0', '\ufeff', '\u2003', '\u2029']

/-- The digits, words or blanks that a lower-case letter stands for. The extended manner has
hexadecimal digits too. -/
def classSet? (manner : Manner) (c : Char) : Option CharSet :=
  match manner, c with
  | .plain, 'd' => some digitSet
  | .plain, 'w' => some wordSet
  | .plain, 's' => some blankSet
  | .extended, 'd' => some Property.digit
  | .extended, 'w' => some Property.word
  | .extended, 's' => some Property.blank
  | .extended, 'h' => some (.ofList [.range '0' '9', .range 'A' 'F', .range 'a' 'f'])
  | _, _ => none

/-- The property between braces: its name, or the name and the value of a kind of property around an
equals sign or a colon; and whether it is negated. -/
def propertyOf? (text : List Char) : Option (Bool × CharSet) :=
  let isSign (c : Char) : Bool := c = '=' || c = ':'
  let kind := text.takeWhile (!isSign ·)
  match text.drop kind.length with
  | [] => (Property.find? text).map fun set => (false, set)
  | _ :: value =>
    if kind.getLast? = some '!' then
      (Property.findOf? kind.dropLast value).map fun set => (true, set)
    else (Property.findOf? kind value).map fun set => (false, set)

/-- Reads a property: a single letter, or a text in braces. -/
def readProperty? : List Char → Option ((Bool × CharSet) × List Char)
  | '\x7b' :: rest =>
    let inner := rest.takeWhile (· ≠ '\x7d')
    match rest.drop inner.length with
    | _ :: rest => (propertyOf? inner).map fun property => (property, rest)
    | [] => none
  | c :: rest => (Property.find? [c]).map fun set => ((false, set), rest)
  | [] => none

/-! ### Characters -/

/-- The control character that a letter stands for. Only the extended manner knows all of them, and
in the plain one the bell is known within classes only. -/
def control? (manner : Manner) (inClass : Bool) (c : Char) : Option Char :=
  match c with
  | 'n' => some '\n'
  | 'r' => some '\r'
  | 't' => some '\t'
  | 'f' => some '\x0c'
  | 'v' => some '\x0b'
  | 'a' => if inClass || manner = .extended then some '\x07' else none
  | 'b' => if inClass && manner = .extended then some '\x08' else none
  | 'e' => if manner = .extended then some '\x1b' else none
  | _ => none

/-- The letters that stand for themselves within a class of the extended manner, since what they
stand for outside is no character. -/
def outsideLetters : List Char :=
  ['k', 'A', 'z', 'B', 'K', 'G']

/-- Whether a character stands for itself after a backslash. -/
def standsForItself (manner : Manner) (inClass : Bool) (c : Char) : Bool :=
  match manner with
  | .plain => c.toNat < 128 && !c.isAlphanum && (!inClass || (c != '<' && c != '>'))
  | .extended => !c.isAlpha || (inClass && outsideLetters.contains c)

/-- The character with a number. -/
def charOf? (n : Nat) : Option Char :=
  if n.isValidChar then some (Char.ofNat n) else none

/-- Whether a character is a hexadecimal digit. -/
def isHex (c : Char) : Bool :=
  (hexValue? c).isSome

/-- The character with a number that is written in hexadecimal digits. -/
def charOfHex? (digits : List Char) : Option Char :=
  charOf? (ofDigits 16 (digits.filterMap hexValue?))

/-- Reads the number of a character: so many hexadecimal digits, or up to eight of them in
braces. -/
def readCodePoint? (digits : Nat) (text : List Char) : Option (Char × List Char) :=
  let front := text.take digits
  if front.length = digits ∧ front.all isHex then
    (charOfHex? front).map fun c => (c, text.drop digits)
  else
    match text with
    | '\x7b' :: rest =>
      let number := rest.takeWhile isHex
      match rest.drop number.length with
      | '\x7d' :: rest =>
        if number.isEmpty || 8 < number.length then none
        else (charOfHex? number).map fun c => (c, rest)
      | _ => none
    | _ => none

namespace Escape

/-- The escape that has been found, if there is one. -/
def ofFound? {α : Type} (make : α → Escape) :
    Option (α × List Char) → Except Refusal (Escape × List Char)
  | some (a, rest) => .ok (make a, rest)
  | none => .error .malformed

/-- Reads an escape after its backslash. A digit asks for what a group has matched, which goes
beyond the plain manner and is out of place within a class. -/
def read (manner : Manner) (inClass : Bool) : List Char → Except Refusal (Escape × List Char)
  | [] => .error .malformed
  | 'x' :: rest => ofFound? .char (readCodePoint? 2 rest)
  | 'u' :: rest => ofFound? .char (readCodePoint? 4 rest)
  | 'U' :: rest => ofFound? .char (readCodePoint? 8 rest)
  | 'p' :: rest => ofFound? (fun property => .set property.1 property.2) (readProperty? rest)
  | 'P' :: rest => ofFound? (fun property => .set (!property.1) property.2) (readProperty? rest)
  | c :: rest =>
    if c.isDigit then
      .error (if manner = .plain && !inClass then .beyond ('\\' :: c :: rest) else .malformed)
    else
      match classSet? manner c.toLower with
      | some members => .ok (.set c.isUpper members, rest)
      | none =>
        match control? manner inClass c with
        | some d => .ok (.char d, rest)
        | none =>
          if standsForItself manner inClass c then .ok (.char c, rest)
          else
            match manner, c, rest with
            | .plain, 'c', d :: rest =>
              if d.isAlpha then .ok (.char (Char.ofNat (d.toNat % 32)), rest)
              else .error .malformed
            | _, _, _ => .error .malformed

end Escape

end NetworkIntent.Schema
