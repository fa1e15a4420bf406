import NetworkIntent.DomainName.Direction
import NetworkIntent.DomainName.Label
import NetworkIntent.Text.Punycode

/-!
# Domain names

A domain name may have letters of any script. It is sent in a form of ASCII, in which each label
with other characters is written in punycode after a prefix. Many texts stand for one name: capital
letters are the same as small ones, and composed characters the same as letters with their marks.

## Main definitions

* `DomainName.toAscii?`: the form of a name that is sent.
-/

set_option autoImplicit false

namespace NetworkIntent.DomainName

/-- The start of a label that is written in punycode. -/
def punycodePrefix : List Char := "xn--".toList

/-- Whether all characters of a text are of ASCII. -/
def isAscii (text : List Char) : Bool :=
  text.all Punycode.isBasic

/-- The parts of a text between its points. -/
def labels : List Char → List (List Char)
  | [] => [[]]
  | c :: rest =>
    if c = '.' then [] :: labels rest
    else
      match labels rest with
      | label :: more => (c :: label) :: more
      | [] => [[c]]

/-- The characters that a label is read as, if it may be there. A label in punycode stands for its
text, which cannot be written in another way. -/
def readLabel? (label : List Char) : Option (List Char) :=
  if punycodePrefix.isPrefixOf label then
    match Punycode.decode? (label.drop punycodePrefix.length) with
    | none => none
    | some text =>
      if !isAscii text && text.all isKept && compose text = text && isLabel text
        && !punycodePrefix.isPrefixOf text then some text
      else none
  else if isLabel label then some label
  else none

/-- The form of a label that is sent. -/
def writeLabel (label : List Char) : List Char :=
  if isAscii label then label else punycodePrefix ++ Punycode.encode label

/-- Whether a character of ASCII may be in the name of a host. -/
def isHostChar (c : Char) : Bool :=
  0x20 < c.toNat && c.toNat < 0x7F && !("#/:<>?@[\\]^|%".toList.contains c)

/-- The form of a name that is sent, if it is a name of a host. -/
def toAscii? (name : List Char) : Option (List Char) := do
  let text ← prepare? name
  let parts := labels (compose text)
  let read ← parts.mapM readLabel?
  let sent := ['.'].intercalate (parts.map writeLabel)
  if areLegible read && sent.all isHostChar then return sent else none

end NetworkIntent.DomainName
