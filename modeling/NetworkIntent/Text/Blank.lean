/-!
# White space

The characters that separate words: those with the Unicode property `White_Space`.

## Main definitions

* `isBlank`: membership in the property.
* `dropBlanks`: a text without its white space.
-/

set_option autoImplicit false

namespace NetworkIntent

/-- Whether a character has the property `White_Space`. -/
def isBlank (c : Char) : Bool :=
  let n := c.toNat
  (0x09 ≤ n && n ≤ 0x0D) || n = 0x20 || n = 0x85 || n = 0xA0 || n = 0x1680
    || (0x2000 ≤ n && n ≤ 0x200A) || n = 0x2028 || n = 0x2029 || n = 0x202F
    || n = 0x205F || n = 0x3000

/-- A text without its white space. -/
def dropBlanks (cs : List Char) : List Char :=
  cs.filter fun c => !isBlank c

end NetworkIntent
