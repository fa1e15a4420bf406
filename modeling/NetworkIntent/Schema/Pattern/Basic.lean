import NetworkIntent.Schema.Pattern.Reader
import NetworkIntent.Schema.Pattern.Search
import NetworkIntent.Schema.Pattern.Size

/-!
# Patterns

The regular expressions of schemas, which are looked for anywhere in a text. A pattern is written in
the plain manner, unless it looks ahead or behind or asks for a group again: then it is in the
extended manner as a whole.

## Main definitions

* `Pattern`: an expression with the text it was read from.
* `Pattern.parse?`: reads a pattern.
* `Pattern.find?`, `Pattern.isMatch`: whether a pattern occurs in a text.
-/

set_option autoImplicit false

namespace NetworkIntent.Schema

/-- A pattern that is looked for in a text. -/
structure Pattern where
  /-- The pattern as it is written. -/
  source : String
  /-- The expression that it stands for. -/
  body : Expr
  deriving DecidableEq, Repr

namespace Pattern

/-- Replaces escaped control characters, which only the plain manner has, by themselves. -/
def spellControls : List Char → List Char
  | '\\' :: 'c' :: c :: rest => Char.ofNat (c.toNat % 32) :: spellControls rest
  | '\\' :: c :: rest => '\\' :: c :: spellControls rest
  | c :: rest => c :: spellControls rest
  | [] => []

/-- The expression of a pattern in either manner. What precedes the text where a pattern goes beyond
the plain manner has been read in that manner. -/
def exprOf? (text : List Char) : Option Expr :=
  match readPattern .plain text with
  | .ok e => some e
  | .error .malformed => none
  | .error (.beyond rest) =>
    let front := text.take (text.length - rest.length)
    (readPattern .extended (spellControls front ++ rest)).toOption

/-- Reads a pattern. -/
def parse? (source : String) : Option Pattern :=
  match exprOf? source.toList with
  | some e => if e.fits then some ⟨source, e⟩ else none
  | none => none

/-- The number of branches that may be given up in a search. -/
def retryLimit : Nat := 1000000

/-- Whether a pattern occurs in a text, unless the search is abandoned. -/
def find? (pattern : Pattern) (text : String) : Option Bool :=
  if pattern.body.isRegular then
    some (Expr.runs [pattern.body] none [pattern.body] text.toList)
  else
    match (search true (1000 * retryLimit) retryLimit (starts pattern.body [] text.toList)).1 with
    | .found _ => some true
    | .missing => some false
    | .abandoned => none

/-- Whether a pattern occurs in a text. -/
def isMatch (pattern : Pattern) (text : String) : Bool :=
  pattern.find? text = some true

end Pattern

end NetworkIntent.Schema
