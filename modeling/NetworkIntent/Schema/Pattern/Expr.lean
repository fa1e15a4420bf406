import NetworkIntent.Text.Property

/-!
# Regular expressions

The expressions that patterns consist of. Besides characters, sequences, alternatives and
repetitions there are places that an expression can ask for, such as the ends of a text and the
edges of words; groups, whose text can be asked for again; looks at what comes before or after; and
committed parts, which are not tried in another way once they have matched.

An expression without the last three is regular. It is matched by derivatives: what may follow after
a character.

## Main definitions

* `Place`: what an expression can ask of the characters around a place.
* `Expr`: expressions.
* `Expr.nullable`, `Expr.steps`: matching nothing, and what may follow after a character.
* `Expr.runs`: whether a regular expression matches.
-/

set_option autoImplicit false

namespace NetworkIntent.Schema

/-- What can be asked of the characters before and after a place. -/
inductive Place where
  | textStart
  | textEnd
  | lineStart
  | lineEnd
  | wordEdge
  | noWordEdge
  | wordStart
  | wordEnd
  deriving DecidableEq, Repr

/-- Whether there is a character and it is one of a word. -/
def isOfWord (c : Option Char) : Bool :=
  c.any Property.word.has

/-- Whether a place is between two characters, which are missing at the ends of a text. -/
def Place.holds (before next : Option Char) : Place → Bool
  | textStart => before.isNone
  | textEnd => next.isNone
  | lineStart => before.all (· = '\n')
  | lineEnd => next.all (· = '\n')
  | wordEdge => isOfWord before != isOfWord next
  | noWordEdge => isOfWord before == isOfWord next
  | wordStart => !isOfWord before && isOfWord next
  | wordEnd => isOfWord before && !isOfWord next

/-- An expression that matches pieces of a text. -/
inductive Expr where
  /-- Matches nothing, which is everywhere. -/
  | empty
  /-- Matches one character of a set. -/
  | one (set : CharSet)
  /-- Matches nothing, but only at some places. -/
  | place (place : Place)
  /-- Matches one expression after the other. -/
  | seq (first second : Expr)
  /-- Matches either expression, preferably the left one. -/
  | alt (left right : Expr)
  /-- Matches repetitions, within bounds on their number; as many as possible if `greedy`. -/
  | repeated (body : Expr) (low : Nat) (high : Option Nat) (greedy : Bool)
  /-- Matches an expression and keeps the piece under a number. -/
  | group (number : Nat) (body : Expr)
  /-- Matches the piece that is kept under a number. -/
  | again (number : Nat)
  /-- Matches nothing where an expression matches, or does not match if `negated`: after the place,
  or from so many characters before it. -/
  | look (back : Option Nat) (negated : Bool) (body : Expr)
  /-- Matches an expression in the preferred way and in no other. -/
  | commit (body : Expr)
  deriving DecidableEq, Repr

namespace Expr

/-- One expression after the other, where neither is empty. -/
def andThen (e f : Expr) : Expr :=
  if e = empty then f else if f = empty then e else seq e f

/-- Whether an expression is regular. -/
def isRegular : Expr → Bool
  | empty | one _ | place _ => true
  | seq e f | alt e f => e.isRegular && f.isRegular
  | repeated e _ _ _ | group _ e => e.isRegular
  | again _ | look _ _ _ | commit _ => false

/-- Whether an expression keeps no piece. -/
def isGroupless : Expr → Bool
  | empty | one _ | place _ | again _ => true
  | seq e f | alt e f => e.isGroupless && f.isGroupless
  | repeated e _ _ _ | look _ _ e | commit e => e.isGroupless
  | group _ _ => false

/-- The number of characters that an expression matches, if it is always the same. -/
def width? : Expr → Option Nat
  | empty | place _ | look _ _ _ => some 0
  | one _ => some 1
  | seq e f => e.width?.bind fun m => f.width?.map fun n => m + n
  | alt e f => e.width?.bind fun m => f.width?.bind fun n => if m = n then some m else none
  | repeated e low high _ =>
    if high = some low then e.width?.map fun n => low * n else none
  | group _ e | commit e => e.width?
  | again _ => none

/-! ### Derivatives -/

/-- Whether a regular expression matches nothing between two characters. -/
def nullable (before next : Option Char) : Expr → Bool
  | empty => true
  | one _ => false
  | place p => p.holds before next
  | seq e f => e.nullable before next && f.nullable before next
  | alt e f => e.nullable before next || f.nullable before next
  | repeated e low _ _ => low = 0 || e.nullable before next
  | group _ e => e.nullable before next
  | again _ | look _ _ _ | commit _ => false

/-- What may follow within a regular expression after its first character `c`. A repetition that can
match nothing here needs no further repetitions. -/
def steps (before : Option Char) (c : Char) : Expr → List Expr
  | empty | place _ | again _ | look _ _ _ | commit _ => []
  | one set => if set.has c then [empty] else []
  | seq e f =>
    (e.steps before c).map (·.andThen f)
      ++ if e.nullable before (some c) then f.steps before c else []
  | alt e f => e.steps before c ++ f.steps before c
  | repeated e low high greedy =>
    if high = some 0 then []
    else
      let low := if e.nullable before (some c) then 0 else low - 1
      (e.steps before c).map (·.andThen (repeated e low (high.map (· - 1)) greedy))
  | group _ e => e.steps before c

/-- Whether one of the expressions that are under way matches the start of a text. The expressions
of `fresh` get under way at every later place. -/
def runs (fresh : List Expr) (before : Option Char) (states : List Expr) : List Char → Bool
  | [] => states.any (nullable before none)
  | c :: rest =>
    states.any (nullable before (some c))
      || runs fresh (some c) (fresh ++ states.flatMap (steps before c)).eraseDups rest

end Expr

end NetworkIntent.Schema
