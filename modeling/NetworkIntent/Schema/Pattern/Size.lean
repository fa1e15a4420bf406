import NetworkIntent.Schema.Pattern.Expr

/-!
# Sizes of expressions

A pattern is refused when the states that its matching needs would take more than ten mebibytes.
Every repetition with bounds has states of its own for each time that its body may be matched, so
the size of an expression is known before anything is built. A state is a byte of a character.

## Main definitions

* `Expr.size`: the estimated number of bytes that the states of an expression take.
* `Expr.fits`: whether they are within the limit.
-/

set_option autoImplicit false

namespace NetworkIntent.Schema

/-- The number of bytes of a state without its transitions. -/
def stateSize : Nat := 32

/-- The estimated number of bytes of the transitions and further states of a set of characters.
Characters beyond ASCII have several bytes each. -/
def transitionsSize : CharSet → Nat
  | .range first last =>
    if last.toNat < 128 then (if first = last then 0 else 8) else if first = last then 48 else 96
  | .table members => 10 * members.ranges.size
  | .union a b | .inter a b => transitionsSize a + transitionsSize b + 8
  | .complement a => transitionsSize a + 400
  | .anyCase a => 2 * transitionsSize a + 16

namespace Expr

/-- The estimated number of bytes that the states of an expression take. -/
def size : Expr → Nat
  | empty => 0
  | one set => stateSize + transitionsSize set
  | place _ | again _ => stateSize
  | seq e f => e.size + f.size
  | alt e f => e.size + f.size + stateSize
  | repeated e low high _ =>
    match high with
    | none => max low 1 * e.size + stateSize
    | some high => high * e.size + (high - low) * stateSize
  | group _ e => e.size + 2 * stateSize
  | look _ _ e | commit e => e.size

/-- The greatest size of an expression: ten mebibytes. -/
def sizeLimit : Nat := 10 * 1024 * 1024

/-- Whether the states of an expression are within the limit. -/
def fits (e : Expr) : Bool :=
  e.size ≤ sizeLimit

end Expr

end NetworkIntent.Schema
