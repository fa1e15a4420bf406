import NetworkIntent.Text.Numeral

/-!
# Sets of code points

Sets of characters, such as the properties of Unicode, as ranges of code points. Tables of ranges
are written as texts: hexadecimal numbers for single code points, and two of them around a hyphen
for the code points between them and themselves.

## Main definitions

* `CodePoints`: the sets, with `CodePoints.contains` by bisection.
* `CodePoints.findIn?`: bisection among any items with ranges.
* `CodePoints.read`: the set that a table stands for.
-/

set_option autoImplicit false

namespace NetworkIntent

/-- A set of code points: inclusive ranges in ascending order that do not overlap. -/
structure CodePoints where
  ranges : Array (Nat × Nat)
  deriving DecidableEq, Repr

namespace CodePoints

/-- The item whose range of code points has `n`, among the items numbered from `low` to below
`high`, which are in the order of their ranges. Each round of `fuel` halves their number. -/
def findBetween {α : Type} (range : α → Nat × Nat) (items : Array α) (n : Nat) :
    (fuel low high : Nat) → Option α
  | 0, _, _ => none
  | fuel + 1, low, high =>
    if high ≤ low then none
    else
      let middle := (low + high) / 2
      match items[middle]? with
      | none => none
      | some item =>
        let (first, last) := range item
        if n < first then findBetween range items n fuel low middle
        else if last < n then findBetween range items n fuel (middle + 1) high
        else some item

/-- The item whose range of code points has a character, among items in the order of their
ranges. -/
def findIn? {α : Type} (range : α → Nat × Nat) (items : Array α) (c : Char) : Option α :=
  findBetween range items c.toNat (items.size + 1) 0 items.size

/-- Whether a set has a character. -/
def contains (set : CodePoints) (c : Char) : Bool :=
  (findIn? id set.ranges c).isSome

/-! ### Tables -/

/-- What has been read of a table: the ranges before in reverse order, the start of the range that
is being read if a hyphen has been met, and the number that is being read. -/
structure Reading where
  ranges : List (Nat × Nat)
  start : Option Nat
  number : Option Nat

/-- Ends the range that is being read. -/
def Reading.finish (reading : Reading) : Reading :=
  match reading.number with
  | none => reading
  | some n => ⟨(reading.start.getD n, n) :: reading.ranges, none, none⟩

/-- Reads one more character. -/
def Reading.next (reading : Reading) (c : Char) : Reading :=
  match hexValue? c with
  | some digit => { reading with number := some (reading.number.getD 0 * 16 + digit) }
  | none =>
    if c = '-' then ⟨reading.ranges, reading.number, none⟩ else reading.finish

/-- The set that a table stands for. The ranges of a table are in ascending order. -/
def read (table : String) : CodePoints :=
  ⟨(table.toList.foldl Reading.next ⟨[], none, none⟩).finish.ranges.reverse.toArray⟩

end CodePoints

end NetworkIntent
