import NetworkIntent.Text.CodePoints

/-!
# Substitutions

Replacing single characters by texts. The table of a substitution names code points by hexadecimal
numbers: `A8=20+308` replaces one character by two, `C0-D6=E0` every character of a range by the one
at the same distance from `E0`, and `100-12E/2=101` every second character of a range in the same
way. After a comma comes what replaces the next code point, as in `130=69+307,131`.

## Main definitions

* `Substitution`: tables of replaced characters.
* `Substitution.find?`, `Substitution.sources`: what replaces a character, and what it replaces.
* `Substitution.read`: the substitution that a table stands for.
-/

set_option autoImplicit false

namespace NetworkIntent

/-- The replacement of the code points from `first` to `last` in steps of `step`. The first of them
is replaced by `target`; if this is a single character, the others are replaced by the characters
at the same distances from it. -/
structure Replacement where
  first : Nat
  last : Nat
  step : Nat
  target : List Nat
  deriving DecidableEq, Repr

/-- What replaces a code point of the range. -/
def Replacement.apply (replacement : Replacement) (n : Nat) : List Char :=
  match replacement.target with
  | [start] => [Char.ofNat (start + (n - replacement.first))]
  | target => target.map Char.ofNat

/-- The code point of the range that is replaced by a single given one. -/
def Replacement.source? (replacement : Replacement) (n : Nat) : Option Nat :=
  match replacement.target with
  | [start] =>
    let source := replacement.first + (n - start)
    if start ≤ n ∧ source ≤ replacement.last ∧ (n - start) % replacement.step = 0 then some source
    else none
  | _ => none

/-- Replacements in the order of their ranges, which do not overlap. -/
structure Substitution where
  replacements : Array Replacement
  deriving DecidableEq, Repr

namespace Substitution

/-- What replaces a character, if it is one that is replaced. -/
def find? (table : Substitution) (c : Char) : Option (List Char) :=
  match CodePoints.findIn? (fun r => (r.first, r.last)) table.replacements c with
  | none => none
  | some replacement =>
    if (c.toNat - replacement.first) % replacement.step = 0 then
      some (replacement.apply c.toNat)
    else none

/-- The characters that are replaced by a single given one. -/
def sources (table : Substitution) (c : Char) : List Char :=
  table.replacements.toList.filterMap fun replacement =>
    (replacement.source? c.toNat).map Char.ofNat

/-! ### Tables -/

/-- What a number of a table stands for. -/
inductive Part where
  | first
  | last
  | step
  | target
  deriving DecidableEq, Repr

/-- What has been read of a table: the replacements before in reverse order, the replacement that is
being read with its target in reverse order, the part of it that is being read, and its number. -/
structure Reading where
  done : List Replacement
  current : Replacement
  part : Part
  number : Nat

namespace Reading

/-- The reading of a table whose next replacement starts at a code point. -/
def start (done : List Replacement) (first : Nat) (part : Part) : Reading :=
  ⟨done, ⟨first, first, 1, []⟩, part, 0⟩

/-- Puts the number that has been read into its place. -/
def store (reading : Reading) : Replacement :=
  let current := reading.current
  match reading.part with
  | .first => ⟨reading.number, reading.number, 1, []⟩
  | .last => { current with last := reading.number }
  | .step => { current with step := reading.number }
  | .target => { current with target := reading.number :: current.target }

/-- Ends the replacement that is being read, which is none before its target. -/
def finish (reading : Reading) : List Replacement :=
  let current := reading.store
  if current.target.isEmpty then reading.done
  else { current with target := current.target.reverse } :: reading.done

/-- Goes on to another part of the replacement. -/
def goOn (reading : Reading) (part : Part) : Reading :=
  ⟨reading.done, reading.store, part, 0⟩

/-- Reads one more character. -/
def next (reading : Reading) (c : Char) : Reading :=
  match hexValue? c with
  | some digit => { reading with number := reading.number * 16 + digit }
  | none =>
    if c = '-' then reading.goOn .last
    else if c = '/' then reading.goOn .step
    else if c = '=' ∨ c = '+' then reading.goOn .target
    else if c = ',' then start reading.finish (reading.current.last + 1) .target
    else start reading.finish 0 .first

end Reading

/-- The substitution that a table stands for. -/
def read (table : String) : Substitution :=
  ⟨(table.toList.foldl Reading.next (.start [] 0 .first)).finish.reverse.toArray⟩

end Substitution

end NetworkIntent
