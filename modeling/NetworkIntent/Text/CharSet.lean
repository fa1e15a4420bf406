import NetworkIntent.Text.LetterCase

/-!
# Sets of characters

Sets of characters as they are described: by ranges, by tables, and by operations on other sets.

## Main definitions

* `CharSet`: descriptions of sets, with `CharSet.has` for membership.
* `CharSet.diff`, `CharSet.symmDiff`, `CharSet.ofList`: further operations on sets.
-/

set_option autoImplicit false

namespace NetworkIntent

/-- A description of a set of characters. -/
inductive CharSet where
  /-- The characters from one to another. -/
  | range (first last : Char)
  /-- The characters of a table. -/
  | table (members : CodePoints)
  /-- The characters of either set. -/
  | union (left right : CharSet)
  /-- The characters of both sets. -/
  | inter (left right : CharSet)
  /-- The characters that a set does not have. -/
  | complement (set : CharSet)
  /-- The characters of a set and all that differ from them in case only. -/
  | anyCase (set : CharSet)
  deriving DecidableEq, Repr

namespace CharSet

/-- Whether a set has a character. -/
def has : CharSet → Char → Bool
  | range first last, c => first ≤ c && c ≤ last
  | table members, c => members.contains c
  | union a b, c => a.has c || b.has c
  | inter a b, c => a.has c && b.has c
  | complement a, c => !a.has c
  | anyCase a, c => (LetterCase.variants c).any a.has

/-- The set without characters. -/
def empty : CharSet := table ⟨#[]⟩

/-- The set of all characters. -/
def all : CharSet := complement empty

/-- The set of a single character. -/
def single (c : Char) : CharSet := range c c

/-- The characters that are in any of the sets. -/
def ofList : List CharSet → CharSet
  | [] => empty
  | [set] => set
  | set :: rest => union set (ofList rest)

/-- The set of the given characters. -/
def ofChars (cs : List Char) : CharSet :=
  ofList (cs.map single)

/-- The characters of the first set that the second does not have. -/
def diff (a b : CharSet) : CharSet :=
  inter a (complement b)

/-- The characters that are in one of two sets but not in both. -/
def symmDiff (a b : CharSet) : CharSet :=
  union (diff a b) (diff b a)

end CharSet

end NetworkIntent
