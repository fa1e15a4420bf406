/-!
# Tables

Values under keys that are texts. A table is a list of keys with their values; the ones that are
built by `Table.insert` hold their keys in ascending order and each of them once.

## Main definitions

* `Table.get?`, `Table.contains`: look-up.
* `Table.insert`, `Table.insertAll`, `Table.ofEntries`: tables made of entries.
-/

set_option autoImplicit false

namespace NetworkIntent

/-- Keys with their values. -/
abbrev Table (α : Type) := List (String × α)

namespace Table

variable {α : Type}

/-- The value of a key. -/
def get? (key : String) : Table α → Option α
  | [] => none
  | (k, v) :: rest => if k = key then some v else get? key rest

/-- Whether a table has a key. -/
def contains (key : String) (table : Table α) : Bool :=
  (get? key table).isSome

/-- Gives a key a value, in place of the one it may have had. Ascending keys stay ascending. -/
def insert (key : String) (value : α) : Table α → Table α
  | [] => [(key, value)]
  | (k, v) :: rest =>
    if key < k then (key, value) :: (k, v) :: rest
    else if key = k then (key, value) :: rest
    else (k, v) :: insert key value rest

/-- Gives several keys their values, one after the other. -/
def insertAll (entries table : Table α) : Table α :=
  entries.foldl (fun table (key, value) => insert key value table) table

/-- The table made of entries in any order. Of entries with one key the last one counts. -/
def ofEntries (entries : Table α) : Table α :=
  insertAll entries []

/-- The keys of a table. -/
def keys (table : Table α) : List String :=
  table.map Prod.fst

end Table

end NetworkIntent
