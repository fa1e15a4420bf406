import NetworkIntent.Json.Reader
import NetworkIntent.Proofs.Table

/-!
# Storable documents

The documents that survive being written and read: the keys of their objects ascend, their numbers
are whole ones that fit in 64 bits, and their levels are no more than the reader allows. An object
is storable if its values are, one level further down.

## Main definitions

* `Json.depth`: the levels of lists and objects of a document.
* `Json.Whole`: all numbers of a document are whole ones within range.
* `Json.Storable`: the documents that are read back.

## Main results

* `Json.induction`: what holds of a list or an object if it holds of all its parts holds of every
  document.
* `Json.storable_obj_iff`: when an object is storable.
* `Json.storable_ofEntries`: an object made of values that are storable further down is storable.
-/

set_option autoImplicit false

namespace NetworkIntent.Json

/-! ## Induction -/

/-- What holds of single values, and of a list or an object if it holds of all its parts, holds of
every document. -/
@[elab_as_elim]
theorem induction {P : Json → Prop} (null : P .null) (bool : ∀ value, P (.bool value))
    (int : ∀ value, P (.int value)) (double : ∀ value, P (.double value))
    (str : ∀ text, P (.str text)) (arr : ∀ items, (∀ item ∈ items, P item) → P (.arr items))
    (obj : ∀ fields : Fields, (∀ entry ∈ fields, P entry.2) → P (.obj fields))
    (document : Json) : P document :=
  @Json.rec P (fun items => ∀ item ∈ items, P item) (fun fields => ∀ entry ∈ fields, P entry.2)
    (fun entry => P entry.2) null bool int double str arr obj (by simp)
    (fun _ _ hitem hitems => List.forall_mem_cons.mpr ⟨hitem, hitems⟩) (by simp)
    (fun _ _ hentry hfields => List.forall_mem_cons.mpr ⟨hentry, hfields⟩) (fun _ _ hvalue => hvalue)
    document

/-! ## Definitions -/

/-- Whether a whole number is within the range that is read as a whole number. -/
def InRange (value : Int) : Prop :=
  -9223372036854775808 ≤ value ∧ value ≤ 18446744073709551615

mutual

/-- The levels of lists and objects of a document. -/
def depth : Json → Nat
  | .arr items => depthItems items + 1
  | .obj fields => depthFields fields + 1
  | _ => 0

/-- The levels of the listed documents. -/
def depthItems : List Json → Nat
  | [] => 0
  | item :: rest => max (depth item) (depthItems rest)

/-- The levels of the listed values. -/
def depthFields : List (String × Json) → Nat
  | [] => 0
  | (_, value) :: rest => max (depth value) (depthFields rest)

end

mutual

/-- Every number of the document is a whole one within range. -/
def Whole : Json → Prop
  | .int value => InRange value
  | .double _ => False
  | .arr items => WholeItems items
  | .obj fields => WholeFields fields
  | _ => True

/-- Every number of the listed documents is a whole one within range. -/
def WholeItems : List Json → Prop
  | [] => True
  | item :: rest => Whole item ∧ WholeItems rest

/-- Every number of the listed values is a whole one within range. -/
def WholeFields : List (String × Json) → Prop
  | [] => True
  | (_, value) :: rest => Whole value ∧ WholeFields rest

end

/-- The documents that are read back: the keys of their objects ascend, their numbers are whole ones
within range, and their levels are no more than the reader allows. -/
structure Storable (document : Json) : Prop where
  sorted : document.Sorted
  whole : document.Whole
  depth_le : document.depth ≤ maxDepth

/-! ## Deciding -/

mutual

/-- Decides whether the keys of all objects of a document ascend. -/
def decidableSorted : (document : Json) → Decidable document.Sorted
  | .arr items => decidableSortedItems items
  | .obj fields => @instDecidableAnd _ _ inferInstance (decidableSortedFields fields)
  | .null | .bool _ | .int _ | .double _ | .str _ => .isTrue trivial

/-- Decides whether the keys of all objects of the listed documents ascend. -/
def decidableSortedItems : (items : List Json) → Decidable (SortedItems items)
  | [] => .isTrue trivial
  | item :: rest => @instDecidableAnd _ _ (decidableSorted item) (decidableSortedItems rest)

/-- Decides whether the keys of all objects of the listed values ascend. -/
def decidableSortedFields : (fields : List (String × Json)) → Decidable (SortedFields fields)
  | [] => .isTrue trivial
  | (_, value) :: rest => @instDecidableAnd _ _ (decidableSorted value) (decidableSortedFields rest)

end

instance : DecidablePred Sorted := decidableSorted

mutual

/-- Decides whether all numbers of a document are whole ones within range. -/
def decidableWhole : (document : Json) → Decidable document.Whole
  | .int _ => inferInstanceAs (Decidable (_ ∧ _))
  | .double _ => .isFalse id
  | .arr items => decidableWholeItems items
  | .obj fields => decidableWholeFields fields
  | .null | .bool _ | .str _ => .isTrue trivial

/-- Decides whether all numbers of the listed documents are whole ones within range. -/
def decidableWholeItems : (items : List Json) → Decidable (WholeItems items)
  | [] => .isTrue trivial
  | item :: rest => @instDecidableAnd _ _ (decidableWhole item) (decidableWholeItems rest)

/-- Decides whether all numbers of the listed values are whole ones within range. -/
def decidableWholeFields : (fields : List (String × Json)) → Decidable (WholeFields fields)
  | [] => .isTrue trivial
  | (_, value) :: rest => @instDecidableAnd _ _ (decidableWhole value) (decidableWholeFields rest)

end

instance : DecidablePred Whole := decidableWhole

instance (document : Json) : Decidable document.Storable :=
  decidable_of_iff (document.Sorted ∧ document.Whole ∧ document.depth ≤ maxDepth)
    ⟨fun ⟨hsorted, hwhole, hdepth⟩ => ⟨hsorted, hwhole, hdepth⟩,
      fun h => ⟨h.sorted, h.whole, h.depth_le⟩⟩

/-! ## Lists and objects -/

theorem sortedItems_iff (items : List Json) :
    SortedItems items ↔ ∀ item ∈ items, item.Sorted := by
  induction items with
  | nil => simp [SortedItems]
  | cons item items ih => simp [SortedItems, ih]

theorem wholeItems_iff (items : List Json) :
    WholeItems items ↔ ∀ item ∈ items, item.Whole := by
  induction items with
  | nil => simp [WholeItems]
  | cons item items ih => simp [WholeItems, ih]

theorem depthItems_le_iff (items : List Json) (n : Nat) :
    depthItems items ≤ n ↔ ∀ item ∈ items, item.depth ≤ n := by
  induction items with
  | nil => simp [depthItems]
  | cons item items ih => simp [depthItems, ih]

theorem sortedFields_iff (fields : Fields) :
    SortedFields fields ↔ ∀ entry ∈ fields, entry.2.Sorted := by
  induction fields with
  | nil => simp [SortedFields]
  | cons entry fields ih => simp [SortedFields, ih]

theorem wholeFields_iff (fields : Fields) :
    WholeFields fields ↔ ∀ entry ∈ fields, entry.2.Whole := by
  induction fields with
  | nil => simp [WholeFields]
  | cons entry fields ih => simp [WholeFields, ih]

theorem depthFields_le_iff (fields : Fields) (n : Nat) :
    depthFields fields ≤ n ↔ ∀ entry ∈ fields, entry.2.depth ≤ n := by
  induction fields with
  | nil => simp [depthFields]
  | cons entry fields ih => simp [depthFields, ih]

/-- A value within a storable object. -/
structure StorableWithin (value : Json) : Prop where
  sorted : value.Sorted
  whole : value.Whole
  depth_lt : value.depth < maxDepth

/-- An object is storable if its keys ascend and its values are storable one level further down. -/
theorem storable_obj_iff (fields : Fields) :
    (Json.obj fields).Storable ↔
      Table.Ascending fields ∧ ∀ entry ∈ fields, entry.2.StorableWithin := by
  have hdepth : (Json.obj fields).depth ≤ maxDepth ↔
      ∀ entry ∈ fields, entry.2.depth < maxDepth := by
    rw [depth, show maxDepth = 126 + 1 from rfl, Nat.add_le_add_iff_right, depthFields_le_iff]
    simp only [Nat.lt_succ_iff]
  refine ⟨fun h => ⟨h.sorted.1, fun entry hentry => ?_⟩, fun ⟨hkeys, hvalues⟩ => ?_⟩
  · exact ⟨(sortedFields_iff fields).mp h.sorted.2 entry hentry,
      (wholeFields_iff fields).mp h.whole entry hentry, hdepth.mp h.depth_le entry hentry⟩
  · exact ⟨⟨hkeys, (sortedFields_iff fields).mpr fun entry hentry => (hvalues entry hentry).sorted⟩,
      (wholeFields_iff fields).mpr fun entry hentry => (hvalues entry hentry).whole,
      hdepth.mpr fun entry hentry => (hvalues entry hentry).depth_lt⟩

/-- An object made of values that are storable one level further down is storable. -/
theorem storable_ofEntries {entries : Fields} (h : ∀ entry ∈ entries, entry.2.StorableWithin) :
    (Json.ofEntries entries).Storable :=
  (storable_obj_iff _).mpr ⟨Table.ascending_ofEntries entries,
    fun entry hentry => h entry (Table.mem_of_mem_ofEntries hentry)⟩

end NetworkIntent.Json
