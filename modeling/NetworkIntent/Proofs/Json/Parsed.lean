import NetworkIntent.Proofs.Json.Storable
import NetworkIntent.Proofs.Pointwise

/-!
# Documents that have been read

Whatever text a document is read from, the keys of its objects ascend, and it has no more levels
than the reader allows. So it is storable if all its numbers are whole ones within range.

## Main definitions

* `Json.SortedWithin`: ascending keys, and a bounded number of levels.

## Main results

* `Json.forall_of_readList`, `Json.forall_of_readEntries`: what holds of all parts that can be read
  holds of the parts of a list or an object.
* `Json.sortedWithin_of_readValue`: what is read at a depth has no more levels than that.
* `Json.storable_of_parse`: when a document that is read is storable.
-/

set_option autoImplicit false

namespace NetworkIntent.Json

/-! ## Parts -/

section Parts

variable {α : Type} {P : α → Prop}

/-- What holds of everything that is read as an item holds of all items. -/
theorem forall_of_readItems {item : Reader α}
    (hitem : ∀ {text a rest}, item text = .ok (a, rest) → P a) (fuel : Nat) :
    ∀ {first text items rest}, readItems item fuel first text = .ok (items, rest) →
      ∀ a ∈ items, P a := by
  induction fuel with
  | zero =>
    intro first text items rest h
    simp [readItems, stopOn] at h
  | succ fuel ih =>
    intro first text items rest h
    rw [readItems] at h
    rcases hnext : nextItem first text with stop | (_ | start)
    · rw [hnext] at h
      cases h
    · rw [hnext] at h
      obtain ⟨rfl, -⟩ := Prod.mk.inj (Except.ok.inj h)
      simp
    · rw [hnext] at h
      dsimp only at h
      rcases hread : item start with stop | ⟨a, next⟩
      · rw [hread] at h
        cases h
      · rw [hread] at h
        obtain ⟨⟨more, last⟩, hmore, heq⟩ := map_eq_ok_iff.mp h
        obtain ⟨rfl, -⟩ := Prod.mk.inj heq
        exact List.forall_mem_cons.mpr ⟨hitem hread, ih hmore⟩

/-- What holds of everything that is read as an item holds of the items of a list. -/
theorem forall_of_readList {item : Reader α} {text rest : Bytes} {items : List α}
    (hitem : ∀ {text a rest}, item text = .ok (a, rest) → P a)
    (h : readList item text = .ok (items, rest)) : ∀ a ∈ items, P a := by
  rw [readList] at h
  rcases hread : readItems item (text.length + 1) true text with stop | ⟨more, next⟩
  · simp [hread] at h
  · rw [hread] at h
    obtain ⟨rfl, -⟩ := Prod.mk.inj (Except.ok.inj h)
    exact forall_of_readItems hitem _ hread

/-- What holds of everything that is read as an entry holds of all entries. -/
theorem forall_of_readEntriesAfter {entry : List α → String → Reader (Option α)}
    (hentry : ∀ {before key text a rest}, entry before key text = .ok (some a, rest) → P a)
    (fuel : Nat) :
    ∀ {first before text entries rest},
      readEntriesAfter entry fuel first before text = .ok (entries, rest) →
      ∀ a ∈ entries, P a := by
  induction fuel with
  | zero =>
    intro first before text entries rest h
    simp [readEntriesAfter, stopOn] at h
  | succ fuel ih =>
    intro first before text entries rest h
    rw [readEntriesAfter] at h
    rcases hnext : nextKey first text with stop | (_ | start)
    · rw [hnext] at h
      cases h
    · rw [hnext] at h
      obtain ⟨rfl, -⟩ := Prod.mk.inj (Except.ok.inj h)
      simp
    · rw [hnext] at h
      dsimp only at h
      rcases hkey : readText (start.drop 1) with stop | ⟨key, next⟩
      · rw [hkey] at h
        cases h
      · rw [hkey] at h
        dsimp only at h
        rcases hread : entry before key next with stop | ⟨_ | a, after⟩
        · rw [hread] at h
          cases h
        · rw [hread] at h
          exact ih h
        · rw [hread] at h
          obtain ⟨⟨more, last⟩, hmore, heq⟩ := map_eq_ok_iff.mp h
          obtain ⟨rfl, -⟩ := Prod.mk.inj heq
          exact List.forall_mem_cons.mpr ⟨hentry hread, ih hmore⟩

/-- What holds of everything that is read as an entry holds of the entries of an object. -/
theorem forall_of_readEntries {entry : List α → String → Reader (Option α)} {text rest : Bytes}
    {entries : List α}
    (hentry : ∀ {before key text a rest}, entry before key text = .ok (some a, rest) → P a)
    (h : readEntries entry text = .ok (entries, rest)) : ∀ a ∈ entries, P a :=
  forall_of_readEntriesAfter hentry _ h

end Parts

/-! ## Documents -/

/-- The keys of all objects ascend, and there are no more than so many levels of lists and objects.
-/
structure SortedWithin (levels : Nat) (document : Json) : Prop where
  sorted : document.Sorted
  depth_le : document.depth ≤ levels

variable {levels : Nat} {text rest : Bytes} {document : Json}

/-- A list is one level above its items. -/
theorem SortedWithin.arr {items : List Json} (h : ∀ item ∈ items, item.SortedWithin levels) :
    (Json.arr items).SortedWithin (levels + 1) := by
  refine ⟨(sortedItems_iff items).mpr fun item hitem => (h item hitem).sorted, ?_⟩
  rw [depth]
  exact Nat.succ_le_succ
    ((depthItems_le_iff items levels).mpr fun item hitem => (h item hitem).depth_le)

/-- An object made of entries is one level above their values. -/
theorem SortedWithin.ofEntries {entries : Fields}
    (h : ∀ entry ∈ entries, entry.2.SortedWithin levels) :
    (Json.ofEntries entries).SortedWithin (levels + 1) := by
  have hvalues : ∀ entry ∈ Table.ofEntries entries, entry.2.SortedWithin levels :=
    fun entry hentry => h entry (Table.mem_of_mem_ofEntries hentry)
  refine ⟨⟨Table.ascending_ofEntries entries,
    (sortedFields_iff _).mpr fun entry hentry => (hvalues entry hentry).sorted⟩, ?_⟩
  rw [Json.ofEntries, depth]
  exact Nat.succ_le_succ
    ((depthFields_le_iff _ levels).mpr fun entry hentry => (hvalues entry hentry).depth_le)

/-- A number has no levels. -/
theorem sortedWithin_toJson (numeral : Numeral) : numeral.toJson.SortedWithin levels := by
  cases numeral with
  | int value => exact ⟨trivial, Nat.zero_le levels⟩
  | double value => exact ⟨trivial, Nat.zero_le levels⟩

/-- What is made of a result is within the levels if it is so for all results. -/
private theorem sortedWithin_of_map {α : Type} {f : α → Json × Bytes} {result : Except Stop α}
    (h : f <$> result = .ok (document, rest))
    (hf : ∀ a, result = .ok a → (f a).1.SortedWithin levels) : document.SortedWithin levels := by
  obtain ⟨a, hresult, heq⟩ := map_eq_ok_iff.mp h
  have hdocument := hf a hresult
  rwa [heq] at hdocument

/-- Where lists and objects may hold what is read one level further down, what is read is within
the levels. -/
theorem sortedWithin_of_readWith {inner : Option (Reader Json)}
    (hinner : ∀ value ∈ inner, ∃ m, levels = m + 1 ∧
      ∀ {text document rest}, value text = .ok (document, rest) → document.SortedWithin m)
    (h : readWith inner text = .ok (document, rest)) : document.SortedWithin levels := by
  rw [readWith] at h
  rcases hgap : skipGap text with _ | ⟨b, next⟩
  · rw [hgap] at h
    cases h
  · rw [hgap] at h
    dsimp only at h
    split_ifs at h
    · exact sortedWithin_of_map h fun _ _ => ⟨trivial, Nat.zero_le levels⟩
    · exact sortedWithin_of_map h fun _ _ => ⟨trivial, Nat.zero_le levels⟩
    · exact sortedWithin_of_map h fun _ _ => ⟨trivial, Nat.zero_le levels⟩
    · exact sortedWithin_of_map h fun (numeral, _) _ => sortedWithin_toJson numeral
    · exact sortedWithin_of_map h fun (numeral, _) _ => sortedWithin_toJson numeral
    · exact sortedWithin_of_map h fun _ _ => ⟨trivial, Nat.zero_le levels⟩
    · rcases inner with _ | value
      · simp [stopOn] at h
      · obtain ⟨m, rfl, hvalue⟩ := hinner value rfl
        exact sortedWithin_of_map h fun (items, _) hitems => .arr (forall_of_readList hvalue hitems)
    · rcases inner with _ | value
      · simp [stopOn] at h
      · obtain ⟨m, rfl, hvalue⟩ := hinner value rfl
        refine sortedWithin_of_map h fun (entries, _) hentries => .ofEntries ?_
        refine forall_of_readEntries (fun {_ key text entry rest} hread => ?_) hentries
        rcases hcolon : readColon text with stop | start
        · simp [hcolon, bind, Except.bind] at hread
        · rcases hnext : value start with stop | ⟨document, last⟩
          · simp [hcolon, hnext, bind, Except.bind] at hread
          · simp only [hcolon, hnext, bind, Except.bind, pure, Except.pure, Except.ok.injEq,
              Prod.mk.injEq, Option.some.injEq] at hread
            obtain ⟨rfl, -⟩ := hread
            exact hvalue hnext
    · simp [stopOn] at h

/-- **What is read at a depth has no more levels than that.** -/
theorem sortedWithin_of_readValue (levels : Nat) : ∀ {text document rest},
    readValue levels text = .ok (document, rest) → document.SortedWithin levels := by
  induction levels with
  | zero => exact fun h => sortedWithin_of_readWith (by simp) h
  | succ levels ih =>
    intro text document rest h
    refine sortedWithin_of_readWith (fun value hvalue => ?_) h
    obtain rfl := Option.some.inj hvalue
    exact ⟨levels, rfl, ih⟩

/-- A document that is read has ascending keys and is not too deep. -/
theorem sortedWithin_of_parse (h : parse text = .ok document) : document.SortedWithin maxDepth := by
  rw [parse, readAll] at h
  rcases hread : readValue maxDepth text with stop | ⟨value, rest⟩
  · simp [hread, bind, Except.bind] at h
  · rcases hend : atEnd rest with stop | _
    · simp [hread, hend, bind, Except.bind] at h
    · simp only [hread, hend, bind, Except.bind, pure, Except.pure, Except.ok.injEq] at h
      obtain rfl := h
      exact sortedWithin_of_readValue maxDepth hread

/-- **A document that is read is storable if all its numbers are whole ones within range.** -/
theorem storable_of_parse (h : parse text = .ok document) (hwhole : document.Whole) :
    document.Storable :=
  have hwithin := sortedWithin_of_parse h
  ⟨hwithin.sorted, hwhole, hwithin.depth_le⟩

end NetworkIntent.Json
