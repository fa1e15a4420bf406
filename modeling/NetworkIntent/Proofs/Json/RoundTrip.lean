import Mathlib.Data.List.TakeWhile
import NetworkIntent.Proofs.Json.Spelled
import NetworkIntent.Proofs.Pointwise

/-!
# Documents read back

A document is read from each of its spellings, if its keys ascend, its numbers are whole ones within
64 bits and its levels are no more than the reader allows. So it is read back whatever the layout is
in which it has been written.

Lists and objects are read part by part. What a reader finds wherever a part is spelled, it finds in
each part of a list; what is kept of an object by taking one entry after the other is kept at its
end.

## Main definitions

* `Json.Finds`: a reader finds something wherever a document is spelled.
* `Json.Takes`: an entry of an object is taken, and something is kept.

## Main results

* `Json.readList_of_spells`, `Json.readEntries_of_spells`: lists and objects are read part by part.
* `Json.readValue_of_spells`: a document is read from each of its spellings, wherever it is in a
  text.
* `Json.parse_render`: the text of a document is read as this document.
-/

set_option autoImplicit false

namespace NetworkIntent.Json

/-! ## Lists and objects, read part by part -/

section Parts

variable {α : Type} {bytes inner lead rest text : Bytes} {first : Bool} {fuel : Nat}

/-- Wherever a document is spelled, a reader finds something with a property there, and leaves what
follows. -/
def Finds (reader : Reader α) (document : Json) (P : α → Prop) : Prop :=
  ∀ ⦃part text rest : Bytes⦄, Spells document part → skipGap text = part ++ rest → Follows rest →
    ∃ a, reader text = .ok (a, rest) ∧ P a

/-- A part of a list is looked for behind what leads to it. -/
theorem Leads.nextItem {b : UInt8} (h : Leads first lead) (hgap : isGap b = false) (hb : b ≠ 0x5D) :
    nextItem first (lead ++ b :: bytes) = .ok (some (b :: bytes)) := by
  rw [Json.nextItem]
  cases first with
  | true =>
    rw [Blank.skipGap_cons h hgap]
    dsimp only
    rw [if_neg hb, if_pos rfl]
  | false =>
    obtain ⟨gap, gap', hblank, hblank', rfl⟩ := h
    rw [List.append_assoc, List.cons_append, hblank.skipGap_cons (by decide)]
    dsimp only
    rw [if_neg (by decide), if_neg (by decide), if_pos rfl, hblank'.skipGap_cons hgap]
    dsimp only
    rw [if_neg hb]

/-- A key of an object is looked for behind what leads to it. -/
theorem Leads.nextKey (h : Leads first lead) :
    nextKey first (lead ++ 0x22 :: bytes) = .ok (some (0x22 :: bytes)) := by
  rw [Json.nextKey]
  cases first with
  | true =>
    rw [Blank.skipGap_cons h (by decide)]
    rfl
  | false =>
    obtain ⟨gap, gap', hblank, hblank', rfl⟩ := h
    rw [List.append_assoc, List.cons_append, hblank.skipGap_cons (by decide)]
    dsimp only
    rw [if_neg (by decide), if_neg (by decide), if_pos rfl, hblank'.skipGap_cons (by decide)]
    rfl

/-- The items of a list are read, each from where it is spelled, and the closing bracket is left. -/
theorem readItems_of_spells {item : Reader α} {R : Json → α → Prop} {items : List Json}
    (hitem : ∀ document ∈ items, Finds item document (R document))
    (h : SpellsItems first items inner) (hfuel : inner.length ≤ fuel) (rest : Bytes) :
    ∃ values, readItems item fuel first (inner ++ rest) = .ok (values, 0x5D :: rest) ∧
      List.Forall₂ R items values := by
  induction items generalizing first inner fuel with
  | nil =>
    obtain ⟨gap, hgap, rfl⟩ := h
    obtain ⟨fuel, rfl⟩ := Nat.exists_eq_succ_of_ne_zero (n := fuel)
      (by rintro rfl; simp at hfuel)
    have hend : skipGap (gap ++ [0x5D] ++ rest) = 0x5D :: rest := by
      rw [List.append_assoc]
      exact hgap.skipGap_cons (by decide) rest
    refine ⟨[], ?_, .nil⟩
    rw [readItems, Json.nextItem, hend]
    rfl
  | cons document items ih =>
    obtain ⟨hdocument, hitems⟩ := List.forall_mem_cons.mp hitem
    obtain ⟨lead, part, after, hlead, hpart, hafter, rfl⟩ := h
    obtain ⟨b, bytes, rfl, hgap, hb, -⟩ := hpart.exists_cons
    simp only [List.length_append, List.length_cons] at hfuel
    obtain ⟨fuel, rfl⟩ := Nat.exists_eq_succ_of_ne_zero (n := fuel) (by omega)
    obtain ⟨a, hread, ha⟩ := hdocument hpart (skipGap_cons hgap (bytes ++ (after ++ rest)))
      (hafter.follows rest)
    have hlength : after.length ≤ fuel := by omega
    obtain ⟨values, hvalues, hall⟩ := ih hitems hafter hlength
    refine ⟨a :: values, ?_, .cons ha hall⟩
    rw [List.append_assoc, List.append_assoc, List.cons_append, readItems, hlead.nextItem hgap hb]
    dsimp only
    rw [hread]
    dsimp only
    rw [hvalues]
    rfl

/-- **A list is read item by item.** -/
theorem readList_of_spells {item : Reader α} {R : Json → α → Prop} {items : List Json}
    (hitem : ∀ document ∈ items, Finds item document (R document))
    (h : SpellsItems true items inner) (rest : Bytes) :
    ∃ values, readList item (inner ++ rest) = .ok (values, rest) ∧
      List.Forall₂ R items values := by
  have hlength : inner.length ≤ (inner ++ rest).length + 1 := by
    rw [List.length_append]
    omega
  obtain ⟨values, hread, hall⟩ := readItems_of_spells hitem h hlength rest
  refine ⟨values, ?_, hall⟩
  rw [readList, hread]
  rfl

/-- As long as something is known of what has been kept and of the entries that are left, an entry
is taken from the end of its key on, and the same is known of the entries after it. -/
def Takes (entry : (before : List α) → (key : String) → Reader (Option α))
    (I : List α → Fields → Prop) : Prop :=
  ∀ before key value fields, I before ((key, value) :: fields) →
    ∀ ⦃gap gap' part rest : Bytes⦄, Blank gap → Blank gap' → Spells value part → Follows rest →
      ∃ kept : Option α,
        entry before key (gap ++ 0x3A :: (gap' ++ (part ++ rest))) = .ok (kept, rest) ∧
          I (before ++ kept.toList) fields

/-- The entries of an object are taken one after the other, and the closing brace is left. -/
theorem readEntriesAfter_of_spells
    {entry : (before : List α) → (key : String) → Reader (Option α)} {I : List α → Fields → Prop}
    (hentry : Takes entry I) {fields : Fields} {before : List α} (hbefore : I before fields)
    (h : SpellsFields first fields inner) (hfuel : inner.length ≤ fuel) (rest : Bytes) :
    ∃ values, readEntriesAfter entry fuel first before (inner ++ rest) =
      .ok (values, 0x7D :: rest) ∧ I (before ++ values) [] := by
  induction fields generalizing first before inner fuel with
  | nil =>
    obtain ⟨gap, hgap, rfl⟩ := h
    obtain ⟨fuel, rfl⟩ := Nat.exists_eq_succ_of_ne_zero (n := fuel)
      (by rintro rfl; simp at hfuel)
    have hend : skipGap (gap ++ [0x7D] ++ rest) = 0x7D :: rest := by
      rw [List.append_assoc]
      exact hgap.skipGap_cons (by decide) rest
    refine ⟨[], ?_, by rwa [List.append_nil]⟩
    rw [readEntriesAfter, Json.nextKey, hend]
    rfl
  | cons field fields ih =>
    obtain ⟨lead, name, gap, gap', part, after, hlead, hname, hgap, hgap', hpart, hafter, rfl⟩ := h
    obtain ⟨body, rfl, hkey⟩ := hname.readText
    simp only [List.length_append, List.length_cons] at hfuel
    obtain ⟨fuel, rfl⟩ := Nat.exists_eq_succ_of_ne_zero (n := fuel) (by omega)
    obtain ⟨kept, hread, hkept⟩ := hentry before _ _ fields hbefore hgap hgap' hpart
      (hafter.follows rest)
    have hlength : after.length ≤ fuel := by omega
    obtain ⟨values, hvalues, hall⟩ := ih hkept hafter hlength
    refine ⟨kept.toList ++ values, ?_, by rwa [← List.append_assoc]⟩
    have htext : lead ++ (0x22 :: body ++ (gap ++ 0x3A :: (gap' ++ (part ++ after)))) ++ rest =
        lead ++ 0x22 :: (body ++ (gap ++ 0x3A :: (gap' ++ (part ++ (after ++ rest))))) := by simp
    rw [htext, readEntriesAfter, hlead.nextKey]
    dsimp only [List.drop]
    rw [hkey]
    dsimp only
    rw [hread]
    cases kept with
    | none =>
      rw [Option.toList_none, List.append_nil] at hvalues
      exact hvalues
    | some value =>
      rw [Option.toList_some] at hvalues
      dsimp only
      rw [hvalues]
      rfl

/-- **An object is read entry by entry.** -/
theorem readEntries_of_spells
    {entry : (before : List α) → (key : String) → Reader (Option α)} {I : List α → Fields → Prop}
    (hentry : Takes entry I) {fields : Fields} (hfields : I [] fields)
    (h : SpellsFields true fields inner) (rest : Bytes) :
    ∃ values, readEntries entry (inner ++ rest) = .ok (values, 0x7D :: rest) ∧ I values [] :=
  readEntriesAfter_of_spells hentry hfields h (by rw [List.length_append]; omega) rest

end Parts

/-! ## Documents -/

section Documents

variable {inner rest text : Bytes}

/-- A whole number is read as a document. -/
theorem readWith_writeInt (item : Option (Reader Json)) {value : Int} (h : InRange value)
    (htext : skipGap text = Utf8.encode (writeInt value) ++ rest) (hrest : Follows rest) :
    readWith item text = .ok (.int value, rest) := by
  obtain ⟨hnumeral, hle⟩ := wholeNumeral_natAbs h
  have hdigit : ∀ d < 10, digitByte d ≠ 0x6E ∧ digitByte d ≠ 0x74 ∧ digitByte d ≠ 0x66 ∧
      digitByte d ≠ 0x2D ∧ isDigit (digitByte d) = true := by decide
  cases value with
  | ofNat n =>
    have hread := readNumeral_decimals false (n := n) hle hrest
    have hsign : decide (Int.ofNat n < 0) = false :=
      decide_eq_false (Int.not_lt.mpr (Int.natCast_nonneg n))
    obtain ⟨d, ds, heq, -⟩ := exists_decimals_eq_cons n
    obtain ⟨hn, ht, hf, hminus, hd⟩ := hdigit d (lt_of_mem_decimals n d (heq ▸ List.mem_cons_self))
    rw [hsign, Int.natAbs_ofNat'] at hnumeral
    rw [hnumeral] at hread
    rw [writeInt, encode_toDigits] at htext
    rw [heq, List.map_cons, List.cons_append] at hread htext
    rw [readWith, htext]
    dsimp only
    rw [if_neg hn, if_neg ht, if_neg hf, if_neg hminus, if_pos hd, hread]
    rfl
  | negSucc n =>
    have hread := readNumeral_decimals true (n := n + 1) hle hrest
    have hsign : decide (Int.negSucc n < 0) = true := decide_eq_true (Int.negSucc_lt_zero n)
    rw [hsign, Int.natAbs_negSucc] at hnumeral
    rw [hnumeral] at hread
    have hbytes : Utf8.encode (writeInt (.negSucc n)) =
        0x2D :: (decimals (n + 1)).map digitByte := by
      rw [writeInt, Utf8.encode_cons, encode_toDigits]
      rfl
    rw [hbytes, List.cons_append] at htext
    rw [readWith, htext]
    dsimp only
    rw [if_neg (by decide), if_neg (by decide), if_neg (by decide), if_pos rfl, hread]
    rfl

/-- A text between quotes is read as a document. -/
theorem SpellsText.readWith (item : Option (Reader Json)) {s : String} {part : Bytes}
    (h : SpellsText s part) (htext : skipGap text = part ++ rest) :
    readWith item text = .ok (.str s, rest) := by
  obtain ⟨body, rfl, hread⟩ := h.readText
  rw [Json.readWith, htext, List.cons_append]
  dsimp only
  rw [if_neg (by decide), if_neg (by decide), if_neg (by decide), if_neg (by decide),
    if_neg (by decide), if_pos rfl, hread]
  rfl

/-- A list is read as a document. -/
theorem readWith_bracket {item : Reader Json} {items : List Json}
    (h : readList item inner = .ok (items, rest)) (htext : skipGap text = 0x5B :: inner) :
    readWith (some item) text = .ok (.arr items, rest) := by
  rw [readWith, htext]
  dsimp only
  rw [if_neg (by decide), if_neg (by decide), if_neg (by decide), if_neg (by decide),
    if_neg (by decide), if_neg (by decide), if_pos rfl, h]
  rfl

/-- How an entry of an object is read from the end of its key on. -/
def entryOf (value : Reader Json) (_ : Fields) (key : String) : Reader (Option (String × Json)) :=
  fun text => do
    let text ← readColon text
    let (document, text) ← value text
    return (some (key, document), text)

/-- An object is read as a document, the object made of its entries. -/
theorem readWith_brace {value : Reader Json} {fields : Fields}
    (h : readEntries (entryOf value) inner = .ok (fields, 0x7D :: rest))
    (htext : skipGap text = 0x7B :: inner) :
    readWith (some value) text = .ok (.ofEntries fields, rest) := by
  rw [readWith, htext]
  dsimp only
  rw [if_neg (by decide), if_neg (by decide), if_neg (by decide), if_neg (by decide),
    if_neg (by decide), if_neg (by decide), if_neg (by decide), if_pos rfl]
  have hentries : readEntries (fun (_ : Fields) (key : String) (text : Bytes) => do
      let text ← readColon text
      let (document, text) ← value text
      return (some (key, document), text)) inner = .ok (fields, 0x7D :: rest) := h
  rw [hentries]
  rfl

/-- An entry is taken if its value is read wherever it is spelled. -/
theorem takes_entryOf {value : Reader Json} {all : Fields}
    (h : ∀ entry ∈ all, Finds value entry.2 (· = entry.2)) :
    Takes (entryOf value) fun before fields => before ++ fields = all := by
  intro before key document fields hall gap gap' part rest hgap hgap' hpart hrest
  have hmem : (key, document) ∈ all :=
    hall ▸ List.mem_append_right _ List.mem_cons_self
  obtain ⟨found, hread, hfound⟩ := h _ hmem hpart (hgap'.skipGap_part hpart rest) hrest
  obtain rfl : document = found := hfound.symm
  refine ⟨some (key, document), ?_, by simpa using hall⟩
  rw [entryOf, hgap.readColon]
  simp only [bind, Except.bind, hread]
  rfl

/-- **A document is read from each of its spellings**, wherever it is in a text, if its keys ascend,
its numbers are whole ones within range, and its levels are no more than the reader allows.

**Proof sketch.** Induction on the document. A reader for one more level of lists and objects reads
their parts by the reader for the levels below. -/
theorem readValue_of_spells (document : Json) : ∀ {depth : Nat}, document.Sorted →
    document.Whole → document.depth ≤ depth → Finds (readValue depth) document (· = document) := by
  induction document using Json.induction with
  | null =>
    rintro depth - - - part text rest hpart htext -
    rw [Spells] at hpart
    refine ⟨_, ?_, rfl⟩
    cases depth <;> (rw [readValue, readWith, htext, hpart]; rfl)
  | bool value =>
    rintro depth - - - part text rest hpart htext -
    refine ⟨_, ?_, rfl⟩
    cases value <;> rw [Spells] at hpart <;> cases depth <;>
      (rw [readValue, readWith, htext, hpart]; rfl)
  | int value =>
    rintro depth - - - part text rest ⟨hrange, rfl⟩ htext hrest
    refine ⟨_, ?_, rfl⟩
    cases depth <;> exact readWith_writeInt _ hrange htext hrest
  | double value =>
    rintro depth - hwhole
    exact absurd hwhole (by simp [Whole])
  | str s =>
    rintro depth - - - part text rest hpart htext -
    refine ⟨_, ?_, rfl⟩
    cases depth <;> exact SpellsText.readWith _ hpart htext
  | arr items ih =>
    intro depth hsorted hwhole hdepth part text rest hpart htext _
    obtain ⟨inner, rfl, hinner⟩ := hpart
    obtain ⟨depth, rfl⟩ : ∃ below, depth = below + 1 :=
      ⟨depth - 1, by simp only [Json.depth] at hdepth; omega⟩
    simp only [Json.depth, Nat.add_le_add_iff_right] at hdepth
    have hitems : ∀ item ∈ items, Finds (readValue depth) item (· = item) := fun item hitem =>
      ih item hitem ((sortedItems_iff items).mp hsorted item hitem)
        ((wholeItems_iff items).mp hwhole item hitem)
        ((depthItems_le_iff items depth).mp hdepth item hitem)
    obtain ⟨values, hread, hall⟩ := readList_of_spells hitems hinner rest
    obtain rfl : values = items := List.forall₂_eq_eq_eq ▸ hall.flip
    exact ⟨_, readWith_bracket hread htext, rfl⟩
  | obj fields ih =>
    intro depth hsorted hwhole hdepth part text rest hpart htext _
    obtain ⟨inner, rfl, hinner⟩ := hpart
    obtain ⟨depth, rfl⟩ : ∃ below, depth = below + 1 :=
      ⟨depth - 1, by simp only [Json.depth] at hdepth; omega⟩
    simp only [Json.depth, Nat.add_le_add_iff_right] at hdepth
    have hvalues : ∀ entry ∈ fields, Finds (readValue depth) entry.2 (· = entry.2) :=
      fun entry hentry => ih entry hentry ((sortedFields_iff fields).mp hsorted.2 entry hentry)
        ((wholeFields_iff fields).mp hwhole entry hentry)
        ((depthFields_le_iff fields depth).mp hdepth entry hentry)
    obtain ⟨values, hread, hall⟩ := readEntries_of_spells (takes_entryOf hvalues) rfl hinner rest
    obtain rfl : values = fields := by simpa using hall
    have hfields : Json.obj values = .ofEntries values := by
      rw [Json.ofEntries, Table.ofEntries_of_ascending hsorted.1]
    exact ⟨_, readWith_brace hread htext, hfields.symm⟩

end Documents

/-- What a reader finds wherever a document is spelled is read from a whole text that spells it. -/
theorem SpellsWhole.readAll {α : Type} {reader : Reader α} {document : Json} {a : α}
    {text : Bytes} (htext : SpellsWhole document text) (h : Finds reader document (· = a)) :
    readAll reader text = .ok a := by
  obtain ⟨gap, part, gap', hgap, hpart, hgap', rfl⟩ := htext
  have hfollows : Follows gap' := by
    simpa using hgap'.follows (show Follows [] from trivial)
  have hend : skipGap gap' = [] := by
    simpa [skipGap] using hgap'.skipGap_append []
  obtain ⟨_, hread, rfl⟩ := h hpart (hgap.skipGap_part hpart gap') hfollows
  simp only [Json.readAll, hread, bind, Except.bind, atEnd, hend]
  rfl

/-- A document is read from each of its spellings as a whole text. -/
theorem parse_of_spells {document : Json} (h : document.Storable) {text : Bytes}
    (htext : SpellsWhole document text) : parse text = .ok document :=
  htext.readAll (readValue_of_spells document h.sorted h.whole h.depth_le)

/-- **The text of a document is read as this document**, in any layout and with blanks after it. -/
theorem parse_render (layout : Layout) {document : Json} (h : document.Storable) {gap : Bytes}
    (hgap : skipGap gap = []) :
    parse (Utf8.ofString (document.render layout) ++ gap) = .ok document := by
  refine parse_of_spells h ⟨[], _, gap, blank_nil, spells_write layout document 0 h.whole,
    List.dropWhile_eq_nil_iff.mp hgap, ?_⟩
  rw [Utf8.ofString, render, String.toList_ofList, List.nil_append]

end NetworkIntent.Json
