import Mathlib.Data.List.Nodup
import NetworkIntent.Proofs.Interchange

/-!
# Renaming loses nothing

Renaming goes through the entries of an object one by one, and two of them could fall together
under one key. That they do not is the reason for refusing a document that carries a collection under
both of its keys: in all other documents different keys stay different. So every entry is kept, with
its value, and the document can be taken back.

## Main definitions

* `Json.Doubles`: a collection stands under both of its keys.
* `Json.IsFirstClash`: the clash that a document is refused for.

## Main results

* `renameKeys_eq_error_iff`: the documents that are refused, and what for.
* `perm_renameKeys`: the entries of a renamed document are those of the document.
* `renameKeys_lossless`: all that renaming keeps.
-/

set_option autoImplicit false

namespace NetworkIntent

variable {form : KeyForm} {document renamed : Json} {clash : KeyClash}

/-! ## Refused documents -/

/-- A collection stands under both of its keys. -/
def Json.Doubles (c : Collection) (document : Json) : Prop :=
  ∀ form, document.get? (c.key form) ≠ none

/-- The clash of the first collection that stands under both of its keys: it tells the key that was
to be renamed, and then the one that was there already. -/
def Json.IsFirstClash (form : KeyForm) (document : Json) (clash : KeyClash) : Prop :=
  ∃ c : Collection, document.Doubles c ∧ (c ≠ .sites → ¬document.Doubles .sites) ∧
    clash = ⟨c.key form.other, c.key form⟩

/-- Whichever form is asked for, a collection has a clash exactly if it stands under both keys. -/
theorem Collection.clash?_eq_some_iff {fields : Fields} {c : Collection} :
    c.clash? form fields = some clash ↔
      (Json.obj fields).Doubles c ∧ clash = ⟨c.key form.other, c.key form⟩ := by
  have hdoubles : (Json.obj fields).Doubles c ↔
      Table.contains (c.key form.other) fields ∧ Table.contains (c.key form) fields := by
    simp only [Json.Doubles, Json.get?, Table.contains, Option.isSome_iff_ne_none]
    constructor
    · intro h
      exact ⟨h form.other, h form⟩
    · rintro ⟨hother, hform⟩ form'
      cases form <;> cases form' <;> assumption
  rw [hdoubles, Collection.clash?]
  split
  · next h => simp [h, eq_comm]
  · next h => simp [h]

/-- A document is refused exactly for the first collection that stands under both of its keys. -/
theorem renameKeys_eq_error_iff :
    renameKeys form document = .error clash ↔ document.IsFirstClash form clash := by
  cases document with
  | obj fields =>
    have hrefused : renameKeys form (.obj fields) = .error clash ↔
        Collection.all.findSome? (·.clash? form fields) = some clash := by
      rw [renameKeys]
      split
      · next found hfound => simp [hfound]
      · next hnone => simp [hnone]
    rw [hrefused, Collection.all, List.findSome?_cons, List.findSome?_singleton]
    cases hsites : Collection.sites.clash? form fields with
    | some found =>
      obtain ⟨hdoubles, rfl⟩ := Collection.clash?_eq_some_iff.mp hsites
      constructor
      · intro hfound
        exact ⟨.sites, hdoubles, by simp, (Option.some.inj hfound).symm⟩
      · rintro ⟨c, -, hfirst, rfl⟩
        cases c
        · rfl
        · exact absurd hdoubles (hfirst (by decide))
    | none =>
      have hdoubles : ¬(Json.obj fields).Doubles .sites := by
        intro h
        rw [Collection.clash?_eq_some_iff.mpr ⟨h, rfl⟩] at hsites
        cases hsites
      change Collection.vpns.clash? form fields = some clash ↔ _
      rw [Collection.clash?_eq_some_iff]
      constructor
      · rintro ⟨hvpns, rfl⟩
        exact ⟨.vpns, hvpns, fun _ => hdoubles, rfl⟩
      · rintro ⟨c, hc, -, rfl⟩
        cases c
        · exact absurd hc hdoubles
        · exact ⟨hc, rfl⟩
  | _ =>
    constructor
    · intro h
      cases h
    · rintro ⟨c, hdoubles, -⟩
      exact absurd rfl (hdoubles form)

/-! ## Entries -/

/-- The other form of the other form is the form. -/
theorem KeyForm.other_other (form : KeyForm) : form.other.other = form := by
  cases form <;> rfl

/-- An entry under the key of the given form, if its key is one of a collection. -/
def renameEntry (form : KeyForm) (entry : String × Json) : String × Json :=
  (renameKey form entry.1, entry.2)

/-- The keys of a collection are renamed. -/
theorem renameKey_key_other (form : KeyForm) (c : Collection) :
    renameKey form (c.key form.other) = c.key form :=
  (renameKey_eq_key_iff c).mpr (.inr rfl)

/-- Nothing else is renamed. -/
theorem renameKey_of_ne {key : String} (h : ∀ c : Collection, key ≠ c.key form.other) :
    renameKey form key = key := by
  have hnone : Collection.all.find? (fun c => key = c.key form.other) = none := by
    rw [List.find?_eq_none]
    intro c _
    simpa using h c
  rw [renameKey, hnone]

/-- In a document without clashes different keys stay different. -/
theorem renameKey_injOn {fields : Fields} (hfree : (Json.obj fields).ClashFree) :
    Set.InjOn (renameKey form) {key | key ∈ Table.keys fields} := by
  have hpresent : ∀ key ∈ Table.keys fields, (Json.obj fields).lookup? key ≠ none := by
    intro key hkey hnone
    rw [Json.lookup?, Table.get?_ofEntries_eq_none_iff, Table.get?_eq_none_iff] at hnone
    exact hnone hkey
  -- A key that is renamed falls together only with the other key of its collection.
  have hrenamed : ∀ c : Collection, ∀ key ∈ Table.keys fields,
      c.key form.other ∈ Table.keys fields → renameKey form key = c.key form →
        key = c.key form.other := by
    intro c key hkey hother hname
    rcases (renameKey_eq_key_iff c).mp hname with rfl | heq
    · rcases hfree.either form c with hnone | hnone
      · exact absurd hnone (hpresent _ hkey)
      · exact absurd hnone (hpresent _ hother)
    · exact heq
  intro key hkey key' hkey' heq
  by_cases hc : ∃ c : Collection, key = c.key form.other
  · obtain ⟨c, rfl⟩ := hc
    rw [renameKey_key_other] at heq
    exact (hrenamed c key' hkey' hkey heq.symm).symm
  · push Not at hc
    rw [renameKey_of_ne hc] at heq
    by_cases hc' : ∃ c : Collection, key' = c.key form.other
    · obtain ⟨c, rfl⟩ := hc'
      rw [renameKey_key_other] at heq
      exact hrenamed c key hkey hkey' (by rw [renameKey_of_ne hc, heq])
    · push Not at hc'
      rw [renameKey_of_ne hc'] at heq
      exact heq

/-- The entries of a renamed document are those of the document, under their new keys.

**Proof sketch.** No key is repeated before, and none falls together with another one, so the table
made of the renamed entries has all of them. -/
theorem perm_renameKeys (hascending : Table.Ascending document.entries)
    (h : renameKeys form document = .ok renamed) :
    renamed.entries.Perm (document.entries.map (renameEntry form)) := by
  cases document with
  | obj fields =>
    obtain ⟨hfree, rfl⟩ := renameKeys_obj_eq_ok_iff.mp h
    have hkeys : Table.keys (fields.map (renameEntry form)) =
        (Table.keys fields).map (renameKey form) := by
      simp [Table.keys, renameEntry]
    have hnodup : (Table.keys (fields.map (renameEntry form))).Nodup := by
      rw [hkeys]
      exact hascending.nodup.map_on fun key hkey key' hkey' => renameKey_injOn hfree hkey hkey'
    exact Table.ofEntries_perm_of_nodup hnodup
  | _ =>
    cases h
    exact List.Perm.nil

/-! ## What is kept -/

/-- A document is another one with its collections under keys of the given form, and nothing is lost
by that. -/
structure Json.RenamedTo (form : KeyForm) (document renamed : Json) : Prop where
  /-- An object stays an object. -/
  isObject : ∀ fields, document = .obj fields → ∃ fields', renamed = .obj fields'
  /-- There are as many entries as before. -/
  length_entries : renamed.entries.length = document.entries.length
  /-- Every entry keeps its value, under its new key. -/
  entries_perm : renamed.entries.Perm (document.entries.map (renameEntry form))
  /-- No key of the other form is left. -/
  lacks : renamed.Lacks form.other
  /-- The document cannot be told from the renamed one by renaming them further. -/
  renameKeys_eq : ∀ form', renameKeys form' renamed = renameKeys form' document
  /-- The renamed document has its form already. -/
  fixed : renameKeys form renamed = .ok renamed
  /-- A document of the other form is got back. -/
  restored : document.Lacks form → renameKeys form.other renamed = .ok document

/-- **Renaming loses nothing.** A document is refused exactly if it carries a collection under both
of its keys, and then for the first such collection. What is no object is left alone. Of an object
only the keys of collections change, and the renamed one has all its entries. Of two renamings the
last one counts, so that a document is got back from its renamed form if it had the other form. -/
theorem renameKeys_lossless (form : KeyForm) (hascending : Table.Ascending document.entries) :
    (∀ clash, renameKeys form document = .error clash ↔ document.IsFirstClash form clash) ∧
    ((∀ fields, document ≠ .obj fields) → renameKeys form document = .ok document) ∧
    (∀ c : Collection, renameKey form (c.key form.other) = c.key form) ∧
    (∀ key, (∀ c : Collection, key ≠ c.key form.other) → renameKey form key = key) ∧
    ∀ renamed, renameKeys form document = .ok renamed → document.RenamedTo form renamed := by
  refine ⟨fun clash => renameKeys_eq_error_iff, fun hobject => ?_, renameKey_key_other form,
    fun key => renameKey_of_ne, fun renamed h => ?_⟩
  · cases document with
    | obj fields => exact absurd rfl (hobject fields)
    | _ => rfl
  · have hperm := perm_renameKeys hascending h
    have hagain : ∀ form', renameKeys form' renamed = renameKeys form' document :=
      fun form' => renameKeys_renameKeys h
    refine ⟨?_, ?_, hperm, lacks_of_renameKeys h, hagain, ?_, fun hlacks => ?_⟩
    · rintro fields rfl
      rw [renameKeys_obj ((renameKeys_eq_ok_iff form _).mp ⟨renamed, h⟩)] at h
      exact ⟨_, (Except.ok.inj h).symm⟩
    · rw [hperm.length_eq, List.length_map]
    · rw [hagain, h]
    · rw [hagain]
      refine renameKeys_of_absent hascending ?_
      rwa [form.other_other]

/-! ### A document with one key of each form -/

/-- A document whose sites are under the plain key, and whose VPNs are under the qualified one. Its
other key is between both keys of the sites. -/
def sitemapDocument : Json :=
  .obj [("sitemap", .int 1), ("sites", .arr []), ("vpn-service:vpns", .arr [.null])]

/-- The document with both collections under the qualified keys. -/
def qualifiedSitemap : Json :=
  .obj [("site-service:sites", .arr []), ("sitemap", .int 1), ("vpn-service:vpns", .arr [.null])]

/-- The entries of the document change their places. -/
theorem renamedTo_qualifiedSitemap :
    Table.Ascending sitemapDocument.entries ∧
      renameKeys .qualified sitemapDocument = .ok qualifiedSitemap ∧
      sitemapDocument.RenamedTo .qualified qualifiedSitemap := by
  have hascending : Table.Ascending sitemapDocument.entries := by
    unfold Table.Ascending
    decide
  have hrenamed : renameKeys .qualified sitemapDocument = .ok qualifiedSitemap := by decide +kernel
  obtain ⟨-, -, -, -, hkept⟩ := renameKeys_lossless .qualified hascending
  exact ⟨hascending, hrenamed, hkept _ hrenamed⟩

end NetworkIntent
