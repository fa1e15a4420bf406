import NetworkIntent.Proofs.Conversation
import NetworkIntent.Proofs.PublishedIntent

/-!
# Publications and the form of keys

An intent reaches a publication under plain keys, as it is stored, under qualified keys, as it is
exchanged, or under some of both. What is published is the same: a file is told by the value of its
collection, under whichever key it stands, and a collection that is in neither place has no file.
Whatever else a document carries does not show in a file, and so it does not decide either whether a
file differs from the one on the branch.

So two publications of the same collections hold the same conversation with version control and
come to the same result, from whatever state of version control on.

## Main definitions

* `Json.collection?`: the value of a collection, under either key.

## Main results

* `Publication.renderCollection_eq`: the file of a collection is told by its value.
* `Publisher.publish_congr`: publications of the same collections are the same.
* `Publisher.publish_regardless_of_keys`: publications do not depend on the form of keys.
-/

set_option autoImplicit false

namespace NetworkIntent

open Publication Repository

variable {σ : Type} {form : KeyForm} {document renamed : Json}

/-! ## Collections of documents -/

/-- The value of a collection in a document, under whichever key it stands. -/
def Json.collection? (c : Collection) (document : Json) : Option Json :=
  (document.lookup? (c.key .qualified)).or (document.lookup? (c.key .plain))

/-- A renamed document is free of clashes. -/
theorem Json.clashFree_of_renameKeys (h : renameKeys form document = .ok renamed) :
    renamed.ClashFree := by
  have hfree : document.ClashFree := (renameKeys_eq_ok_iff form document).mp ⟨renamed, h⟩
  rw [← renameKeys_eq_ok_iff form, renameKeys_renameKeys h]
  exact (renameKeys_eq_ok_iff form document).mpr hfree

/-- Renaming keeps the value of each collection. -/
theorem Json.collection?_of_renameKeys (h : renameKeys form document = .ok renamed)
    (c : Collection) : renamed.collection? c = document.collection? c := by
  have hfree : document.ClashFree := (renameKeys_eq_ok_iff form document).mp ⟨renamed, h⟩
  obtain ⟨qualified, hqualified⟩ := (renameKeys_eq_ok_iff .qualified document).mpr hfree
  have htwice : renameKeys .qualified renamed = .ok qualified := by
    rw [renameKeys_renameKeys h, hqualified]
  exact (get?_key_of_renameKeys htwice c).symm.trans (get?_key_of_renameKeys hqualified c)

/-! ## Files of collections -/

namespace Publication

/-- **The file of a collection is told by the value of the collection.** Without clashes the only
reason not to have a file is that the collection is missing. -/
theorem renderCollection_eq (hfree : document.ClashFree) (c : Collection) :
    renderCollection c document =
      match document.collection? c with
      | none => .error s!"missing {c.key .qualified}"
      | some value => .ok (fileOf c value) := by
  obtain ⟨qualified, hqualified⟩ := (renameKeys_eq_ok_iff .qualified document).mpr hfree
  have hvalue : qualified.get? (c.key .qualified) = document.collection? c :=
    get?_key_of_renameKeys hqualified c
  rw [renderCollection, hqualified]
  simp only [hvalue]
  rfl

/-- Documents with the same value of a collection have the same file of it. -/
theorem renderCollection_congr {other : Json} (hfree : document.ClashFree)
    (hother : other.ClashFree) {c : Collection}
    (h : other.collection? c = document.collection? c) :
    renderCollection c other = renderCollection c document := by
  rw [renderCollection_eq hother, renderCollection_eq hfree, h]

/-- **Renaming does not change the file of a collection**, or why there is none. -/
theorem renderCollection_of_renameKeys (h : renameKeys form document = .ok renamed)
    (c : Collection) : renderCollection c renamed = renderCollection c document := by
  have hfree : document.ClashFree := (renameKeys_eq_ok_iff form document).mp ⟨renamed, h⟩
  exact renderCollection_congr hfree (Json.clashFree_of_renameKeys h)
    (Json.collection?_of_renameKeys h c)

end Publication

/-! ## Publications -/

namespace Publisher

variable (publisher : Publisher) (control : VersionControl σ) (seconds : Int)
  {sites vpns sites' vpns' : Json}

/-- Publications with the same files are the same. -/
theorem publish_eq_of_files (h : publisher.files sites' vpns' = publisher.files sites vpns) :
    publisher.publish control seconds sites' vpns' =
      publisher.publish control seconds sites vpns := by
  unfold publish run
  rw [h]

/-- **Publications of the same collections are the same**, whatever else the documents carry: they
make the same calls from any state of version control on, and have the same result. -/
theorem publish_congr (hsites : renderCollection .sites sites' = renderCollection .sites sites)
    (hvpns : renderCollection .vpns vpns' = renderCollection .vpns vpns) :
    publisher.publish control seconds sites' vpns' =
        publisher.publish control seconds sites vpns ∧
      publisher.transcript control seconds sites' vpns' =
        publisher.transcript control seconds sites vpns := by
  have hfiles : publisher.files sites' vpns' = publisher.files sites vpns := by
    rw [files_eq, files_eq, hsites, hvpns]
  refine ⟨publisher.publish_eq_of_files control seconds hfiles, ?_⟩
  funext s
  rw [transcript, transcript, publisher.publish_eq_of_files control.transcribed seconds hfiles]

/-- **Publications do not depend on the form of keys.** A document without clashes has both forms,
and they have the files that the document has, which are told by the values of the collections, or
are missing with them. Publications of documents that agree in the published collections are the
same in their calls and their results, and so are those of the two forms of any documents. -/
theorem publish_regardless_of_keys :
    (∀ document : Json, document.ClashFree → ∀ c : Collection,
      (renderCollection c document =
        match document.collection? c with
        | none => .error s!"missing {c.key .qualified}"
        | some value => .ok (fileOf c value)) ∧
      ∀ form, ∃ renamed, renameKeys form document = .ok renamed ∧
        renderCollection c renamed = renderCollection c document) ∧
    (∀ sites vpns sites' vpns' : Json,
      sites.ClashFree → vpns.ClashFree → sites'.ClashFree → vpns'.ClashFree →
      sites'.collection? .sites = sites.collection? .sites →
      vpns'.collection? .vpns = vpns.collection? .vpns →
      publisher.publish control seconds sites' vpns' =
          publisher.publish control seconds sites vpns ∧
        publisher.transcript control seconds sites' vpns' =
          publisher.transcript control seconds sites vpns) ∧
    ∀ (sites vpns sites' vpns' : Json) (form form' : KeyForm),
      renameKeys form sites = .ok sites' → renameKeys form' vpns = .ok vpns' →
      publisher.publish control seconds sites' vpns' =
          publisher.publish control seconds sites vpns ∧
        publisher.transcript control seconds sites' vpns' =
          publisher.transcript control seconds sites vpns := by
  refine ⟨?_, ?_, ?_⟩
  · intro document hfree c
    refine ⟨renderCollection_eq hfree c, fun form => ?_⟩
    obtain ⟨renamed, hrenamed⟩ := (renameKeys_eq_ok_iff form document).mpr hfree
    exact ⟨renamed, hrenamed, renderCollection_of_renameKeys hrenamed c⟩
  · intro sites vpns sites' vpns' hsites hvpns hsites' hvpns' hsameSites hsameVpns
    exact publisher.publish_congr control seconds
      (renderCollection_congr hsites hsites' hsameSites)
      (renderCollection_congr hvpns hvpns' hsameVpns)
  · intro sites vpns sites' vpns' form form' hsites hvpns
    exact publisher.publish_congr control seconds (renderCollection_of_renameKeys hsites .sites)
      (renderCollection_of_renameKeys hvpns .vpns)

/-- A document with the sites under their plain key, the VPNs under their qualified key and a note,
and its two forms. -/
theorem publish_regardless_of_keys_mixed :
    let mixed : Json := .obj [("note", .null), ("sites", .arr []), ("vpn-service:vpns", .arr [])]
    let plain : Json := .obj [("note", .null), ("sites", .arr []), ("vpns", .arr [])]
    let qualified : Json :=
      .obj [("note", .null), ("site-service:sites", .arr []), ("vpn-service:vpns", .arr [])]
    let publisher : Publisher := .new .default
    let control : VersionControl Repository := Repository.control .none
    mixed.ClashFree ∧ renameKeys .plain mixed = .ok plain ∧
      renameKeys .qualified mixed = .ok qualified ∧
      renderCollection .sites mixed = .ok (fileOf .sites (.arr [])) ∧
      publisher.publish control 0 plain plain = publisher.publish control 0 qualified qualified ∧
      publisher.transcript control 0 plain plain =
        publisher.transcript control 0 qualified qualified := by
  intro mixed plain qualified publisher control
  have hplain : renameKeys .plain mixed = .ok plain := by decide
  have hqualified : renameKeys .qualified mixed = .ok qualified := by decide
  have hfree : mixed.ClashFree := (renameKeys_eq_ok_iff .plain mixed).mp ⟨plain, hplain⟩
  obtain ⟨hrender, -, hforms⟩ := publisher.publish_regardless_of_keys control 0
  obtain ⟨hpublishPlain, htranscriptPlain⟩ := hforms _ _ _ _ _ _ hplain hplain
  obtain ⟨hpublish, htranscript⟩ := hforms _ _ _ _ _ _ hqualified hqualified
  exact ⟨hfree, hplain, hqualified, (hrender mixed hfree .sites).1,
    hpublishPlain.trans hpublish.symm, htranscriptPlain.trans htranscript.symm⟩

end Publisher

end NetworkIntent
