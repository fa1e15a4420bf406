import Mathlib.Control.Monad.Basic
import NetworkIntent.Proofs.Decoder
import NetworkIntent.Proofs.Document
import NetworkIntent.Proofs.Recording

/-!
# What is published of a validated intent

The gate before a publication looks at the merged document of an intent, in which the entries of
the VPN document win; the files are rendered from the two documents as they were read. This file
says when the two agree: the sites that are committed are those that have passed the gate exactly
if the VPN document carries no sites of its own or the same ones, and the VPNs exactly if the VPN
document carries them under their qualified key or the site document carries the same ones there.

## Main definitions

* `Publication.published?`: the collection that a publication takes from a document.
* `Publication.Unshadowed`: the published collection is not shadowed in the merged document.
* `Publication.shadowedSites`: files in which the VPN document shadows the sites.

## Main results

* `Publication.commits_merged_iff`: nothing is requested before the gate is passed, and what is
  committed afterwards is what has passed exactly if it is not shadowed.
* `Publication.commits_shadowed_sites`: sites that have not passed the gate are committed.
-/

set_option autoImplicit false

namespace NetworkIntent

open Publication Repository

variable {σ : Type}

/-! ## Rendered collections -/

namespace Publication

/-- The collection that a publication takes from a document, under either of its keys. -/
def published? (c : Collection) (document : Json) : Option Json :=
  match renameKeys .qualified document with
  | .ok qualified => qualified.get? (c.key .qualified)
  | .error _ => none

/-- The file of a published collection: an object that holds nothing else. -/
def fileOf (c : Collection) (value : Json) : String :=
  render (.obj [(c.key .qualified, value)])

/-- A collection has a file exactly if it can be published. -/
theorem renderCollection_eq_ok_iff (c : Collection) (document : Json) (text : String) :
    renderCollection c document = .ok text ↔
      ∃ value, published? c document = some value ∧ text = fileOf c value := by
  unfold renderCollection published? fileOf
  rcases renameKeys .qualified document with clash | qualified
  · simp
  · dsimp only
    rcases qualified.get? (c.key .qualified) with _ | value
    · simp
    · simp [eq_comm]

/-- A published collection stands under one of its two keys, of which the document lacks the other
one. -/
theorem entries_of_published? {c : Collection} {document value : Json}
    (h : published? c document = some value) :
    document.lookup? (c.key .qualified) = some value ∧ document.lookup? (c.key .plain) = none ∨
      document.lookup? (c.key .qualified) = none ∧
        document.lookup? (c.key .plain) = some value := by
  unfold published? at h
  split at h
  · next qualified hrename =>
    have hfree := (renameKeys_eq_ok_iff .qualified document).mp ⟨qualified, hrename⟩
    rw [get?_key_of_renameKeys hrename] at h
    rcases hfree c with hnone | hnone
    · rw [hnone, Option.none_or] at h
      exact .inr ⟨hnone, h⟩
    · rw [KeyForm.other, hnone, Option.or_none] at h
      exact .inl ⟨h, hnone⟩
  · simp at h

/-! ## The published and the merged document -/

/-- The document of a collection, of the site document and the VPN document. -/
def documentOf (c : Collection) (sites vpns : Json) : Json :=
  match c with
  | .sites => sites
  | .vpns => vpns

/-- The collection that is published is not shadowed by another one in the merged document. -/
def Unshadowed (sites vpns : Json) : Collection → Prop
  | .sites =>
    vpns.lookup? (Collection.sites.key .qualified) = none ∨
      vpns.lookup? (Collection.sites.key .qualified) = published? .sites sites
  | .vpns =>
    vpns.lookup? (Collection.vpns.key .qualified) ≠ none ∨
      sites.lookup? (Collection.vpns.key .qualified) = published? .vpns vpns

/-- **What the gate sees of a published collection**: in a merged document that carries the
collection, it is the published one exactly if that is not shadowed.

**Proof sketch.** The merged document has the entry of the VPN document if there is one, and else
that of the site document. For the sites, an entry of the VPN document has to be the published
collection, and without one the entry of the site document is it, because it is there and stands
under its qualified key. For the VPNs, an entry of the VPN document is the published collection,
and without one the entry of the site document has to be. -/
theorem get?_merged_eq_iff_unshadowed {sites vpns value : Json} {c : Collection}
    (hmerged : (mergeDocuments sites vpns).get? (c.key .qualified) ≠ none)
    (h : published? c (documentOf c sites vpns) = some value) :
    (mergeDocuments sites vpns).get? (c.key .qualified) = some value ↔
      Unshadowed sites vpns c := by
  rw [get?_mergeDocuments] at hmerged ⊢
  have hentries := entries_of_published? h
  cases c with
  | sites =>
    simp only [documentOf] at h hentries
    rw [Unshadowed, h]
    cases hvpns : vpns.lookup? (Collection.sites.key .qualified) with
    | some shadow => simp
    | none =>
      rw [hvpns, Option.none_or] at hmerged
      rcases hentries with ⟨hsites, -⟩ | ⟨hsites, -⟩
      · simp [hsites]
      · exact absurd hsites hmerged
  | vpns =>
    simp only [documentOf] at h hentries
    rw [Unshadowed, h]
    rcases hentries with ⟨hvpns, -⟩ | ⟨hvpns, -⟩ <;> simp [hvpns]

end Publication

/-! ## The gate -/

/-- A document that passes the gate of intents carries both collections. -/
theorem SchemaDirectory.get?_ne_none_of_validate {schemas : SchemaDirectory} {tree : FileTree}
    {fields : Fields} (h : schemas.validate tree .services (.obj fields) = .ok ())
    (c : Collection) : (Json.obj fields).get? (c.key .qualified) ≠ none := by
  unfold validate at h
  rcases hschema : schemas.schema tree .services with fault | schema
  · rw [hschema] at h
    cases h
  · rw [hschema] at h
    change judge .services schema (.obj fields) = .ok () at h
    unfold judge at h
    split at h
    · change checkIntent (.obj fields) = .ok () at h
      unfold checkIntent at h
      split at h
      · simp at h
      · next intent hintent =>
        obtain ⟨value, hvalue⟩ := Intent.exists_get?_of_ofDocument hintent c
        simp [Json.get?, hvalue]
    · simp at h

/-- The path of the file of a collection. -/
def Publisher.pathOf (publisher : Publisher) : Collection → String
  | .sites => publisher.sitePath
  | .vpns => publisher.vpnPath

/-- Every file of a publication is that of a published collection. -/
theorem Publisher.exists_published_of_files {publisher : Publisher} {sites vpns : Json}
    {files : List File} (h : publisher.files sites vpns = .ok files) {file : File}
    (hfile : file ∈ files) :
    ∃ c value, published? c (documentOf c sites vpns) = some value ∧
      file.path = publisher.pathOf c ∧ file.content = Publication.fileOf c value := by
  unfold Publisher.files at h
  rcases hsites : renderCollection .sites sites with _ | siteText
  · simp [hsites, Except.mapError, bind, Except.bind] at h
  rcases hvpns : renderCollection .vpns vpns with _ | vpnText
  · simp [hsites, hvpns, Except.mapError, bind, Except.bind] at h
  simp only [hsites, hvpns, Except.mapError, bind, Except.bind, pure, Except.pure,
    Except.ok.injEq] at h
  subst h
  rcases List.mem_cons.mp hfile with rfl | hfile
  · obtain ⟨value, hvalue, rfl⟩ := (renderCollection_eq_ok_iff _ _ _).mp hsites
    exact ⟨.sites, value, hvalue, rfl, rfl⟩
  · obtain rfl := List.mem_singleton.mp hfile
    obtain ⟨value, hvalue, rfl⟩ := (renderCollection_eq_ok_iff _ _ _).mp hvpns
    exact ⟨.vpns, value, hvalue, rfl, rfl⟩

namespace Publication

/-- **What a publication commits of an intent.** Unless the intent has been read and its merged
document has passed the gate, version control is not asked at all. After that every commit is the
file of a published collection, which is the one that has passed the gate exactly if it is not
shadowed in the merged document.

**Proof sketch.** The publication reads the documents, passes the gate and then publishes, which
only commits the files of published collections (`Publisher.appends_publish`). A document that has
passed the gate carries both collections, so `get?_merged_eq_iff_unshadowed` applies. -/
theorem commits_merged_iff (compiler : Compiler) (source : IntentSource σ) (publisher : Publisher)
    (control : VersionControl σ) (seconds : Int) (tree : FileTree) (state : σ) :
    let requests := compiler.publishRequests source publisher control seconds tree state
    match (source.documents tree).perform state with
    | (.error _, _) => requests = []
    | (.ok (sites, vpns), _) =>
      let merged := mergeDocuments sites vpns
      match compiler.schemas.validate tree .services merged with
      | .error _ => requests = []
      | .ok () =>
        ∀ commit, .saveFile commit ∈ requests →
          ∃ c value, commit.path = publisher.pathOf c ∧
            published? c (documentOf c sites vpns) = some value ∧
            commit.content = fileOf c value ∧
            (merged.get? (c.key .qualified) = some value ↔ Unshadowed sites vpns c) := by
  unfold Compiler.publishRequests Compiler.publishRecorded Compiler.publish
  simp only [Action.perform_bind, Compiler.asking, Action.perform_step,
    source.beside_documents, Action.perform_beside, Compiler.gate, Compiler.onFiles]
  rcases (source.documents tree).perform state with ⟨fault | ⟨sites, vpns⟩, s⟩
  · rfl
  · dsimp only [Except.mapError]
    rcases hgate : compiler.schemas.validate tree .services (mergeDocuments sites vpns) with
      fault | _
    · rfl
    · intro commit hcommit
      obtain ⟨new, hnew, hcommits⟩ :=
        publisher.appends_publish control seconds sites vpns (([] : List Request), s)
      dsimp only at hcommit
      rw [hnew, List.nil_append] at hcommit
      obtain ⟨files, hfiles, file, hfile, hpath, hcontent⟩ := hcommits _ hcommit commit rfl
      obtain ⟨c, value, hvalue, hfilePath, hfileContent⟩ :=
        Publisher.exists_published_of_files hfiles hfile
      refine ⟨c, value, hpath.trans hfilePath, hvalue, hcontent.trans hfileContent, ?_⟩
      exact get?_merged_eq_iff_unshadowed (compiler.schemas.get?_ne_none_of_validate hgate c) hvalue

/-- Files with an intent whose VPN document carries sites of its own, and none of the site
document's. Any document obeys the schema. -/
def shadowedSites : FileTree where
  entries := [(["schemas"], .directory),
    (["schemas", "services.schema.json"], .file (Utf8.ofString "true")),
    (["sites.json"], .file (Utf8.ofString "\x7b\"sites\":[0]\x7d")),
    (["vpns.json"],
      .file (Utf8.ofString "\x7b\"site-service:sites\":[],\"vpn-service:vpns\":[]\x7d"))]
  working := []

/-- **Sites that have not passed the gate are committed** where the VPN document shadows them: the
merged document of these files passes the gate with no site at all, and the file of sites is
committed with one that is no site. -/
theorem commits_shadowed_sites :
    let compiler : Compiler := ⟨.new "schemas", ⟨""⟩⟩
    let source : IntentSource Repository := .files "sites.json" "vpns.json"
    let publisher : Publisher := .new .default
    let repository : Repository := ⟨[], 0, []⟩
    ∃ sites vpns commit,
      (source.documents shadowedSites).perform repository = (.ok (sites, vpns), repository) ∧
      compiler.schemas.validate shadowedSites .services (mergeDocuments sites vpns) = .ok () ∧
      .saveFile commit ∈ compiler.publishRequests source publisher (control .none) 0
        shadowedSites repository ∧
      commit.path = publisher.sitePath ∧
      (mergeDocuments sites vpns).get? (Collection.sites.key .qualified) = some (.arr []) ∧
      commit.content ≠ fileOf .sites (.arr []) := by
  have hsites : IntentSource.readFile "sites.json" shadowedSites =
      .ok (.obj [("sites", .arr [.int 0])]) := by decide +kernel
  have hvpns : IntentSource.readFile "vpns.json" shadowedSites =
      .ok (.obj [("site-service:sites", .arr []), ("vpn-service:vpns", .arr [])]) := by
    decide +kernel
  refine ⟨.obj [("sites", .arr [.int 0])],
    .obj [("site-service:sites", .arr []), ("vpn-service:vpns", .arr [])],
    ⟨"services_197001010000", "services/sites.json", fileOf .sites (.arr [.int 0]),
      "site service update by service-api", "service-api", "service-api@localhost", .create⟩,
    ?_, ?_, ?_, ?_, ?_, ?_⟩
  · simp only [IntentSource.documents, IntentSource.files, hsites, hvpns, Action.ofExcept_ok_bind]
    rfl
  · decide +kernel
  · decide +kernel
  · decide +kernel
  · decide +kernel
  · decide +kernel

end Publication

end NetworkIntent
