import NetworkIntent.Proofs.Action
import NetworkIntent.Proofs.Document
import NetworkIntent.Proofs.Json.Parsed
import NetworkIntent.ServiceDatabase

/-!
# Files and the service database as sources

Both sources are asked for the same two documents, and both may have them under either form of keys.
The service database renames the keys of what it gets, while files give what they hold. So the
database never gives a plain key, and files with the same texts can take its place exactly if they
have no plain key either.

## Main definitions

* `IntentSource.document`: the document of a collection at a source.
* `ServiceDatabase.requestFor`: the request for it at the service database.
* `ServiceDatabase.Serves`: what the database has to answer to serve given texts.
* `Json.Lacks`: no collection stands under its key of a form.

## Main results

* `renameKeys_eq_self_iff`: documents that are kept by renaming.
* `mergeDocuments_renamed_eq_iff`: merged documents that are kept by renaming their parts.
* `IntentSource.documents_agree_iff`: when files and the service database agree.
* `IntentSource.plain_sites_disagree`: files with a plain key, on which they do not.
-/

set_option autoImplicit false

namespace NetworkIntent

/-! ## Documents without keys of a form -/

section Lacking

variable {form : KeyForm} {document renamed : Json}

/-- No collection stands under its key of the form. -/
def Json.Lacks (form : KeyForm) (document : Json) : Prop :=
  ∀ c : Collection, document.get? (c.key form) = none

/-- A renamed document has ascending keys if the document has. -/
theorem ascending_renameKeys (h : renameKeys form document = .ok renamed)
    (hascending : Table.Ascending document.entries) : Table.Ascending renamed.entries := by
  cases document with
  | obj fields =>
    obtain ⟨-, rfl⟩ := renameKeys_obj_eq_ok_iff.mp h
    exact Table.ascending_ofEntries _
  | _ => cases h; exact hascending

/-- A renamed document lacks the keys of the other form. -/
theorem lacks_of_renameKeys (h : renameKeys form document = .ok renamed) :
    renamed.Lacks form.other :=
  get?_other_of_renameKeys h

/-- A document with ascending keys is its own renamed form exactly if it lacks the keys of the other
form. -/
theorem renameKeys_eq_self_iff (hascending : Table.Ascending document.entries) :
    renameKeys form document = .ok document ↔ document.Lacks form.other :=
  ⟨lacks_of_renameKeys, renameKeys_of_absent hascending⟩

/-- A merged document lacks the keys of a form exactly if both of its parts do. -/
theorem lacks_mergeDocuments_iff {sites vpns : Json} (hsites : Table.Ascending sites.entries)
    (hvpns : Table.Ascending vpns.entries) :
    (mergeDocuments sites vpns).Lacks form ↔ sites.Lacks form ∧ vpns.Lacks form := by
  unfold Json.Lacks
  simp only [get?_mergeDocuments, Json.lookup?_of_ascending hsites,
    Json.lookup?_of_ascending hvpns, Option.or_eq_none_iff]
  exact ⟨fun h => ⟨fun c => (h c).2, fun c => (h c).1⟩, fun h c => ⟨h.2 c, h.1 c⟩⟩

/-- Two documents with ascending keys can be renamed before they are merged, with the same result,
exactly if they lack the keys of the other form. -/
theorem mergeDocuments_renamed_eq_iff {sites vpns sites' vpns' : Json}
    (hsites : Table.Ascending sites.entries) (hvpns : Table.Ascending vpns.entries)
    (hsites' : renameKeys form sites = .ok sites') (hvpns' : renameKeys form vpns = .ok vpns') :
    mergeDocuments sites vpns = mergeDocuments sites' vpns' ↔
      sites.Lacks form.other ∧ vpns.Lacks form.other := by
  constructor
  · intro h
    rw [← lacks_mergeDocuments_iff hsites hvpns, h,
      lacks_mergeDocuments_iff (ascending_renameKeys hsites' hsites)
        (ascending_renameKeys hvpns' hvpns)]
    exact ⟨lacks_of_renameKeys hsites', lacks_of_renameKeys hvpns'⟩
  · rintro ⟨hlacks, hlacks'⟩
    rw [(renameKeys_eq_self_iff hsites).mpr hlacks] at hsites'
    rw [(renameKeys_eq_self_iff hvpns).mpr hlacks'] at hvpns'
    obtain rfl := Except.ok.inj hsites'
    obtain rfl := Except.ok.inj hvpns'
    rfl

end Lacking

/-! ## Documents from both sources -/

namespace Json

/-- Reading a document of any form is reading a document. -/
theorem parse_document (text : Bytes) : Decoder.document.parse text = parse text := by
  unfold Decoder.parse parse
  refine congrArg (readAll · text) (funext fun text => ?_)
  have hscan : Decoder.document.scan maxDepth text = readValue maxDepth text := rfl
  simp only [hscan]
  rcases readValue maxDepth text with stop | ⟨document, rest⟩
  · rfl
  · rfl

/-- The keys of a document that is read ascend. -/
theorem ascending_of_parse {text : Bytes} {document : Json} (h : parse text = .ok document) :
    Table.Ascending document.entries := by
  have hsorted := (sortedWithin_of_parse h).sorted
  cases document with
  | obj fields => exact hsorted.1
  | _ => exact Table.ascending_nil

end Json

namespace IntentSource

variable {σ : Type}

/-- The document of a collection at a source. -/
def document (source : IntentSource σ) (tree : FileTree) : Collection → Action σ Fault Json
  | .sites => source.siteDocument tree
  | .vpns => source.vpnDocument tree

/-- The merged document of a source is the one of the documents that it gives one after the other.
-/
theorem perform_serviceDocument {source : IntentSource σ} {tree : FileTree} {sites vpns : Json}
    {state middle last : σ}
    (hsites : (source.document tree .sites).perform state = (.ok sites, middle))
    (hvpns : (source.document tree .vpns).perform middle = (.ok vpns, last)) :
    (source.serviceDocument tree).perform state = (.ok (mergeDocuments sites vpns), last) := by
  have hdocuments : (source.documents tree).perform state = (.ok (sites, vpns), last) := by
    change (source.document tree .sites >>= fun sites => source.document tree .vpns >>= fun vpns =>
      pure (sites, vpns)).perform state = _
    rw [Action.perform_bind_ok hsites, Action.perform_bind_ok hvpns]
    rfl
  rw [serviceDocument, Action.perform_bind_ok hdocuments]
  rfl

end IntentSource

namespace ServiceDatabase

variable {σ : Type} {database : ServiceDatabase} {network : Http.Network σ}
  {texts : Collection → Bytes}

/-- The request for the document of a collection. -/
def requestFor (database : ServiceDatabase) (c : Collection) : Except Http.Fault Http.Request :=
  Http.request .get (database.resourceAddress (c.key .qualified)) none
    [("accept", "application/yang-data+json")] none

/-- Each collection can be asked for, and whatever was asked before, the answer is a success with
the text of the collection. -/
def Serves (database : ServiceDatabase) (network : Http.Network σ) (texts : Collection → Bytes) :
    Prop :=
  ∀ c, ∃ request, database.requestFor c = .ok request ∧
    ∀ state, ∃ reply last, (network.send request).perform state = (.ok reply, last) ∧
      reply.isSuccess = true ∧ reply.body = texts c

/-- The documents of the database are the renamed forms of those that it is served. -/
theorem perform_document (hserves : database.Serves network texts) {c : Collection}
    {document renamed : Json} (hparse : Json.parse (texts c) = .ok document)
    (hrenamed : renameKeys .qualified document = .ok renamed) (tree : FileTree) (state : σ) :
    ∃ last, ((database.source network).document tree c).perform state = (.ok renamed, last) := by
  obtain ⟨request, hrequest, hsend⟩ := hserves c
  obtain ⟨reply, last, hreply, hsuccess, hbody⟩ := hsend state
  refine ⟨last, ?_⟩
  have hfetch : (database.source network).document tree c =
      database.fetch network (c.key .qualified) := by
    cases c <;> rfl
  have hask : ∀ tell : Http.Fault → IntentSource.Fault,
      ((network.ask (database.requestFor c)).mapFailure tell).perform state = (.ok reply, last) := by
    intro tell
    have hsent : (network.ask (.ok request)).perform state = (.ok reply, last) := hreply
    rw [hrequest, Action.perform_mapFailure, hsent]
    rfl
  have hdecode : reply.decode .document = .ok document := by
    rw [Http.Reply.decode, hbody, Json.parse_document, hparse]
    rfl
  unfold requestFor at hask
  rw [hfetch, fetch, Action.perform_bind_ok (hask _), hsuccess, hdecode]
  change ((renameKeys .qualified document).mapError (IntentSource.Fault.clash _), last) = _
  rw [hrenamed]
  rfl

end ServiceDatabase

namespace IntentSource

variable {σ : Type} {tree : FileTree} {texts : Collection → Bytes}

/-- The documents of files are those that they hold. -/
theorem perform_document_files {paths : Collection → String} {c : Collection} {document : Json}
    (htext : tree.readText (paths c) = .ok (texts c)) (hparse : Json.parse (texts c) = .ok document)
    (state : σ) :
    ((files (paths .sites) (paths .vpns)).document tree c).perform state =
      (.ok document, state) := by
  have hread : readFile (paths c) tree = .ok document := by
    rw [readFile, htext]
    dsimp only
    rw [hparse]
    rfl
  cases c
  · exact congrArg (·, state) hread
  · exact congrArg (·, state) hread

/-- **When files and the service database agree.** Let both hold the same texts, of documents that
are free of clashes. The database gives the renamed forms of the documents, which have no plain key,
and merges those. Files give the documents as they are and merge those. So they agree on a document
exactly if it has no plain key, and on the merged one exactly if neither document has one.

**Proof sketch.** A renamed document has no plain key, and renaming keeps a document without plain
keys. A merged document has the keys of both its parts. -/
theorem documents_agree_iff {database : ServiceDatabase} {network : Http.Network σ}
    {paths : Collection → String} {documents : Collection → Json}
    (hfiles : ∀ c, tree.readText (paths c) = .ok (texts c))
    (hserves : database.Serves network texts)
    (hparse : ∀ c, Json.parse (texts c) = .ok (documents c))
    (hfree : ∀ c, (documents c).ClashFree) (state : σ) :
    let stored : IntentSource σ := files (paths .sites) (paths .vpns)
    let served := database.source network
    ∃ renamed : Collection → Json,
      (∀ c, renameKeys .qualified (documents c) = .ok (renamed c) ∧ (renamed c).Lacks .plain) ∧
      (mergeDocuments (renamed .sites) (renamed .vpns)).Lacks .plain ∧
      (∀ c, ((served.document tree c).perform state).1 = .ok (renamed c) ∧
        ((stored.document tree c).perform state).1 = .ok (documents c)) ∧
      ((served.serviceDocument tree).perform state).1 =
        .ok (mergeDocuments (renamed .sites) (renamed .vpns)) ∧
      ((stored.serviceDocument tree).perform state).1 =
        .ok (mergeDocuments (documents .sites) (documents .vpns)) ∧
      (∀ c, documents c = renamed c ↔ (documents c).Lacks .plain) ∧
      (mergeDocuments (documents .sites) (documents .vpns) =
          mergeDocuments (renamed .sites) (renamed .vpns) ↔ ∀ c, (documents c).Lacks .plain) := by
  choose renamed hrenamed using fun c => (renameKeys_eq_ok_iff .qualified (documents c)).mpr (hfree c)
  have hascending := fun c => Json.ascending_of_parse (hparse c)
  have hlacks : ∀ c, (renamed c).Lacks .plain := fun c => lacks_of_renameKeys (hrenamed c)
  have hserved := fun c => database.perform_document hserves (hparse c) (hrenamed c) tree
  have hstored := fun c => perform_document_files (σ := σ) (hfiles c) (hparse c)
  refine ⟨renamed, fun c => ⟨hrenamed c, hlacks c⟩, ?_, fun c => ⟨?_, ?_⟩, ?_, ?_, fun c => ?_, ?_⟩
  · rw [lacks_mergeDocuments_iff (ascending_renameKeys (hrenamed .sites) (hascending .sites))
      (ascending_renameKeys (hrenamed .vpns) (hascending .vpns))]
    exact ⟨hlacks .sites, hlacks .vpns⟩
  · obtain ⟨last, hlast⟩ := hserved c state
    rw [hlast]
  · rw [hstored c state]
  · obtain ⟨middle, hmiddle⟩ := hserved .sites state
    obtain ⟨last, hlast⟩ := hserved .vpns middle
    rw [perform_serviceDocument hmiddle hlast]
  · rw [perform_serviceDocument (hstored .sites state) (hstored .vpns state)]
  · change _ ↔ (documents c).Lacks KeyForm.qualified.other
    rw [← renameKeys_eq_self_iff (hascending c), hrenamed c, Except.ok.injEq, eq_comm]
  · rw [mergeDocuments_renamed_eq_iff (hascending .sites) (hascending .vpns) (hrenamed .sites)
      (hrenamed .vpns)]
    refine ⟨fun ⟨hsites, hvpns⟩ c => ?_, fun h => ⟨h .sites, h .vpns⟩⟩
    cases c
    · exact hsites
    · exact hvpns

/-! ### Sites under the plain key -/

/-- Documents whose sites are under the plain key, and whose VPNs are under the qualified one. -/
def mixedDocuments : Collection → Json
  | .sites => .obj [("sites", .arr [])]
  | .vpns => .obj [("vpn-service:vpns", .arr [])]

/-- The texts of these documents. -/
def mixedTexts : Collection → Bytes
  | .sites => Utf8.ofString "\x7b\"sites\": []\x7d"
  | .vpns => Utf8.ofString "\x7b\"vpn-service:vpns\": []\x7d"

/-- The paths of two files. -/
def mixedPaths : Collection → String
  | .sites => "services/sites.json"
  | .vpns => "services/vpns.json"

/-- The files with these texts. -/
def mixedFiles : FileTree where
  entries := [(["services"], .directory),
    (["services", "sites.json"], .file (mixedTexts .sites)),
    (["services", "vpns.json"], .file (mixedTexts .vpns))]
  working := []

/-- A service database. -/
def mixedDatabase : ServiceDatabase :=
  ⟨⟨"http://[::1]", 30⟩⟩

/-- A network in which everybody answers a request for sites with the text of the sites, and any
other request with the text of the VPNs. -/
def mixedNetwork : Http.Network Unit where
  send request :=
    let isForSites := request.url.path = "/restconf/data/site-service:sites"
    .ofExcept (.ok ⟨200, mixedTexts (if isForSites then .sites else .vpns)⟩)
  patience _ := 0

/-- Each of the files holds its text. -/
theorem readText_mixedFiles (c : Collection) :
    mixedFiles.readText (mixedPaths c) = .ok (mixedTexts c) := by
  cases c <;> decide +kernel

/-- The service database is served the same texts. -/
theorem serves_mixedTexts : mixedDatabase.Serves mixedNetwork mixedTexts := by
  intro c
  let host : Host := .v6 ⟨[0, 0, 0, 0, 0, 0, 0, 1], rfl⟩
  let url : Url := ⟨"http", some ⟨.none, some host, none⟩, "/restconf/data/" ++ c.key .qualified,
    none, none⟩
  refine ⟨⟨.get, url, [("accept", "application/yang-data+json")], none⟩, ?_,
    fun state => ⟨⟨200, mixedTexts c⟩, state, ?_, rfl, rfl⟩⟩
  · cases c <;> decide +kernel
  · cases c <;> rfl

/-- The texts are those of the documents. -/
theorem parse_mixedTexts (c : Collection) : Json.parse (mixedTexts c) = .ok (mixedDocuments c) := by
  cases c <;> decide +kernel

/-- No document has both keys of a collection. -/
theorem clashFree_mixedDocuments (c : Collection) : (mixedDocuments c).ClashFree := by
  intro k
  cases c <;> cases k <;> decide

/-- Of these documents the VPNs agree, and the sites do not. -/
theorem documents_agree_mixed :
    let stored : IntentSource Unit := files (mixedPaths .sites) (mixedPaths .vpns)
    let served := mixedDatabase.source mixedNetwork
    (∀ c, mixedFiles.readText (mixedPaths c) = .ok (mixedTexts c)) ∧
      mixedDatabase.Serves mixedNetwork mixedTexts ∧
      (∀ c, Json.parse (mixedTexts c) = .ok (mixedDocuments c)) ∧
      (∀ c, (mixedDocuments c).ClashFree) ∧
      ((stored.document mixedFiles .vpns).perform ()).1 =
        ((served.document mixedFiles .vpns).perform ()).1 ∧
      ((stored.document mixedFiles .sites).perform ()).1 ≠
        ((served.document mixedFiles .sites).perform ()).1 := by
  obtain ⟨renamed, -, -, hdocuments, -, -, hagree, -⟩ := documents_agree_iff readText_mixedFiles
    serves_mixedTexts parse_mixedTexts clashFree_mixedDocuments ()
  refine ⟨readText_mixedFiles, serves_mixedTexts, parse_mixedTexts, clashFree_mixedDocuments, ?_, ?_⟩
  · rw [(hdocuments .vpns).1, (hdocuments .vpns).2, Except.ok.injEq, hagree]
    intro c
    cases c <;> decide
  · rw [(hdocuments .sites).1, (hdocuments .sites).2, Ne, Except.ok.injEq, hagree]
    intro hlacks
    exact absurd (hlacks .sites) (by decide)

/-- **Files and the service database disagree** on sites that are stored under the plain key, though
no document has both keys of a collection: the files give the plain key, and the database gives the
qualified one. -/
theorem plain_sites_disagree :
    let stored : IntentSource Unit := files (mixedPaths .sites) (mixedPaths .vpns)
    let served := mixedDatabase.source mixedNetwork
    (∀ c, Json.parse (mixedTexts c) = .ok (mixedDocuments c) ∧ (mixedDocuments c).ClashFree) ∧
      (∀ c, mixedFiles.readText (mixedPaths c) = .ok (mixedTexts c)) ∧
      mixedDatabase.Serves mixedNetwork mixedTexts ∧
      (stored.document mixedFiles .sites).perform () = (.ok (.obj [("sites", .arr [])]), ()) ∧
      (served.document mixedFiles .sites).perform () =
        (.ok (.obj [("site-service:sites", .arr [])]), ()) := by
  have hrenamed : renameKeys .qualified (mixedDocuments .sites) =
      .ok (.obj [("site-service:sites", .arr [])]) := by decide +kernel
  refine ⟨fun c => ⟨parse_mixedTexts c, clashFree_mixedDocuments c⟩, readText_mixedFiles,
    serves_mixedTexts, ?_, ?_⟩
  · exact perform_document_files (readText_mixedFiles .sites) (parse_mixedTexts .sites) ()
  · obtain ⟨last, hlast⟩ := mixedDatabase.perform_document serves_mixedTexts
      (parse_mixedTexts .sites) hrenamed mixedFiles ()
    exact hlast

end IntentSource

end NetworkIntent
