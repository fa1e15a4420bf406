import NetworkIntent.Compilation
import NetworkIntent.Proofs.Json.Parsed
import NetworkIntent.Proofs.PublishedIntent
import NetworkIntent.Proofs.Refinement
import NetworkIntent.Proofs.VariablesDocument

/-!
# What compilation stores

A run looks at files and asks questions, and only at its end it touches files, in one transaction
with the store. Whatever fails on the way there, or in the transaction, spares all artifacts. What
is stored is what has passed the gates.

## Main definitions

* `Compiler.KeepsFiles`, `Compiler.Cautious`: runs that touch no files, and runs that spare all
  artifacts if they fail.
* `Compiler.Loaded`: an intent that has passed the gate.
* `Compiler.ServicesStored`, `Compiler.VariablesStored`: what a successful run leaves behind.

## Main results

* `Compiler.cautious_compileServices`, `Compiler.cautious_compileVariables`: runs are cautious.
* `Compiler.ServicesStored.read_eq`: a stored service document is read back.
* `Compiler.stores_gated`: runs store what has passed the gates, or nothing.
-/

set_option autoImplicit false

namespace NetworkIntent.Compiler

open Compilation Store

variable {σ ε α β : Type} {compiler : Compiler} {source : IntentSource σ} {store : Store}
  {tree after : FileTree} {state last : σ} {fault : Compilation.Fault}

/-! ## Parts of runs -/

section Parts

variable {run : Run σ α} {next : α → Run σ β} {tell : ε → Compilation.Fault} {a : α}

/-- A result is told differently only if it is a failure. -/
theorem mapError_eq_ok_iff {δ : Type} (tell : ε → δ) {result : Except ε α} :
    result.mapError tell = .ok a ↔ result = .ok a := by
  cases result <;> simp [Except.mapError]

theorem perform_onFiles (tell : ε → Compilation.Fault) (look : FileTree → Except ε α) :
    (onFiles tell look : Run σ α).perform (tree, state) =
      ((look tree).mapError tell, tree, state) :=
  rfl

theorem perform_asking (tell : ε → Compilation.Fault) (question : FileTree → Action σ ε α) :
    (asking tell question).perform (tree, state) =
      (((question tree).perform state).1.mapError tell, tree, ((question tree).perform state).2) :=
  rfl

theorem perform_withFiles (tell : ε → Compilation.Fault) (action : Action FileTree ε α) :
    (withFiles tell action : Run σ α).perform (tree, state) =
      ((action.perform tree).1.mapError tell, (action.perform tree).2, state) :=
  rfl

/-- Looking at the files succeeds if they have an answer. -/
theorem perform_onFiles_eq_ok_iff {look : FileTree → Except ε α} :
    (onFiles tell look : Run σ α).perform (tree, state) = (.ok a, after, last) ↔
      look tree = .ok a ∧ after = tree ∧ last = state := by
  rw [perform_onFiles, Prod.mk.injEq, Prod.mk.injEq, mapError_eq_ok_iff, eq_comm (a := after),
    eq_comm (a := last)]

/-- Asking somebody succeeds if they answer, and leaves the files alone. -/
theorem perform_asking_eq_ok_iff {question : FileTree → Action σ ε α} :
    (asking tell question).perform (tree, state) = (.ok a, after, last) ↔
      (question tree).perform state = (.ok a, last) ∧ after = tree := by
  rw [perform_asking, Prod.mk.injEq, Prod.mk.injEq, mapError_eq_ok_iff]
  rcases (question tree).perform state with ⟨answer, last'⟩
  rw [Prod.mk.injEq, eq_comm (a := tree), and_comm (a := after = tree), and_assoc]

/-- Working on the files succeeds if the work does, and asks nobody. -/
theorem perform_withFiles_eq_ok_iff {action : Action FileTree ε α} :
    (withFiles tell action : Run σ α).perform (tree, state) = (.ok a, after, last) ↔
      action.perform tree = (.ok a, after) ∧ last = state := by
  rw [perform_withFiles, Prod.mk.injEq, Prod.mk.injEq, mapError_eq_ok_iff]
  rcases action.perform tree with ⟨answer, after'⟩
  simp [eq_comm, and_assoc]

/-- A run that leaves the files alone, whether it succeeds or not. -/
def KeepsFiles (run : Run σ α) : Prop :=
  ∀ tree state, (run.perform (tree, state)).2.1 = tree

theorem KeepsFiles.onFiles (tell : ε → Compilation.Fault) (look : FileTree → Except ε α) :
    KeepsFiles (onFiles tell look : Run σ α) :=
  fun _ _ => rfl

theorem KeepsFiles.asking (tell : ε → Compilation.Fault) (question : FileTree → Action σ ε α) :
    KeepsFiles (asking tell question) :=
  fun _ _ => rfl

theorem KeepsFiles.pure (a : α) : KeepsFiles (Pure.pure a : Run σ α) :=
  fun _ _ => rfl

/-- Two runs leave the files alone if each of them does. -/
theorem KeepsFiles.bind (h : KeepsFiles run) (h' : ∀ a, KeepsFiles (next a)) :
    KeepsFiles (run >>= next) := by
  intro tree state
  have hrun := h tree state
  rw [Action.perform_bind]
  rcases hperform : run.perform (tree, state) with ⟨fault | a, after, last⟩
  · rwa [hperform] at hrun
  · rw [hperform] at hrun
    obtain rfl := hrun
    exact h' a after last

/-- A run that spares all artifacts of a store if it fails. -/
def Cautious (store : Store) (run : Run σ α) : Prop :=
  ∀ tree state fault after last, run.perform (tree, state) = (.error fault, after, last) →
    ∀ artifact, store.Spares artifact tree after

/-- A run is cautious if it is so from where it first touches the files. -/
theorem KeepsFiles.bind_cautious (h : KeepsFiles run) (h' : ∀ a, Cautious store (next a)) :
    Cautious store (run >>= next) := by
  intro tree state fault after last hperform artifact
  have hrun := h tree state
  rw [Action.perform_bind] at hperform
  rcases hfirst : run.perform (tree, state) with ⟨fault' | a, middle, state'⟩
  · rw [hfirst] at hperform hrun
    obtain ⟨-, rfl, -⟩ := by simpa using hperform
    exact hrun ▸ .refl store artifact _
  · rw [hfirst] at hperform hrun
    obtain rfl := hrun
    exact h' a _ _ _ _ _ hperform artifact

/-- Nothing fails after the last part. -/
theorem Cautious.bind_pure (h : Cautious store run) (f : α → β) :
    Cautious store (run >>= fun a => pure (f a)) := by
  intro tree state fault after last hperform
  rw [Action.perform_bind] at hperform
  rcases hfirst : run.perform (tree, state) with ⟨fault' | a, middle, state'⟩
  · rw [hfirst] at hperform
    obtain ⟨-, rfl, rfl⟩ := by simpa using hperform
    exact h tree state fault' middle state' hfirst
  · rw [hfirst] at hperform
    simp at hperform

/-- What is done with a store is cautious. -/
theorem cautious_withFiles (operation : Operation) {action : Action FileTree Store.Fault α}
    (haction : ∀ tree, operation.perform store tree = outcome (action.perform tree)) :
    Cautious store (withFiles .store action : Run σ α) := by
  intro tree state fault after last hperform
  rw [perform_withFiles] at hperform
  have hoperation := haction tree
  rcases hresult : action.perform tree with ⟨fault' | a, after'⟩
  · rw [hresult] at hperform hoperation
    obtain ⟨-, rfl, -⟩ := by simpa using hperform
    exact fun artifact => spares_of_perform hoperation (.inl ⟨fault', rfl⟩)
  · rw [hresult] at hperform
    simp [Except.mapError] at hperform

end Parts

/-! ## Loading an intent -/

/-- Both documents of a source are had as one. -/
theorem exists_of_serviceDocument {document : Json}
    (h : (source.serviceDocument tree).perform state = (.ok document, last)) :
    ∃ sites vpns, (source.documents tree).perform state = (.ok (sites, vpns), last) ∧
      document = mergeDocuments sites vpns := by
  rw [IntentSource.serviceDocument] at h
  obtain ⟨⟨sites, vpns⟩, state₁, hdocuments, h₁⟩ := Action.exists_of_perform_bind_ok h
  obtain ⟨rfl, rfl⟩ := by simpa using h₁
  exact ⟨sites, vpns, hdocuments, rfl⟩

/-- What two files are as a source is what is read from them. -/
theorem readFile_of_documents {sitePath vpnPath : String} {sites vpns : Json}
    (h : ((IntentSource.files sitePath vpnPath).documents tree).perform state =
      (.ok (sites, vpns), last)) :
    IntentSource.readFile sitePath tree = .ok sites ∧
      IntentSource.readFile vpnPath tree = .ok vpns := by
  rw [IntentSource.documents] at h
  obtain ⟨sites', state₁, hsites, h₁⟩ := Action.exists_of_perform_bind_ok h
  obtain ⟨vpns', state₂, hvpns, h₂⟩ := Action.exists_of_perform_bind_ok h₁
  obtain ⟨⟨rfl, rfl⟩, -⟩ := by simpa using h₂
  exact ⟨congrArg Prod.fst hsites, congrArg Prod.fst hvpns⟩

/-- Two files that can be read are a source of one document. -/
theorem perform_serviceDocument_files {sites vpns : Json} {sitePath vpnPath : String}
    (hsites : IntentSource.readFile sitePath tree = .ok sites)
    (hvpns : IntentSource.readFile vpnPath tree = .ok vpns) (state : σ) :
    ((IntentSource.files sitePath vpnPath).serviceDocument tree).perform state =
      (.ok (mergeDocuments sites vpns), state) := by
  simp only [IntentSource.serviceDocument, IntentSource.documents, IntentSource.files, hsites,
    hvpns, Action.ofExcept_ok_bind]
  rfl

/-- A document from a file is storable if all its numbers are whole ones within range. -/
theorem storable_of_readFile {path : String} {document : Json}
    (h : IntentSource.readFile path tree = .ok document) (hwhole : document.Whole) :
    document.Storable := by
  rw [IntentSource.readFile] at h
  rcases htext : tree.readText path with cause | text
  · simp [htext] at h
  · rw [htext] at h
    dsimp only at h
    rcases hparse : Json.parse text with fault | parsed
    · simp [hparse, Except.mapError] at h
    · rw [hparse] at h
      obtain rfl := Except.ok.inj h
      exact Json.storable_of_parse hparse hwhole

/-- The intent of a source has been loaded with its document, which has passed the gate. -/
structure Loaded (compiler : Compiler) (source : IntentSource σ) (tree : FileTree) (state : σ)
    (document : Json) (intent : Intent) (last : σ) : Prop where
  had : (source.serviceDocument tree).perform state = (.ok document, last)
  accepted : compiler.schemas.validate tree .services document = .ok ()
  understood : Intent.ofDocument document = .ok intent

/-- An intent is loaded without touching the files. -/
theorem keepsFiles_loadIntent (compiler : Compiler) (source : IntentSource σ) :
    KeepsFiles (compiler.loadIntent source) :=
  (KeepsFiles.asking _ _).bind fun _ => (KeepsFiles.onFiles _ _).bind fun _ =>
    (KeepsFiles.onFiles _ _).bind fun _ => .pure _

/-- An intent that is loaded has passed the gate. -/
theorem loaded_of_perform {loaded : Json × Intent}
    (h : (compiler.loadIntent source).perform (tree, state) = (.ok loaded, after, last)) :
    after = tree ∧ compiler.Loaded source tree state loaded.1 loaded.2 last := by
  rw [loadIntent] at h
  obtain ⟨document, ⟨tree₁, state₁⟩, hsource, h₁⟩ := Action.exists_of_perform_bind_ok h
  obtain ⟨hsource, rfl⟩ := perform_asking_eq_ok_iff.mp hsource
  obtain ⟨_, ⟨tree₂, state₂⟩, hgate, h₂⟩ := Action.exists_of_perform_bind_ok h₁
  obtain ⟨haccepted, rfl, rfl⟩ := perform_onFiles_eq_ok_iff.mp hgate
  obtain ⟨intent, ⟨tree₃, state₃⟩, hintent, h₃⟩ := Action.exists_of_perform_bind_ok h₂
  obtain ⟨hunderstood, rfl, rfl⟩ := perform_onFiles_eq_ok_iff.mp hintent
  obtain ⟨rfl, rfl, rfl⟩ := by simpa using h₃
  exact ⟨rfl, hsource, haccepted, hunderstood⟩

/-! ## Service documents -/

/-- A run that does not store the service document spares all artifacts. -/
theorem cautious_compileServices (compiler : Compiler) (source : IntentSource σ) :
    Cautious compiler.store (compiler.compileServices source) :=
  (keepsFiles_loadIntent compiler source).bind_cautious fun (document, _) =>
    cautious_withFiles (.write .service document) fun _ => rfl

/-- The service document of an intent has been stored: it has passed the gate, its artifact contains
it, and no other artifact has been touched. -/
structure ServicesStored (compiler : Compiler) (source : IntentSource σ) (tree : FileTree)
    (state : σ) (document : Json) (path : String) (after : FileTree) (last : σ) : Prop where
  had : (source.serviceDocument tree).perform state = (.ok document, last)
  accepted : compiler.schemas.validate tree .services document = .ok ()
  path : compiler.store.pathOf .service = .ok path
  contains : compiler.store.Contains after .service document
  spares : ∀ artifact, artifact ≠ .service → compiler.store.Spares artifact tree after

/-- A successful run has stored the service document. -/
theorem servicesStored_of_perform {path : String}
    (h : (compiler.compileServices source).perform (tree, state) = (.ok path, after, last)) :
    ∃ document, compiler.ServicesStored source tree state document path after last := by
  rw [compileServices] at h
  obtain ⟨⟨document, intent⟩, ⟨tree₁, state₁⟩, hload, h₁⟩ := Action.exists_of_perform_bind_ok h
  obtain ⟨rfl, hloaded⟩ := loaded_of_perform hload
  obtain ⟨hwrite, rfl⟩ := perform_withFiles_eq_ok_iff.mp h₁
  have hperform : (Operation.write .service document).perform compiler.store tree₁ =
      (.ok (), after) := by
    rw [Operation.perform, hwrite]
    rfl
  have hcommitted := Operation.committed_or_undone compiler.store (.write .service document) tree₁
  rw [hperform] at hcommitted
  obtain ⟨slots, hcommitted⟩ := hcommitted
  rw [write] at hwrite
  obtain ⟨path', tree₂, hpath, hwrite₁⟩ := Action.exists_of_perform_bind_ok hwrite
  obtain ⟨_, tree₃, -, hwrite₂⟩ := Action.exists_of_perform_bind_ok hwrite₁
  obtain ⟨rfl, -⟩ := by simpa using hwrite₂
  refine ⟨document, hloaded.had, hloaded.accepted, congrArg Prod.fst hpath,
    hcommitted.contains (List.mem_singleton.mpr rfl), fun artifact hne => ?_⟩
  exact hcommitted.spares (by simpa [Operation.documents] using hne)

/-- A service document that has been stored has no plain keys, since it has the qualified ones. -/
theorem ServicesStored.get?_plain {document : Json} {path : String}
    (h : compiler.ServicesStored source tree state document path after last) (c : Collection) :
    document.get? (c.key .plain) = none := by
  obtain ⟨sites, vpns, -, rfl⟩ := exists_of_serviceDocument h.had
  have hentry := Json.lookup?_of_ascending (ascending_mergeDocuments sites vpns)
  have hqualified := compiler.schemas.get?_ne_none_of_validate h.accepted c
  obtain ⟨_, _, stored, -, -, hstored, -⟩ := h.contains
  have hfree := (renameKeys_eq_ok_iff .plain (mergeDocuments sites vpns)).mp
    ⟨stored, storedForm_service_eq_ok_iff.mp hstored⟩
  rw [← hentry]
  refine (hfree c).resolve_left ?_
  rw [hentry]
  exact hqualified

/-- **A service document that has been stored is read back**, if it is storable. -/
theorem ServicesStored.read_eq {document : Json} {path : String}
    (h : compiler.ServicesStored source tree state document path after last)
    (hstorable : document.Storable) : compiler.store.read .service after = .ok document := by
  obtain ⟨form, hform, hread⟩ := h.contains.read_eq hstorable
  rw [exchangeForm_of_absent .service hstorable h.get?_plain] at hform
  obtain rfl := Except.ok.inj hform
  exact hread

/-! ## Variables -/

/-- The variables of an intent have been stored: they have been derived from an intent that has
passed the gate, they have passed theirs together with its document, their artifacts contain them,
and no other artifact has been touched. -/
structure VariablesStored (compiler : Compiler) (source : IntentSource σ) (inventory : Inventory σ)
    (tree : FileTree) (state : σ) (document : Json) (routing : Routing.Document)
    (switching : Switching.Document) (paths : String × String) (after : FileTree) (last : σ) :
    Prop where
  derived : ∃ intent loaded asked, compiler.Loaded source tree state document intent loaded ∧
    (Derivation.routing inventory intent).perform loaded = (.ok routing, asked) ∧
    (Derivation.switching inventory intent).perform asked = (.ok switching, last)
  accepted : ∃ extended, Extends document routing.toJson switching.toJson extended ∧
    compiler.schemas.validate tree .deployment extended = .ok ()
  routingPath : compiler.store.pathOf .routing = .ok paths.1
  switchingPath : compiler.store.pathOf .switching = .ok paths.2
  routing : compiler.store.Contains after .routing routing.toJson
  switching : compiler.store.Contains after .switching switching.toJson
  spares : ∀ artifact, artifact ≠ .routing → artifact ≠ .switching →
    compiler.store.Spares artifact tree after

/-- A successful run has stored the variables. -/
theorem variablesStored_of_perform {inventory : Inventory σ} {paths : String × String}
    (h : (compiler.compileVariables source inventory).perform (tree, state) =
      (.ok paths, after, last)) :
    ∃ document routing switching,
      compiler.VariablesStored source inventory tree state document routing switching paths after
        last := by
  rw [compileVariables] at h
  obtain ⟨⟨document, intent⟩, ⟨tree₁, state₁⟩, hload, h₁⟩ := Action.exists_of_perform_bind_ok h
  obtain ⟨rfl, hloaded⟩ := loaded_of_perform hload
  obtain ⟨routing, ⟨tree₂, state₂⟩, hask, h₂⟩ := Action.exists_of_perform_bind_ok h₁
  obtain ⟨hrouting, rfl⟩ := perform_asking_eq_ok_iff.mp hask
  obtain ⟨switching, ⟨tree₃, state₃⟩, hask', h₃⟩ := Action.exists_of_perform_bind_ok h₂
  obtain ⟨hswitching, rfl⟩ := perform_asking_eq_ok_iff.mp hask'
  obtain ⟨_, ⟨tree₄, state₄⟩, hgate, h₄⟩ := Action.exists_of_perform_bind_ok h₃
  obtain ⟨haccepted, rfl, rfl⟩ := perform_onFiles_eq_ok_iff.mp hgate
  obtain ⟨routingPath, ⟨tree₅, state₅⟩, hlook, h₅⟩ := Action.exists_of_perform_bind_ok h₄
  obtain ⟨hroutingPath, rfl, rfl⟩ := perform_onFiles_eq_ok_iff.mp hlook
  obtain ⟨switchingPath, ⟨tree₆, state₆⟩, hlook', h₆⟩ := Action.exists_of_perform_bind_ok h₅
  obtain ⟨hswitchingPath, rfl, rfl⟩ := perform_onFiles_eq_ok_iff.mp hlook'
  obtain ⟨_, ⟨tree₇, state₇⟩, hwork, h₇⟩ := Action.exists_of_perform_bind_ok h₆
  obtain ⟨hwrite, rfl⟩ := perform_withFiles_eq_ok_iff.mp hwork
  obtain ⟨rfl, rfl, rfl⟩ := by simpa using h₇
  have hcommitted := Store.committed_or_undone compiler.store
    [(.routing, routing.toJson), (.switching, switching.toJson)] tree₆
  rw [hwrite] at hcommitted
  obtain ⟨slots, hcommitted, -⟩ := hcommitted
  obtain ⟨sites, vpns, -, rfl⟩ := exists_of_serviceDocument hloaded.had
  refine ⟨_, routing, switching, ⟨intent, _, _, hloaded, hrouting, hswitching⟩,
    ⟨_, extends_variablesDocument (ascending_mergeDocuments sites vpns) routing switching,
      haccepted⟩,
    hroutingPath, hswitchingPath, hcommitted.contains (by simp), hcommitted.contains (by simp), ?_⟩
  intro artifact hrouting hswitching
  exact hcommitted.spares (by simp [hrouting, hswitching])

/-- A run that does not store the variables spares all artifacts. -/
theorem cautious_compileVariables (compiler : Compiler) (source : IntentSource σ)
    (inventory : Inventory σ) :
    Cautious compiler.store (compiler.compileVariables source inventory) :=
  (keepsFiles_loadIntent compiler source).bind_cautious fun (_, _) =>
    (KeepsFiles.asking _ _).bind_cautious fun _ =>
    (KeepsFiles.asking _ _).bind_cautious fun _ =>
    (KeepsFiles.onFiles _ _).bind_cautious fun _ =>
    (KeepsFiles.onFiles _ _).bind_cautious fun _ =>
    (KeepsFiles.onFiles _ _).bind_cautious fun _ =>
    (cautious_withFiles (.writeAll _) fun _ => rfl).bind_pure _

/-! ## Runs as a whole -/

/-- **Runs store what has passed the gates, or nothing.** A run for variables that fails spares all
artifacts, and one that succeeds has stored the variables. So it is with a run for the service
document. If the documents come from files and all their numbers are whole ones within range, the
service document is read back as it was judged.

**Proof sketch.** Up to the transaction at its end a run only looks at files, and a transaction that
fails spares all artifacts. The document that is stored has the qualified keys, as the gate requires
them, and no others, as it could not be stored with both. -/
theorem stores_gated (compiler : Compiler) (source : IntentSource σ) (inventory : Inventory σ)
    (tree : FileTree) (state : σ) :
    (match (compiler.compileVariables source inventory).perform (tree, state) with
      | (.error _, after, _) => ∀ artifact, compiler.store.Spares artifact tree after
      | (.ok paths, after, last) =>
        ∃ document routing switching,
          compiler.VariablesStored source inventory tree state document routing switching paths
            after last) ∧
    (match (compiler.compileServices source).perform (tree, state) with
      | (.error _, after, _) => ∀ artifact, compiler.store.Spares artifact tree after
      | (.ok path, after, last) =>
        ∃ document, compiler.ServicesStored source tree state document path after last ∧
          ∀ sitePath vpnPath, source = .files sitePath vpnPath →
            ∃ sites vpns, IntentSource.readFile sitePath tree = .ok sites ∧
              IntentSource.readFile vpnPath tree = .ok vpns ∧
              document = mergeDocuments sites vpns ∧
              (sites.Whole → vpns.Whole → compiler.store.read .service after = .ok document)) := by
  constructor
  · rcases hperform : (compiler.compileVariables source inventory).perform (tree, state) with
      ⟨fault | paths, after, last⟩
    · exact cautious_compileVariables compiler source inventory tree state fault after last hperform
    · exact variablesStored_of_perform hperform
  · rcases hperform : (compiler.compileServices source).perform (tree, state) with
      ⟨fault | path, after, last⟩
    · exact cautious_compileServices compiler source tree state fault after last hperform
    · obtain ⟨document, hstored⟩ := servicesStored_of_perform hperform
      refine ⟨document, hstored, fun sitePath vpnPath hsource => ?_⟩
      obtain ⟨sites, vpns, hdocuments, hdocument⟩ := exists_of_serviceDocument hstored.had
      rw [hsource] at hdocuments
      obtain ⟨hsites, hvpns⟩ := readFile_of_documents hdocuments
      refine ⟨sites, vpns, hsites, hvpns, hdocument, fun hsitesWhole hvpnsWhole => ?_⟩
      refine hstored.read_eq ?_
      rw [hdocument]
      exact storable_mergeDocuments (storable_of_readFile hsites hsitesWhole)
        (storable_of_readFile hvpns hvpnsWhole)

end NetworkIntent.Compiler
