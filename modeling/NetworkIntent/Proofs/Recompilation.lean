import NetworkIntent.Proofs.Compilation
import NetworkIntent.Proofs.Derivation
import NetworkIntent.Proofs.Progress
import NetworkIntent.Proofs.RouterBindings
import NetworkIntent.Proofs.VariablesGate

/-!
# Recompilation

The intent and the artifacts made of it are files below one root, and the artifacts of one run lie
beside the ones of another. Still nothing that is written is ever read by a run, since no file that a
run reads has the name of an artifact's file. So what a run stores is the same whenever it runs, and
as its documents are settled once it has succeeded, it succeeds again and changes no file.

A run in between may fail halfway and leave new directories behind. They are no hindrance, as the
ways to settled documents stay free.

## Main definitions

* `Compiler.Command`: the two runs that store artifacts.
* `Compiler.Inputs`: what such runs read from the files.
* `Compiler.Command.Plans`: the documents that a run stores.

## Main results

* `Compiler.Command.perform_run_eq_ok_iff`: a run plans its documents and writes them.
* `Compiler.Inputs.writeAll`, `Compiler.Command.Plans.of_inputs`: no run is read by another one.
* `Compiler.Command.recompilation_fixed`: what has been compiled is compiled again without any
  change.
-/

set_option autoImplicit false

namespace NetworkIntent.Compiler

open Compilation Store

variable {σ : Type} {compiler : Compiler} {source : IntentSource σ} {snapshot : Snapshot}
  {tree after : FileTree} {state last : σ} {documents : List (Artifact × Json)}
  {paths : List String} {sitePath vpnPath root : String}

/-! ## Runs -/

/-- The runs that store artifacts: the one for the service document, and the one for variables. -/
inductive Command where
  | forServices
  | forVariables
  deriving DecidableEq, Repr

namespace Command

/-- The other one of the runs. -/
def other : Command → Command
  | .forServices => .forVariables
  | .forVariables => .forServices

/-- The artifacts that a run stores. -/
def artifacts : Command → List Artifact
  | .forServices => [.service]
  | .forVariables => [.routing, .switching]

/-- A run. Its result tells the paths of the artifacts. -/
def run (compiler : Compiler) (source : IntentSource σ) (inventory : Inventory σ) :
    Command → Run σ (List String)
  | .forServices => do
    let path ← compiler.compileServices source
    return [path]
  | .forVariables => do
    let (routing, switching) ← compiler.compileVariables source inventory
    return [routing, switching]

/-- The documents that a run stores, as they come from the files and the inventory. -/
inductive Plans (compiler : Compiler) (source : IntentSource σ) (inventory : Inventory σ)
    (tree : FileTree) (state : σ) : Command → List (Artifact × Json) → (last : σ) → Prop
  | forServices {document : Json} {intent : Intent} {last : σ}
      (loaded : compiler.Loaded source tree state document intent last) :
      Plans compiler source inventory tree state .forServices [(.service, document)] last
  | forVariables {document : Json} {intent : Intent} {routing : Routing.Document}
      {switching : Switching.Document} {loaded asked last : σ}
      (isLoaded : compiler.Loaded source tree state document intent loaded)
      (routingDerived :
        (Derivation.routing inventory intent).perform loaded = (.ok routing, asked))
      (switchingDerived :
        (Derivation.switching inventory intent).perform asked = (.ok switching, last))
      (accepted : compiler.schemas.validate tree .deployment
        (variablesDocument document routing switching) = .ok ()) :
      Plans compiler source inventory tree state .forVariables
        [(.routing, routing.toJson), (.switching, switching.toJson)] last

variable {command : Command} {inventory : Inventory σ}

/-- A run plans documents of its artifacts. -/
theorem Plans.artifacts_eq (h : command.Plans compiler source inventory tree state documents last) :
    documents.map Prod.fst = command.artifacts := by
  cases h <;> rfl

end Command

/-- An intent is loaded exactly if it passes the gate. -/
theorem perform_loadIntent_eq_ok_iff {document : Json} {intent : Intent} :
    (compiler.loadIntent source).perform (tree, state) = (.ok (document, intent), after, last) ↔
      after = tree ∧ compiler.Loaded source tree state document intent last := by
  constructor
  · exact loaded_of_perform
  · rintro ⟨rfl, h⟩
    refine Action.perform_bind_eq_ok_iff.mpr ⟨document, (after, last),
      perform_asking_eq_ok_iff.mpr ⟨h.had, rfl⟩, ?_⟩
    refine Action.perform_bind_eq_ok_iff.mpr ⟨(), (after, last),
      perform_onFiles_eq_ok_iff.mpr ⟨h.accepted, rfl, rfl⟩, ?_⟩
    exact Action.perform_bind_eq_ok_iff.mpr ⟨intent, (after, last),
      perform_onFiles_eq_ok_iff.mpr ⟨h.understood, rfl, rfl⟩, rfl⟩

/-- A run for the service document loads the intent and writes its document. -/
theorem perform_compileServices_eq_ok_iff {path : String} :
    (compiler.compileServices source).perform (tree, state) = (.ok path, after, last) ↔
      ∃ document intent, compiler.Loaded source tree state document intent last ∧
        (compiler.store.writeAll [(.service, document)]).perform tree = (.ok [path], after) := by
  rw [compileServices, Action.perform_bind_eq_ok_iff]
  constructor
  · rintro ⟨⟨document, intent⟩, ⟨tree', state'⟩, hload, hwork⟩
    obtain ⟨rfl, hloaded⟩ := perform_loadIntent_eq_ok_iff.mp hload
    obtain ⟨hwrite, rfl⟩ := perform_withFiles_eq_ok_iff.mp hwork
    exact ⟨document, intent, hloaded, perform_write_eq_ok_iff.mp hwrite⟩
  · rintro ⟨document, intent, hloaded, hwrite⟩
    exact ⟨(document, intent), (tree, last), perform_loadIntent_eq_ok_iff.mpr ⟨rfl, hloaded⟩,
      perform_withFiles_eq_ok_iff.mpr ⟨perform_write_eq_ok_iff.mpr hwrite, rfl⟩⟩

/-- A transaction for variables tells the paths of both artifacts. -/
theorem exists_of_perform_variables {store : Store} {routing switching : Json}
    (h : (store.writeAll [(.routing, routing), (.switching, switching)]).perform tree =
      (.ok paths, after)) :
    ∃ first second, store.pathOf .routing = .ok first ∧ store.pathOf .switching = .ok second ∧
      paths = [first, second] := by
  obtain ⟨first, paths, hfirst, hrest, rfl⟩ :=
    List.forall₂_cons_left_iff.mp (mapM_eq_ok_iff.mp (mapM_pathOf_of_perform h))
  obtain ⟨second, paths, hsecond, hnone, rfl⟩ := List.forall₂_cons_left_iff.mp hrest
  obtain rfl := List.forall₂_nil_left_iff.mp hnone
  exact ⟨first, second, hfirst, hsecond, rfl⟩

/-- A run for variables loads the intent, derives its variables, lets them pass their gate and
writes them. -/
theorem perform_compileVariables_eq_ok_iff {inventory : Inventory σ} {first second : String} :
    (compiler.compileVariables source inventory).perform (tree, state) =
        (.ok (first, second), after, last) ↔
      ∃ document intent routing switching loaded asked,
        compiler.Loaded source tree state document intent loaded ∧
        (Derivation.routing inventory intent).perform loaded = (.ok routing, asked) ∧
        (Derivation.switching inventory intent).perform asked = (.ok switching, last) ∧
        compiler.schemas.validate tree .deployment
          (variablesDocument document routing switching) = .ok () ∧
        (compiler.store.writeAll
          [(.routing, routing.toJson), (.switching, switching.toJson)]).perform tree =
            (.ok [first, second], after) := by
  simp only [compileVariables, Action.perform_bind_eq_ok_iff]
  constructor
  · rintro ⟨⟨document, intent⟩, ⟨tree₁, state₁⟩, hload, routing, ⟨tree₂, state₂⟩, hask, switching,
      ⟨tree₃, state₃⟩, hask', _, ⟨tree₄, state₄⟩, hgate, first', ⟨tree₅, state₅⟩, hlook, second',
      ⟨tree₆, state₆⟩, hlook', paths, ⟨tree₇, state₇⟩, hwork, hreturn⟩
    obtain ⟨rfl, hloaded⟩ := perform_loadIntent_eq_ok_iff.mp hload
    obtain ⟨hrouting, rfl⟩ := perform_asking_eq_ok_iff.mp hask
    obtain ⟨hswitching, rfl⟩ := perform_asking_eq_ok_iff.mp hask'
    obtain ⟨haccepted, rfl, rfl⟩ := perform_onFiles_eq_ok_iff.mp hgate
    obtain ⟨hfirst, rfl, rfl⟩ := perform_onFiles_eq_ok_iff.mp hlook
    obtain ⟨hsecond, rfl, rfl⟩ := perform_onFiles_eq_ok_iff.mp hlook'
    obtain ⟨hwrite, rfl⟩ := perform_withFiles_eq_ok_iff.mp hwork
    obtain ⟨⟨rfl, rfl⟩, rfl, rfl⟩ := by simpa using hreturn
    obtain ⟨_, _, hfirst', hsecond', rfl⟩ := exists_of_perform_variables hwrite
    obtain rfl := Except.ok.inj (hfirst.symm.trans hfirst')
    obtain rfl := Except.ok.inj (hsecond.symm.trans hsecond')
    exact ⟨document, intent, routing, switching, _, _, hloaded, hrouting, hswitching, haccepted,
      hwrite⟩
  · rintro ⟨document, intent, routing, switching, loaded, asked, hloaded, hrouting, hswitching,
      haccepted, hwrite⟩
    obtain ⟨_, _, hfirst, hsecond, heq⟩ := exists_of_perform_variables hwrite
    obtain ⟨rfl, rfl⟩ : first = _ ∧ second = _ := by simpa using heq
    exact ⟨(document, intent), (tree, loaded), perform_loadIntent_eq_ok_iff.mpr ⟨rfl, hloaded⟩,
      routing, (tree, asked), perform_asking_eq_ok_iff.mpr ⟨hrouting, rfl⟩, switching, (tree, last),
      perform_asking_eq_ok_iff.mpr ⟨hswitching, rfl⟩, (), (tree, last),
      perform_onFiles_eq_ok_iff.mpr ⟨haccepted, rfl, rfl⟩, first, (tree, last),
      perform_onFiles_eq_ok_iff.mpr ⟨hfirst, rfl, rfl⟩, second, (tree, last),
      perform_onFiles_eq_ok_iff.mpr ⟨hsecond, rfl, rfl⟩, [first, second], (after, last),
      perform_withFiles_eq_ok_iff.mpr ⟨hwrite, rfl⟩, rfl⟩

namespace Command

variable {command : Command} {inventory : Inventory σ}

/-- **A run plans its documents and writes them.** -/
theorem perform_run_eq_ok_iff :
    (command.run compiler source inventory).perform (tree, state) = (.ok paths, after, last) ↔
      ∃ documents, command.Plans compiler source inventory tree state documents last ∧
        (compiler.store.writeAll documents).perform tree = (.ok paths, after) := by
  cases command with
  | forServices =>
    rw [run, Action.perform_bind_eq_ok_iff]
    constructor
    · rintro ⟨path, ⟨tree', state'⟩, hrun, hreturn⟩
      obtain ⟨rfl, rfl, rfl⟩ := by simpa using hreturn
      obtain ⟨document, intent, hloaded, hwrite⟩ := perform_compileServices_eq_ok_iff.mp hrun
      exact ⟨_, .forServices hloaded, hwrite⟩
    · rintro ⟨documents, hplans, hwrite⟩
      obtain ⟨hloaded⟩ := hplans
      obtain ⟨path, rest, -, hrest, rfl⟩ :=
        List.forall₂_cons_left_iff.mp (mapM_eq_ok_iff.mp (mapM_pathOf_of_perform hwrite))
      obtain rfl := List.forall₂_nil_left_iff.mp hrest
      exact ⟨path, (after, last),
        perform_compileServices_eq_ok_iff.mpr ⟨_, _, hloaded, hwrite⟩, rfl⟩
  | forVariables =>
    rw [run, Action.perform_bind_eq_ok_iff]
    constructor
    · rintro ⟨⟨first, second⟩, ⟨tree', state'⟩, hrun, hreturn⟩
      obtain ⟨rfl, rfl, rfl⟩ := by simpa using hreturn
      obtain ⟨document, intent, routing, switching, loaded, asked, hloaded, hrouting, hswitching,
        haccepted, hwrite⟩ := perform_compileVariables_eq_ok_iff.mp hrun
      exact ⟨_, .forVariables hloaded hrouting hswitching haccepted, hwrite⟩
    · rintro ⟨documents, hplans, hwrite⟩
      cases hplans with | forVariables hloaded hrouting hswitching haccepted =>
      obtain ⟨first, second, -, -, rfl⟩ := exists_of_perform_variables hwrite
      exact ⟨(first, second), (after, last), perform_compileVariables_eq_ok_iff.mpr
        ⟨_, _, _, _, _, _, hloaded, hrouting, hswitching, haccepted, hwrite⟩, rfl⟩

end Command

/-! ## What is done to files -/

/-- A run does nothing to the files but what a transaction with some artifacts does, whether it
succeeds or not. -/
def Touches (store : Store) (artifacts : List Artifact) {α : Type} (run : Run σ α) : Prop :=
  ∀ tree state, (run.perform (tree, state)).2.1 = tree ∨
    ∃ documents, documents.map Prod.fst = artifacts ∧
      (run.perform (tree, state)).2.1 = ((store.writeAll documents).perform tree).2

section Touching

variable {α β : Type} {store : Store} {artifacts : List Artifact} {run : Run σ α}
  {next : α → Run σ β}

/-- Nothing is done to the files before the part that works on them. -/
theorem KeepsFiles.bind_touches (h : KeepsFiles run) (h' : ∀ a, Touches store artifacts (next a)) :
    Touches store artifacts (run >>= next) := by
  intro tree state
  have hrun := h tree state
  rw [Action.perform_bind]
  rcases hperform : run.perform (tree, state) with ⟨fault | a, middle, state'⟩
  · rw [hperform] at hrun
    exact .inl hrun
  · rw [hperform] at hrun
    obtain rfl := hrun
    exact h' a middle state'

/-- Nothing is done to the files after it. -/
theorem Touches.bind_keeps (h : Touches store artifacts run) (h' : ∀ a, KeepsFiles (next a)) :
    Touches store artifacts (run >>= next) := by
  intro tree state
  have hrun := h tree state
  rw [Action.perform_bind]
  rcases hperform : run.perform (tree, state) with ⟨fault | a, middle, state'⟩
  · rwa [hperform] at hrun
  · rw [hperform] at hrun
    dsimp only
    rwa [h' a middle state']

/-- A transaction does what it does. -/
theorem touches_writeAll {documents : List (Artifact × Json)}
    (h : documents.map Prod.fst = artifacts) :
    Touches store artifacts (withFiles .store (store.writeAll documents) : Run σ (List String)) :=
  fun _ _ => .inr ⟨documents, h, rfl⟩

/-- Writing an artifact does what its transaction does. -/
theorem touches_write (artifact : Artifact) (document : Json) :
    Touches store [artifact] (withFiles .store (store.write artifact document) : Run σ String) := by
  intro tree state
  rw [perform_withFiles, write, Action.perform_bind, Action.perform_ofExcept]
  rcases store.pathOf artifact with fault | path
  · exact .inl rfl
  · refine .inr ⟨[(artifact, document)], rfl, ?_⟩
    dsimp only
    rw [Action.perform_bind]
    rcases (store.writeAll [(artifact, document)]).perform tree with ⟨_ | _, _⟩ <;> rfl

end Touching

namespace Command

/-- A run touches nothing but its artifacts. -/
theorem touches_run (command : Command) (compiler : Compiler) (source : IntentSource σ)
    (inventory : Inventory σ) :
    Touches compiler.store command.artifacts (command.run compiler source inventory) := by
  cases command with
  | forServices =>
    refine Touches.bind_keeps ?_ fun path => .pure _
    exact (keepsFiles_loadIntent compiler source).bind_touches fun (document, _) =>
      touches_write .service document
  | forVariables =>
    refine Touches.bind_keeps ?_ fun paths => .pure _
    exact (keepsFiles_loadIntent compiler source).bind_touches fun (_, _) =>
      (KeepsFiles.asking _ _).bind_touches fun _ =>
      (KeepsFiles.asking _ _).bind_touches fun _ =>
      (KeepsFiles.onFiles _ _).bind_touches fun _ =>
      (KeepsFiles.onFiles _ _).bind_touches fun _ =>
      (KeepsFiles.onFiles _ _).bind_touches fun _ =>
      (touches_writeAll rfl).bind_keeps fun _ => .pure _

end Command

/-! ## Inputs -/

/-- What a run reads from the files: the shipped schemas, and both documents of an intent. -/
structure Inputs (schemas : SchemaDirectory) (root : String) (sites vpns : Json) (tree : FileTree) :
    Prop extends AllInstalled tree schemas where
  sites : ∃ text,
    tree.readText (Path.join (Path.join root "services") "sites.json") = .ok text ∧
      Json.parse text = .ok sites
  vpns : ∃ text,
    tree.readText (Path.join (Path.join root "services") "vpns.json") = .ok text ∧
      Json.parse text = .ok vpns

/-- A document is read from a file exactly if it is the one of its text. -/
theorem readFile_eq_ok_iff {path : String} {document : Json} :
    IntentSource.readFile path tree = .ok document ↔
      ∃ text, tree.readText path = .ok text ∧ Json.parse text = .ok document := by
  rw [IntentSource.readFile]
  rcases tree.readText path with cause | text
  · simp
  · simp only [mapError_eq_ok_iff, Except.ok.injEq, exists_eq_left']

namespace Command

/-- The files of artifacts have one name. -/
theorem fileName_of_mem (command : Command) :
    ∀ artifact ∈ command.artifacts, artifact.fileName = "terraform.tfvars.json" := by
  cases command <;> simp [artifacts, Artifact.fileName]

/-- The names of the files that runs read. -/
def inputNames : List String :=
  ["services.schema.json", "common.schema.json", "variables.schema.json", "sites.json", "vpns.json"]

/-- No run writes a file of a name that runs read. -/
theorem readText_writeAll {command : Command} {store : Store}
    (hartifacts : documents.map Prod.fst = command.artifacts) {directory name : String}
    (hname : name ∈ inputNames) {document : Json}
    (h : ∃ text, tree.readText (Path.join directory name) = .ok text ∧
      Json.parse text = .ok document) :
    ∃ text, ((store.writeAll documents).perform tree).2.readText (Path.join directory name) =
      .ok text ∧ Json.parse text = .ok document := by
  have hnames : ∀ name ∈ inputNames, Path.Plain name ∧ name ≠ "terraform.tfvars.json" ∧
      name ≠ "terraform.tfvars.json" ++ ".tmp" := by
    have hplain : ∀ name ∈ inputNames, ('/' ∉ name.toList ∧ name ≠ "" ∧ name ≠ "." ∧ name ≠ "..") ∧
        name ≠ "terraform.tfvars.json" ∧ name ≠ "terraform.tfvars.json" ++ ".tmp" := by decide
    intro name hname
    obtain ⟨⟨hslash, hempty, hdot, hdots⟩, hother⟩ := hplain name hname
    exact ⟨⟨hslash, hempty, hdot, hdots⟩, hother⟩
  obtain ⟨hplain, hfile, hstaging⟩ := hnames name hname
  obtain ⟨text, hread, hparse⟩ := h
  refine ⟨text, Store.readText_writeAll hplain (fun artifact hartifact => ?_) hread, hparse⟩
  rw [command.fileName_of_mem artifact (hartifacts ▸ hartifact)]
  exact ⟨hfile, hstaging⟩

end Command

/-- **No run is read by another one**: what runs read from the files stays. -/
theorem Inputs.writeAll {command : Command} {schemas : SchemaDirectory} {sites vpns : Json}
    (h : Inputs schemas root sites vpns tree)
    (hartifacts : documents.map Prod.fst = command.artifacts) (store : Store) :
    Inputs schemas root sites vpns ((store.writeAll documents).perform tree).2 where
  services := Command.readText_writeAll hartifacts (by decide) h.services
  common := Command.readText_writeAll hartifacts (by decide) h.common
  deployment := Command.readText_writeAll hartifacts (by decide) h.deployment
  sites := Command.readText_writeAll hartifacts (by decide) h.sites
  vpns := Command.readText_writeAll hartifacts (by decide) h.vpns

/-- The gates of runs judge alike in trees with the same inputs. -/
theorem Inputs.validate_iff {schemas : SchemaDirectory} {sites vpns : Json}
    (h : Inputs schemas root sites vpns tree) (h' : Inputs schemas root sites vpns after)
    {name : SchemaName} (hname : name = .services ∨ name = .deployment) (document : Json) :
    schemas.validate tree name document = .ok () ↔ schemas.validate after name document = .ok () := by
  rcases hname with rfl | rfl
  · rw [SchemaDirectory.validate, SchemaDirectory.validate, Grammar.schema_services h.toInstalled,
      Grammar.schema_services h'.toInstalled]
  · rw [SchemaDirectory.validate, SchemaDirectory.validate, schema_deployment h.toAllInstalled,
      schema_deployment h'.toAllInstalled]

/-- An intent is loaded in the same way from trees with the same inputs, whoever is asked. -/
theorem Loaded.of_inputs {sites vpns document : Json} {intent : Intent}
    (h : compiler.Loaded (.filesBelow root) tree state document intent last)
    (hinputs : Inputs compiler.schemas root sites vpns tree)
    (hinputs' : Inputs compiler.schemas root sites vpns after) (state' : σ) :
    compiler.Loaded (.filesBelow root) after state' document intent state' := by
  have hdocument : document = mergeDocuments sites vpns := by
    have hhad := perform_serviceDocument_files (readFile_eq_ok_iff.mpr hinputs.sites)
      (readFile_eq_ok_iff.mpr hinputs.vpns) state
    exact Except.ok.inj (Prod.mk.inj (h.had.symm.trans hhad)).1
  refine ⟨?_, (hinputs.validate_iff hinputs' (.inl rfl) document).mp h.accepted, h.understood⟩
  rw [hdocument]
  exact perform_serviceDocument_files (readFile_eq_ok_iff.mpr hinputs'.sites)
    (readFile_eq_ok_iff.mpr hinputs'.vpns) state'

namespace Command

/-- **What is planned does not depend on anything but the inputs**, and the inventory. -/
theorem Plans.of_inputs {command : Command} {sites vpns : Json}
    (h : command.Plans compiler (.filesBelow root) (snapshot.inventory σ) tree state documents last)
    (hinputs : Inputs compiler.schemas root sites vpns tree)
    (hinputs' : Inputs compiler.schemas root sites vpns after) (state' : σ) :
    command.Plans compiler (.filesBelow root) (snapshot.inventory σ) after state' documents
      state' := by
  cases h with
  | forServices hloaded => exact .forServices (hloaded.of_inputs hinputs hinputs' state')
  | forVariables hloaded hrouting hswitching haccepted =>
    exact .forVariables (hloaded.of_inputs hinputs hinputs' state')
      ((Derivation.yields_routing snapshot _).perform_eq hrouting state')
      ((Derivation.yields_switching snapshot _).perform_eq hswitching state')
      ((hinputs.validate_iff hinputs' (.inr rfl) _).mp haccepted)

/-- The artifacts of a run are different ones, and none is one of the other run. -/
theorem nodup_artifacts (command : Command) : command.artifacts.Nodup := by
  cases command <;> decide

theorem not_mem_other (command : Command) :
    ∀ artifact ∈ command.artifacts, artifact ∉ command.other.artifacts := by
  cases command <;> decide

/-! ## Running again -/

/-- The inputs of a run that has planned its documents were there. -/
theorem Plans.exists_inputs {command : Command}
    (h : command.Plans compiler (.filesBelow root) (snapshot.inventory σ) tree state documents last)
    (hinstalled : AllInstalled tree compiler.schemas) :
    ∃ sites vpns, Inputs compiler.schemas root sites vpns tree := by
  obtain ⟨document, intent, loaded, hloaded⟩ : ∃ document intent loaded,
      compiler.Loaded (.filesBelow root) tree state document intent loaded := by
    cases h with
    | forServices hloaded => exact ⟨_, _, _, hloaded⟩
    | forVariables hloaded _ _ _ => exact ⟨_, _, _, hloaded⟩
  obtain ⟨sites, vpns, hdocuments, -⟩ := exists_of_serviceDocument hloaded.had
  obtain ⟨hsites, hvpns⟩ := readFile_of_documents hdocuments
  exact ⟨sites, vpns, hinstalled, readFile_eq_ok_iff.mp hsites, readFile_eq_ok_iff.mp hvpns⟩

/-- Where the inputs of a run are as they were and its documents are settled, it succeeds with the
same paths and changes no file. -/
theorem exists_rerun {command : Command} {store : Store} {schemas : SchemaDirectory}
    {sites vpns : Json} {between : FileTree} {s : σ}
    (hplans : command.Plans ⟨schemas, store⟩ (.filesBelow root) (snapshot.inventory σ) tree s
      documents last)
    (hinputs : Inputs schemas root sites vpns tree)
    (hinputs' : Inputs schemas root sites vpns between)
    (hsettled : ∀ document ∈ documents, store.Settled between document)
    (hpaths : documents.mapM (fun document => store.pathOf document.1) = .ok paths) (t : σ) :
    ∃ again, (command.run ⟨schemas, store⟩ (.filesBelow root) (snapshot.inventory σ)).perform
        (between, t) = (.ok paths, again, t) ∧
      (∀ document ∈ documents, store.Settled again document) ∧
      ∀ ℓ, again.fileAt ℓ = between.fileAt ℓ := by
  have hnodup : (documents.map Prod.fst).Nodup := by
    rw [hplans.artifacts_eq]
    exact command.nodup_artifacts
  obtain ⟨paths', again, hwrite, hsettled', hfiles⟩ := rewrite_settled hsettled hnodup
  obtain rfl := Except.ok.inj (hpaths.symm.trans (mapM_pathOf_of_perform hwrite))
  exact ⟨again, perform_run_eq_ok_iff.mpr
    ⟨documents, hplans.of_inputs hinputs hinputs' t, hwrite⟩, hsettled', hfiles⟩

/-- **What has been compiled is compiled again without any change.** Let the shipped schemas be in
place, and let a run on an intent and a store below one root succeed. Run again on what it has left
behind, it succeeds with the same paths and leaves every file as it is. So it does after the other
run, whatever comes of that one; and the artifacts are the same ones all along.

**Proof sketch.** The first run settles its documents, and the other one leaves them settled, since
it does not list their artifacts and no directory that it makes is in their way
(`Store.Settled.writeAll`). Neither of them writes a file that runs read, as these have other names
(`Inputs.writeAll`), and so the same documents are planned again (`Plans.of_inputs`). What is settled
can be written, and is then what it was (`Store.rewrite_settled`). -/
theorem recompilation_fixed {schemas : SchemaDirectory} {root : String} {snapshot : Snapshot}
    (command : Command) {tree after : FileTree} {s t : σ} {paths : List String}
    (hinstalled : AllInstalled tree schemas)
    (hrun : (command.run ⟨schemas, ⟨root⟩⟩ (.filesBelow root) (snapshot.inventory σ)).perform
      (tree, s) = (.ok paths, after, t)) :
    (∃ again, (command.run ⟨schemas, ⟨root⟩⟩ (.filesBelow root) (snapshot.inventory σ)).perform
        (after, t) = (.ok paths, again, t) ∧ ∀ ℓ, again.fileAt ℓ = after.fileAt ℓ) ∧
      let between := ((command.other.run ⟨schemas, ⟨root⟩⟩ (.filesBelow root)
        (snapshot.inventory σ)).perform (after, t)).2
      ∃ again, (command.run ⟨schemas, ⟨root⟩⟩ (.filesBelow root) (snapshot.inventory σ)).perform
          between = (.ok paths, again, between.2) ∧
        (∀ ℓ, again.fileAt ℓ = between.1.fileAt ℓ) ∧
        ∀ path ∈ paths, between.1.read path = after.read path ∧
          again.read path = after.read path := by
  obtain ⟨documents, hplans, hwrite⟩ := perform_run_eq_ok_iff.mp hrun
  have hpaths := mapM_pathOf_of_perform hwrite
  obtain ⟨sites, vpns, hinputs⟩ : ∃ sites vpns, Inputs schemas root sites vpns tree :=
    hplans.exists_inputs hinstalled
  -- the first run leaves the inputs alone and settles its documents
  have hinputsAfter : Inputs schemas root sites vpns after := by
    have hkept := hinputs.writeAll hplans.artifacts_eq ⟨root⟩
    rwa [hwrite] at hkept
  have hsettledAfter : ∀ document ∈ documents, Settled ⟨root⟩ after document := by
    have htransaction := committed_or_undone ⟨root⟩ documents tree
    rw [hwrite] at htransaction
    obtain ⟨slots, hcommitted, -⟩ := htransaction
    exact fun document => settled_of_committed hcommitted
  obtain ⟨again, hagain, -, hfiles⟩ :=
    exists_rerun hplans hinputs hinputsAfter hsettledAfter hpaths t
  refine ⟨⟨again, hagain, hfiles⟩, ?_⟩
  intro between
  -- so does the other run, whatever it writes
  have hbetween : Inputs schemas root sites vpns between.1 ∧
      ∀ document ∈ documents, Settled ⟨root⟩ between.1 document := by
    rcases command.other.touches_run ⟨schemas, ⟨root⟩⟩ (.filesBelow root) (snapshot.inventory σ)
      after t with heq | ⟨others, hothers, heq⟩
    · exact ⟨heq ▸ hinputsAfter, heq ▸ hsettledAfter⟩
    · refine ⟨heq ▸ hinputsAfter.writeAll hothers ⟨root⟩, fun document hdocument => ?_⟩
      have hartifact : document.1 ∈ command.artifacts :=
        hplans.artifacts_eq ▸ List.mem_map_of_mem hdocument
      have hkept := (hsettledAfter document hdocument).writeAll
        (hothers ▸ command.not_mem_other document.1 hartifact)
      exact heq ▸ hkept
  obtain ⟨last, hlast, hsettledLast, hfilesLast⟩ :=
    exists_rerun hplans hinputs hbetween.1 hbetween.2 hpaths between.2
  refine ⟨last, hlast, hfilesLast, fun path hpath => ?_⟩
  obtain ⟨document, hdocument, hplace⟩ := exists_mem_of_forall₂ (mapM_eq_ok_iff.mp hpaths) hpath
  exact ⟨(hsettledAfter document hdocument).read_eq (hbetween.2 document hdocument) hplace,
    (hsettledAfter document hdocument).read_eq (hsettledLast document hdocument) hplace⟩

/-! ## An intent that is compiled -/

end Command

/-- A site with one router. -/
def edgeSites : Json :=
  .obj [("site-service:sites", .arr [.obj [("id", .int 1), ("name", .str "hq"),
      ("router", .arr [.str "R1"]), ("type", .str "DC")]])]

/-- A VPN with the greatest number. -/
def edgeVpns : Json :=
  .obj [("vpn-service:vpns", .arr [.obj [("id", .int 9223372036854775807), ("name", .str "data"),
      ("sites", .arr [.str "DC"])]])]

/-- A tree with the shipped schemas, the files of an intent, and directories for variables. -/
def edgeFiles : FileTree :=
  ((((((schemaTree.put ["net"] .directory).put ["net", "services"] .directory).put
    ["net", "services", "sites.json"] (.file (Grammar.schemaText edgeSites))).put
    ["net", "services", "vpns.json"] (.file (Grammar.schemaText edgeVpns))).put
    ["net", "services", "terraform"] .directory).put
    ["net", "services", "terraform", "routing"] .directory).put
    ["net", "services", "terraform", "switching"] .directory

/-- The routing variables that are derived from the files. -/
def edgeRouting : Routing.Document :=
  ⟨[⟨"R1", "edge", Derivation.edgeSettings 9223372036854775807⟩],
    [⟨9223372036854775807, "data", [.dataCentre]⟩], ["edge"]⟩

/-- The switching variables that are derived from the files. There are no switches. -/
def edgeSwitching : Switching.Document :=
  ⟨[], [⟨9223372036854775807, "data", [], []⟩], []⟩

theorem allInstalled_edgeFiles : AllInstalled edgeFiles (.new "schemas") :=
  ((((((allInstalled_schemaTree.put rfl).put rfl).put rfl).put rfl).put rfl).put rfl).put rfl

theorem inputs_edgeFiles : Inputs (.new "schemas") "net" edgeSites edgeVpns edgeFiles where
  toAllInstalled := allInstalled_edgeFiles
  sites := Grammar.exists_schemaText ["net", "services", "sites.json"] (by decide +kernel) rfl
    (by decide +kernel)
  vpns := Grammar.exists_schemaText ["net", "services", "vpns.json"] (by decide +kernel) rfl
    (by decide +kernel)

/-- The intent of the files is loaded. -/
theorem loaded_edgeFiles : Loaded ⟨.new "schemas", ⟨"net"⟩⟩ (.filesBelow "net") edgeFiles ()
    (Derivation.oneVpnDocument 9223372036854775807) (Derivation.oneVpnIntent 9223372036854775807)
    () where
  had := perform_serviceDocument_files (readFile_eq_ok_iff.mpr inputs_edgeFiles.sites)
    (readFile_eq_ok_iff.mpr inputs_edgeFiles.vpns) ()
  accepted :=
    (Grammar.validate_eq_ok_iff (Grammar.schema_services inputs_edgeFiles.toInstalled)).mpr
      ⟨by decide +kernel, fun _ => by decide +kernel⟩
  understood := by decide +kernel

/-- The variables of the files are derived. -/
theorem derived_edgeFiles :
    (Derivation.routing (Derivation.edgeRouter.inventory Unit)
      (Derivation.oneVpnIntent 9223372036854775807)).perform () = (.ok edgeRouting, ()) ∧
    (Derivation.switching (Derivation.edgeRouter.inventory Unit)
      (Derivation.oneVpnIntent 9223372036854775807)).perform () = (.ok edgeSwitching, ()) :=
  ⟨by decide +kernel, by decide +kernel⟩

/-- The variables of the files are compiled. -/
theorem compileVariables_edgeFiles : ∃ first second after,
    (compileVariables ⟨.new "schemas", ⟨"net"⟩⟩ (.filesBelow "net")
      (Derivation.edgeRouter.inventory Unit)).perform (edgeFiles, ()) =
        (.ok (first, second), after, ()) := by
  have hwritable : ∀ document ∈ [(Artifact.routing, edgeRouting.toJson),
      (Artifact.switching, edgeSwitching.toJson)], Writable ⟨"net"⟩ edgeFiles document := by
    simp only [List.forall_mem_cons]
    exact ⟨⟨⟨⟨["net", "services", "terraform", "routing"], "terraform.tfvars.json"⟩,
        ⟨"net/services/terraform/routing/terraform.tfvars.json", by decide +kernel,
          by decide +kernel, by decide +kernel⟩, by decide +kernel, by decide +kernel⟩, _, rfl⟩,
      ⟨⟨⟨["net", "services", "terraform", "switching"], "terraform.tfvars.json"⟩,
        ⟨"net/services/terraform/switching/terraform.tfvars.json", by decide +kernel,
          by decide +kernel, by decide +kernel⟩, by decide +kernel, by decide +kernel⟩, _, rfl⟩,
      by simp⟩
  obtain ⟨paths, after, hwrite⟩ := exists_writeAll hwritable (by decide)
  obtain ⟨first, second, -, -, rfl⟩ := exists_of_perform_variables hwrite
  have haccepted : (SchemaDirectory.new "schemas").validate edgeFiles .deployment
      (variablesDocument (Derivation.oneVpnDocument 9223372036854775807) edgeRouting
        edgeSwitching) = .ok () :=
    (Grammar.validate_eq_ok_iff (schema_deployment allInstalled_edgeFiles)).mpr
      ⟨by decide +kernel, nofun⟩
  exact ⟨first, second, after, perform_compileVariables_eq_ok_iff.mpr
    ⟨_, _, _, _, _, _, loaded_edgeFiles, derived_edgeFiles.1, derived_edgeFiles.2, haccepted,
      hwrite⟩⟩

/-- The variables of the files are compiled again without any change. -/
theorem recompilation_fixed_edgeFiles : AllInstalled edgeFiles (.new "schemas") ∧
    ∃ paths after again,
      (Command.forVariables.run ⟨.new "schemas", ⟨"net"⟩⟩ (.filesBelow "net")
        (Derivation.edgeRouter.inventory Unit)).perform (edgeFiles, ()) = (.ok paths, after, ()) ∧
      (Command.forVariables.run ⟨.new "schemas", ⟨"net"⟩⟩ (.filesBelow "net")
        (Derivation.edgeRouter.inventory Unit)).perform (after, ()) = (.ok paths, again, ()) ∧
      ∀ ℓ, again.fileAt ℓ = after.fileAt ℓ := by
  obtain ⟨first, second, after, hcompile⟩ := compileVariables_edgeFiles
  have hrun : (Command.forVariables.run ⟨.new "schemas", ⟨"net"⟩⟩ (.filesBelow "net")
      (Derivation.edgeRouter.inventory Unit)).perform (edgeFiles, ()) =
        (.ok [first, second], after, ()) := Action.perform_bind_ok hcompile _
  obtain ⟨⟨again, hagain, hfiles⟩, -⟩ :=
    Command.recompilation_fixed .forVariables allInstalled_edgeFiles hrun
  exact ⟨allInstalled_edgeFiles, [first, second], after, again, hrun, hagain, hfiles⟩

end NetworkIntent.Compiler
