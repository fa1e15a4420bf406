import Mathlib.Control.Monad.Basic
import NetworkIntent.Proofs.Reading

/-!
# A store as a map

To a caller a store is a map from artifacts to documents. Whatever the operations on it are, and
whichever of them fail, reading an artifact gives the document that it was last given with success.

## Main definitions

* `Store.Operation`: what a caller does with a store.
* `Store.Known`: the map, the last document that each artifact was given.
* `Store.run`: the map and the file tree after a list of operations.
* `Store.Represents`: a file tree that has the documents of a map.

## Main results

* `Store.Operation.represents_step`, `Store.represents_run`: the file tree always has the documents
  of the map.
* `Store.spares_of_perform`: an operation that fails, or is about other artifacts, spares an
  artifact.
* `Store.run_refines`: a store is a map to its callers.
* `Store.read_changed_by_failed_write`: what is not found can become inaccessible, or be found.
-/

set_option autoImplicit false

namespace NetworkIntent.Store

open FileTree

variable {store : Store} {tree before after : FileTree} {artifact : Artifact} {document : Json}

/-! ## Operations -/

/-- What a caller does with a store. -/
inductive Operation where
  | write (artifact : Artifact) (document : Json)
  | writeAll (documents : List (Artifact × Json))
  | read (artifact : Artifact)

/-- The documents that an operation is to store. -/
def Operation.documents : Operation → List (Artifact × Json)
  | .write artifact document => [(artifact, document)]
  | .writeAll documents => documents
  | .read _ => []

/-- Whether something succeeds, whatever its result is, and the files after it. -/
def outcome {α : Type} (performed : Except Fault α × FileTree) : Except Fault Unit × FileTree :=
  (performed.1.map fun _ => (), performed.2)

/-- Whether an operation succeeds, and the files after it. -/
def Operation.perform (store : Store) : Operation → FileTree → Except Fault Unit × FileTree
  | .write artifact document, tree => outcome ((store.write artifact document).perform tree)
  | .writeAll documents, tree => outcome ((store.writeAll documents).perform tree)
  | .read artifact, tree => outcome (store.read artifact tree, tree)

/-- What is known of a store: the last document that each artifact was given. -/
abbrev Known := Artifact → Option Json

/-- What is known after artifacts are given documents. -/
def Known.give (documents : List (Artifact × Json)) (known : Known) : Known :=
  fun artifact => (documents.lookup artifact).or (known artifact)

/-- What is known, and the files, after an operation. One that fails gives no documents. -/
def Operation.step (store : Store) (state : Known × FileTree) (operation : Operation) :
    Known × FileTree :=
  match operation.perform store state.2 with
  | (.ok (), after) => (state.1.give operation.documents, after)
  | (.error _, after) => (state.1, after)

/-- What is known, and the files, after operations one after the other, of which nothing is known at
first. -/
def run (store : Store) (operations : List Operation) (initial : FileTree) : Known × FileTree :=
  operations.foldl (Operation.step store) (fun _ => none, initial)

/-! ## What an operation does to the files -/

/-- An artifact without a path is not written, and the files stay as they are; otherwise writing it
is a transaction. -/
theorem outcome_write (store : Store) (artifact : Artifact) (document : Json) (tree : FileTree) :
    outcome ((store.write artifact document).perform tree) =
      match store.pathOf artifact with
      | .error fault => (.error fault, tree)
      | .ok _ => outcome ((store.writeAll [(artifact, document)]).perform tree) := by
  rw [write]
  rcases hpath : store.pathOf artifact with fault | path
  · rfl
  · rw [Action.ofExcept_ok_bind, Action.perform_bind]
    rcases (store.writeAll [(artifact, document)]).perform tree with ⟨fault | paths, after⟩ <;> rfl

/-- A failure before any file is touched leaves nothing behind. -/
theorem undone_nil (store : Store) (artifacts : List Artifact) (tree : FileTree) :
    Undone store artifacts tree tree [] :=
  ⟨by simp, by simp, by simp, .refl tree⟩

/-- The documents of an operation are in place if it succeeds, and else nothing is left of them. -/
theorem Operation.committed_or_undone (store : Store) (operation : Operation) (before : FileTree) :
    match operation.perform store before with
    | (.error _, after) =>
      ∃ slots, Undone store (operation.documents.map Prod.fst) before after slots
    | (.ok (), after) => ∃ slots, Committed store operation.documents before after slots := by
  have htransaction : ∀ documents,
      match outcome ((store.writeAll documents).perform before) with
      | (.error _, after) => ∃ slots, Undone store (documents.map Prod.fst) before after slots
      | (.ok (), after) => ∃ slots, Committed store documents before after slots := by
    intro documents
    have h := Store.committed_or_undone store documents before
    rcases hperform : (store.writeAll documents).perform before with ⟨fault | paths, after⟩
    · rw [hperform] at h
      exact h
    · rw [hperform] at h
      obtain ⟨slots, hcommitted, -⟩ := h
      exact ⟨slots, hcommitted⟩
  cases operation with
  | write artifact document =>
    rw [Operation.perform, outcome_write]
    rcases store.pathOf artifact with fault | path
    · exact ⟨[], undone_nil store _ before⟩
    · exact htransaction [(artifact, document)]
  | writeAll documents => exact htransaction documents
  | read artifact =>
    rw [Operation.perform]
    rcases store.read artifact before with fault | document
    · exact ⟨[], undone_nil store _ before⟩
    · exact ⟨[], .nil, by simp, by simp, by simp, by simp, .refl before⟩

/-- **An operation spares an artifact if it fails or if it is about other artifacts.** -/
theorem spares_of_perform {operation : Operation} {result : Except Fault Unit}
    (h : operation.perform store before = (result, after))
    (hspared : (∃ fault, result = .error fault) ∨ artifact ∉ operation.documents.map Prod.fst) :
    Spares store artifact before after := by
  have htransaction := operation.committed_or_undone store before
  rw [h] at htransaction
  cases result with
  | error fault =>
    obtain ⟨slots, hundone⟩ := htransaction
    exact hundone.spares artifact
  | ok =>
    obtain ⟨slots, hcommitted⟩ := htransaction
    refine hcommitted.spares (hspared.resolve_left ?_)
    rintro ⟨fault, hfault⟩
    simp at hfault

/-- No operation breaks what no operation on files breaks. -/
theorem stable_perform {P : FileTree → Prop} (hP : Stable P) (store : Store) (operation : Operation)
    (h : P tree) : P (operation.perform store tree).2 := by
  cases operation with
  | write artifact document =>
    rw [Operation.perform, outcome_write]
    rcases store.pathOf artifact with fault | path
    · exact h
    · exact stable_writeAll hP store _ h
  | writeAll documents => exact stable_writeAll hP store documents h
  | read artifact => exact h

/-! ## The map -/

/-- A file tree has the documents of a map: each of them is storable, and its artifact contains it.
-/
def Represents (store : Store) (known : Known) (tree : FileTree) : Prop :=
  ∀ artifact document, known artifact = some document →
    document.Storable ∧ store.Contains tree artifact document

/-- **After an operation the files have what is known then.**

**Proof sketch.** An operation that fails spares all artifacts. One that succeeds puts its
documents in place, and spares the artifacts that it does not list. -/
theorem Operation.represents_step {operation : Operation} {known : Known}
    (h : Represents store known tree)
    (hstorable : ∀ entry ∈ operation.documents, entry.2.Storable) :
    Represents store (operation.step store (known, tree)).1
      (operation.step store (known, tree)).2 := by
  rw [Operation.step]
  rcases hperform : operation.perform store tree with ⟨fault | _, after⟩
  · intro artifact document hknown
    obtain ⟨hdocument, hbefore⟩ := h artifact document hknown
    exact ⟨hdocument, (spares_of_perform hperform (.inl ⟨fault, rfl⟩)).contains hbefore⟩
  · have htransaction := operation.committed_or_undone store tree
    rw [hperform] at htransaction
    obtain ⟨slots, hcommitted⟩ := htransaction
    intro artifact document hknown
    change (operation.documents.lookup artifact).or (known artifact) = some document at hknown
    rw [Option.or_eq_some_iff] at hknown
    rcases hknown with hlookup | ⟨hlookup, hknown⟩
    · have hmem : (artifact, document) ∈ operation.documents := by
        obtain ⟨front, rest, heq, -⟩ := List.lookup_eq_some_iff.mp hlookup
        rw [heq]
        simp
      exact ⟨hstorable _ hmem, hcommitted.contains hmem⟩
    · obtain ⟨hdocument, hbefore⟩ := h artifact document hknown
      have hlisted : artifact ∉ operation.documents.map Prod.fst := by
        intro hmem
        obtain ⟨⟨artifact', document'⟩, hentry, rfl⟩ := List.mem_map.mp hmem
        exact (bne_iff_ne.mp (List.lookup_eq_none_iff.mp hlookup _ hentry)) rfl
      exact ⟨hdocument, (spares_of_perform hperform (.inr hlisted)).contains hbefore⟩

/-- After any operations the files have what is known. -/
theorem represents_run (initial : FileTree) (operations : List Operation)
    (hstorable : ∀ operation ∈ operations, ∀ entry ∈ operation.documents, entry.2.Storable) :
    Represents store (store.run operations initial).1 (store.run operations initial).2 := by
  have hfold : ∀ (operations : List Operation) (state : Known × FileTree),
      (∀ operation ∈ operations, ∀ entry ∈ operation.documents, entry.2.Storable) →
      Represents store state.1 state.2 →
      Represents store (operations.foldl (Operation.step store) state).1
        (operations.foldl (Operation.step store) state).2 := by
    intro operations
    induction operations with
    | nil => exact fun state _ h => h
    | cons operation operations ih =>
      intro state hstorable h
      exact ih _ (fun operation' hmem => hstorable operation' (List.mem_cons_of_mem _ hmem))
        (Operation.represents_step h (hstorable operation List.mem_cons_self))
  exact hfold operations _ hstorable fun artifact document hknown => by simp at hknown

/-- No operations break what no operation on files breaks. -/
theorem stable_run {P : FileTree → Prop} (hP : Stable P) (store : Store)
    (operations : List Operation) {initial : FileTree} (h : P initial) :
    P (store.run operations initial).2 := by
  have hfold : ∀ (operations : List Operation) (state : Known × FileTree), P state.2 →
      P (operations.foldl (Operation.step store) state).2 := by
    intro operations
    induction operations with
    | nil => exact fun state h => h
    | cons operation operations ih =>
      intro state h
      refine ih _ ?_
      have hperform := stable_perform hP store operation h
      rw [Operation.step]
      rcases hresult : operation.perform store state.2 with ⟨_ | _, after⟩ <;>
        rwa [hresult] at hperform
  exact hfold operations _ h

/-- **A store is a map to its callers.** After any operations an artifact that was given a document
with success is read as the last one, in its exchange form. Whatever is done next, an artifact that
it is not about, or any if it fails, is read as before. The exception is an artifact that was not
found: its file may then not be accessible instead. It is not found to have a document, if the files
were well formed at first and the path of the root does not go back up.

**Proof sketch.** The files have the documents of the map, and a stored document is read back. An
operation that fails or that is about other artifacts spares an artifact, and a spared artifact is
read as before. -/
theorem run_refines (store : Store) (initial : FileTree) (operations : List Operation)
    (hstorable : ∀ operation ∈ operations, ∀ entry ∈ operation.documents, entry.2.Storable) :
    (∀ artifact document, (store.run operations initial).1 artifact = some document →
      ∃ form, exchangeForm artifact document = .ok form ∧
        store.read artifact (store.run operations initial).2 = .ok form ∧
        ((∀ c : Collection, document.get? (c.key .plain) = none) → form = document)) ∧
    (∀ (operation : Operation) (artifact : Artifact) (result : Except Fault Unit)
      (after : FileTree),
      operation.perform store (store.run operations initial).2 = (result, after) →
      (∃ fault, result = .error fault) ∨ artifact ∉ operation.documents.map Prod.fst →
      store.read artifact after = store.read artifact (store.run operations initial).2 ∨
      ∃ path, store.read artifact (store.run operations initial).2 =
          .error (.notFound artifact path) ∧
        (initial.WellFormed → ".." ∉ Path.parts store.root →
          ∃ cause, store.read artifact after = .error (.file path cause))) := by
  constructor
  · intro artifact document hknown
    obtain ⟨hdocument, hcontains⟩ :=
      represents_run initial operations hstorable artifact document hknown
    obtain ⟨form, hform, hread⟩ := hcontains.read_eq hdocument
    refine ⟨form, hform, hread, fun habsent => ?_⟩
    rw [exchangeForm_of_absent artifact hdocument habsent] at hform
    exact (Except.ok.inj hform).symm
  · intro operation artifact result after hperform hspared
    rcases (spares_of_perform hperform hspared).read_eq with heq | ⟨path, hbefore, hafter⟩
    · exact .inl heq
    · exact .inr ⟨path, hbefore,
        fun hwf => hafter (stable_run stable_wellFormed store operations hwf)⟩

/-- A write that succeeds, and one that lists the same artifact twice, which fails. -/
def writtenOnce : List Operation :=
  [.write (.baseline .vrf "r") (.obj []),
    .writeAll [(.baseline .vrf "r", .null), (.baseline .vrf "r", .null)]]

/-- The failure does not get in the way of the first document. -/
theorem read_writtenOnce :
    (Store.mk "d").read (.baseline .vrf "r") ((Store.mk "d").run writtenOnce .empty).2 =
      .ok (.obj []) := by
  have hempty : (Json.obj []).Storable :=
    (Json.storable_obj_iff []).mpr ⟨Table.ascending_nil, by simp⟩
  have hnull : Json.null.Storable := ⟨trivial, trivial, Nat.zero_le _⟩
  have hstorable : ∀ operation ∈ writtenOnce, ∀ entry ∈ operation.documents, entry.2.Storable := by
    simp [writtenOnce, Operation.documents, hempty, hnull]
  have hknown : ((Store.mk "d").run writtenOnce .empty).1 (.baseline .vrf "r") =
      some (.obj []) := by
    decide +kernel
  obtain ⟨hmap, -⟩ := run_refines ⟨"d"⟩ .empty writtenOnce hstorable
  obtain ⟨form, -, hread, hform⟩ := hmap _ _ hknown
  rw [hread, hform fun c => rfl]

/-! ## Artifacts that are not found

The exception is no empty one: where a directory on the way to an artifact is missing, no name after
it is looked at.
-/

/-- A device with a fine name that is too long for its file to have it. -/
structure Overlong (device : String) : Prop where
  fine : Artifact.nameFault? device = none
  noNul : '\x00' ∉ device.toList
  long : maxNameLength < (Artifact.baseline .vrf device).fileName.utf8ByteSize
  short : device.utf8ByteSize < 4000

/-- The file tree that has the directory of baselines below `data`, and nothing else. -/
def baselineDirectory : FileTree :=
  ⟨[(["data", "baseline"], .directory), (["data"], .directory)], []⟩

section Overlong

variable {device : String}

/-- The path of the baseline of a device below `data`. -/
private theorem pathOf_baseline (h : Artifact.nameFault? device = none) :
    (Store.mk "data").pathOf (.baseline .vrf device) =
      .ok ("data/baseline/base-vrf_" ++ device ++ ".json") := by
  have hdirectory : Path.join "data" "baseline" = "data/baseline" := by decide
  have hslash : ("data/baseline" : String).toList.getLast? ≠ some '/' := by decide
  have hrelative : Path.isAbsolute ("base-vrf_" ++ device ++ ".json") = false := by
    simp [Path.isAbsolute]
  have hfile : (Artifact.baseline .vrf device).fileName = "base-vrf_" ++ device ++ ".json" := by
    rw [show ("base-vrf_" : String) = "base-" ++ "vrf" ++ "_" by decide]
    rfl
  have hplace : (Artifact.baseline .vrf device).place =
      .ok ⟨"baseline", (Artifact.baseline .vrf device).fileName⟩ := by
    rw [Artifact.place, h]
    rfl
  have hpath : ("data/baseline/base-vrf_" : String) = "data/baseline" ++ "/" ++ "base-vrf_" := by
    decide
  rw [pathOf, hplace]
  dsimp only
  rw [fileOf, directoryOf, hdirectory, hfile, Path.join, hrelative, if_neg (by decide),
    if_neg hslash, hpath]
  simp only [String.append_assoc]

/-- The path of an overlong baseline passes the checks of paths, and has the names of the directory
before its own. -/
private theorem locate_overlong (h : Overlong device) (tree : FileTree)
    (hworking : tree.working = []) :
    tree.locate ("data/baseline/base-vrf_" ++ device ++ ".json") =
      tree.follow [] (["data", "baseline"] ++ [(Artifact.baseline .vrf device).fileName]) := by
  obtain ⟨hstart, hnames⟩ := names_of_pathOf (pathOf_baseline h.fine) tree
  have hroot : tree.start "data" = [] := by
    rw [start, if_neg (by decide), hworking]
  have hparts : Path.parts "data" = ["data"] := by decide
  have hempty : ("data/baseline/base-vrf_" ++ device ++ ".json").isEmpty = false := by
    simp
  have hsize : ¬maxPathLength ≤ ("data/baseline/base-vrf_" ++ device ++ ".json").utf8ByteSize := by
    have hfront : ("data/baseline/base-vrf_" : String).utf8ByteSize = 23 := by decide
    have hback : (".json" : String).utf8ByteSize = 5 := by decide
    have hshort := h.short
    rw [String.utf8ByteSize_append, String.utf8ByteSize_append, hfront, hback, maxPathLength]
    omega
  have hnul : ("data/baseline/base-vrf_" ++ device ++ ".json").toList.contains '\x00' = false := by
    have hdevice := h.noNul
    simp [hdevice]
  rw [locate, hstart, hnames, hroot, hparts, hempty, hnul, if_neg (by decide), if_neg (by decide),
    if_neg hsize]
  rfl

/-- Without the directory of baselines an overlong one is not found. -/
theorem read_overlong_empty (h : Overlong device) :
    (Store.mk "data").read (.baseline .vrf device) FileTree.empty =
      .error (.notFound (.baseline .vrf device)
        ("data/baseline/base-vrf_" ++ device ++ ".json")) := by
  rw [read_of_pathOf (pathOf_baseline h.fine), FileTree.read, locate_overlong h _ rfl]
  rfl

/-- With the directory of baselines the name of an overlong one is too long. -/
private theorem fileTree_read_overlong (h : Overlong device) :
    baselineDirectory.read ("data/baseline/base-vrf_" ++ device ++ ".json") =
      .error .nameTooLong := by
  obtain ⟨place, hplace, -⟩ := exists_place_of_pathOf (pathOf_baseline h.fine)
  have hplain : Path.Plain (Artifact.baseline .vrf device).fileName :=
    (Artifact.names_of_place hplace).2 ▸ (Artifact.sound_of_place hplace).plain
  have hdirectory :
      baselineDirectory.follow [] ["data", "baseline"] = .ok ["data", "baseline"] := by
    decide
  have hget : baselineDirectory.get? ["data", "baseline"] = some .directory := by decide
  rw [FileTree.read, locate_overlong h _ rfl, follow_append, hdirectory]
  simp only [Except.bind, follow, hget, child_plain hplain, if_pos h.long]

theorem read_overlong (h : Overlong device) :
    (Store.mk "data").read (.baseline .vrf device) baselineDirectory =
      .error (.file ("data/baseline/base-vrf_" ++ device ++ ".json") .nameTooLong) := by
  rw [read_of_pathOf (pathOf_baseline h.fine), fileTree_read_overlong h]

/-- Writing an overlong baseline fails only when its directory has been made. -/
private theorem perform_overlong (h : Overlong device) (document : Json) :
    (Operation.write (.baseline .vrf device) document).perform ⟨"data"⟩ FileTree.empty =
      (.error (.file ("data/baseline/base-vrf_" ++ device ++ ".json") .nameTooLong),
        baselineDirectory) := by
  obtain ⟨place, hplace, hpath⟩ := exists_place_of_pathOf (pathOf_baseline h.fine)
  have hdirectory : (Store.mk "data").directoryOf place = "data/baseline" := by
    rw [Artifact.place, h.fine] at hplace
    obtain rfl := Except.ok.inj hplace
    change Path.join "data" "baseline" = "data/baseline"
    decide
  have hmake : FileTree.empty.makeDirectories "data/baseline" = (.ok (), baselineDirectory) := by
    decide
  rw [Operation.perform, outcome_write, pathOf_baseline h.fine]
  dsimp only
  rw [writeAll, Action.perform_step, stageAll, stage, hplace]
  dsimp only [storedForm]
  rw [hdirectory, ← hpath, stageText, hmake]
  dsimp only
  rw [previousAt, fileTree_read_overlong h]
  rfl

end Overlong

/-- A device with a name of 300 characters. -/
def overlongDevice : String :=
  String.ofList (List.replicate 300 'x')

private theorem toList_overlongDevice : overlongDevice.toList = List.replicate 300 'x' :=
  String.toList_ofList

private theorem overlong_overlongDevice : Overlong overlongDevice where
  fine := by
    rw [Artifact.nameFault?, toList_overlongDevice]
    decide +kernel
  noNul := by
    rw [toList_overlongDevice]
    exact fun hmem => absurd (List.eq_of_mem_replicate hmem) (by decide)
  long := by decide +kernel
  short := by decide +kernel

/-- A baseline below `f`, where the path `x/../f` leads only if there is a directory `x`. -/
def reachedThroughX : FileTree :=
  ⟨[(["f", "baseline", "base-vrf_r.json"], .file (Utf8.ofString "1")),
    (["f", "baseline"], .directory), (["f"], .directory)], []⟩

/-- **A failed operation can change what is read.** The baseline of a device whose name is too long
is not found at first. After it could not be written, the failure is another one. If the path of the
root goes back up, even a document is found after a failure that made a directory on the way. -/
theorem read_changed_by_failed_write :
    (∃ (path : String) (after : FileTree),
      (Operation.write (.baseline .vrf overlongDevice) .null).perform ⟨"data"⟩ FileTree.empty =
        (.error (.file path .nameTooLong), after) ∧
      (Store.mk "data").read (.baseline .vrf overlongDevice) FileTree.empty =
        .error (.notFound (.baseline .vrf overlongDevice) path) ∧
      (Store.mk "data").read (.baseline .vrf overlongDevice) after =
        .error (.file path .nameTooLong)) ∧
    (let store : Store := ⟨"x/../f"⟩
      let performed :=
        (Operation.writeAll [(.routing, .null), (.routing, .null)]).perform store reachedThroughX
      performed.1 =
        .error (.file "x/../f/services/terraform/routing/terraform.tfvars.json" .notFound) ∧
      store.read (.baseline .vrf "r") reachedThroughX =
        .error (.notFound (.baseline .vrf "r") "x/../f/baseline/base-vrf_r.json") ∧
      store.read (.baseline .vrf "r") performed.2 = .ok (.int 1)) := by
  refine ⟨⟨_, _, perform_overlong overlong_overlongDevice .null, ?_, ?_⟩, ?_⟩
  · exact read_overlong_empty overlong_overlongDevice
  · exact read_overlong overlong_overlongDevice
  · decide +kernel

end NetworkIntent.Store
