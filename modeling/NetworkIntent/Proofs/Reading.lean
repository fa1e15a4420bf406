import NetworkIntent.Proofs.ArtifactFile
import NetworkIntent.Proofs.Document
import NetworkIntent.Proofs.Json.RoundTrip

/-!
# Reading artifacts

What reading an artifact gives depends on its file and on the way to it. A transaction that fails,
or that does not list the artifact, leaves both alone, so reading gives the same as before. Only
where there was nothing to be read can the outcome be another one, since directories on the way may
have been made; and a document is not found there in a well-formed tree, unless the path of the
root goes back up.

## Main definitions

* `Store.Spares`: the file of an artifact and what is on the way to it are left alone.
* `Store.exchangeForm`: the document that is read back where a document was written.

## Main results

* `Store.Undone.spares`, `Store.Committed.spares`: transactions spare artifacts.
* `Store.Spares.read_eq`: reading a spared artifact.
* `Store.Contains.read_eq`: reading an artifact that contains a document.
-/

set_option autoImplicit false

namespace NetworkIntent.Store

open FileTree

variable {store : Store} {before after : FileTree} {ℓ : Location} {path : String}
  {artifact : Artifact} {slots : List Slot} {slot : Slot} {documents : List (Artifact × Json)}

/-! ## Artifacts that are left alone -/

/-- The file of an artifact and what is on the way to it are left alone: directories are kept, the
file is the same, and a file in the way stays one. -/
structure Spares (store : Store) (artifact : Artifact) (before after : FileTree) : Prop extends
    KeepsDirectories before after where
  file : ∀ path ℓ, store.pathOf artifact = .ok path → after.locate path = .ok ℓ →
    after.fileAt ℓ = before.fileAt ℓ
  way : ∀ path front name rest q, store.pathOf artifact = .ok path →
    Path.names path = front ++ name :: rest → before.follow (before.start path) front = .ok q →
    before.fileAt q ≠ none → after.fileAt q ≠ none

/-- What is not touched is spared. -/
theorem Spares.refl (store : Store) (artifact : Artifact) (tree : FileTree) :
    Spares store artifact tree tree :=
  ⟨.refl tree, fun _ _ _ _ => rfl, fun _ _ _ _ _ _ _ _ h => h⟩

/-- No name of a directory is the one of a file of a slot. -/
private theorem not_mem_directoryNames (hslot : slot.Standing store before after)
    (artifact : Artifact) (last : String)
    (hlast : last = slot.site.name ∨ last = slot.site.name ++ ".tmp") :
    last ∉ artifact.directoryNames := by
  obtain ⟨place, hplace, -, hname⟩ := hslot.sound
  obtain ⟨hfile, hstaging⟩ := (Artifact.sound_of_place hplace).not_mem_directoryNames artifact
  rcases hlast with rfl | rfl
  · rwa [hname]
  · rwa [hname]

/-- The file and the staging file of a slot are in the directories of its artifact, below where the
root leads to. -/
theorem Slot.exists_eq_append_of_site (slot : Slot) {d : Location}
    (hpath : slot.site.path = d ++ (slot.artifact.directoryNames ++ [slot.artifact.fileName]))
    (hsite : ℓ = slot.site.path ∨ ℓ = slot.site.staging) :
    ∃ x, ℓ = d ++ (slot.artifact.directoryNames ++ [x]) ∧
      (x = slot.site.name ∨ x = slot.site.name ++ ".tmp") := by
  have hsplit : slot.site.directory ++ [slot.site.name] =
      (d ++ slot.artifact.directoryNames) ++ [slot.artifact.fileName] := by
    rw [List.append_assoc, ← hpath, Site.path]
  obtain ⟨hdirectory, -⟩ := List.append_inj' hsplit rfl
  rcases hsite with rfl | rfl
  · exact ⟨slot.site.name, by rw [Site.path, hdirectory, List.append_assoc], .inl rfl⟩
  · exact ⟨slot.site.name ++ ".tmp", by rw [Site.staging, hdirectory, List.append_assoc], .inr rfl⟩

/-- No site of a slot, where there is no directory, is on the way to an artifact.

**Proof sketch.** The root leads to a directory, and all on the way there are directories. On the
way from there are the directories of artifacts only, which do not have the names of files. -/
theorem Slot.Standing.not_on_way (hslot : slot.Standing store before after)
    (hpath : store.pathOf artifact = .ok path) {front : List String} {name : String}
    {rest : List String} (hnames : Path.names path = front ++ name :: rest)
    (hfront : after.follow (after.start path) front = .ok ℓ)
    (hsite : ℓ = slot.site.path ∨ ℓ = slot.site.staging) : after.get? ℓ = some .directory := by
  obtain ⟨d, hroot, hsitePath⟩ := exists_root_of_locate hslot.pathOf_eq hslot.path
  obtain ⟨hstart, hpathNames⟩ := names_of_pathOf hpath after
  rw [hstart] at hfront
  rw [hpathNames] at hnames
  obtain ⟨x, hℓ, hx⟩ := slot.exists_eq_append_of_site hsitePath hsite
  rcases List.append_eq_append_iff.mp hnames with ⟨more, hfrontEq, hmore⟩ | ⟨more, hrootEq, hmore⟩
  · -- on the way from the root to the artifact
    have hdirectory : artifact.directoryNames = more ++ (name :: rest).dropLast := by
      rw [← List.dropLast_append_of_ne_nil (List.cons_ne_nil name rest), ← hmore,
        List.dropLast_concat]
    rw [hfrontEq, follow_append, hroot] at hfront
    have hmorePlain : ∀ n ∈ more, Path.Plain n := fun n hn =>
      Artifact.plain_of_mem_directoryNames (by rw [hdirectory]; exact List.mem_append_left _ hn)
    have hℓ' := after.follow_plain hmorePlain hfront
    have hx' : x ∈ more := by
      rw [List.append_cancel_left (hℓ'.symm.trans hℓ)]
      simp
    refine absurd ?_ (not_mem_directoryNames hslot artifact x hx)
    rw [hdirectory]
    exact List.mem_append_left _ hx'
  · -- on the way to the root
    rw [hrootEq, follow_append, hfront] at hroot
    cases more with
    | nil =>
      obtain rfl := Except.ok.inj hroot
      simp at hℓ
    | cons n more =>
      simp only [Except.bind, follow] at hroot
      rcases hget : after.get? ℓ with _ | (_ | _)
      · simp [hget] at hroot
      · simp [hget] at hroot
      · rfl

/-- **A failed transaction spares every artifact.** -/
theorem Undone.spares {artifacts : List Artifact} (h : Undone store artifacts before after slots)
    (artifact : Artifact) : Spares store artifact before after := by
  refine ⟨h.leaves.toKeepsDirectories, fun path ℓ hpath hlocate => h.fileAt_eq hpath hlocate, ?_⟩
  intro path front name rest q hpath hnames hfront hfile
  rw [h.leaves.files q]
  · exact hfile
  · rintro ⟨slot, hslot, hq⟩
    have hstart : after.start path = before.start path := by rw [start, start, h.leaves.working]
    have hdirectory := (h.standing slot hslot).not_on_way hpath hnames
      (hstart ▸ h.leaves.toKeepsDirectories.follow hfront) (.inr hq)
    rw [hq, h.gone slot hslot] at hdirectory
    simp at hdirectory

/-- **A transaction spares every artifact that it does not list.** -/
theorem Committed.spares (h : Committed store documents before after slots)
    (hlisted : artifact ∉ documents.map Prod.fst) : Spares store artifact before after := by
  refine ⟨h.leaves.toKeepsDirectories,
    fun path ℓ hpath hlocate => h.fileAt_eq hlisted hpath hlocate, ?_⟩
  intro path front name rest q hpath hnames hfront hfile
  have hstart : after.start path = before.start path := by rw [start, start, h.leaves.working]
  have hfront' := hstart ▸ h.leaves.toKeepsDirectories.follow hfront
  rw [h.leaves.files q]
  · exact hfile
  · rintro (⟨slot, hslot, hq⟩ | ⟨slot, hslot, hq⟩)
    · have hdirectory := (h.standing slot hslot).not_on_way hpath hnames hfront' (.inr hq)
      rw [hq, h.gone slot hslot] at hdirectory
      simp at hdirectory
    · have hdirectory := (h.standing slot hslot).not_on_way hpath hnames hfront' (.inl hq)
      rw [hq, fileAt_eq_some_iff.mp (h.written slot hslot)] at hdirectory
      simp at hdirectory

/-! ## Reading -/

/-- The file of a spared artifact is read as before, unless there was nothing to be read.

**Proof sketch.** A path that leads to a location leads there still, and the file there is the
same. A path that leads nowhere fails in the same way, unless a directory was missing. -/
theorem Spares.fileTree_read_eq (h : Spares store artifact before after)
    (hpath : store.pathOf artifact = .ok path) (hfound : before.read path ≠ .error .notFound) :
    after.read path = before.read path := by
  rw [FileTree.read] at hfound
  rw [FileTree.read, FileTree.read]
  rcases hlocate : before.locate path with fault | ℓ
  · rw [hlocate] at hfound
    have hfault : fault ≠ .notFound := fun heq => hfound (heq ▸ rfl)
    rw [h.toKeepsDirectories.locate_error hfault
      (fun front name rest q => h.way path front name rest q hpath) hlocate]
  · have hlocate' := h.toKeepsDirectories.locate hlocate
    have hfile := h.file path ℓ hpath hlocate'
    rw [hlocate] at hfound
    rw [hlocate']
    rcases hget : before.get? ℓ with _ | (content | _)
    · simp [hget] at hfound
    · rw [fileAt_eq_some_iff.mpr hget] at hfile
      simp [fileAt_eq_some_iff.mp hfile, hget]
    · simp [h.directories ℓ hget, hget]

/-- In a well-formed tree, and unless the path of the root goes back up, no file of a spared
artifact is found where none was found before.

**Proof sketch.** A file that is found was there before. In a well-formed tree there were
directories all the way to it, so it would have been found. -/
theorem Spares.exists_fault (h : Spares store artifact before after) (hwf : before.WellFormed)
    (hdots : ".." ∉ Path.parts store.root) (hpath : store.pathOf artifact = .ok path)
    (hfound : before.read path = .error .notFound) : ∃ fault, after.read path = .error fault := by
  rcases hread : after.read path with fault | content
  · exact ⟨fault, rfl⟩
  · exfalso
    rw [FileTree.read] at hread
    rcases hlocate : after.locate path with fault | ℓ
    · simp [hlocate] at hread
    · have hget : after.get? ℓ = some (.file content) := by
        rw [hlocate] at hread
        rcases hget : after.get? ℓ with _ | (_ | _) <;> simp_all
      have hfile := h.file path ℓ hpath hlocate
      rw [fileAt_eq_some_iff.mpr hget] at hfile
      have hget' := fileAt_eq_some_iff.mp hfile.symm
      obtain ⟨place, hplace, -⟩ := exists_place_of_pathOf hpath
      have hnames : ".." ∉ Path.names path := by
        rw [(names_of_pathOf hpath after).2, List.mem_append, List.mem_append, List.mem_singleton,
          not_or, not_or]
        refine ⟨hdots, fun hmem => (Artifact.plain_of_mem_directoryNames hmem).ne_dots rfl, ?_⟩
        rw [← (Artifact.names_of_place hplace).2]
        exact fun heq => (Artifact.sound_of_place hplace).plain.ne_dots heq.symm
      have hstart : after.start path = before.start path := by rw [start, start, h.working]
      obtain ⟨hchecks, hfollow⟩ := locate_eq_ok_iff.mp hlocate
      have hlocate' : before.locate path = .ok ℓ := by
        refine locate_eq_ok_iff.mpr ⟨hchecks, ?_⟩
        exact hwf.follow (by simp [hget']) (by simp [hget]) _ _ hnames (hstart ▸ hfollow)
      rw [FileTree.read, hlocate'] at hfound
      simp [hget'] at hfound

/-! ## Documents of artifacts -/

/-- The document of an artifact whose file has a given text. -/
def documentOf (artifact : Artifact) (text : Bytes) : Except Fault Json := do
  let document ← (Json.parse text).mapError (.notJson artifact)
  match artifact with
  | .service => (renameKeys .qualified document).mapError .clash
  | _ => return document

/-- An artifact with a path is read from its file. -/
theorem read_of_pathOf (hpath : store.pathOf artifact = .ok path) (tree : FileTree) :
    store.read artifact tree =
      match tree.read path with
      | .error .notFound => .error (.notFound artifact path)
      | .error cause => .error (.file path cause)
      | .ok text => documentOf artifact text := by
  rw [read, hpath]
  rcases hread : tree.read path with cause | text
  · cases cause <;> simp [bind, Except.bind, hread] <;> rfl
  · simp only [bind, Except.bind, hread]
    rfl

/-- **A spared artifact is read as before, unless it was not found.** It is not found then either,
or not readable, if the tree was well formed and the path of the root does not go back up. -/
theorem Spares.read_eq (h : Spares store artifact before after) :
    store.read artifact after = store.read artifact before ∨
      ∃ path, store.read artifact before = .error (.notFound artifact path) ∧
        (before.WellFormed → ".." ∉ Path.parts store.root →
          ∃ cause, store.read artifact after = .error (.file path cause)) := by
  rcases hpath : store.pathOf artifact with fault | path
  · refine .inl ?_
    rw [read, read, hpath]
    rfl
  · by_cases hfound : before.read path = .error .notFound
    · by_cases hfound' : after.read path = .error .notFound
      · refine .inl ?_
        rw [read_of_pathOf hpath, read_of_pathOf hpath, hfound, hfound']
      · refine .inr ⟨path, by rw [read_of_pathOf hpath, hfound], fun hwf hdots => ?_⟩
        obtain ⟨fault, hfault⟩ := h.exists_fault hwf hdots hpath hfound
        refine ⟨fault, ?_⟩
        rw [read_of_pathOf hpath, hfault]
        cases fault with
        | notFound => exact absurd hfault hfound'
        | _ => rfl
    · refine .inl ?_
      rw [read_of_pathOf hpath, read_of_pathOf hpath, h.fileTree_read_eq hpath hfound]

/-- The document that is read back where a document was written: the collections of a service
document are under their qualified keys. -/
def exchangeForm (artifact : Artifact) (document : Json) : Except KeyClash Json :=
  match artifact with
  | .service => renameKeys .qualified document
  | _ => .ok document

/-- A document without plain keys is read back as it was written. -/
theorem exchangeForm_of_absent (artifact : Artifact) {document : Json} (h : document.Storable)
    (habsent : ∀ c : Collection, document.get? (c.key .plain) = none) :
    exchangeForm artifact document = .ok document := by
  cases artifact with
  | service =>
    refine renameKeys_of_absent ?_ habsent
    cases document with
    | obj fields => exact h.sorted.1
    | _ => exact Table.ascending_nil
  | _ => rfl

/-- The stored form of a storable document is storable. -/
theorem storable_storedForm {document stored : Json} (h : document.Storable)
    (hstored : storedForm artifact document = .ok stored) : stored.Storable := by
  cases artifact with
  | service => exact storable_renameKeys h (storedForm_service_eq_ok_iff.mp hstored)
  | _ =>
    obtain rfl := Except.ok.inj hstored
    exact h

/-- What a spared artifact contains it contains still. -/
theorem Spares.contains {document : Json} (h : Spares store artifact before after)
    (hcontains : store.Contains before artifact document) :
    store.Contains after artifact document := by
  obtain ⟨path, ℓ, stored, hpath, hlocate, hstored, hfile⟩ := hcontains
  have hlocate' := h.toKeepsDirectories.locate hlocate
  exact ⟨path, ℓ, stored, hpath, hlocate', hstored, (h.file path ℓ hpath hlocate').trans hfile⟩

/-- **A written document is read back**, in its exchange form. -/
theorem Contains.read_eq {tree : FileTree} {document : Json}
    (hcontains : store.Contains tree artifact document) (h : document.Storable) :
    ∃ form, exchangeForm artifact document = .ok form ∧ store.read artifact tree = .ok form := by
  obtain ⟨path, ℓ, stored, hpath, hlocate, hstored, hfile⟩ := hcontains
  have hread : tree.read path = .ok (textOf stored) := by
    rw [FileTree.read, hlocate]
    simp [fileAt_eq_some_iff.mp hfile]
  have hparse : Json.parse (textOf stored) = .ok stored :=
    Json.parse_render .file (storable_storedForm h hstored) rfl
  rw [read_of_pathOf hpath, hread]
  simp only [documentOf, hparse]
  cases artifact with
  | service =>
    -- A document that can be brought under one kind of keys can be brought under the other.
    have hrename := storedForm_service_eq_ok_iff.mp hstored
    obtain ⟨form, hform⟩ := (renameKeys_eq_ok_iff .qualified document).mpr
      ((renameKeys_eq_ok_iff .plain document).mp ⟨stored, hrename⟩)
    refine ⟨form, hform, ?_⟩
    rw [← renameKeys_renameKeys hrename] at hform
    simp only [bind, Except.bind, Except.mapError, hform]
  | _ =>
    obtain rfl := Except.ok.inj hstored
    exact ⟨_, rfl, rfl⟩

end NetworkIntent.Store
