import NetworkIntent.Proofs.Action
import NetworkIntent.Proofs.Document
import NetworkIntent.Proofs.Json.Lines
import NetworkIntent.Proofs.Pointwise
import NetworkIntent.Proofs.Staging
import NetworkIntent.Proofs.Utf8

/-!
# Documents written together

Several documents are written together or not at all. Either all of them are in place, the listed
artifacts are different ones and nothing is left of what was staged, or every file is as before,
except that files at the listed artifacts' staging paths may be gone.

## Main definitions

* `Store.IsStagingOf`, `Store.IsFileOf`: the locations of the staging files, and of the files, of
  listed artifacts.
* `Store.Renaming`: the state of a transaction while the staged documents are renamed into place.

## Main results

* `Store.undone_renameAll`: what was renamed is put back if a document cannot be renamed.
* `Store.get?_of_storedForm_service`, `Store.textOf_eq_lines`: what is stored of a document.
* `Store.renameAll_spec`: documents renamed into place, which are at different sites.
* `Store.writeAll_allOrNothing`: documents are written together or not at all.
-/

set_option autoImplicit false

namespace NetworkIntent.Store

open FileTree

variable {store : Store} {initial tree after : FileTree} {ℓ m : Location} {slot slot' : Slot}
  {slots renamed staged : List Slot}

/-! ## Putting back -/

/-- A file that is put back is what was there before, and no other one is touched. -/
theorem putBack_spec (hslot : slot.Standing store initial tree)
    (hne : tree.get? slot.site.path ≠ some .directory) :
    SameDirectories tree (putBack slot.entry tree) ∧
      ∀ m, (putBack slot.entry tree).fileAt m =
        if m = slot.site.path then initial.fileAt slot.site.path else tree.fileAt m := by
  rw [putBack, ← hslot.previous]
  rcases hprevious : slot.entry.previous with _ | content
  · exact withoutFile_spec hslot.path
  · dsimp only
    obtain ⟨written, hwrite⟩ := exists_write_of_locate hslot.path hne content
    obtain ⟨ℓ, hlocate, hsame, hfiles⟩ := write_spec hwrite
    rw [hslot.path] at hlocate
    obtain rfl := Except.ok.inj hlocate
    rw [hwrite]
    exact ⟨hsame, hfiles⟩

/-- All files that are put back are what was there before, and no others are touched. -/
theorem putBack_all_spec (slots : List Slot) : ∀ tree : FileTree,
    (∀ slot ∈ slots, slot.Standing store initial tree) →
    (∀ slot ∈ slots, tree.get? slot.site.path ≠ some .directory) →
    let after := (slots.map Slot.entry).foldl (fun tree entry => putBack entry tree) tree
    SameDirectories tree after ∧
      (∀ slot ∈ slots, after.fileAt slot.site.path = initial.fileAt slot.site.path) ∧
      ∀ m, (∀ slot ∈ slots, m ≠ slot.site.path) → after.fileAt m = tree.fileAt m := by
  induction slots with
  | nil => exact fun tree _ _ => ⟨.refl tree, by simp, fun m _ => rfl⟩
  | cons slot slots ih =>
    intro tree hstanding hne
    obtain ⟨hsame, hfiles⟩ :=
      putBack_spec (hstanding slot List.mem_cons_self) (hne slot List.mem_cons_self)
    obtain ⟨hsame', hback, hleft⟩ := ih (putBack slot.entry tree)
      (fun slot' hmem =>
        (hstanding slot' (List.mem_cons_of_mem _ hmem)).mono hsame.toKeepsDirectories)
      (fun slot' hmem => hsame.ne_directory (hne slot' (List.mem_cons_of_mem _ hmem)))
    refine ⟨hsame.trans hsame', fun slot' hmem => ?_, fun m hm => ?_⟩
    · by_cases hrest : ∃ other ∈ slots, slot'.site.path = other.site.path
      · obtain ⟨other, hother, heq⟩ := hrest
        rw [heq]
        exact hback other hother
      · have hslot' : slot' = slot :=
          (List.mem_cons.mp hmem).resolve_right fun hmem => hrest ⟨slot', hmem, rfl⟩
        rw [hslot'] at hrest ⊢
        rw [List.map_cons, List.foldl_cons, hleft slot.site.path fun other hother heq =>
          hrest ⟨other, hother, heq⟩, hfiles, if_pos rfl]
    · rw [List.map_cons, List.foldl_cons,
        hleft m fun other hother => hm other (List.mem_cons_of_mem _ hother), hfiles,
        if_neg (hm slot List.mem_cons_self)]

/-! ## Renaming -/

/-- The state of a transaction while the staged documents are renamed into place: the slots are
either renamed or still staged. Only the files of the renamed ones and the staging files differ from
the initial ones, and a renamed document has left its staging file. -/
structure Renaming (store : Store) (initial : FileTree) (slots renamed staged : List Slot)
    (tree : FileTree) : Prop where
  mem_iff : ∀ slot, slot ∈ slots ↔ slot ∈ renamed ∨ slot ∈ staged
  standing : ∀ slot ∈ slots, slot.Standing store initial tree
  staged : ∀ slot ∈ slots, tree.get? slot.site.staging ≠ some .directory
  leaves : Leaves (fun ℓ => IsStaging slots ℓ ∨ ∃ slot ∈ renamed, ℓ = slot.site.path) initial tree
  moved : ∀ slot ∈ renamed, tree.get? slot.site.path ≠ some .directory ∧
    tree.fileAt slot.site.staging = none

/-- At first all documents are staged. -/
theorem Staging.renaming (h : Staging store initial tree slots) :
    Renaming store initial slots [] slots tree :=
  ⟨by simp, h.standing, fun slot hslot => (fileAt_ne_none_iff.mp (h.staged slot hslot)).2,
    h.leaves.mono fun _ => .inl, by simp⟩

/-- A document that is renamed is in place, and has left its staging file. -/
theorem Renaming.step (h : Renaming store initial slots renamed (slot :: staged) tree)
    (hrename : tree.rename slot.entry.staging slot.entry.path = .ok after) :
    Renaming store initial slots (slot :: renamed) staged after := by
  have hslot := (h.mem_iff slot).mpr (.inr List.mem_cons_self)
  have hstanding := h.standing slot hslot
  obtain ⟨hsame, -, hfile, hfiles⟩ := rename_spec hrename hstanding.staging hstanding.path
  have hleft : ∀ m, m ≠ slot.site.path → m ≠ slot.site.staging →
      after.fileAt m = tree.fileAt m := by
    intro m hpath hstaging
    rw [hfiles, if_neg hpath, if_neg hstaging]
  refine ⟨fun slot' => ?_, fun slot' hslot' => (h.standing slot' hslot').mono
    hsame.toKeepsDirectories, fun slot' hslot' => hsame.ne_directory (h.staged slot' hslot'),
    ⟨h.leaves.toKeepsDirectories.trans hsame.toKeepsDirectories, fun m hm => ?_⟩,
    fun slot' hslot' => ?_⟩
  · rw [h.mem_iff, List.mem_cons, List.mem_cons]
    tauto
  · rw [not_or] at hm
    have hpath : m ≠ slot.site.path := fun heq => hm.2 ⟨slot, List.mem_cons_self, heq⟩
    have hstaging : m ≠ slot.site.staging := fun heq => hm.1 ⟨slot, hslot, heq⟩
    rw [hleft m hpath hstaging]
    refine h.leaves.files m (not_or.mpr ⟨hm.1, ?_⟩)
    rintro ⟨slot', hslot', heq⟩
    exact hm.2 ⟨slot', List.mem_cons_of_mem _ hslot', heq⟩
  · have hpath : slot.site.path ≠ slot'.site.staging := hstanding.path_ne_staging slot'.site
    rcases List.mem_cons.mp hslot' with rfl | hmem
    · refine ⟨(fileAt_ne_none_iff.mp hfile).2, ?_⟩
      rw [hfiles, if_neg (Ne.symm hpath), if_pos rfl]
    · obtain ⟨hdirectory, hnone⟩ := h.moved slot' hmem
      refine ⟨hsame.ne_directory hdirectory, ?_⟩
      rw [hfiles, if_neg (Ne.symm hpath), hnone]
      simp

/-- If a document cannot be renamed, what is still staged is discarded and what is renamed is put
back, and then nothing is left of the documents.

**Proof sketch.** Discarding removes the staging files of the documents that are still staged, and
the ones of the renamed documents are gone already. Putting back restores the files of the renamed
documents, which are at no staging path. All other files were never touched. -/
theorem Renaming.undone {artifacts : List Artifact}
    (h : Renaming store initial slots renamed staged tree)
    (hlisted : ∀ slot ∈ slots, slot.artifact ∈ artifacts) :
    Undone store artifacts initial
      ((renamed.map Slot.entry).foldl (fun tree entry => putBack entry tree)
        (discard (staged.map Slot.entry) tree)) slots := by
  have hstaged : ∀ slot ∈ staged, slot.Standing store initial tree :=
    fun slot hslot => h.standing slot ((h.mem_iff slot).mpr (.inr hslot))
  have hrenamed : ∀ slot ∈ renamed, slot.Standing store initial tree :=
    fun slot hslot => h.standing slot ((h.mem_iff slot).mpr (.inl hslot))
  obtain ⟨hsame, hgone, hleft⟩ := discard_spec staged tree hstaged
  obtain ⟨hsame', hback, hleft'⟩ := putBack_all_spec renamed (discard (staged.map Slot.entry) tree)
    (fun slot hslot => (hrenamed slot hslot).mono hsame.toKeepsDirectories)
    (fun slot hslot => hsame.ne_directory (h.moved slot hslot).1)
  have hkeeps := hsame.toKeepsDirectories.trans hsame'.toKeepsDirectories
  refine ⟨hlisted, fun slot hslot => (h.standing slot hslot).mono hkeeps, fun slot hslot => ?_,
    h.leaves.toKeepsDirectories.trans hkeeps, fun m hm => ?_⟩
  · refine (fileAt_eq_none_iff.mp ?_).resolve_right
      (hsame'.ne_directory (hsame.ne_directory (h.staged slot hslot)))
    rw [hleft' _ fun slot' hslot' =>
      ((hrenamed slot' hslot').path_ne_staging slot.site).symm]
    by_cases hstaging : IsStaging staged slot.site.staging
    · exact hgone _ hstaging
    · have hmem : slot ∈ renamed :=
        ((h.mem_iff slot).mp hslot).resolve_right fun hmem => hstaging ⟨slot, hmem, rfl⟩
      rw [hleft _ hstaging, (h.moved slot hmem).2]
  · by_cases hpath : ∃ slot ∈ renamed, m = slot.site.path
    · obtain ⟨slot, hslot, rfl⟩ := hpath
      exact hback slot hslot
    · have hstaging : ¬IsStaging staged m := fun ⟨slot, hslot, heq⟩ =>
        hm ⟨slot, (h.mem_iff slot).mpr (.inr hslot), heq⟩
      rw [hleft' m fun slot hslot heq => hpath ⟨slot, hslot, heq⟩, hleft m hstaging]
      exact h.leaves.files m (not_or.mpr ⟨hm, hpath⟩)

/-- If the documents cannot all be renamed, nothing is left of them. -/
theorem undone_renameAll {fault : Fault} {artifacts : List Artifact}
    (hlisted : ∀ slot ∈ slots, slot.artifact ∈ artifacts) (staged : List Slot) :
    ∀ (renamed : List Slot) (tree : FileTree), Renaming store initial slots renamed staged tree →
    renameAll (renamed.map Slot.entry) (staged.map Slot.entry) tree = (.error fault, after) →
    Undone store artifacts initial after slots := by
  induction staged with
  | nil =>
    intro renamed tree _ h
    simp [renameAll] at h
  | cons slot staged ih =>
    intro renamed tree hrenaming h
    rw [List.map_cons, renameAll] at h
    rcases hrename : tree.rename slot.entry.staging slot.entry.path with cause | next
    · rw [hrename] at h
      obtain rfl := (Prod.mk.inj h).2
      exact hrenaming.undone hlisted
    · rw [hrename] at h
      exact ih (slot :: renamed) next (hrenaming.step hrename) h

/-- Documents that are all renamed were at different sites. Each of them has moved from its staging
file to its file, and no other file is touched.

**Proof sketch.** Induction on the documents still to be renamed. A document leaves no staging file
behind, so no later one was staged at the same site, and none takes its place. -/
theorem renameAll_spec (slots : List Slot) : ∀ (entries : List Staged) (tree : FileTree),
    (∀ slot ∈ slots, slot.Standing store initial tree) →
    renameAll entries (slots.map Slot.entry) tree = (.ok (), after) →
    (slots.map Slot.site).Nodup ∧ SameDirectories tree after ∧
      (∀ slot ∈ slots, tree.fileAt slot.site.staging ≠ none ∧
        after.fileAt slot.site.path = tree.fileAt slot.site.staging ∧
        after.fileAt slot.site.staging = none) ∧
      ∀ m, ¬IsStaging slots m → (∀ slot ∈ slots, m ≠ slot.site.path) →
        after.fileAt m = tree.fileAt m := by
  induction slots with
  | nil =>
    intro entries tree _ h
    obtain rfl : tree = after := by simpa [renameAll] using h
    exact ⟨by simp, .refl tree, by simp, fun m _ _ => rfl⟩
  | cons slot slots ih =>
    intro entries tree hstanding h
    rw [List.map_cons, renameAll] at h
    have hslot := hstanding slot List.mem_cons_self
    rcases hrename : tree.rename slot.entry.staging slot.entry.path with cause | next
    · simp [hrename] at h
    · rw [hrename] at h
      obtain ⟨hsame, hfile, -, hfiles⟩ := rename_spec hrename hslot.staging hslot.path
      have hstanding' : ∀ slot' ∈ slots, slot'.Standing store initial next := fun slot' hmem =>
        (hstanding slot' (List.mem_cons_of_mem _ hmem)).mono hsame.toKeepsDirectories
      obtain ⟨hnodup, hsame', hmoved, hleft⟩ := ih (slot.entry :: entries) next hstanding' h
      have hnone : next.fileAt slot.site.staging = none := by
        rw [hfiles, if_neg (hslot.path_ne_staging slot.site).symm, if_pos rfl]
      -- a later document was staged at a site that still has its staging file
      have hnew : ∀ slot' ∈ slots, slot'.site ≠ slot.site := by
        intro slot' hmem heq
        exact (hmoved slot' hmem).1 (heq ▸ hnone)
      have hstaging : ¬IsStaging slots slot.site.staging := fun ⟨slot', hmem, heq⟩ =>
        hnew slot' hmem (Site.staging_inj heq).symm
      refine ⟨?_, hsame.trans hsame', fun slot' hmem => ?_, fun m hm hpath => ?_⟩
      · rw [List.map_cons, List.nodup_cons]
        refine ⟨fun hmem => ?_, hnodup⟩
        obtain ⟨slot', hmem', heq⟩ := List.mem_map.mp hmem
        exact hnew slot' hmem' heq
      · rcases List.mem_cons.mp hmem with rfl | hmem'
        · refine ⟨hfile, ?_, ?_⟩
          · rw [hleft _ (fun ⟨other, _, heq⟩ => hslot.path_ne_staging other.site heq)
              fun other hother heq => hnew other hother (Site.path_inj heq).symm, hfiles,
              if_pos rfl]
          · rw [hleft _ hstaging fun other hother heq =>
              (hstanding' other hother).path_ne_staging slot'.site heq.symm, hnone]
        · have hbefore : next.fileAt slot'.site.staging = tree.fileAt slot'.site.staging := by
            rw [hfiles, if_neg (hslot.path_ne_staging slot'.site).symm,
              if_neg fun heq => hnew slot' hmem' (Site.staging_inj heq)]
          rw [← hbefore]
          exact hmoved slot' hmem'
      · rw [hleft m (fun hrest => hm (isStaging_cons.mpr (.inr hrest)))
          fun other hother => hpath other (List.mem_cons_of_mem _ hother), hfiles,
          if_neg (hpath slot List.mem_cons_self),
          if_neg fun heq => hm (isStaging_cons.mpr (.inl heq))]

/-! ## Transactions -/

/-- A tree in which documents are in place: each of them is in the file of its own site, nothing is
left of the staging files, and no other file is touched. -/
structure Committed (store : Store) (documents : List (Artifact × Json)) (initial after : FileTree)
    (slots : List Slot) : Prop where
  holds : List.Forall₂ Slot.Holds documents slots
  standing : ∀ slot ∈ slots, slot.Standing store initial after
  nodup : (slots.map Slot.site).Nodup
  written : ∀ slot ∈ slots, after.fileAt slot.site.path = some (textOf slot.stored)
  gone : ∀ slot ∈ slots, after.get? slot.site.staging = none
  leaves : Leaves (fun ℓ => IsStaging slots ℓ ∨ ∃ slot ∈ slots, ℓ = slot.site.path) initial after

/-- The slots of documents have their artifacts. -/
theorem artifacts_of_holds {documents : List (Artifact × Json)}
    (h : List.Forall₂ Slot.Holds documents slots) :
    slots.map Slot.artifact = documents.map Prod.fst := by
  induction h with
  | nil => rfl
  | cons hslot _ ih => rw [List.map_cons, List.map_cons, ih, hslot.1]

/-- Each document has a slot. -/
theorem exists_slot_of_holds {documents : List (Artifact × Json)} {document : Artifact × Json}
    (h : List.Forall₂ Slot.Holds documents slots) (hdocument : document ∈ documents) :
    ∃ slot ∈ slots, slot.Holds document :=
  exists_mem_of_forall₂ h.flip hdocument

/-- Documents that are all renamed into place are in place. -/
theorem Staging.committed {documents : List (Artifact × Json)}
    (h : Staging store initial tree slots) (hholds : List.Forall₂ Slot.Holds documents slots)
    (htexts : (slots.map Slot.site).Nodup →
      ∀ slot ∈ slots, tree.fileAt slot.site.staging = some (textOf slot.stored))
    (hrename : renameAll [] (slots.map Slot.entry) tree = (.ok (), after)) :
    Committed store documents initial after slots := by
  obtain ⟨hnodup, hsame, hmoved, hleft⟩ := renameAll_spec slots [] tree h.standing hrename
  refine ⟨hholds, fun slot hslot => (h.standing slot hslot).mono hsame.toKeepsDirectories, hnodup,
    fun slot hslot => ?_, fun slot hslot => ?_,
    h.leaves.toKeepsDirectories.trans hsame.toKeepsDirectories, fun m hm => ?_⟩
  · rw [(hmoved slot hslot).2.1]
    exact htexts hnodup slot hslot
  · obtain ⟨hfile, -, hnone⟩ := hmoved slot hslot
    refine (fileAt_eq_none_iff.mp hnone).resolve_right ?_
    exact hsame.ne_directory (fileAt_ne_none_iff.mp hfile).2
  · rw [not_or] at hm
    rw [hleft m hm.1 fun slot hslot heq => hm.2 ⟨slot, hslot, heq⟩]
    exact h.leaves.files m hm.1

/-- The documents are in place, or nothing is left of them. -/
theorem committed_or_undone (store : Store) (documents : List (Artifact × Json))
    (before : FileTree) :
    match (store.writeAll documents).perform before with
    | (.error _, after) => ∃ slots, Undone store (documents.map Prod.fst) before after slots
    | (.ok paths, after) => ∃ slots, Committed store documents before after slots ∧
        paths = slots.map fun slot => slot.entry.path := by
  rw [writeAll, Action.perform_step]
  rcases hstage : store.stageAll [] documents before with ⟨fault | entries, tree⟩
  · exact undone_stageAll documents [] before (.nil store before) (by simp)
      (fun document hdocument => List.mem_map_of_mem hdocument) hstage
  · obtain ⟨slots, rfl, hholds, hstaging, -, htexts⟩ :=
      stageAll_spec documents [] before (.nil store before) hstage
    have hlisted : ∀ slot ∈ slots, slot.artifact ∈ documents.map Prod.fst := by
      intro slot hslot
      rw [← artifacts_of_holds hholds]
      exact List.mem_map_of_mem hslot
    rcases hrename : renameAll [] (slots.map Slot.entry) tree with ⟨fault | ⟨⟩, after⟩
    · simp only [List.nil_append, hrename]
      exact ⟨slots, undone_renameAll hlisted slots [] tree hstaging.renaming hrename⟩
    · simp only [List.nil_append, hrename]
      exact ⟨slots, hstaging.committed hholds htexts hrename, by simp⟩

/-- The locations of the staging files of artifacts. -/
def IsStagingOf (store : Store) (artifacts : List Artifact) (tree : FileTree) (ℓ : Location) :
    Prop :=
  ∃ artifact ∈ artifacts, ∃ path,
    store.pathOf artifact = .ok path ∧ tree.locate (stagingOf path) = .ok ℓ

/-- The locations of the files of artifacts. -/
def IsFileOf (store : Store) (artifacts : List Artifact) (tree : FileTree) (ℓ : Location) : Prop :=
  ∃ artifact ∈ artifacts, ∃ path,
    store.pathOf artifact = .ok path ∧ tree.locate path = .ok ℓ

/-- The path of a slot is the one of its artifact. -/
theorem Slot.Standing.pathOf_eq (h : slot.Standing store initial tree) :
    store.pathOf slot.artifact = .ok slot.entry.path := by
  obtain ⟨place, hplace, hpath, -⟩ := h.sound
  rw [pathOf, hplace, hpath]

/-- The staging files of slots are staging files of their artifacts. -/
theorem isStagingOf_of_isStaging {artifacts : List Artifact}
    (hlisted : ∀ slot ∈ slots, slot.artifact ∈ artifacts)
    (hstanding : ∀ slot ∈ slots, slot.Standing store initial tree) (h : IsStaging slots ℓ) :
    store.IsStagingOf artifacts tree ℓ := by
  obtain ⟨slot, hslot, rfl⟩ := h
  have hslot' := hstanding slot hslot
  refine ⟨slot.artifact, hlisted slot hslot, slot.entry.path, hslot'.pathOf_eq, ?_⟩
  rw [← hslot'.stagingOf]
  exact hslot'.staging

/-- Artifacts whose slots are at different sites are different. -/
theorem Committed.nodup_artifacts {documents : List (Artifact × Json)}
    (h : Committed store documents initial after slots) : (documents.map Prod.fst).Nodup := by
  have hsites := h.nodup
  rw [← artifacts_of_holds h.holds, List.Nodup, List.pairwise_map]
  rw [List.Nodup, List.pairwise_map] at hsites
  refine hsites.imp_of_mem fun {slot slot'} hslot hslot' hne heq => hne ?_
  exact (h.standing slot hslot).site_eq (h.standing slot' hslot') heq

/-- The paths of slots are the ones of their artifacts, in their order. -/
theorem mapM_pathOf {documents : List (Artifact × Json)}
    (hholds : List.Forall₂ Slot.Holds documents slots)
    (hstanding : ∀ slot ∈ slots, slot.Standing store initial tree) :
    documents.mapM (fun document => store.pathOf document.1) =
      .ok (slots.map fun slot => slot.entry.path) := by
  induction hholds with
  | nil => rfl
  | @cons document slot documents slots hslot _ ih =>
    have hpath := (hstanding slot List.mem_cons_self).pathOf_eq
    rw [hslot.1] at hpath
    rw [List.mapM_cons, hpath, ih fun slot' hmem => hstanding slot' (List.mem_cons_of_mem _ hmem)]
    rfl

/-- A transaction that succeeds tells the paths of its artifacts. -/
theorem mapM_pathOf_of_perform {documents : List (Artifact × Json)} {paths : List String}
    (h : (store.writeAll documents).perform tree = (.ok paths, after)) :
    documents.mapM (fun document => store.pathOf document.1) = .ok paths := by
  have htransaction := committed_or_undone store documents tree
  rw [h] at htransaction
  obtain ⟨slots, hcommitted, rfl⟩ := htransaction
  exact mapM_pathOf hcommitted.holds hcommitted.standing

/-- An artifact is written as the only one of a transaction. -/
theorem perform_write_eq_ok_iff {artifact : Artifact} {document : Json} {path : String} :
    (store.write artifact document).perform tree = (.ok path, after) ↔
      (store.writeAll [(artifact, document)]).perform tree = (.ok [path], after) := by
  rw [write, Action.perform_bind_eq_ok_iff]
  constructor
  · rintro ⟨path', tree', hlook, hrest⟩
    obtain ⟨hpath, rfl⟩ := by simpa using hlook
    obtain ⟨paths, after', hwrite, hreturn⟩ := Action.perform_bind_eq_ok_iff.mp hrest
    obtain ⟨rfl, rfl⟩ := by simpa using hreturn
    obtain ⟨path, rest, hpath', hrest, rfl⟩ :=
      List.forall₂_cons_left_iff.mp (mapM_eq_ok_iff.mp (mapM_pathOf_of_perform hwrite))
    obtain rfl := List.forall₂_nil_left_iff.mp hrest
    obtain rfl := Except.ok.inj (hpath.symm.trans hpath')
    exact hwrite
  · intro hwrite
    have hpath : store.pathOf artifact = .ok path :=
      (List.forall₂_cons.mp (mapM_eq_ok_iff.mp (mapM_pathOf_of_perform hwrite))).1
    refine ⟨path, tree, by simp [hpath], ?_⟩
    exact Action.perform_bind_eq_ok_iff.mpr ⟨[path], after, hwrite, rfl⟩

/-! ## What is stored -/

/-- The service document is stored with other keys. -/
theorem storedForm_service_eq_ok_iff {document stored : Json} :
    storedForm .service document = .ok stored ↔ renameKeys .plain document = .ok stored := by
  rw [storedForm]
  cases renameKeys .plain document <;> simp [Except.mapError]

/-- Every other document is stored as it is. -/
theorem storedForm_of_ne_service {artifact : Artifact} (h : artifact ≠ .service) (document : Json) :
    storedForm artifact document = .ok document := by
  cases artifact with
  | service => exact absurd rfl h
  | _ => rfl

/-- **The service document is stored under plain keys**: each collection stands under its plain key,
whichever key it had, no qualified key is left, and all other keys have their values. -/
theorem get?_of_storedForm_service {document stored : Json}
    (h : storedForm .service document = .ok stored) :
    stored.get? "sites" =
        (document.lookup? "sites").or (document.lookup? "site-service:sites") ∧
      stored.get? "vpns" = (document.lookup? "vpns").or (document.lookup? "vpn-service:vpns") ∧
      stored.get? "site-service:sites" = none ∧ stored.get? "vpn-service:vpns" = none ∧
      ∀ key, (∀ form c, key ≠ Collection.key form c) → stored.get? key = document.lookup? key := by
  have hrename := storedForm_service_eq_ok_iff.mp h
  exact ⟨get?_key_of_renameKeys hrename .sites, get?_key_of_renameKeys hrename .vpns,
    get?_other_of_renameKeys hrename .sites, get?_other_of_renameKeys hrename .vpns,
    fun _ hkey => get?_of_renameKeys hrename hkey⟩

/-- **A document is stored on lines that are indented by two spaces for each level**, and each of
its lines ends in a line break. -/
theorem textOf_eq_lines (document : Json) :
    textOf document = Utf8.encode ((document.lines .file 2).flatMap (· ++ ['\n'])) := by
  rw [← Json.write_eq_lines rfl document, Utf8.encode_append, textOf, Utf8.ofString, Json.render,
    String.toList_ofList]
  rfl

example : (Json.obj [("sites", .arr [.int 1, .null]), ("vpns", .arr [])]).lines .file 2 =
    ["\x7b", "  \"sites\": [", "    1,", "    null", "  ],", "  \"vpns\": []",
      "\x7d"].map String.toList := by
  decide

/-- **Several documents are written together or not at all**, in whatever state the files are and
whatever the documents and their artifacts are.

If the transaction fails, every file is what it was, except that files at the staging paths of the
listed artifacts may be gone; there may be further directories. If it succeeds, the artifacts are
different ones, the result is their paths in order, each file has the text of the form in which its
document is stored, nothing is left at the staging paths, and every other file is what it was.

**Proof sketch.** While documents are staged only staging files change, and these are no artifacts'
files (`Staging`). While they are renamed, the documents renamed so far have left their staging
files (`Renaming`), so that putting back and discarding together restore all that was there. If all
are renamed, no two of them shared a staging file (`renameAll_spec`), hence none shared an
artifact. -/
theorem writeAll_allOrNothing (store : Store) (documents : List (Artifact × Json))
    (before : FileTree) :
    match (store.writeAll documents).perform before with
    | (.error _, after) =>
      Leaves (store.IsStagingOf (documents.map Prod.fst) after) before after ∧
        ∀ ℓ, store.IsStagingOf (documents.map Prod.fst) after ℓ →
          after.get? ℓ = none ∨ after.fileAt ℓ = before.fileAt ℓ
    | (.ok paths, after) =>
      (documents.map Prod.fst).Nodup ∧
        documents.mapM (fun document => store.pathOf document.1) = .ok paths ∧
        (∀ artifact document, (artifact, document) ∈ documents → ∃ path stored,
          store.pathOf artifact = .ok path ∧ storedForm artifact document = .ok stored ∧
            after.read path = .ok (textOf stored) ∧
            after.read (stagingOf path) = .error .notFound) ∧
        Leaves (fun ℓ => store.IsStagingOf (documents.map Prod.fst) after ℓ ∨
          store.IsFileOf (documents.map Prod.fst) after ℓ) before after := by
  have htransaction := committed_or_undone store documents before
  rcases hperform : (store.writeAll documents).perform before with ⟨fault | paths, after⟩
  · rw [hperform] at htransaction
    obtain ⟨slots, hundone⟩ := htransaction
    have hstaging : ∀ ℓ, IsStaging slots ℓ → store.IsStagingOf (documents.map Prod.fst) after ℓ :=
      fun ℓ => isStagingOf_of_isStaging hundone.listed hundone.standing
    refine ⟨hundone.leaves.mono hstaging, fun ℓ _ => ?_⟩
    by_cases hslots : IsStaging slots ℓ
    · obtain ⟨slot, hslot, rfl⟩ := hslots
      exact .inl (hundone.gone slot hslot)
    · exact .inr (hundone.leaves.files ℓ hslots)
  · rw [hperform] at htransaction
    obtain ⟨slots, hcommitted, rfl⟩ := htransaction
    have hlisted : ∀ slot ∈ slots, slot.artifact ∈ documents.map Prod.fst := fun slot hslot =>
      artifacts_of_holds hcommitted.holds ▸ List.mem_map_of_mem hslot
    refine ⟨hcommitted.nodup_artifacts, mapM_pathOf hcommitted.holds hcommitted.standing, ?_, ?_⟩
    · intro artifact document hdocument
      obtain ⟨slot, hslot, rfl, hstored⟩ := exists_slot_of_holds hcommitted.holds hdocument
      have hstanding := hcommitted.standing slot hslot
      refine ⟨slot.entry.path, slot.stored, hstanding.pathOf_eq, hstored, ?_, ?_⟩
      · rw [FileTree.read, hstanding.path]
        simp [fileAt_eq_some_iff.mp (hcommitted.written slot hslot)]
      · rw [← hstanding.stagingOf, FileTree.read, hstanding.staging]
        simp [hcommitted.gone slot hslot]
    · refine hcommitted.leaves.mono fun ℓ hℓ => ?_
      rcases hℓ with hstaging | ⟨slot, hslot, rfl⟩
      · exact .inl (isStagingOf_of_isStaging hlisted hcommitted.standing hstaging)
      · have hstanding := hcommitted.standing slot hslot
        exact .inr ⟨slot.artifact, hlisted slot hslot, slot.entry.path, hstanding.pathOf_eq,
          hstanding.path⟩

end NetworkIntent.Store
