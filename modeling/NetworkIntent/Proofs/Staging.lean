import NetworkIntent.Artifact.Store
import NetworkIntent.Proofs.FileTree
import NetworkIntent.Proofs.Place

/-!
# Staged documents

What it takes to stage documents, and what it changes. A staged document has a site, the directory
and the name of its file; its staging file is the sibling there. Staging touches staging files only,
and discarding takes exactly these away.

## Main definitions

* `Store.Site`: where a document is and where it is staged.
* `Store.Slot`: a staged document with its artifact and its site.
* `Store.Slot.Standing`: the paths of a slot lead to its site, and it knows what was there before.
* `Store.Undone`: a tree in which all that was staged is gone.

## Main results

* `Store.stage_spec`, `Store.leaves_stage_error`: one document is staged, or nothing is.
* `Store.discard_spec`: discarding removes the staging files.
* `Store.stageAll_spec`, `Store.undone_stageAll`: documents are staged together.
-/

set_option autoImplicit false

namespace NetworkIntent.Store

open FileTree

/-! ## Sites and slots -/

/-- Where a document is, and where it is staged: its directory, and its name there. -/
structure Site where
  directory : Location
  name : String

namespace Site

/-- The location of the file of a document. -/
def path (site : Site) : Location :=
  site.directory ++ [site.name]

/-- The location of the file at which a document is staged. -/
def staging (site : Site) : Location :=
  site.directory ++ [site.name ++ ".tmp"]

variable {site site' : Site}

theorem path_inj (h : site.path = site'.path) : site = site' := by
  obtain ⟨directory, name⟩ := site
  obtain ⟨directory', name'⟩ := site'
  obtain ⟨rfl, hname⟩ := List.append_inj' h rfl
  simp_all

theorem staging_inj (h : site.staging = site'.staging) : site = site' := by
  obtain ⟨directory, name⟩ := site
  obtain ⟨directory', name'⟩ := site'
  obtain ⟨rfl, hname⟩ := List.append_inj' h rfl
  simp_all

end Site

/-- A staged document, with its artifact and its site. -/
structure Slot where
  artifact : Artifact
  stored : Json
  entry : Staged
  site : Site

/-- The paths of a slot are the ones of its artifact and lead to its site in a tree. It tells which
file an initial tree has there. -/
structure Slot.Standing (store : Store) (initial tree : FileTree) (slot : Slot) : Prop where
  sound : ∃ place, slot.artifact.place = .ok place ∧ slot.entry.path = store.fileOf place ∧
    slot.site.name = place.file
  stagingOf : slot.entry.staging = stagingOf slot.entry.path
  path : tree.locate slot.entry.path = .ok slot.site.path
  staging : tree.locate slot.entry.staging = .ok slot.site.staging
  previous : slot.entry.previous = initial.fileAt slot.site.path

/-- Whether a location is where one of several slots is staged. -/
def IsStaging (slots : List Slot) (ℓ : Location) : Prop :=
  ∃ slot ∈ slots, ℓ = slot.site.staging

variable {store : Store} {initial tree after : FileTree} {ℓ m : Location} {path : String}
  {text : Bytes} {touched : Location → Prop} {slot slot' : Slot} {slots more : List Slot}

/-- The paths of a slot lead to its site as long as the directories stay. -/
theorem Slot.Standing.mono (h : slot.Standing store initial tree)
    (hkeeps : KeepsDirectories tree after) : slot.Standing store initial after :=
  { h with path := hkeeps.locate h.path, staging := hkeeps.locate h.staging }

/-- No document is where a document is staged. -/
theorem Slot.Standing.path_ne_staging (h : slot.Standing store initial tree) (site : Site) :
    slot.site.path ≠ site.staging := by
  intro heq
  obtain ⟨place, hplace, -, hname⟩ := h.sound
  obtain ⟨-, hfile⟩ := List.append_inj' heq rfl
  refine (Artifact.sound_of_place hplace).file_ne_staging site.name ?_
  simpa [hname] using hfile

/-- Slots of one artifact have the same site. -/
theorem Slot.Standing.site_eq {initial' : FileTree} (h : slot.Standing store initial tree)
    (h' : slot'.Standing store initial' tree) (hartifact : slot.artifact = slot'.artifact) :
    slot.site = slot'.site := by
  obtain ⟨place, hplace, hpath, -⟩ := h.sound
  obtain ⟨place', hplace', hpath', -⟩ := h'.sound
  rw [hartifact, hplace'] at hplace
  obtain rfl := Except.ok.inj hplace
  have hlocate := h.path
  rw [hpath, ← hpath', h'.path] at hlocate
  exact (Site.path_inj (Except.ok.inj hlocate)).symm

theorem isStaging_cons :
    IsStaging (slot :: slots) ℓ ↔ ℓ = slot.site.staging ∨ IsStaging slots ℓ := by
  simp [IsStaging]

/-! ## One document -/

/-- Where a path leads to, there is no file without this file. -/
theorem withoutFile_spec (hlocate : tree.locate path = .ok ℓ) :
    SameDirectories tree (withoutFile path tree) ∧
      ∀ m, (withoutFile path tree).fileAt m = if m = ℓ then none else tree.fileAt m := by
  rw [withoutFile]
  rcases hremove : tree.remove path with fault | after
  · refine ⟨.refl tree, fun m => ?_⟩
    have hnone : tree.fileAt ℓ = none := by
      by_contra hfile
      obtain ⟨after, hafter⟩ := exists_remove_of_locate hlocate hfile
      simp [hafter] at hremove
    by_cases hm : m = ℓ
    · rw [if_pos hm, hm]
      exact hnone
    · rw [if_neg hm]
  · obtain ⟨ℓ', hlocate', hsame, hfiles⟩ := remove_spec hremove
    rw [hlocate] at hlocate'
    obtain rfl := Except.ok.inj hlocate'
    exact ⟨hsame, hfiles⟩

/-- Where a file cannot be written, there is none to remove. -/
theorem withoutFile_of_write {fault : FileTree.Fault} (h : tree.write path text = .error fault) :
    withoutFile path tree = tree := by
  rw [withoutFile]
  rcases hremove : tree.remove path with fault' | after
  · rfl
  · exfalso
    rw [FileTree.remove] at hremove
    rcases hlocate : tree.locate path with fault' | ℓ
    · simp [hlocate] at hremove
    · rw [hlocate] at hremove
      have hne : tree.get? ℓ ≠ some .directory := by
        intro hget
        simp [hget] at hremove
      obtain ⟨after, hwrite⟩ := exists_write_of_locate hlocate hne text
      simp [hwrite] at h

/-- The previous content at a path that leads to a location is the file there. -/
theorem previousAt_eq_ok {previous : Option Bytes} (h : previousAt path tree = .ok previous)
    (hlocate : tree.locate path = .ok ℓ) : previous = tree.fileAt ℓ := by
  rw [previousAt, FileTree.read, hlocate] at h
  rcases hget : tree.get? ℓ with _ | (content | _)
  · simp only [hget, Except.ok.injEq] at h
    rw [← h, fileAt_eq_none_iff.mpr (.inl hget)]
  · simp only [hget, Except.ok.injEq] at h
    rw [← h, fileAt_eq_some_iff.mpr hget]
  · simp [hget] at h

/-- If a text cannot be staged, no file is touched. -/
theorem leaves_stageText_error {directory : String} {fault : Fault}
    (h : stageText directory path text tree = (.error fault, after)) :
    Leaves touched tree after := by
  have hmake : Leaves touched tree (tree.makeDirectories directory).2 :=
    (onlyMakes_makeDirectories directory tree).leaves
  rw [stageText] at h
  rcases hmade : tree.makeDirectories directory with ⟨_ | _, made⟩
  · rw [hmade] at h hmake
    obtain rfl := (Prod.mk.inj h).2
    exact hmake
  · rw [hmade] at h hmake
    dsimp only at h hmake
    rcases hprevious : previousAt path made with _ | previous
    · rw [hprevious] at h
      obtain rfl := (Prod.mk.inj h).2
      exact hmake
    · rw [hprevious] at h
      rcases hwrite : made.write (stagingOf path) text with cause | written
      · simp only [hwrite, withoutFile_of_write hwrite] at h
        obtain rfl := (Prod.mk.inj h).2
        exact hmake
      · simp [hwrite] at h

/-- A text that is staged is at the sibling of its file, which is in the same directory, and nothing
else has changed. -/
theorem stageText_spec {directory name : String} {entry : Staged} (hplain : Path.Plain name)
    (h : stageText directory (Path.join directory name) text tree = (.ok entry, after)) :
    ∃ site : Site, site.name = name ∧
      entry = ⟨stagingOf (Path.join directory name), Path.join directory name,
        tree.fileAt site.path⟩ ∧
      after.locate (Path.join directory name) = .ok site.path ∧
      after.locate (stagingOf (Path.join directory name)) = .ok site.staging ∧
      KeepsDirectories tree after ∧
      ∀ m, after.fileAt m = if m = site.staging then some text else tree.fileAt m := by
  have hmake : Leaves (fun _ => False) tree (tree.makeDirectories directory).2 :=
    (onlyMakes_makeDirectories directory tree).leaves
  rw [stageText] at h
  rcases hmade : tree.makeDirectories directory with ⟨_ | _, made⟩
  · simp [hmade] at h
  · rw [hmade] at h hmake
    dsimp only at h hmake
    rcases hprevious : previousAt (Path.join directory name) made with _ | previous
    · simp [hprevious] at h
    · rw [hprevious] at h
      rcases hwrite : made.write (stagingOf (Path.join directory name)) text with cause | written
      · simp [hwrite] at h
      · simp only [hwrite, Prod.mk.injEq, Except.ok.injEq] at h
        obtain ⟨rfl, rfl⟩ := h
        obtain ⟨s, hlocate, hsame, hfiles⟩ := write_spec hwrite
        have hsuffix : stagingOf (Path.join directory name) =
            Path.join directory (name ++ ".tmp") := Path.withSuffix_join directory ".tmp" hplain
        obtain ⟨⟨hnul, hlength, hname⟩, d, hfollow, hdirectory, rfl⟩ :=
          (locate_join_iff (hplain.append (by decide) (by decide))).mp (hsuffix ▸ hlocate)
        -- the file is in the directory of its sibling and has a shorter name
        have hpath : made.locate (Path.join directory name) = .ok (d ++ [name]) := by
          rw [← hsuffix, stagingOf, Path.withSuffix] at hnul hlength
          refine (locate_join_iff hplain).mpr ⟨⟨fun hmem => hnul ?_, ?_, ?_⟩, d, hfollow,
            hdirectory, rfl⟩
          · simp [hmem]
          · rw [String.utf8ByteSize_append] at hlength
            omega
          · rw [String.utf8ByteSize_append] at hname
            omega
        refine ⟨⟨d, name⟩, rfl, ?_, hsame.locate hpath, hsame.locate hlocate,
          hmake.toKeepsDirectories.trans hsame.toKeepsDirectories, fun m => ?_⟩
        · rw [previousAt_eq_ok hprevious hpath, hmake.files _ not_false]
          rfl
        · rw [hfiles, hmake.files m not_false]
          rfl

/-- If a document cannot be staged, no file is touched. -/
theorem leaves_stage_error {artifact : Artifact} {document : Json} {fault : Fault}
    (h : store.stage artifact document tree = (.error fault, after)) :
    Leaves touched tree after := by
  rw [stage] at h
  rcases hstored : storedForm artifact document with _ | stored
  · rw [hstored] at h
    obtain rfl := (Prod.mk.inj h).2
    exact .refl tree
  · rw [hstored] at h
    dsimp only at h
    rcases hplace : artifact.place with _ | place
    · rw [hplace] at h
      obtain rfl := (Prod.mk.inj h).2
      exact .refl tree
    · rw [hplace] at h
      exact leaves_stageText_error h

/-- A document that is staged has a slot, and its staging file has its text. -/
theorem stage_spec {artifact : Artifact} {document : Json} {entry : Staged}
    (h : store.stage artifact document tree = (.ok entry, after)) :
    ∃ slot : Slot, slot.artifact = artifact ∧ storedForm artifact document = .ok slot.stored ∧
      slot.entry = entry ∧ slot.Standing store tree after ∧ KeepsDirectories tree after ∧
      ∀ m, after.fileAt m =
        if m = slot.site.staging then some (textOf slot.stored) else tree.fileAt m := by
  rw [stage] at h
  rcases hstored : storedForm artifact document with _ | stored
  · simp [hstored] at h
  · rw [hstored] at h
    dsimp only at h
    rcases hplace : artifact.place with _ | place
    · simp [hplace] at h
    · rw [hplace] at h
      obtain ⟨site, hname, rfl, hpath, hstaging, hkeeps, hfiles⟩ :=
        stageText_spec (Artifact.sound_of_place hplace).plain h
      exact ⟨⟨artifact, stored, _, site⟩, rfl, rfl, rfl,
        ⟨⟨place, hplace, rfl, hname⟩, rfl, hpath, hstaging, rfl⟩, hkeeps, hfiles⟩

/-! ## Discarding -/

/-- Discarding removes the staging files, and no others. -/
theorem discard_spec (slots : List Slot) : ∀ tree : FileTree,
    (∀ slot ∈ slots, slot.Standing store initial tree) →
    SameDirectories tree (discard (slots.map Slot.entry) tree) ∧
      (∀ m, IsStaging slots m → (discard (slots.map Slot.entry) tree).fileAt m = none) ∧
      ∀ m, ¬IsStaging slots m →
        (discard (slots.map Slot.entry) tree).fileAt m = tree.fileAt m := by
  induction slots with
  | nil => exact fun tree _ => ⟨.refl tree, by simp [IsStaging], fun m _ => rfl⟩
  | cons slot slots ih =>
    intro tree hstanding
    obtain ⟨hsame, hfiles⟩ := withoutFile_spec (hstanding slot List.mem_cons_self).staging
    obtain ⟨hsame', hgone, hleft⟩ := ih (withoutFile slot.entry.staging tree)
      fun slot' hslot' =>
        (hstanding slot' (List.mem_cons_of_mem _ hslot')).mono hsame.toKeepsDirectories
    refine ⟨hsame.trans hsame', fun m hm => ?_, fun m hm => ?_⟩
    · by_cases hrest : IsStaging slots m
      · exact hgone m hrest
      · have heq : m = slot.site.staging := (isStaging_cons.mp hm).resolve_right hrest
        exact (hleft m hrest).trans (by rw [hfiles, if_pos heq])
    · rw [isStaging_cons, not_or] at hm
      exact (hleft m hm.2).trans (by rw [hfiles, if_neg hm.1])

/-! ## Several documents -/

/-- A tree in which nothing is left of what was staged for some artifacts: the files are the initial
ones, except that the staging files are gone. -/
structure Undone (store : Store) (artifacts : List Artifact) (initial after : FileTree)
    (slots : List Slot) : Prop where
  listed : ∀ slot ∈ slots, slot.artifact ∈ artifacts
  standing : ∀ slot ∈ slots, slot.Standing store initial after
  gone : ∀ slot ∈ slots, after.get? slot.site.staging = none
  leaves : Leaves (IsStaging slots) initial after

/-- What is staged while documents are staged one after the other: the paths of the slots lead to
their sites, which have staging files, and nothing but these files has changed. -/
structure Staging (store : Store) (initial tree : FileTree) (slots : List Slot) : Prop where
  standing : ∀ slot ∈ slots, slot.Standing store initial tree
  staged : ∀ slot ∈ slots, tree.fileAt slot.site.staging ≠ none
  leaves : Leaves (IsStaging slots) initial tree

/-- Nothing is staged at first. -/
theorem Staging.nil (store : Store) (tree : FileTree) : Staging store tree tree [] :=
  ⟨by simp, by simp, .refl tree⟩

/-- One more document is staged. -/
theorem Staging.append (h : Staging store initial tree slots)
    (hslot : slot.Standing store tree after) (hkeeps : KeepsDirectories tree after)
    (hfiles : ∀ m, after.fileAt m =
      if m = slot.site.staging then some text else tree.fileAt m) :
    Staging store initial after (slots ++ [slot]) := by
  have hprevious : tree.fileAt slot.site.path = initial.fileAt slot.site.path := by
    refine h.leaves.files _ ?_
    rintro ⟨slot', -, heq⟩
    exact hslot.path_ne_staging slot'.site heq
  refine ⟨fun slot' hslot' => ?_, fun slot' hslot' => ?_,
    h.leaves.toKeepsDirectories.trans hkeeps, fun m hm => ?_⟩
  · rcases List.mem_append.mp hslot' with hmem | hmem
    · exact (h.standing slot' hmem).mono hkeeps
    · obtain rfl := List.mem_singleton.mp hmem
      exact { hslot with previous := hslot.previous.trans hprevious }
  · rw [hfiles]
    rcases List.mem_append.mp hslot' with hmem | hmem
    · split
      · simp
      · exact h.staged slot' hmem
    · obtain rfl := List.mem_singleton.mp hmem
      simp
  · have hne : m ≠ slot.site.staging := fun heq => hm ⟨slot, by simp, heq⟩
    have hslots : ¬IsStaging slots m := fun ⟨slot', hmem, heq⟩ => hm ⟨slot', by simp [hmem], heq⟩
    rw [hfiles, if_neg hne, h.leaves.files m hslots]

/-- Once all is discarded, nothing is left of it. -/
theorem Staging.undone {artifacts : List Artifact} (h : Staging store initial tree slots)
    (hlisted : ∀ slot ∈ slots, slot.artifact ∈ artifacts) :
    Undone store artifacts initial (discard (slots.map Slot.entry) tree) slots := by
  obtain ⟨hsame, hgone, hleft⟩ := discard_spec slots tree h.standing
  exact ⟨hlisted, fun slot hslot => (h.standing slot hslot).mono hsame.toKeepsDirectories,
    fun slot hslot => (fileAt_eq_none_iff.mp (hgone _ ⟨slot, hslot, rfl⟩)).resolve_right
      (hsame.ne_directory (fileAt_ne_none_iff.mp (h.staged slot hslot)).2),
    h.leaves.toKeepsDirectories.trans hsame.toKeepsDirectories,
    fun m hm => (hleft m hm).trans (h.leaves.files m hm)⟩

/-- If the documents cannot all be staged, nothing is left of those that could.

**Proof sketch.** Induction on the documents still to be staged. A document that cannot be staged
touches no file, so what was staged before it is as it was, and discarding it leaves the initial
files. -/
theorem undone_stageAll {fault : Fault} {artifacts : List Artifact}
    (documents : List (Artifact × Json)) : ∀ (slots : List Slot) (tree : FileTree),
    Staging store initial tree slots → (∀ slot ∈ slots, slot.artifact ∈ artifacts) →
    (∀ document ∈ documents, document.1 ∈ artifacts) →
    store.stageAll (slots.map Slot.entry) documents tree = (.error fault, after) →
    ∃ slots, Undone store artifacts initial after slots := by
  induction documents with
  | nil =>
    intro slots tree _ _ _ h
    simp [stageAll] at h
  | cons document documents ih =>
    obtain ⟨artifact, document⟩ := document
    intro slots tree hstaging hlisted hdocuments h
    rw [stageAll] at h
    rcases hstage : store.stage artifact document tree with ⟨fault' | entry, next⟩
    · rw [hstage] at h
      obtain rfl := (Prod.mk.inj h).2
      have hleaves : Leaves (fun _ => False) tree next := leaves_stage_error hstage
      have hnext : Staging store initial next slots :=
        ⟨fun slot hslot => (hstaging.standing slot hslot).mono hleaves.toKeepsDirectories,
          fun slot hslot => hleaves.files _ not_false ▸ hstaging.staged slot hslot,
          hstaging.leaves.trans (hleaves.mono fun _ => False.elim)⟩
      exact ⟨slots, hnext.undone hlisted⟩
    · obtain ⟨slot, rfl, -, rfl, hslot, hkeeps, hfiles⟩ := stage_spec hstage
      rw [hstage] at h
      have hmap : slots.map Slot.entry ++ [slot.entry] = (slots ++ [slot]).map Slot.entry := by simp
      dsimp only at h
      rw [hmap] at h
      refine ih (slots ++ [slot]) next (hstaging.append hslot hkeeps hfiles) ?_
        (fun document hdocument => hdocuments document (List.mem_cons_of_mem _ hdocument)) h
      intro slot' hslot'
      rcases List.mem_append.mp hslot' with hmem | hmem
      · exact hlisted slot' hmem
      · obtain rfl := List.mem_singleton.mp hmem
        exact hdocuments (slot'.artifact, document) List.mem_cons_self

/-- The slot of a document: its artifact, and the form in which it is stored. -/
def Slot.Holds (document : Artifact × Json) (slot : Slot) : Prop :=
  slot.artifact = document.1 ∧ storedForm document.1 document.2 = .ok slot.stored

/-- Documents that can all be staged have slots, one after the other. If these are at different
sites, each staging file has the text of its document.

**Proof sketch.** Induction on the documents still to be staged. A document that is staged later
touches its own staging file only, which is another one if the sites are different. -/
theorem stageAll_spec {staged : List Staged} (documents : List (Artifact × Json)) :
    ∀ (slots : List Slot) (tree : FileTree), Staging store initial tree slots →
    store.stageAll (slots.map Slot.entry) documents tree = (.ok staged, after) →
    ∃ more : List Slot, staged = (slots ++ more).map Slot.entry ∧
      List.Forall₂ Slot.Holds documents more ∧ Staging store initial after (slots ++ more) ∧
      Leaves (IsStaging more) tree after ∧
      ((more.map Slot.site).Nodup →
        ∀ slot ∈ more, after.fileAt slot.site.staging = some (textOf slot.stored)) := by
  induction documents with
  | nil =>
    intro slots tree hstaging h
    obtain ⟨rfl, rfl⟩ : slots.map Slot.entry = staged ∧ tree = after := by simpa [stageAll] using h
    exact ⟨[], by simp, .nil, by simpa using hstaging, .refl tree, by simp⟩
  | cons document documents ih =>
    obtain ⟨artifact, document⟩ := document
    intro slots tree hstaging h
    rw [stageAll] at h
    rcases hstage : store.stage artifact document tree with ⟨fault' | entry, next⟩
    · simp [hstage] at h
    · obtain ⟨slot, rfl, hstored, rfl, hslot, hkeeps, hfiles⟩ := stage_spec hstage
      rw [hstage] at h
      have hmap : slots.map Slot.entry ++ [slot.entry] = (slots ++ [slot]).map Slot.entry := by simp
      dsimp only at h
      rw [hmap] at h
      obtain ⟨more, rfl, hholds, hstaging', hleaves, htexts⟩ :=
        ih (slots ++ [slot]) next (hstaging.append hslot hkeeps hfiles) h
      have hnext : Leaves (IsStaging (slot :: more)) tree next :=
        ⟨hkeeps, fun m hm => by rw [hfiles, if_neg fun heq => hm (isStaging_cons.mpr (.inl heq))]⟩
      refine ⟨slot :: more, by simp, .cons ⟨rfl, hstored⟩ hholds, by simpa using hstaging',
        hnext.trans (hleaves.mono fun m hm => isStaging_cons.mpr (.inr hm)), fun hnodup => ?_⟩
      rw [List.map_cons, List.nodup_cons] at hnodup
      intro slot' hslot'
      rcases List.mem_cons.mp hslot' with rfl | hmem
      · rw [hleaves.files, hfiles, if_pos rfl]
        rintro ⟨slot'', hmem, heq⟩
        exact hnodup.1 (Site.staging_inj heq ▸ List.mem_map_of_mem hmem)
      · exact htexts hnodup.2 slot' hmem

end NetworkIntent.Store
