import NetworkIntent.Proofs.Transaction
import NetworkIntent.Proofs.WellFormed

/-!
# Files of artifacts

The file of an artifact is at a location of its own, below wherever the root of the store leads to.
So a transaction that fails leaves the files of all artifacts alone, and one that succeeds the files
of all artifacts that it does not list.

## Main definitions

* `Store.Contains`: what it is for a document to be stored.
* `Store.SurvivesMaking`: a property that the making of the directories of artifacts does not break.

## Main results

* `Store.eq_of_locate`: artifacts with the same location are the same.
* `Store.Undone.fileAt_eq`: a failed transaction changes no artifact's file.
* `Store.Committed.fileAt_eq`, `Store.Committed.contains`: a transaction changes the files of
  its own artifacts, and no others.
* `Store.stable_writeAll`: what no operation on files breaks, no transaction breaks.
-/

set_option autoImplicit false

namespace NetworkIntent.Store

open FileTree

variable {store : Store} {initial tree after : FileTree} {ℓ : Location} {path : String}
  {artifact other : Artifact} {slots : List Slot} {documents : List (Artifact × Json)}

/-! ## Locations -/

/-- The path of an artifact is the one of its place. -/
theorem exists_place_of_pathOf (h : store.pathOf artifact = .ok path) :
    ∃ place, artifact.place = .ok place ∧ path = store.fileOf place := by
  rw [pathOf] at h
  rcases hplace : artifact.place with _ | place
  · simp [hplace] at h
  · rw [hplace] at h
    exact ⟨place, rfl, (Except.ok.inj h).symm⟩

/-- The path of an artifact starts where the root starts, and names the root, the directory of the
artifact and its file. -/
theorem names_of_pathOf (h : store.pathOf artifact = .ok path) (tree : FileTree) :
    tree.start path = tree.start store.root ∧
      Path.names path =
        Path.parts store.root ++ (artifact.directoryNames ++ [artifact.fileName]) := by
  obtain ⟨place, hplace, rfl⟩ := exists_place_of_pathOf h
  have hsound := Artifact.sound_of_place hplace
  obtain ⟨hdirectory, hfile⟩ := Artifact.names_of_place hplace
  constructor
  · rw [start, start, fileOf, directoryOf, Path.isAbsolute_join _ hsound.plain.isAbsolute_eq,
      Path.isAbsolute_join _ hsound.relative]
  · rw [fileOf, directoryOf, Path.names_join_plain _ hsound.plain,
      Path.parts_join _ hsound.relative, hdirectory, hfile, List.append_assoc]

/-- The directory of a place starts where the root starts, and names the root and the directory of
the artifact. -/
theorem names_of_directoryOf {place : Artifact.Place} (hplace : artifact.place = .ok place)
    (tree : FileTree) : tree.start (store.directoryOf place) = tree.start store.root ∧
      Path.names (store.directoryOf place) = Path.parts store.root ++ artifact.directoryNames ∧
      Path.parts (store.directoryOf place) = Path.parts store.root ++ artifact.directoryNames := by
  have hsound := Artifact.sound_of_place hplace
  obtain ⟨hdirectory, -⟩ := Artifact.names_of_place hplace
  obtain ⟨part, hlast, hne⟩ := Artifact.exists_last_of_place hplace
  refine ⟨?_, ?_, ?_⟩
  · rw [start, start, directoryOf, Path.isAbsolute_join _ hsound.relative]
  · rw [directoryOf, Path.names_join _ hsound.relative part hlast hne, hdirectory]
  · rw [directoryOf, Path.parts_join _ hsound.relative, hdirectory]

/-- The way to the file of an artifact goes to where the root leads, and from there through the names
of the artifact. -/
theorem exists_follow_of_locate (h : store.pathOf artifact = .ok path)
    (hlocate : tree.locate path = .ok ℓ) :
    ∃ d, tree.follow (tree.start store.root) (Path.parts store.root) = .ok d ∧
      tree.follow d (artifact.directoryNames ++ [artifact.fileName]) = .ok ℓ := by
  obtain ⟨hstart, hnames⟩ := names_of_pathOf h tree
  have hfollow := (locate_eq_ok_iff.mp hlocate).2
  rw [hstart, hnames, follow_append] at hfollow
  rcases hroot : tree.follow (tree.start store.root) (Path.parts store.root) with fault | d
  · simp [hroot, Except.bind] at hfollow
  · rw [hroot] at hfollow
    exact ⟨d, rfl, hfollow⟩

/-- The file of an artifact is below the location that the root leads to, at the names of the
artifact. -/
theorem exists_root_of_locate (h : store.pathOf artifact = .ok path)
    (hlocate : tree.locate path = .ok ℓ) :
    ∃ d, tree.follow (tree.start store.root) (Path.parts store.root) = .ok d ∧
      ℓ = d ++ (artifact.directoryNames ++ [artifact.fileName]) := by
  obtain ⟨place, hplace, -⟩ := exists_place_of_pathOf h
  obtain ⟨d, hroot, hfollow⟩ := exists_follow_of_locate h hlocate
  refine ⟨d, hroot, tree.follow_plain (fun name hname => ?_) hfollow⟩
  rcases List.mem_append.mp hname with hname | hname
  · exact Artifact.plain_of_mem_directoryNames hname
  · obtain rfl := List.mem_singleton.mp hname
    rw [← (Artifact.names_of_place hplace).2]
    exact (Artifact.sound_of_place hplace).plain

/-- **Artifacts with the same location are the same.** -/
theorem eq_of_locate {path' : String} (h : store.pathOf artifact = .ok path)
    (h' : store.pathOf other = .ok path') (hlocate : tree.locate path = .ok ℓ)
    (hlocate' : tree.locate path' = .ok ℓ) : artifact = other := by
  obtain ⟨d, hd, hℓ⟩ := exists_root_of_locate h hlocate
  obtain ⟨d', hd', hℓ'⟩ := exists_root_of_locate h' hlocate'
  obtain rfl := Except.ok.inj (hd.symm.trans hd')
  have hnames := List.append_cancel_left (hℓ.symm.trans hℓ')
  obtain ⟨hdirectory, hfile⟩ := List.append_inj' hnames rfl
  exact Artifact.eq_of_names hdirectory (by simpa using hfile)

/-- No artifact's file is where a document is staged. -/
theorem ne_staging_of_locate (h : store.pathOf artifact = .ok path)
    (hlocate : tree.locate path = .ok ℓ) (site : Site) : ℓ ≠ site.staging := by
  obtain ⟨place, hplace, -⟩ := exists_place_of_pathOf h
  obtain ⟨d, -, hℓ⟩ := exists_root_of_locate h hlocate
  rw [hℓ, ← List.append_assoc]
  intro heq
  obtain ⟨-, hfile⟩ := List.append_inj' heq rfl
  refine (Artifact.sound_of_place hplace).file_ne_staging site.name ?_
  rw [(Artifact.names_of_place hplace).2]
  simpa using hfile

/-- The location of an artifact's file is no staging location. -/
theorem not_isStaging_of_locate (h : store.pathOf artifact = .ok path)
    (hlocate : tree.locate path = .ok ℓ) : ¬IsStaging slots ℓ :=
  fun ⟨slot, _, heq⟩ => ne_staging_of_locate h hlocate slot.site heq

/-! ## What transactions do to files of artifacts -/

/-- The stored form of a document is what is in the file of an artifact. -/
def Contains (store : Store) (tree : FileTree) (artifact : Artifact) (document : Json) : Prop :=
  ∃ path ℓ stored, store.pathOf artifact = .ok path ∧ tree.locate path = .ok ℓ ∧
    storedForm artifact document = .ok stored ∧ tree.fileAt ℓ = some (textOf stored)

/-- **A failed transaction changes no artifact's file.** -/
theorem Undone.fileAt_eq {artifacts : List Artifact}
    (h : Undone store artifacts initial after slots)
    (hpath : store.pathOf artifact = .ok path) (hlocate : after.locate path = .ok ℓ) :
    after.fileAt ℓ = initial.fileAt ℓ :=
  h.leaves.files ℓ (not_isStaging_of_locate hpath hlocate)

/-- **A transaction changes no file of an artifact that it does not list.** -/
theorem Committed.fileAt_eq (h : Committed store documents initial after slots)
    (hlisted : artifact ∉ documents.map Prod.fst) (hpath : store.pathOf artifact = .ok path)
    (hlocate : after.locate path = .ok ℓ) : after.fileAt ℓ = initial.fileAt ℓ := by
  refine h.leaves.files ℓ (not_or.mpr ⟨not_isStaging_of_locate hpath hlocate, ?_⟩)
  rintro ⟨slot, hslot, rfl⟩
  have hstanding := h.standing slot hslot
  have heq := eq_of_locate hpath hstanding.pathOf_eq hlocate hstanding.path
  rw [heq, ← artifacts_of_holds h.holds] at hlisted
  exact hlisted (List.mem_map_of_mem hslot)

/-- A transaction puts the stored form of each document into the file of its artifact. -/
theorem Committed.contains (h : Committed store documents initial after slots)
    {document : Json} (hdocument : (artifact, document) ∈ documents) :
    store.Contains after artifact document := by
  obtain ⟨slot, hslot, rfl, hstored⟩ := exists_slot_of_holds h.holds hdocument
  have hstanding := h.standing slot hslot
  exact ⟨slot.entry.path, slot.site.path, slot.stored, hstanding.pathOf_eq, hstanding.path, hstored,
    h.written slot hslot⟩

/-! ## Properties that no transaction breaks -/

section Stable

variable {P : FileTree → Prop}

theorem stable_withoutFile (hP : StableOnFiles P) (path : String) (h : P tree) :
    P (withoutFile path tree) := by
  rw [withoutFile]
  rcases hremove : tree.remove path with fault | next
  · exact h
  · exact hP.remove hremove h

theorem stable_discard (hP : StableOnFiles P) (staged : List Staged) : ∀ tree, P tree →
    P (discard staged tree) := by
  induction staged with
  | nil => exact fun tree h => h
  | cons entry staged ih => exact fun tree h => ih _ (stable_withoutFile hP entry.staging h)

theorem stable_putBack (hP : StableOnFiles P) (staged : List Staged) : ∀ tree, P tree →
    P (staged.foldl (fun tree entry => putBack entry tree) tree) := by
  induction staged with
  | nil => exact fun tree h => h
  | cons entry staged ih =>
    intro tree h
    refine ih _ ?_
    change P (putBack entry tree)
    rw [putBack]
    rcases entry.previous with _ | content
    · exact stable_withoutFile hP entry.path h
    · dsimp only
      rcases hwrite : tree.write entry.path content with fault | next
      · exact h
      · exact hP.write hwrite h

/-- The making of the directories of artifacts does not break a property. -/
def SurvivesMaking (store : Store) (P : FileTree → Prop) : Prop :=
  ∀ {artifact : Artifact} {place tree}, artifact.place = .ok place → P tree →
    P (tree.makeDirectories (store.directoryOf place)).2

theorem stable_stage (hP : StableOnFiles P) (hmaking : store.SurvivesMaking P)
    (artifact : Artifact) (document : Json) (h : P tree) :
    P (store.stage artifact document tree).2 := by
  rw [stage]
  rcases storedForm artifact document with fault | stored
  · exact h
  · rcases hplace : artifact.place with fault | place
    · exact h
    · dsimp only
      rw [stageText]
      have hmade : P (tree.makeDirectories (store.directoryOf place)).2 := hmaking hplace h
      rcases hmake : tree.makeDirectories (store.directoryOf place) with ⟨_ | _, made⟩
      · rwa [hmake] at hmade
      · rw [hmake] at hmade
        dsimp only at hmade ⊢
        rcases previousAt (store.fileOf place) made with fault | previous
        · exact hmade
        · dsimp only
          rcases hwrite : made.write (stagingOf (store.fileOf place)) (textOf stored) with
            fault | next
          · exact stable_withoutFile hP _ hmade
          · exact hP.write hwrite hmade

theorem stable_stageAll (hP : StableOnFiles P) (hmaking : store.SurvivesMaking P)
    (documents : List (Artifact × Json)) :
    ∀ staged tree, P tree → P (store.stageAll staged documents tree).2 := by
  induction documents with
  | nil => exact fun staged tree h => h
  | cons document documents ih =>
    obtain ⟨artifact, document⟩ := document
    intro staged tree h
    have hstaged := stable_stage hP hmaking artifact document h
    rw [stageAll]
    rcases hstage : store.stage artifact document tree with ⟨fault | entry, next⟩
    · rw [hstage] at hstaged
      exact stable_discard hP staged next hstaged
    · rw [hstage] at hstaged
      exact ih _ next hstaged

theorem stable_renameAll (hP : StableOnFiles P) (staged : List Staged) :
    ∀ renamed tree, P tree → P (renameAll renamed staged tree).2 := by
  induction staged with
  | nil => exact fun renamed tree h => h
  | cons entry staged ih =>
    intro renamed tree h
    rw [renameAll]
    rcases hrename : tree.rename entry.staging entry.path with fault | next
    · exact stable_putBack hP renamed _ (stable_discard hP (entry :: staged) tree h)
    · exact ih _ next (hP.rename hrename h)

/-- What no operation on files breaks, and the making of the directories of artifacts neither, no
transaction breaks. -/
theorem survives_writeAll (hP : StableOnFiles P) (hmaking : store.SurvivesMaking P)
    (documents : List (Artifact × Json)) (h : P tree) :
    P ((store.writeAll documents).perform tree).2 := by
  have hstaged := stable_stageAll hP hmaking documents [] tree h
  rw [writeAll, Action.perform_step]
  rcases hstage : store.stageAll [] documents tree with ⟨fault | staged, next⟩
  · rwa [hstage] at hstaged
  · rw [hstage] at hstaged
    have hrenamed := stable_renameAll hP staged [] next hstaged
    dsimp only
    rcases hrename : renameAll [] staged next with ⟨fault | _, last⟩
    · rwa [hrename] at hrenamed
    · rwa [hrename] at hrenamed

/-- **What no operation on files breaks, no transaction breaks**, whether it succeeds or not. -/
theorem stable_writeAll (hP : Stable P) (store : Store) (documents : List (Artifact × Json))
    (h : P tree) : P ((store.writeAll documents).perform tree).2 :=
  survives_writeAll hP.onFiles (fun _ htree => hP.makeDirectories htree) documents h

end Stable

end NetworkIntent.Store
