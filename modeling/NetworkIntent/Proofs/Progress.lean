import NetworkIntent.Proofs.ArtifactFile

/-!
# Transactions that succeed

A transaction succeeds where the way to the files of its artifacts is free: their paths and the
paths at which they are staged lead somewhere, and there is no directory. The way stays free
whatever is written, since no directory of an artifact has the name of a file of one. So a document
that is in place can be written again, and this changes no file.

That a way is free cannot be said of the paths alone: a directory may be in the way at a staging
path, where nobody but another program would have made it.

## Main definitions

* `Store.Ready`: the way to the file of an artifact is free.
* `Store.Settled`: a document is in place, and can be written again.

## Main results

* `Store.Ready.writeAll`: no transaction is in the way of another one.
* `Store.exists_writeAll`: a transaction succeeds where the way to its artifacts is free.
* `Store.settled_of_committed`, `Store.Settled.writeAll`: what settles documents, and what leaves
  them settled.
* `Store.rewrite_settled`: settled documents are written again without any change.
-/

set_option autoImplicit false

namespace NetworkIntent.Store

open FileTree

variable {store : Store} {initial tree after : FileTree} {ℓ : Location} {path : String}
  {artifact other : Artifact} {document : Json} {site : Site} {slots : List Slot}
  {documents : List (Artifact × Json)}

/-! ## Free ways -/

/-- The way to the file of an artifact is free: its path and the path at which it is staged lead to
the places of a site, and no directory is there. -/
structure Ready (store : Store) (tree : FileTree) (artifact : Artifact) (site : Site) : Prop where
  paths : ∃ path, store.pathOf artifact = .ok path ∧ tree.locate path = .ok site.path ∧
    tree.locate (stagingOf path) = .ok site.staging
  file : tree.get? site.path ≠ some .directory
  staging : tree.get? site.staging ≠ some .directory

/-- The way stays free as long as directories stay, and none comes to be at its end. -/
theorem Ready.mono (h : Ready store tree artifact site) (hkeeps : KeepsDirectories tree after)
    (hfile : after.get? site.path ≠ some .directory)
    (hstaging : after.get? site.staging ≠ some .directory) : Ready store after artifact site := by
  obtain ⟨path, hpath, hlocate, hlocate'⟩ := h.paths
  exact ⟨⟨path, hpath, hkeeps.locate hlocate, hkeeps.locate hlocate'⟩, hfile, hstaging⟩

theorem Ready.sameDirectories (h : Ready store tree artifact site)
    (hsame : SameDirectories tree after) : Ready store after artifact site :=
  h.mono hsame.toKeepsDirectories (hsame.ne_directory h.file) (hsame.ne_directory h.staging)

/-- A site has the name of the file of its artifact. -/
theorem Ready.name_eq (h : Ready store tree artifact site) : site.name = artifact.fileName := by
  obtain ⟨path, hpath, hlocate, -⟩ := h.paths
  obtain ⟨d, -, hsite⟩ := exists_root_of_locate hpath hlocate
  rw [Site.path, ← List.append_assoc] at hsite
  obtain ⟨-, hname⟩ := List.append_inj' hsite rfl
  simpa using hname

/-- A slot whose paths lead to its site is at the site to which the way of its artifact leads. -/
theorem Ready.site_eq {slot : Slot} (h : Ready store tree slot.artifact site)
    (hslot : slot.Standing store initial tree) : slot.site = site := by
  obtain ⟨path, hpath, hlocate, -⟩ := h.paths
  obtain rfl := Except.ok.inj (hpath.symm.trans hslot.pathOf_eq)
  exact Site.path_inj (Except.ok.inj (hslot.path.symm.trans hlocate))

/-- The way to an artifact goes through the directory that the root leads to. -/
theorem Ready.root (h : Ready store tree artifact site) :
    ∃ d, tree.follow (tree.start store.root) (Path.parts store.root) = .ok d ∧
      tree.get? d = some .directory := by
  obtain ⟨path, hpath, hlocate, -⟩ := h.paths
  obtain ⟨d, hroot, hfollow⟩ := exists_follow_of_locate hpath hlocate
  exact ⟨d, hroot, get?_of_follow_ne_nil (by simp) hfollow⟩

/-- Where the way to the file of an artifact is free, its directory need not be made. -/
theorem Ready.makeDirectories_eq (h : Ready store tree artifact site) {place : Artifact.Place}
    (hplace : artifact.place = .ok place) :
    tree.makeDirectories (store.directoryOf place) = (.ok (), tree) := by
  obtain ⟨path, hpath, hlocate, -⟩ := h.paths
  obtain rfl : path = store.fileOf place := by
    rw [pathOf, hplace] at hpath
    exact (Except.ok.inj hpath).symm
  have hplain := (Artifact.sound_of_place hplace).plain
  obtain ⟨⟨hnul, hlong, -⟩, d, hfollow, hd, -⟩ := (locate_join_iff hplain).mp hlocate
  obtain ⟨-, hnames, hparts⟩ := names_of_directoryOf hplace tree
  obtain ⟨hchars, hsize⟩ := Path.directory_of_join (store.directoryOf place) hplain.isAbsolute_eq
  have hnul' : ¬(store.directoryOf place).toList.contains '\x00' = true := by
    rw [List.contains_iff_mem]
    exact fun hmem => hnul (hchars _ hmem)
  have hlong' : ¬maxPathLength ≤ (store.directoryOf place).utf8ByteSize := by omega
  have hstart : tree.isDirectoryAt (tree.start (store.directoryOf place)) = true := by
    rw [isDirectoryAt, decide_eq_true_iff]
    exact get?_of_follow hfollow hd
  rw [makeDirectories, if_neg hnul', if_neg hlong', if_pos hstart, hnames, ← hparts]
  have hmake := makeFrom_append [] hd hfollow
  rwa [List.append_nil] at hmake

/-- The directories of another artifact are not in the way.

**Proof sketch.** There is a directory where the root leads to, so directories are made only below
it, and each of them has the name of a directory of an artifact. -/
theorem Ready.makeDirectories (h : Ready store tree artifact site) {place : Artifact.Place}
    (hplace : other.place = .ok place) :
    Ready store (tree.makeDirectories (store.directoryOf place)).2 artifact site := by
  have hmakes := onlyMakes_makeDirectories (store.directoryOf place) tree
  have hkeeps : KeepsDirectories tree (tree.makeDirectories (store.directoryOf place)).2 :=
    (hmakes.leaves : Leaves (fun _ => False) _ _).toKeepsDirectories
  obtain ⟨path, hpath, -, -⟩ := h.paths
  obtain ⟨ownPlace, hownPlace, -⟩ := exists_place_of_pathOf hpath
  have hname : site.name = ownPlace.file := by
    rw [h.name_eq, (Artifact.names_of_place hownPlace).2]
  obtain ⟨hfile, hstaging⟩ := (Artifact.sound_of_place hownPlace).not_mem_directoryNames other
  obtain ⟨d, hroot, hd⟩ := h.root
  obtain ⟨hstart, hnames, -⟩ := names_of_directoryOf hplace tree
  have hmade : ∀ m, (tree.makeDirectories (store.directoryOf place)).2.get? m = some .directory →
      tree.get? m = some .directory ∨ ∃ name ∈ other.directoryNames, m.getLast? = some name := by
    intro m hm
    rw [FileTree.makeDirectories] at hm
    split_ifs at hm
    · exact .inl hm
    · exact .inl hm
    · rw [hstart, hnames, makeFrom_append _ hd hroot] at hm
      exact makeFrom_plain (fun name => Artifact.plain_of_mem_directoryNames) hm
    · exact .inl hm
  refine h.mono hkeeps (fun hdirectory => ?_) (fun hdirectory => ?_)
  · rcases hmade _ hdirectory with hbefore | ⟨name, hmem, hlast⟩
    · exact h.file hbefore
    · have heq : site.name = name := by simpa [Site.path] using hlast
      exact hfile (by rwa [← hname, heq])
  · rcases hmade _ hdirectory with hbefore | ⟨name, hmem, hlast⟩
    · exact h.staging hbefore
    · have heq : site.name ++ ".tmp" = name := by simpa [Site.staging] using hlast
      exact hstaging (by rwa [← hname, heq])

/-- **No transaction is in the way of another one**, whether it succeeds or not. -/
theorem Ready.writeAll (h : Ready store tree artifact site) (documents : List (Artifact × Json)) :
    Ready store ((store.writeAll documents).perform tree).2 artifact site := by
  have hfiles : StableOnFiles fun tree => Ready store tree artifact site :=
    stableOnFiles_of_sameDirectories fun hsame hready => hready.sameDirectories hsame
  exact survives_writeAll hfiles (fun hplace hready => hready.makeDirectories hplace) documents h

/-! ## Progress -/

/-- A document is staged where the way to its artifact is free. -/
theorem Ready.exists_stage {stored : Json} (h : Ready store tree artifact site)
    (hstored : storedForm artifact document = .ok stored) :
    ∃ entry after, store.stage artifact document tree = (.ok entry, after) ∧
      SameDirectories tree after := by
  obtain ⟨path, hpath, hlocate, hstaging⟩ := h.paths
  obtain ⟨place, hplace, rfl⟩ := exists_place_of_pathOf hpath
  have hprevious : ∃ previous, previousAt (store.fileOf place) tree = .ok previous := by
    rw [previousAt, FileTree.read, hlocate]
    rcases hget : tree.get? site.path with _ | (content | _)
    · exact ⟨none, by simp [hget]⟩
    · exact ⟨some content, by simp [hget]⟩
    · exact absurd hget h.file
  obtain ⟨previous, hprevious⟩ := hprevious
  obtain ⟨after, hwrite⟩ := exists_write_of_locate hstaging h.staging (textOf stored)
  obtain ⟨-, -, hsame, -⟩ := write_spec hwrite
  refine ⟨⟨stagingOf (store.fileOf place), store.fileOf place, previous⟩, after, ?_, hsame⟩
  rw [stage, hstored]
  simp only [hplace, stageText, h.makeDirectories_eq hplace, hprevious, hwrite]

/-- The way to the artifact of a document is free, and the document has a stored form. -/
def Writable (store : Store) (tree : FileTree) (document : Artifact × Json) : Prop :=
  (∃ site, Ready store tree document.1 site) ∧
    ∃ stored, storedForm document.1 document.2 = .ok stored

/-- Documents are staged where the ways to their artifacts are free. -/
theorem exists_stageAll : ∀ (documents : List (Artifact × Json)) (staged : List Staged)
    (tree : FileTree), (∀ document ∈ documents, store.Writable tree document) →
    ∃ entries after, store.stageAll staged documents tree = (.ok entries, after) ∧
      SameDirectories tree after
  | [], staged, tree, _ => ⟨staged, tree, rfl, .refl tree⟩
  | (artifact, document) :: documents, staged, tree, h => by
    obtain ⟨⟨site, hready⟩, stored, hstored⟩ := h _ List.mem_cons_self
    obtain ⟨entry, next, hstage, hsame⟩ := hready.exists_stage hstored
    have hnext : ∀ document ∈ documents, store.Writable next document := by
      intro document hdocument
      obtain ⟨⟨site, hready⟩, hstored⟩ := h document (List.mem_cons_of_mem _ hdocument)
      exact ⟨⟨site, hready.sameDirectories hsame⟩, hstored⟩
    obtain ⟨entries, after, hstageAll, hsame'⟩ :=
      exists_stageAll documents (staged ++ [entry]) next hnext
    refine ⟨entries, after, ?_, hsame.trans hsame'⟩
    rw [stageAll, hstage]
    exact hstageAll

/-- Documents that are staged at different sites are renamed into place, unless there is a directory.
-/
theorem exists_renameAll : ∀ (slots : List Slot) (renamed : List Staged) (tree : FileTree),
    (∀ slot ∈ slots, slot.Standing store initial tree) →
    (∀ slot ∈ slots, tree.get? slot.site.path ≠ some .directory) →
    (∀ slot ∈ slots, tree.fileAt slot.site.staging ≠ none) → (slots.map Slot.site).Nodup →
    ∃ after, renameAll renamed (slots.map Slot.entry) tree = (.ok (), after)
  | [], renamed, tree, _, _, _, _ => ⟨tree, rfl⟩
  | slot :: slots, renamed, tree, hstanding, hfile, hstaged, hnodup => by
    have hslot := hstanding slot List.mem_cons_self
    obtain ⟨next, hrename⟩ : ∃ next,
        tree.rename slot.entry.staging slot.entry.path = .ok next := by
      rcases hstaging : tree.get? slot.site.staging with _ | (content | _)
      · exact absurd hstaging (fileAt_ne_none_iff.mp (hstaged slot List.mem_cons_self)).1
      · refine ⟨(tree.erase slot.site.staging).put slot.site.path (.file content), ?_⟩
        rw [FileTree.rename, hslot.staging, hslot.path]
        rcases hpath : tree.get? slot.site.path with _ | (content' | _)
        · simp [hstaging, hpath]
        · simp [hstaging, hpath]
        · exact absurd hpath (hfile slot List.mem_cons_self)
      · exact absurd hstaging (fileAt_ne_none_iff.mp (hstaged slot List.mem_cons_self)).2
    obtain ⟨hsame, -, -, hfiles⟩ := rename_spec hrename hslot.staging hslot.path
    rw [List.map_cons, List.nodup_cons] at hnodup
    have hstaged' : ∀ slot' ∈ slots, next.fileAt slot'.site.staging ≠ none := by
      intro slot' hslot'
      have hsite : slot'.site ≠ slot.site := by
        intro heq
        exact hnodup.1 (heq ▸ List.mem_map_of_mem hslot')
      rw [hfiles, if_neg (hslot.path_ne_staging slot'.site).symm,
        if_neg fun heq => hsite (Site.staging_inj heq)]
      exact hstaged slot' (List.mem_cons_of_mem _ hslot')
    rw [List.map_cons, renameAll, hrename]
    exact exists_renameAll slots (slot.entry :: renamed) next
      (fun slot' hslot' =>
        (hstanding slot' (List.mem_cons_of_mem _ hslot')).mono hsame.toKeepsDirectories)
      (fun slot' hslot' => hsame.ne_directory (hfile slot' (List.mem_cons_of_mem _ hslot')))
      hstaged' hnodup.2

/-- Slots of different artifacts are at different sites. -/
theorem nodup_sites (hstanding : ∀ slot ∈ slots, slot.Standing store initial tree)
    (hartifacts : (slots.map Slot.artifact).Nodup) : (slots.map Slot.site).Nodup := by
  rw [List.Nodup, List.pairwise_map] at hartifacts ⊢
  refine hartifacts.imp_of_mem fun {slot slot'} hslot hslot' hne heq => hne ?_
  have hpath := (hstanding slot hslot).path
  rw [heq] at hpath
  exact eq_of_locate (hstanding slot hslot).pathOf_eq (hstanding slot' hslot').pathOf_eq hpath
    (hstanding slot' hslot').path

/-- **A transaction succeeds where the ways to its artifacts are free**, if these are different ones.
-/
theorem exists_writeAll (h : ∀ document ∈ documents, store.Writable tree document)
    (hartifacts : (documents.map Prod.fst).Nodup) :
    ∃ paths after, (store.writeAll documents).perform tree = (.ok paths, after) := by
  obtain ⟨entries, staged, hstage, hsame⟩ := exists_stageAll documents [] tree h
  obtain ⟨slots, rfl, hholds, hstaging, -, -⟩ :=
    stageAll_spec documents [] tree (.nil store tree) hstage
  rw [List.nil_append] at hstaging hstage
  have hnodup : (slots.map Slot.site).Nodup := by
    refine nodup_sites hstaging.standing ?_
    rwa [artifacts_of_holds hholds]
  have hfile : ∀ slot ∈ slots, staged.get? slot.site.path ≠ some .directory := by
    intro slot hslot
    have hlisted : slot.artifact ∈ documents.map Prod.fst :=
      artifacts_of_holds hholds ▸ List.mem_map_of_mem hslot
    obtain ⟨document, hdocument, heq⟩ := List.mem_map.mp hlisted
    obtain ⟨⟨site, hready⟩, -⟩ := h document hdocument
    have hready' := heq ▸ hready.sameDirectories hsame
    rw [hready'.site_eq (hstaging.standing slot hslot)]
    exact hready'.file
  obtain ⟨after, hrename⟩ :=
    exists_renameAll slots [] staged hstaging.standing hfile hstaging.staged hnodup
  refine ⟨(slots.map Slot.entry).map Staged.path, after, ?_⟩
  rw [Store.writeAll, Action.perform_step, hstage]
  simp only [hrename]

/-! ## What transactions touch -/

/-- A transaction touches the files of its artifacts and the ones at which they are staged, and no
others, whether it succeeds or not. -/
theorem exists_touched (store : Store) (documents : List (Artifact × Json)) (tree : FileTree) :
    ∃ slots : List Slot, (∀ slot ∈ slots, slot.artifact ∈ documents.map Prod.fst) ∧
      (∀ slot ∈ slots,
        slot.Standing store tree ((store.writeAll documents).perform tree).2) ∧
      Leaves (fun ℓ => IsStaging slots ℓ ∨ ∃ slot ∈ slots, ℓ = slot.site.path) tree
        ((store.writeAll documents).perform tree).2 := by
  have htransaction := committed_or_undone store documents tree
  rcases hperform : (store.writeAll documents).perform tree with ⟨fault | paths, after⟩
  · rw [hperform] at htransaction
    obtain ⟨slots, hundone⟩ := htransaction
    exact ⟨slots, hundone.listed, hundone.standing, hundone.leaves.mono fun _ => .inl⟩
  · rw [hperform] at htransaction
    obtain ⟨slots, hcommitted, -⟩ := htransaction
    refine ⟨slots, fun slot hslot => ?_, hcommitted.standing, hcommitted.leaves⟩
    exact artifacts_of_holds hcommitted.holds ▸ List.mem_map_of_mem hslot

/-- A slot has the name of the file of its artifact. -/
theorem Slot.Standing.name_eq {slot : Slot} (h : slot.Standing store initial tree) :
    slot.site.name = slot.artifact.fileName := by
  obtain ⟨place, hplace, -, hname⟩ := h.sound
  rw [hname, (Artifact.names_of_place hplace).2]

/-- **A file keeps its text in transactions** if no listed artifact has its name. -/
theorem readText_writeAll {directory name : String} {text : Bytes} (hplain : Path.Plain name)
    (hname : ∀ artifact ∈ documents.map Prod.fst,
      name ≠ artifact.fileName ∧ name ≠ artifact.fileName ++ ".tmp")
    (h : tree.readText (Path.join directory name) = .ok text) :
    ((store.writeAll documents).perform tree).2.readText (Path.join directory name) = .ok text := by
  obtain ⟨slots, hlisted, hstanding, hleaves⟩ := exists_touched store documents tree
  refine hleaves.readText (fun ℓ hlocate => ?_) h
  obtain ⟨-, d, -, -, rfl⟩ := (locate_join_iff hplain).mp hlocate
  rintro (⟨slot, hslot, heq⟩ | ⟨slot, hslot, heq⟩)
  · obtain ⟨-, hlast⟩ := List.append_inj' heq rfl
    refine (hname slot.artifact (hlisted slot hslot)).2 ?_
    rw [← (hstanding slot hslot).name_eq]
    simpa using hlast
  · obtain ⟨-, hlast⟩ := List.append_inj' heq rfl
    refine (hname slot.artifact (hlisted slot hslot)).1 ?_
    rw [← (hstanding slot hslot).name_eq]
    simpa using hlast

/-! ## Settled documents -/

/-- A document is in place and can be written again: its file has the text of its stored form, the
way there is free, and nothing is staged. -/
def Settled (store : Store) (tree : FileTree) (document : Artifact × Json) : Prop :=
  ∃ site stored, Ready store tree document.1 site ∧
    storedForm document.1 document.2 = .ok stored ∧
    tree.fileAt site.path = some (textOf stored) ∧ tree.fileAt site.staging = none

/-- A transaction settles its documents. -/
theorem settled_of_committed (h : Committed store documents initial after slots)
    {document : Artifact × Json} (hdocument : document ∈ documents) :
    store.Settled after document := by
  obtain ⟨slot, hslot, hartifact, hstored⟩ := exists_slot_of_holds h.holds hdocument
  have hstanding := h.standing slot hslot
  have hwritten := fileAt_eq_some_iff.mp (h.written slot hslot)
  refine ⟨slot.site, slot.stored, ⟨⟨slot.entry.path, ?_, hstanding.path, ?_⟩, ?_, ?_⟩, hstored,
    h.written slot hslot, fileAt_eq_none_iff.mpr (.inl (h.gone slot hslot))⟩
  · rw [← hartifact]
    exact hstanding.pathOf_eq
  · rw [← hstanding.stagingOf]
    exact hstanding.staging
  · simp [hwritten]
  · simp [h.gone slot hslot]

/-- A settled document is read from its file. -/
theorem Settled.read {document : Artifact × Json} (h : store.Settled tree document)
    (hpath : store.pathOf document.1 = .ok path) :
    ∃ stored, storedForm document.1 document.2 = .ok stored ∧
      tree.read path = .ok (textOf stored) := by
  obtain ⟨site, stored, hready, hstored, hfile, -⟩ := h
  obtain ⟨path', hpath', hlocate, -⟩ := hready.paths
  obtain rfl := Except.ok.inj (hpath.symm.trans hpath')
  refine ⟨stored, hstored, ?_⟩
  rw [FileTree.read, hlocate]
  simp [fileAt_eq_some_iff.mp hfile]

/-- A document that is settled in two trees has the same file in both. -/
theorem Settled.read_eq {document : Artifact × Json} (h : store.Settled tree document)
    (h' : store.Settled after document) (hpath : store.pathOf document.1 = .ok path) :
    after.read path = tree.read path := by
  obtain ⟨stored, hstored, hread⟩ := h.read hpath
  obtain ⟨stored', hstored', hread'⟩ := h'.read hpath
  obtain rfl := Except.ok.inj (hstored.symm.trans hstored')
  rw [hread, hread']

/-- **A document stays settled in transactions that do not list its artifact**, whether they succeed
or not. -/
theorem Settled.writeAll {document : Artifact × Json} (h : store.Settled tree document)
    (hlisted : document.1 ∉ documents.map Prod.fst) :
    store.Settled ((store.writeAll documents).perform tree).2 document := by
  obtain ⟨site, stored, hready, hstored, hfile, hstaging⟩ := h
  have hready' := hready.writeAll documents
  obtain ⟨slots, hslots, hstanding, hleaves⟩ := exists_touched store documents tree
  obtain ⟨path, hpath, hlocate, -⟩ := hready'.paths
  have hother : ∀ slot ∈ slots, site ≠ slot.site := by
    rintro slot hslot rfl
    have hslot' := hstanding slot hslot
    have heq := eq_of_locate hpath hslot'.pathOf_eq hlocate hslot'.path
    exact hlisted (heq ▸ hslots slot hslot)
  refine ⟨site, stored, hready', hstored, ?_, ?_⟩
  · rw [hleaves.files, hfile]
    rintro (⟨slot, hslot, heq⟩ | ⟨slot, hslot, heq⟩)
    · exact ne_staging_of_locate hpath hlocate slot.site heq
    · exact hother slot hslot (Site.path_inj heq)
  · rw [hleaves.files, hstaging]
    rintro (⟨slot, hslot, heq⟩ | ⟨slot, hslot, heq⟩)
    · exact hother slot hslot (Site.staging_inj heq)
    · exact (hstanding slot hslot).path_ne_staging site heq.symm

/-- **Settled documents are written again without any change**: the transaction succeeds, every file
is what it was, and the documents are settled again. -/
theorem rewrite_settled (h : ∀ document ∈ documents, store.Settled tree document)
    (hartifacts : (documents.map Prod.fst).Nodup) :
    ∃ paths after, (store.writeAll documents).perform tree = (.ok paths, after) ∧
      (∀ document ∈ documents, store.Settled after document) ∧
      ∀ ℓ, after.fileAt ℓ = tree.fileAt ℓ := by
  have hwritable : ∀ document ∈ documents, store.Writable tree document := by
    intro document hdocument
    obtain ⟨site, stored, hready, hstored, -⟩ := h document hdocument
    exact ⟨⟨site, hready⟩, stored, hstored⟩
  obtain ⟨paths, after, hperform⟩ := exists_writeAll hwritable hartifacts
  have htransaction := committed_or_undone store documents tree
  rw [hperform] at htransaction
  obtain ⟨slots, hcommitted, rfl⟩ := htransaction
  refine ⟨_, after, hperform, fun document => settled_of_committed hcommitted, fun ℓ => ?_⟩
  -- each slot is where its document has been settled before
  have hslot : ∀ slot ∈ slots, tree.fileAt slot.site.path = some (textOf slot.stored) ∧
      tree.fileAt slot.site.staging = none := by
    intro slot hslot
    obtain ⟨document, hdocument, hartifact, hstored⟩ := exists_mem_of_forall₂ hcommitted.holds hslot
    obtain ⟨site, stored, hready, hstored', hfile, hstaging⟩ := h document hdocument
    have hready' := hready.writeAll documents
    rw [hperform, ← hartifact] at hready'
    rw [hready'.site_eq (hcommitted.standing slot hslot)]
    obtain rfl := Except.ok.inj (hstored.symm.trans hstored')
    exact ⟨hfile, hstaging⟩
  by_cases htouched : IsStaging slots ℓ ∨ ∃ slot ∈ slots, ℓ = slot.site.path
  · rcases htouched with ⟨slot, hmem, rfl⟩ | ⟨slot, hmem, rfl⟩
    · rw [(hslot slot hmem).2, fileAt_eq_none_iff]
      exact .inl (hcommitted.gone slot hmem)
    · rw [(hslot slot hmem).1, hcommitted.written slot hmem]
  · exact hcommitted.leaves.files ℓ htouched

end NetworkIntent.Store
