import Mathlib.Tactic.SplitIfs
import NetworkIntent.FileTree.Basic
import NetworkIntent.Proofs.Path

/-!
# Laws of file trees

What the operations on a file tree do to its files and directories. The operations on files change
one file, or two, and leave all directories as they are; making directories changes no file. A path
that leads to a location goes on leading there as long as the directories stay.

## Main definitions

* `FileTree.fileAt`: the content of the file at a location.
* `FileTree.KeepsDirectories`, `FileTree.SameDirectories`: how two trees agree in directories.
* `FileTree.Leaves`: a tree that differs in the files of some locations only, and in further
  directories.
* `FileTree.OnlyMakes`: a tree that differs in further directories only.

## Main results

* `FileTree.KeepsDirectories.locate`: paths lead to the same locations while directories are kept.
* `FileTree.write_spec`, `FileTree.remove_spec`, `FileTree.rename_spec`: one file is changed, or
  two.
* `FileTree.onlyMakes_makeDirectories`: making directories changes nothing else.
* `FileTree.makeFrom_append`, `FileTree.makeFrom_plain`: which directories are made.
* `FileTree.locate_join_iff`: where the files of a directory are.
-/

set_option autoImplicit false

namespace NetworkIntent.FileTree

variable {tree before after between : FileTree} {ℓ m : Location} {entry : Entry} {path : String}
  {content : Bytes} {touched other : Location → Prop}

/-! ## Entries -/

@[simp] theorem get?_nil (tree : FileTree) : tree.get? [] = some .directory := rfl

/-- Without the entries of a location, look-up only misses at this location. -/
private theorem lookup_filter_ne (entries : List (Location × Entry)) (ℓ m : Location) :
    (entries.filter fun (l, _) => l ≠ ℓ).lookup m = if m = ℓ then none else entries.lookup m := by
  induction entries with
  | nil => simp
  | cons entry entries ih =>
    obtain ⟨l, e⟩ := entry
    by_cases hl : l = ℓ
    · subst hl
      by_cases hm : m = l
      · simpa [hm] using ih
      · have hbeq : (m == l) = false := beq_eq_false_iff_ne.mpr hm
        simpa [hm, List.lookup_cons, hbeq] using ih
    · rw [List.filter_cons_of_pos (by simpa using hl), List.lookup_cons, List.lookup_cons, ih]
      by_cases hm : m = l
      · subst hm
        simp [hl]
      · have hbeq : (m == l) = false := beq_eq_false_iff_ne.mpr hm
        simp [hbeq]

/-- What is put at a location is found there. -/
theorem get?_put (tree : FileTree) (h : ℓ ≠ []) (m : Location) :
    (tree.put ℓ entry).get? m = if m = ℓ then some entry else tree.get? m := by
  by_cases hm : m = []
  · subst hm
    rw [if_neg (Ne.symm h), get?_nil, get?_nil]
  · rw [get?, if_neg hm, get?, if_neg hm, put, List.lookup_cons, lookup_filter_ne]
    by_cases heq : m = ℓ
    · simp [heq]
    · have hbeq : (m == ℓ) = false := beq_eq_false_iff_ne.mpr heq
      simp [heq, hbeq]

/-- What is taken away is not found any more. -/
theorem get?_erase (tree : FileTree) (h : ℓ ≠ []) (m : Location) :
    (tree.erase ℓ).get? m = if m = ℓ then none else tree.get? m := by
  by_cases hm : m = []
  · subst hm
    rw [if_neg (Ne.symm h), get?_nil, get?_nil]
  · rw [get?, if_neg hm, get?, if_neg hm, erase, lookup_filter_ne]

@[simp] theorem working_put (tree : FileTree) (ℓ : Location) (entry : Entry) :
    (tree.put ℓ entry).working = tree.working := rfl

@[simp] theorem working_erase (tree : FileTree) (ℓ : Location) :
    (tree.erase ℓ).working = tree.working := rfl

/-- The content of the file at a location. -/
def fileAt (tree : FileTree) (ℓ : Location) : Option Bytes :=
  match tree.get? ℓ with
  | some (.file content) => some content
  | _ => none

theorem fileAt_eq_some_iff : tree.fileAt ℓ = some content ↔ tree.get? ℓ = some (.file content) := by
  rw [fileAt]
  split
  · simp_all
  · simp_all

/-- A file stands where there is something that is no directory. -/
theorem fileAt_ne_none_iff :
    tree.fileAt ℓ ≠ none ↔ tree.get? ℓ ≠ none ∧ tree.get? ℓ ≠ some .directory := by
  rw [fileAt]
  rcases htree : tree.get? ℓ with _ | (content | _) <;> simp

theorem fileAt_eq_none_iff :
    tree.fileAt ℓ = none ↔ tree.get? ℓ = none ∨ tree.get? ℓ = some .directory := by
  rw [fileAt]
  rcases htree : tree.get? ℓ with _ | (content | _) <;> simp

/-- Trees with the same entry at a location have the same file there. -/
theorem fileAt_congr (h : after.get? ℓ = before.get? ℓ) : after.fileAt ℓ = before.fileAt ℓ := by
  rw [fileAt, fileAt, h]

/-! ## Trees compared -/

/-- The directories of a tree, with its working directory, are directories of the other one. -/
structure KeepsDirectories (before after : FileTree) : Prop where
  working : after.working = before.working
  directories : ∀ ℓ, before.get? ℓ = some .directory → after.get? ℓ = some .directory

/-- Both trees have the same directories. -/
structure SameDirectories (before after : FileTree) : Prop extends
    KeepsDirectories before after where
  onlyThese : ∀ ℓ, after.get? ℓ = some .directory → before.get? ℓ = some .directory

/-- The files of a tree are the ones of the other one, except at the locations that may be touched.
There may be further directories. -/
structure Leaves (touched : Location → Prop) (before after : FileTree) : Prop extends
    KeepsDirectories before after where
  files : ∀ ℓ, ¬touched ℓ → after.fileAt ℓ = before.fileAt ℓ

/-- The other tree has directories where there was nothing, and is the same everywhere else. -/
structure OnlyMakes (before after : FileTree) : Prop where
  working : after.working = before.working
  entries : ∀ ℓ, after.get? ℓ = before.get? ℓ ∨
    before.get? ℓ = none ∧ after.get? ℓ = some .directory

theorem KeepsDirectories.refl (tree : FileTree) : KeepsDirectories tree tree :=
  ⟨rfl, fun _ h => h⟩

theorem KeepsDirectories.trans (h : KeepsDirectories before between)
    (h' : KeepsDirectories between after) : KeepsDirectories before after :=
  ⟨h'.working.trans h.working, fun ℓ hℓ => h'.directories ℓ (h.directories ℓ hℓ)⟩

theorem SameDirectories.refl (tree : FileTree) : SameDirectories tree tree :=
  ⟨.refl tree, fun _ h => h⟩

theorem SameDirectories.trans (h : SameDirectories before between)
    (h' : SameDirectories between after) : SameDirectories before after :=
  ⟨h.toKeepsDirectories.trans h'.toKeepsDirectories, fun ℓ hℓ => h.onlyThese ℓ (h'.onlyThese ℓ hℓ)⟩

/-- What is no directory is none in the other tree either. -/
theorem SameDirectories.ne_directory (h : SameDirectories before after)
    (hℓ : before.get? ℓ ≠ some .directory) : after.get? ℓ ≠ some .directory :=
  fun hafter => hℓ (h.onlyThese ℓ hafter)

theorem Leaves.refl (tree : FileTree) : Leaves touched tree tree :=
  ⟨.refl tree, fun _ _ => rfl⟩

theorem Leaves.trans (h : Leaves touched before between) (h' : Leaves touched between after) :
    Leaves touched before after :=
  ⟨h.toKeepsDirectories.trans h'.toKeepsDirectories,
    fun ℓ hℓ => (h'.files ℓ hℓ).trans (h.files ℓ hℓ)⟩

/-- What touches few locations touches no others among more. -/
theorem Leaves.mono (h : Leaves touched before after) (hsub : ∀ ℓ, touched ℓ → other ℓ) :
    Leaves other before after :=
  ⟨h.toKeepsDirectories, fun ℓ hℓ => h.files ℓ fun htouched => hℓ (hsub ℓ htouched)⟩

theorem OnlyMakes.refl (tree : FileTree) : OnlyMakes tree tree :=
  ⟨rfl, fun _ => .inl rfl⟩

theorem OnlyMakes.trans (h : OnlyMakes before between) (h' : OnlyMakes between after) :
    OnlyMakes before after := by
  refine ⟨h'.working.trans h.working, fun ℓ => ?_⟩
  rcases h.entries ℓ with heq | ⟨hnone, hdirectory⟩
  · rw [← heq]
    exact h'.entries ℓ
  · rcases h'.entries ℓ with heq | ⟨hnone', -⟩
    · exact .inr ⟨hnone, heq.trans hdirectory⟩
    · simp [hdirectory] at hnone'

/-- Further directories are no change to files. -/
theorem OnlyMakes.leaves (h : OnlyMakes before after) : Leaves touched before after := by
  refine ⟨⟨h.working, fun ℓ hℓ => ?_⟩, fun ℓ _ => ?_⟩
  · rcases h.entries ℓ with heq | ⟨hnone, -⟩
    · rw [heq, hℓ]
    · simp [hℓ] at hnone
  · rcases h.entries ℓ with heq | ⟨hnone, hdirectory⟩
    · exact fileAt_congr heq
    · rw [fileAt_eq_none_iff.mpr (.inl hnone), fileAt_eq_none_iff.mpr (.inr hdirectory)]

/-! ## Where paths lead -/

/-- Names lead to the same location while directories are kept. -/
theorem KeepsDirectories.follow (h : KeepsDirectories before after) {names : List String} :
    ∀ {start : Location}, before.follow start names = .ok ℓ → after.follow start names = .ok ℓ := by
  induction names with
  | nil => exact fun hfollow => hfollow
  | cons name names ih =>
    intro start hfollow
    rw [FileTree.follow] at hfollow ⊢
    rcases hget : before.get? start with _ | (_ | _)
    · simp [hget] at hfollow
    · simp [hget] at hfollow
    · rw [hget] at hfollow
      rw [h.directories start hget]
      rcases hchild : child start name with fault | next
      · simp [hchild] at hfollow
      · rw [hchild] at hfollow
        exact ih hfollow

/-- A path leads to a location if it passes the checks of paths and its names lead there. -/
theorem locate_eq_ok_iff : tree.locate path = .ok ℓ ↔
    ('\x00' ∉ path.toList ∧ path ≠ "" ∧ path.utf8ByteSize < maxPathLength) ∧
      tree.follow (tree.start path) (Path.names path) = .ok ℓ := by
  rw [locate]
  by_cases hnul : '\x00' ∈ path.toList
  · simp [hnul]
  · by_cases hempty : path = ""
    · simp [hempty]
    · by_cases hlong : maxPathLength ≤ path.utf8ByteSize
      · simp [hnul, hempty, hlong]
      · simp [hnul, hempty, hlong, Nat.lt_of_not_le hlong]

/-- A path leads to the same location while directories are kept. -/
theorem KeepsDirectories.locate (h : KeepsDirectories before after)
    (hlocate : before.locate path = .ok ℓ) : after.locate path = .ok ℓ := by
  obtain ⟨hchecks, hfollow⟩ := locate_eq_ok_iff.mp hlocate
  have hstart : after.start path = before.start path := by rw [start, start, h.working]
  exact locate_eq_ok_iff.mpr ⟨hchecks, hstart ▸ h.follow hfollow⟩

/-- Names that fail to lead anywhere fail in the same way while the directories are kept and a file
in their way stays one, unless they fail for want of a directory.

**Proof sketch.** Induction on the names. Directories on the way stay; then there is either a file
in the way, or a name that stands for nothing. -/
theorem KeepsDirectories.follow_error (h : KeepsDirectories before after) {fault : Fault}
    (hfault : fault ≠ .notFound) (names : List String) : ∀ start : Location,
    (∀ front name rest q, names = front ++ name :: rest → before.follow start front = .ok q →
      before.fileAt q ≠ none → after.fileAt q ≠ none) →
    before.follow start names = .error fault → after.follow start names = .error fault := by
  induction names with
  | nil => exact fun start _ hfollow => absurd hfollow (by simp [FileTree.follow])
  | cons name names ih =>
    intro start hway hfollow
    rw [FileTree.follow] at hfollow ⊢
    rcases hget : before.get? start with _ | (content | _)
    · rw [hget] at hfollow
      exact absurd (Except.error.inj hfollow).symm hfault
    · rw [hget] at hfollow
      have hfile : before.fileAt start ≠ none := by simp [fileAt_eq_some_iff.mpr hget]
      have hafter := fileAt_ne_none_iff.mp (hway [] name names start rfl rfl hfile)
      rcases hget' : after.get? start with _ | (_ | _)
      · exact absurd hget' hafter.1
      · exact hfollow
      · exact absurd hget' hafter.2
    · rw [hget] at hfollow
      rw [h.directories start hget]
      rcases hchild : child start name with fault' | next
      · rwa [hchild] at hfollow
      · rw [hchild] at hfollow
        refine ih next (fun front name' rest q heq hfront => ?_) hfollow
        refine hway (name :: front) name' rest q (by rw [heq, List.cons_append]) ?_
        rw [FileTree.follow, hget]
        simpa only [hchild] using hfront

/-- A path that fails to lead anywhere fails in the same way while the directories are kept and a
file in its way stays one, unless it fails for want of a directory. -/
theorem KeepsDirectories.locate_error (h : KeepsDirectories before after) {fault : Fault}
    (hfault : fault ≠ .notFound)
    (hway : ∀ front name rest q, Path.names path = front ++ name :: rest →
      before.follow (before.start path) front = .ok q → before.fileAt q ≠ none →
      after.fileAt q ≠ none)
    (hlocate : before.locate path = .error fault) : after.locate path = .error fault := by
  have hstart : after.start path = before.start path := by rw [start, start, h.working]
  rw [FileTree.locate] at hlocate ⊢
  split_ifs at hlocate ⊢
  · exact hlocate
  · exact hlocate
  · exact hlocate
  · rw [hstart]
    exact h.follow_error hfault _ _ hway hlocate

/-- Names are followed one part after the other. -/
theorem follow_append (tree : FileTree) (names names' : List String) :
    ∀ start : Location, tree.follow start (names ++ names') =
      (tree.follow start names).bind fun ℓ => tree.follow ℓ names' := by
  induction names with
  | nil => exact fun start => rfl
  | cons name names ih =>
    intro start
    rw [List.cons_append, follow, follow]
    rcases hget : tree.get? start with _ | (_ | _)
    · rfl
    · rfl
    · rcases hchild : child start name with fault | next
      · rfl
      · exact ih next

/-- A name stands for the directory itself, for the one above it, or for an entry of it. -/
theorem child_cases {name : String} {next : Location} (h : child ℓ name = .ok next) :
    next = ℓ ∨ next = ℓ.dropLast ∧ name = ".." ∨ next = ℓ ++ [name] := by
  rw [child] at h
  split_ifs at h with hdot hdots hlong
  · exact .inl (Except.ok.inj h).symm
  · exact .inr (.inl ⟨(Except.ok.inj h).symm, hdots⟩)
  · exact .inr (.inr (Except.ok.inj h).symm)

/-- A plain name stands for an entry of a directory, if it is not too long. -/
theorem child_plain {name : String} (h : Path.Plain name) (ℓ : Location) :
    child ℓ name =
      if maxNameLength < name.utf8ByteSize then .error .nameTooLong else .ok (ℓ ++ [name]) := by
  rw [child, if_neg h.ne_dot, if_neg h.ne_dots]

/-- Plain names lead from entry to entry. -/
theorem follow_plain (tree : FileTree) {names : List String} (h : ∀ name ∈ names, Path.Plain name) :
    ∀ {start : Location}, tree.follow start names = .ok ℓ → ℓ = start ++ names := by
  induction names with
  | nil =>
    intro start hfollow
    rw [List.append_nil]
    exact (Except.ok.inj hfollow).symm
  | cons name names ih =>
    intro start hfollow
    rw [follow, child_plain (h name List.mem_cons_self)] at hfollow
    rcases hget : tree.get? start with _ | (_ | _)
    · simp [hget] at hfollow
    · simp [hget] at hfollow
    · rw [hget] at hfollow
      by_cases hlong : maxNameLength < name.utf8ByteSize
      · simp [hlong] at hfollow
      · simp only [hlong, if_false] at hfollow
        rw [ih (fun name' hname' => h name' (List.mem_cons_of_mem _ hname')) hfollow]
        simp

/-- A file within a directory is the entry of its name there. -/
theorem locate_join_iff {directory name : String} (h : Path.Plain name) :
    tree.locate (Path.join directory name) = .ok ℓ ↔
      ('\x00' ∉ (Path.join directory name).toList ∧
        (Path.join directory name).utf8ByteSize < maxPathLength ∧
        name.utf8ByteSize ≤ maxNameLength) ∧
      ∃ d, tree.follow (tree.start directory) (Path.parts directory) = .ok d ∧
        tree.get? d = some .directory ∧ ℓ = d ++ [name] := by
  have hempty : Path.join directory name ≠ "" := by
    intro hnil
    have hparts := Path.parts_join directory h.isAbsolute_eq
    rw [hnil, h.parts_eq] at hparts
    simp at hparts
  have hstart : tree.start (Path.join directory name) = tree.start directory := by
    rw [start, start, Path.isAbsolute_join directory h.isAbsolute_eq]
  rw [locate_eq_ok_iff, hstart, Path.names_join_plain directory h, follow_append]
  rcases hfollow : tree.follow (tree.start directory) (Path.parts directory) with fault | d
  · simp [Except.bind]
  · simp only [Except.bind, follow, child_plain h]
    rcases hget : tree.get? d with _ | (_ | _)
    · simp [hget]
    · simp [hget]
    · by_cases hlong : maxNameLength < name.utf8ByteSize
      · simp [hlong, Nat.not_le_of_lt hlong]
      · simp only [hlong, if_false, Except.ok.injEq]
        constructor
        · rintro ⟨⟨hnul, -, hlen⟩, rfl⟩
          exact ⟨⟨hnul, hlen, Nat.le_of_not_lt hlong⟩, d, rfl, hget, rfl⟩
        · rintro ⟨⟨hnul, hlen, -⟩, d', rfl, -, rfl⟩
          exact ⟨⟨hnul, hempty, hlen⟩, rfl⟩

/-! ## Operations -/

/-- A location with no directory is not the top of the tree. -/
theorem ne_nil_of_get?_ne (h : tree.get? ℓ ≠ some .directory) : ℓ ≠ [] := by
  rintro rfl
  exact h (get?_nil tree)

/-- A change at one location, with no directory there before or after, is no change to
directories. -/
theorem SameDirectories.of_get?_eq {found : Option Entry} (hworking : after.working = before.working)
    (hget : ∀ m, after.get? m = if m = ℓ then found else before.get? m)
    (hbefore : before.get? ℓ ≠ some .directory) (hfound : found ≠ some .directory) :
    SameDirectories before after := by
  refine ⟨⟨hworking, fun m hm => ?_⟩, fun m hm => ?_⟩
  · have hne : m ≠ ℓ := by
      rintro rfl
      exact hbefore hm
    rwa [hget, if_neg hne]
  · rw [hget] at hm
    split at hm
    · exact absurd hm hfound
    · exact hm

/-- A file in place of a file, or of nothing, is no change to directories. -/
theorem sameDirectories_put (h : tree.get? ℓ ≠ some .directory) :
    SameDirectories tree (tree.put ℓ (.file content)) :=
  .of_get?_eq rfl (get?_put tree (ne_nil_of_get?_ne h)) h (by simp)

/-- A directory may be put where there is nothing. -/
theorem onlyMakes_put_directory (h : tree.get? ℓ = none) :
    OnlyMakes tree (tree.put ℓ .directory) := by
  have hdirectory : tree.get? ℓ ≠ some .directory := by simp [h]
  have hne : ℓ ≠ [] := ne_nil_of_get?_ne hdirectory
  refine ⟨rfl, fun m => ?_⟩
  rw [get?_put tree hne]
  by_cases hm : m = ℓ
  · exact .inr ⟨hm ▸ h, if_pos hm⟩
  · exact .inl (if_neg hm)

/-- The file at a location is replaced, and no other one. -/
theorem fileAt_put (h : tree.get? ℓ ≠ some .directory) (m : Location) :
    (tree.put ℓ (.file content)).fileAt m = if m = ℓ then some content else tree.fileAt m := by
  rw [fileAt, get?_put tree (ne_nil_of_get?_ne h)]
  by_cases hm : m = ℓ
  · rw [if_pos hm, if_pos hm]
  · rw [if_neg hm, if_neg hm, fileAt]

/-- The texts of files stay when something is put where there was nothing. -/
theorem readText_put (h : tree.get? ℓ = none) {text : Bytes}
    (hread : tree.readText path = .ok text) :
    (tree.put ℓ entry).readText path = .ok text := by
  have hne : ℓ ≠ [] := by
    rintro rfl
    simp at h
  have hkeeps : KeepsDirectories tree (tree.put ℓ entry) := by
    refine ⟨rfl, fun m hm => ?_⟩
    rw [get?_put tree hne, if_neg, hm]
    rintro rfl
    simp [h] at hm
  rw [readText, read] at hread ⊢
  rcases hlocate : tree.locate path with fault | m
  · simp [hlocate] at hread
  · have hkept : (tree.put ℓ entry).get? m = tree.get? m := by
      rw [get?_put tree hne, if_neg]
      rintro rfl
      simp [hlocate, h] at hread
    rw [hkeeps.locate hlocate]
    rw [hlocate] at hread
    simpa only [hkept] using hread

/-- The text of a file stays where the file is not touched. -/
theorem Leaves.readText (h : Leaves touched before after) {text : Bytes}
    (htouched : ∀ ℓ, before.locate path = .ok ℓ → ¬touched ℓ)
    (hread : before.readText path = .ok text) : after.readText path = .ok text := by
  rw [FileTree.readText, read] at hread ⊢
  rcases hlocate : before.locate path with fault | ℓ
  · simp [hlocate] at hread
  · rw [hlocate] at hread
    rw [h.toKeepsDirectories.locate hlocate]
    rcases hget : before.get? ℓ with _ | (content | _)
    · simp [hget] at hread
    · have hfile := h.files ℓ (htouched ℓ hlocate)
      rw [fileAt_eq_some_iff.mpr hget, fileAt_eq_some_iff] at hfile
      simpa only [hget, hfile] using hread
    · simp [hget] at hread

/-- To erase a file is no change to directories. -/
theorem sameDirectories_erase (h : tree.get? ℓ ≠ some .directory) :
    SameDirectories tree (tree.erase ℓ) :=
  .of_get?_eq rfl (get?_erase tree (ne_nil_of_get?_ne h)) h (by simp)

/-- The file at a location is erased, and no other one. -/
theorem fileAt_erase (h : tree.get? ℓ ≠ some .directory) (m : Location) :
    (tree.erase ℓ).fileAt m = if m = ℓ then none else tree.fileAt m := by
  rw [fileAt, get?_erase tree (ne_nil_of_get?_ne h)]
  by_cases hm : m = ℓ
  · rw [if_pos hm, if_pos hm]
  · rw [if_neg hm, if_neg hm, fileAt]

/-- A file that can be written is put where its path leads to, and no directory is there. -/
theorem exists_of_write (h : tree.write path content = .ok after) :
    ∃ ℓ, tree.locate path = .ok ℓ ∧ tree.get? ℓ ≠ some .directory ∧
      after = tree.put ℓ (.file content) := by
  rw [write] at h
  rcases hlocate : tree.locate path with fault | ℓ
  · simp [hlocate] at h
  · rw [hlocate] at h
    refine ⟨ℓ, rfl, ?_⟩
    rcases hget : tree.get? ℓ with _ | (_ | _)
    · exact ⟨by simp, by simpa [hget] using h.symm⟩
    · exact ⟨by simp, by simpa [hget] using h.symm⟩
    · simp [hget] at h

/-- To write a file is no change to directories and to other files. -/
theorem write_spec (h : tree.write path content = .ok after) :
    ∃ ℓ, tree.locate path = .ok ℓ ∧ SameDirectories tree after ∧
      ∀ m, after.fileAt m = if m = ℓ then some content else tree.fileAt m := by
  obtain ⟨ℓ, hlocate, hne, rfl⟩ := exists_of_write h
  exact ⟨ℓ, hlocate, sameDirectories_put hne, fileAt_put hne⟩

/-- Where a path leads to anything but a directory, a file can be written. -/
theorem exists_write_of_locate (hlocate : tree.locate path = .ok ℓ)
    (h : tree.get? ℓ ≠ some .directory) (content : Bytes) :
    ∃ after, tree.write path content = .ok after := by
  refine ⟨tree.put ℓ (.file content), ?_⟩
  rw [write, hlocate]
  rcases hget : tree.get? ℓ with _ | (_ | _)
  · simp [hget]
  · simp [hget]
  · exact absurd hget h

/-- A file that can be removed is erased where its path leads to, and no directory is there. -/
theorem exists_of_remove (h : tree.remove path = .ok after) :
    ∃ ℓ, tree.locate path = .ok ℓ ∧ tree.get? ℓ ≠ some .directory ∧ after = tree.erase ℓ := by
  rw [remove] at h
  rcases hlocate : tree.locate path with fault | ℓ
  · simp [hlocate] at h
  · rw [hlocate] at h
    refine ⟨ℓ, rfl, ?_⟩
    rcases hget : tree.get? ℓ with _ | (_ | _)
    · simp [hget] at h
    · exact ⟨by simp, by simpa [hget] using h.symm⟩
    · simp [hget] at h

/-- To remove a file is no change to directories and to other files. -/
theorem remove_spec (h : tree.remove path = .ok after) :
    ∃ ℓ, tree.locate path = .ok ℓ ∧ SameDirectories tree after ∧
      ∀ m, after.fileAt m = if m = ℓ then none else tree.fileAt m := by
  obtain ⟨ℓ, hlocate, hne, rfl⟩ := exists_of_remove h
  exact ⟨ℓ, hlocate, sameDirectories_erase hne, fileAt_erase hne⟩

/-- Where a path leads to a file, it can be removed. -/
theorem exists_remove_of_locate (hlocate : tree.locate path = .ok ℓ) (h : tree.fileAt ℓ ≠ none) :
    ∃ after, tree.remove path = .ok after := by
  rw [remove, hlocate]
  rcases hget : tree.get? ℓ with _ | (_ | _)
  · exact absurd hget (fileAt_ne_none_iff.mp h).1
  · exact ⟨tree.erase ℓ, by simp [hget]⟩
  · exact absurd hget (fileAt_ne_none_iff.mp h).2

/-- A file that can be renamed is erased at its own place and put where the new path leads to, and
no directory is there. -/
theorem exists_of_rename {old new : String} (h : tree.rename old new = .ok after) :
    ∃ s t content, tree.locate old = .ok s ∧ tree.locate new = .ok t ∧
      tree.get? s = some (.file content) ∧ tree.get? t ≠ some .directory ∧
      after = (tree.erase s).put t (.file content) := by
  rw [rename] at h
  rcases hold : tree.locate old with fault | s
  · simp [hold] at h
  · rw [hold] at h
    rcases hnew : tree.locate new with fault | t
    · simp [hnew] at h
    · rw [hnew] at h
      rcases hs : tree.get? s with _ | (content | _)
      · simp [hs] at h
      · refine ⟨s, t, content, rfl, rfl, hs, ?_⟩
        rcases ht : tree.get? t with _ | (_ | _)
        · exact ⟨by simp, by simpa [hs, ht] using h.symm⟩
        · exact ⟨by simp, by simpa [hs, ht] using h.symm⟩
        · simp [hs, ht] at h
      · simp [hs] at h

/-- To rename a file is no change to directories and to other files: the file leaves its own place
for the one of the new path. -/
theorem rename_spec {old new : String} {s t : Location} (h : tree.rename old new = .ok after)
    (hold : tree.locate old = .ok s) (hnew : tree.locate new = .ok t) :
    SameDirectories tree after ∧ tree.fileAt s ≠ none ∧ after.fileAt t ≠ none ∧
      ∀ m, after.fileAt m =
        if m = t then tree.fileAt s else if m = s then none else tree.fileAt m := by
  obtain ⟨s', t', content, hold', hnew', hs, hne, rfl⟩ := exists_of_rename h
  obtain rfl := Except.ok.inj (hold.symm.trans hold')
  obtain rfl := Except.ok.inj (hnew.symm.trans hnew')
  have hs' : tree.get? s ≠ some .directory := by simp [hs]
  have hfile : tree.fileAt s = some content := fileAt_eq_some_iff.mpr hs
  have hsame := sameDirectories_erase hs'
  have hput : ∀ m, ((tree.erase s).put t (.file content)).fileAt m =
      if m = t then some content else (tree.erase s).fileAt m :=
    fileAt_put (hsame.ne_directory hne)
  refine ⟨hsame.trans (sameDirectories_put (hsame.ne_directory hne)), by simp [hfile],
    by simp [hput], fun m => ?_⟩
  rw [hput, fileAt_erase hs', hfile]

/-- Making directories makes directories where there was nothing, and no more. -/
theorem onlyMakes_makeFrom (names : List String) : ∀ (start : Location) (tree : FileTree),
    OnlyMakes tree (makeFrom start names tree).2 := by
  induction names with
  | nil => exact fun start tree => .refl tree
  | cons name names ih =>
    intro start tree
    rw [makeFrom]
    rcases hchild : child start name with fault | next
    · exact .refl tree
    · dsimp only
      rcases hget : tree.get? next with _ | (content | _)
      · exact (onlyMakes_put_directory hget).trans (ih next (tree.put next .directory))
      · exact .refl tree
      · exact ih next tree

/-- Names are followed from a directory. -/
theorem get?_of_follow_ne_nil {names : List String} {start : Location} (hne : names ≠ [])
    (h : tree.follow start names = .ok ℓ) : tree.get? start = some .directory := by
  obtain ⟨name, names, rfl⟩ := List.exists_cons_of_ne_nil hne
  rw [follow] at h
  rcases hget : tree.get? start with _ | (_ | _)
  · simp [hget] at h
  · simp [hget] at h
  · rfl

/-- Names that lead to a directory start at one. -/
theorem get?_of_follow {names : List String} {start : Location}
    (h : tree.follow start names = .ok ℓ) (hℓ : tree.get? ℓ = some .directory) :
    tree.get? start = some .directory := by
  by_cases hne : names = []
  · subst hne
    obtain rfl := Except.ok.inj h
    exact hℓ
  · exact get?_of_follow_ne_nil hne h

/-- Where names lead to a directory, nothing has to be made on the way to it. -/
theorem makeFrom_append {names : List String} (more : List String)
    (hℓ : tree.get? ℓ = some .directory) : ∀ {start : Location},
    tree.follow start names = .ok ℓ →
    makeFrom start (names ++ more) tree = makeFrom ℓ more tree := by
  induction names with
  | nil =>
    intro start h
    obtain rfl := Except.ok.inj h
    rfl
  | cons name names ih =>
    intro start h
    have hstart := get?_of_follow h hℓ
    rw [follow, hstart] at h
    rw [List.cons_append, makeFrom]
    rcases hchild : child start name with fault | next
    · simp [hchild] at h
    · simp only [hchild] at h ⊢
      simp only [get?_of_follow h hℓ]
      exact ih h

/-- A directory that is made for plain names has one of these names. -/
theorem makeFrom_plain {names : List String} : ∀ {start : Location} {tree : FileTree},
    (∀ name ∈ names, Path.Plain name) →
    (makeFrom start names tree).2.get? m = some .directory →
    tree.get? m = some .directory ∨ ∃ name ∈ names, m.getLast? = some name := by
  induction names with
  | nil => exact fun _ h => .inl h
  | cons name names ih =>
    intro start tree hplain h
    have hplain' : ∀ name' ∈ names, Path.Plain name' :=
      fun name' hname' => hplain name' (List.mem_cons_of_mem _ hname')
    have hmore : (∃ name' ∈ names, m.getLast? = some name') →
        ∃ name' ∈ name :: names, m.getLast? = some name' :=
      fun ⟨name', hname', hlast⟩ => ⟨name', List.mem_cons_of_mem _ hname', hlast⟩
    rw [makeFrom, child_plain (hplain name List.mem_cons_self)] at h
    by_cases hlong : maxNameLength < name.utf8ByteSize
    · rw [if_pos hlong] at h
      exact .inl h
    · rw [if_neg hlong] at h
      dsimp only at h
      rcases hget : tree.get? (start ++ [name]) with _ | (content | _)
      · rw [hget] at h
        rcases ih hplain' h with hput | hlast
        · rw [get?_put tree (by simp)] at hput
          split at hput
          · next heq => exact .inr ⟨name, List.mem_cons_self, by simp [heq]⟩
          · exact .inl hput
        · exact .inr (hmore hlast)
      · rw [hget] at h
        exact .inl h
      · rw [hget] at h
        exact (ih hplain' h).imp_right hmore

/-- Making a directory with the ones above it makes directories where there was nothing, and no
more. -/
theorem onlyMakes_makeDirectories (path : String) (tree : FileTree) :
    OnlyMakes tree (makeDirectories path tree).2 := by
  rw [makeDirectories]
  split
  · exact .refl tree
  · split
    · exact .refl tree
    · split
      · exact onlyMakes_makeFrom _ _ _
      · exact .refl tree

end NetworkIntent.FileTree
