import Mathlib.Data.List.Induction
import NetworkIntent.Proofs.FileTree

/-!
# Well-formed file trees

In a file tree as an operating system keeps it, everything but the top is in a directory. The
operations keep it that way. In a well-formed tree a path without `..` leads to everything that is
at the location of its names, as there are directories all the way.

## Main definitions

* `FileTree.WellFormed`: everything but the top is in a directory.
* `FileTree.Stable`, `FileTree.StableOnFiles`: properties of trees that no operation breaks, and that
  no operation on files breaks.

## Main results

* `FileTree.stable_wellFormed`: no operation breaks well-formedness.
* `FileTree.WellFormed.follow`: names that lead to a file in a later tree lead to it already if it
  is there.
-/

set_option autoImplicit false

namespace NetworkIntent.FileTree

variable {tree before after : FileTree} {ℓ start : Location} {path name : String} {content : Bytes}

/-- Everything but the top of the tree is in a directory. -/
def WellFormed (tree : FileTree) : Prop :=
  ∀ ℓ name, tree.get? (ℓ ++ [name]) ≠ none → tree.get? ℓ = some .directory

/-- What is at a location is in a directory, unless it is the top. -/
theorem WellFormed.dropLast (h : tree.WellFormed) (hget : tree.get? ℓ ≠ none) :
    tree.get? ℓ.dropLast = some .directory := by
  rcases List.eq_nil_or_concat ℓ with rfl | ⟨ℓ', name, rfl⟩
  · rfl
  · rw [List.concat_eq_append, List.dropLast_concat]
    exact h ℓ' name (by simpa using hget)

/-- All the way to what is at a location there are directories. -/
theorem WellFormed.directory_append (h : tree.WellFormed) (ℓ : Location) (names : List String) :
    names ≠ [] → tree.get? (ℓ ++ names) ≠ none → tree.get? ℓ = some .directory := by
  induction names using List.reverseRecOn with
  | nil => exact fun hne => absurd rfl hne
  | append_singleton names name ih =>
    intro _ hget
    rw [← List.append_assoc] at hget
    have hdirectory := h (ℓ ++ names) name hget
    by_cases hnames : names = []
    · rwa [hnames, List.append_nil] at hdirectory
    · exact ih hnames (by simp [hdirectory])

/-! ## Operations -/

/-- What a path leads to is in a directory, unless it is a directory itself.

**Proof sketch.** The last name follows a directory. If it stands for an entry of this directory, we
are done, and else it stands for the directory itself or for the one above it. -/
theorem WellFormed.dropLast_of_locate (h : tree.WellFormed) (hlocate : tree.locate path = .ok ℓ)
    (hne : tree.get? ℓ ≠ some .directory) :
    ∃ d name, ℓ = d ++ [name] ∧ tree.get? d = some .directory := by
  obtain ⟨⟨-, hpath, -⟩, hfollow⟩ := locate_eq_ok_iff.mp hlocate
  rcases List.eq_nil_or_concat (Path.names path) with hnames | ⟨init, last, hnames⟩
  · -- only the path of the top has no names
    rw [hnames, follow, start, if_pos (Path.isAbsolute_of_names_eq_nil hpath hnames)] at hfollow
    obtain rfl := Except.ok.inj hfollow
    exact absurd rfl hne
  · rw [hnames, List.concat_eq_append, follow_append] at hfollow
    rcases hinit : tree.follow (tree.start path) init with fault | d
    · simp [hinit, Except.bind] at hfollow
    · simp only [hinit, Except.bind, follow] at hfollow
      rcases hget : tree.get? d with _ | (_ | _)
      · simp [hget] at hfollow
      · simp [hget] at hfollow
      · rw [hget] at hfollow
        rcases hchild : child d last with fault | next
        · simp [hchild] at hfollow
        · simp only [hchild, Except.ok.injEq] at hfollow
          subst hfollow
          rcases child_cases hchild with rfl | ⟨rfl, -⟩ | rfl
          · exact absurd hget hne
          · exact absurd (h.dropLast (by simp [hget])) hne
          · exact ⟨d, last, rfl, hget⟩

/-- An entry may be put into a directory in place of anything but a directory. -/
theorem WellFormed.put (h : tree.WellFormed) {d : Location} {entry : Entry}
    (hd : tree.get? d = some .directory) (hne : tree.get? (d ++ [name]) ≠ some .directory) :
    (tree.put (d ++ [name]) entry).WellFormed := by
  have hget : ∀ m, (tree.put (d ++ [name]) entry).get? m = _ :=
    get?_put tree (ne_nil_of_get?_ne hne)
  have hkept : ∀ m, tree.get? m = some .directory →
      (tree.put (d ++ [name]) entry).get? m = some .directory := by
    intro m hm
    have hm' : m ≠ d ++ [name] := by
      rintro rfl
      exact hne hm
    rw [hget, if_neg hm', hm]
  intro m n hm
  by_cases heq : m ++ [n] = d ++ [name]
  · obtain ⟨rfl, -⟩ := List.append_inj' heq rfl
    exact hkept m hd
  · rw [hget, if_neg heq] at hm
    exact hkept m (h m n hm)

/-- Anything but a directory may be erased. -/
theorem WellFormed.erase (h : tree.WellFormed) (hne : tree.get? ℓ ≠ some .directory) :
    (tree.erase ℓ).WellFormed := by
  have hget := get?_erase tree (ne_nil_of_get?_ne hne)
  intro m n hm
  rw [hget] at hm ⊢
  by_cases heq : m ++ [n] = ℓ
  · simp [heq] at hm
  · rw [if_neg heq] at hm
    have hdirectory := h m n hm
    have hm' : m ≠ ℓ := by
      rintro rfl
      exact hne hdirectory
    rw [if_neg hm', hdirectory]

/-- Directories are made within directories. -/
theorem WellFormed.makeFrom (names : List String) : ∀ (start : Location) (tree : FileTree),
    tree.WellFormed → tree.get? start = some .directory →
    (FileTree.makeFrom start names tree).2.WellFormed := by
  induction names with
  | nil => exact fun start tree h _ => h
  | cons name names ih =>
    intro start tree h hstart
    rw [FileTree.makeFrom]
    rcases hchild : child start name with fault | next
    · exact h
    · dsimp only
      rcases hget : tree.get? next with _ | (content | _)
      · have hne : tree.get? next ≠ some .directory := by simp [hget]
        rcases child_cases hchild with rfl | ⟨rfl, -⟩ | rfl
        · exact absurd hstart hne
        · exact absurd (h.dropLast (by simp [hstart])) hne
        · refine ih _ _ (h.put hstart hne) ?_
          rw [get?_put tree (ne_nil_of_get?_ne hne), if_pos rfl]
      · exact h
      · exact ih next tree h hget

/-- A property of trees that no operation on files and directories breaks. -/
structure Stable (P : FileTree → Prop) : Prop where
  makeDirectories : ∀ {path tree}, P tree → P (FileTree.makeDirectories path tree).2
  write : ∀ {path content tree after},
    FileTree.write path content tree = .ok after → P tree → P after
  remove : ∀ {path tree after}, FileTree.remove path tree = .ok after → P tree → P after
  rename : ∀ {old new tree after}, FileTree.rename old new tree = .ok after → P tree → P after

/-- A property of trees that no operation on files breaks. -/
structure StableOnFiles (P : FileTree → Prop) : Prop where
  write : ∀ {path content tree after},
    FileTree.write path content tree = .ok after → P tree → P after
  remove : ∀ {path tree after}, FileTree.remove path tree = .ok after → P tree → P after
  rename : ∀ {old new tree after}, FileTree.rename old new tree = .ok after → P tree → P after

/-- What no operation breaks, none on files breaks. -/
theorem Stable.onFiles {P : FileTree → Prop} (h : Stable P) : StableOnFiles P :=
  ⟨h.write, h.remove, h.rename⟩

/-- What only depends on the directories, no operation on files breaks. -/
theorem stableOnFiles_of_sameDirectories {P : FileTree → Prop}
    (h : ∀ {tree after}, SameDirectories tree after → P tree → P after) : StableOnFiles P where
  write := by
    intro path content tree after hwrite
    obtain ⟨ℓ, -, hsame, -⟩ := write_spec hwrite
    exact h hsame
  remove := by
    intro path tree after hremove
    obtain ⟨ℓ, -, hsame, -⟩ := remove_spec hremove
    exact h hsame
  rename := by
    intro old new tree after hrename
    obtain ⟨s, t, content, hold, hnew, -, -, -⟩ := exists_of_rename hrename
    exact h (rename_spec hrename hold hnew).1

/-- No operation breaks well-formedness. -/
theorem stable_wellFormed : Stable WellFormed where
  makeDirectories := by
    intro path tree h
    rw [FileTree.makeDirectories]
    split
    · exact h
    · split
      · exact h
      · split
        · next hstart => exact WellFormed.makeFrom _ _ _ h (by simpa [isDirectoryAt] using hstart)
        · exact h
  write := by
    intro path content tree after hwrite h
    obtain ⟨ℓ, hlocate, hne, rfl⟩ := exists_of_write hwrite
    obtain ⟨d, name, rfl, hd⟩ := h.dropLast_of_locate hlocate hne
    exact h.put hd hne
  remove := by
    intro path tree after hremove h
    obtain ⟨ℓ, -, hne, rfl⟩ := exists_of_remove hremove
    exact h.erase hne
  rename := by
    intro old new tree after hrename h
    obtain ⟨s, t, content, -, hnew, hs, hne, rfl⟩ := exists_of_rename hrename
    obtain ⟨d, name, rfl, hd⟩ := h.dropLast_of_locate hnew hne
    have hs' : tree.get? s ≠ some .directory := by simp [hs]
    have hsame := sameDirectories_erase hs'
    exact (h.erase hs').put (hsame.directories d hd) (hsame.ne_directory hne)

/-! ## Names that lead to a file -/

/-- Names other than `..` only lead further down. -/
theorem follow_isPrefix (tree : FileTree) (names : List String) : ∀ start : Location,
    ".." ∉ names → tree.follow start names = .ok ℓ → ∃ more, ℓ = start ++ more := by
  induction names with
  | nil =>
    intro start _ h
    obtain rfl := Except.ok.inj h
    exact ⟨[], (List.append_nil _).symm⟩
  | cons name names ih =>
    intro start hdots h
    rw [List.mem_cons, not_or] at hdots
    rw [follow] at h
    rcases hget : tree.get? start with _ | (_ | _)
    · simp [hget] at h
    · simp [hget] at h
    · rw [hget] at h
      rcases hchild : child start name with fault | next
      · simp [hchild] at h
      · simp only [hchild] at h
        obtain ⟨more, rfl⟩ := ih next hdots.2 h
        rcases child_cases hchild with rfl | ⟨-, rfl⟩ | rfl
        · exact ⟨more, rfl⟩
        · exact absurd rfl hdots.1
        · exact ⟨name :: more, by simp⟩

/-- Where names other than `..` lead to a file in a later tree, they lead there already in a
well-formed tree that has the file.

**Proof sketch.** Induction on the names. What comes after a directory on the way is below it, and
it is no directory, so there is a directory also in the earlier tree. -/
theorem WellFormed.follow (h : before.WellFormed) (hbefore : before.get? ℓ ≠ none)
    (hafter : after.get? ℓ ≠ some .directory) (names : List String) : ∀ start : Location,
    ".." ∉ names → after.follow start names = .ok ℓ → before.follow start names = .ok ℓ := by
  induction names with
  | nil => exact fun start _ hfollow => hfollow
  | cons name names ih =>
    intro start hdots hfollow
    obtain ⟨more, hmore⟩ := follow_isPrefix after (name :: names) start hdots hfollow
    rw [List.mem_cons, not_or] at hdots
    rw [FileTree.follow] at hfollow ⊢
    rcases hget : after.get? start with _ | (_ | _)
    · simp [hget] at hfollow
    · simp [hget] at hfollow
    · rw [hget] at hfollow
      have hne : more ≠ [] := by
        rintro rfl
        rw [hmore, List.append_nil] at hafter
        exact hafter hget
      rw [h.directory_append start more hne (hmore ▸ hbefore)]
      rcases hchild : child start name with fault | next
      · simp [hchild] at hfollow
      · simp only [hchild] at hfollow ⊢
        exact ih next hdots.2 hfollow

end NetworkIntent.FileTree
