import Mathlib.Data.String.Basic
import NetworkIntent.FileTree.Path

/-!
# Laws of paths

The names of a path within a directory are the names of the directory, followed by the ones of the
path. So a file with a plain name, which no slash divides, is named by its directory and its name.

## Main definitions

* `Path.parts`: the names between the slashes of a path.
* `Path.Plain`: a name that stands for an entry of a directory.

## Main results

* `Path.parts_join`: the names between the slashes of a path within a directory.
* `Path.names_join`, `Path.names_join_plain`: the names of a path, or a file, within a directory.
* `Path.withSuffix_join`: the sibling of a file within a directory.
-/

set_option autoImplicit false

namespace NetworkIntent.Path

variable {directory path name suffix : String}

/-! ## Parts -/

theorem splitSlashes_ne_nil (cs : List Char) : splitSlashes cs ≠ [] := by
  induction cs with
  | nil => simp [splitSlashes]
  | cons c cs ih =>
    rw [splitSlashes]
    split
    · simp
    · split <;> simp

/-- A slash ends one part and starts the next one. -/
theorem splitSlashes_append_slash (cs ds : List Char) :
    splitSlashes (cs ++ '/' :: ds) = splitSlashes cs ++ splitSlashes ds := by
  induction cs with
  | nil => simp [splitSlashes]
  | cons c cs ih =>
    rw [List.cons_append, splitSlashes, splitSlashes, ih]
    by_cases hc : c = '/'
    · simp [hc]
    · obtain ⟨part, parts, hparts⟩ := List.exists_cons_of_ne_nil (splitSlashes_ne_nil cs)
      simp [hc, hparts]

/-- A text without a slash is its only part. -/
theorem splitSlashes_of_not_mem {cs : List Char} (h : '/' ∉ cs) : splitSlashes cs = [cs] := by
  induction cs with
  | nil => rfl
  | cons c cs ih =>
    rw [List.mem_cons, not_or] at h
    rw [splitSlashes, ih h.2]
    simp [Ne.symm h.1]

/-- The names between the slashes of a path. -/
def parts (path : String) : List String :=
  ((splitSlashes path.toList).filter (!·.isEmpty)).map String.ofList

@[simp] theorem parts_empty : parts "" = [] := rfl

/-- The names before a slash are followed by the ones after it. -/
theorem parts_append_slash (directory path : String) :
    parts (directory ++ "/" ++ path) = parts directory ++ parts path := by
  have hlist : (directory ++ "/" ++ path).toList = directory.toList ++ '/' :: path.toList := by
    simp
  simp [parts, hlist, splitSlashes_append_slash]

/-- A path whose last part is not empty is named by its parts. -/
theorem names_of_getLast? (part : List Char) (h : (splitSlashes path.toList).getLast? = some part)
    (hne : part ≠ []) : names path = parts path := by
  simp only [names, parts, h, Option.some.injEq, hne, false_and, if_false]

/-- Only the path of the top has no names. -/
theorem isAbsolute_of_names_eq_nil (hne : path ≠ "") (h : names path = []) :
    isAbsolute path = true := by
  have hparts : parts path = [] := by
    rw [names] at h
    split at h
    · simp at h
    · exact h
  have hnil : path.toList ≠ [] := fun hnil => hne (String.toList_eq_nil_iff.mp hnil)
  obtain ⟨c, cs, hcs⟩ := List.exists_cons_of_ne_nil hnil
  rw [isAbsolute, hcs, List.head?_cons, decide_eq_true_iff]
  by_contra hc
  obtain ⟨part, others, hsplit⟩ := List.exists_cons_of_ne_nil (splitSlashes_ne_nil cs)
  have hslash : c ≠ '/' := fun heq => hc (heq ▸ rfl)
  simp [parts, hcs, splitSlashes, hslash, hsplit] at hparts

/-! ## Paths within a directory -/

/-- A text that ends in a slash is another one with a slash after it. -/
theorem exists_append_slash (h : directory.toList.getLast? = some '/') :
    ∃ before : String, directory = before ++ "/" := by
  obtain ⟨cs, hcs⟩ := List.getLast?_eq_some_iff.mp h
  refine ⟨String.ofList cs, String.toList_inj.mp ?_⟩
  rw [hcs, String.toList_append, String.toList_ofList]
  rfl

/-- A relative path within a directory is the path itself, or comes after the directory and a slash.
-/
theorem join_cases (directory : String) (h : isAbsolute path = false) :
    (directory = "" ∧ join directory path = path) ∨
      ∃ before, join directory path = before ++ "/" ++ path ∧ parts directory = parts before ∧
        (directory = before ∨ directory = before ++ "/") ∧ directory ≠ "" := by
  by_cases hempty : directory = ""
  · exact .inl ⟨hempty, by simp [join, hempty]⟩
  · refine .inr ?_
    have hjoin : ¬(isAbsolute path = true ∨ directory.isEmpty = true) := by simp [h, hempty]
    by_cases hlast : directory.toList.getLast? = some '/'
    · obtain ⟨before, rfl⟩ := exists_append_slash hlast
      refine ⟨before, by rw [join, if_neg hjoin, if_pos hlast], ?_, .inr rfl, hempty⟩
      have hparts := parts_append_slash before ""
      rwa [String.append_empty, parts_empty, List.append_nil] at hparts
    · exact ⟨directory, by rw [join, if_neg hjoin, if_neg hlast], rfl, .inl rfl, hempty⟩

/-- The names of a directory are followed by the ones of a relative path within it. -/
theorem parts_join (directory : String) (h : isAbsolute path = false) :
    parts (join directory path) = parts directory ++ parts path := by
  rcases join_cases directory h with ⟨rfl, hjoin⟩ | ⟨before, hjoin, hparts, -⟩
  · rw [hjoin, parts_empty, List.nil_append]
  · rw [hjoin, hparts, parts_append_slash]

/-- A path within a directory that does not end in a slash is named by the parts of both. -/
theorem names_join (directory : String) (h : isAbsolute path = false) (part : List Char)
    (hlast : (splitSlashes path.toList).getLast? = some part) (hne : part ≠ []) :
    names (join directory path) = parts directory ++ parts path := by
  rw [← parts_join directory h]
  refine names_of_getLast? part ?_ hne
  rcases join_cases directory h with ⟨-, hjoin⟩ | ⟨before, hjoin, -⟩
  · rwa [hjoin]
  · have hlist : (join directory path).toList = before.toList ++ '/' :: path.toList := by
      simp [hjoin]
    rw [hlist, splitSlashes_append_slash, List.getLast?_append, hlast]
    rfl

/-- A directory has no other characters than a path within it, and is no longer. -/
theorem directory_of_join (directory : String) (h : isAbsolute path = false) :
    (∀ c ∈ directory.toList, c ∈ (join directory path).toList) ∧
      directory.utf8ByteSize ≤ (join directory path).utf8ByteSize := by
  rcases join_cases directory h with ⟨rfl, -⟩ | ⟨before, hjoin, -, hdirectory, -⟩
  · simp
  · have hmore : ∃ more, join directory path = directory ++ more := by
      rcases hdirectory with rfl | rfl
      · exact ⟨"/" ++ path, by rw [hjoin, String.append_assoc]⟩
      · exact ⟨path, hjoin⟩
    obtain ⟨more, hjoin⟩ := hmore
    rw [hjoin]
    refine ⟨fun c hc => ?_, ?_⟩
    · simp [hc]
    · rw [String.utf8ByteSize_append]
      exact Nat.le_add_right _ _

/-- Whether a path within a directory starts at the top is told by the directory. -/
theorem isAbsolute_join (directory : String) (h : isAbsolute path = false) :
    isAbsolute (join directory path) = isAbsolute directory := by
  rcases join_cases directory h with ⟨rfl, hjoin⟩ | ⟨before, hjoin, -, hdirectory, hne⟩
  · rw [hjoin, h]
    rfl
  · have hbefore : isAbsolute (before ++ "/" ++ path) = isAbsolute (before ++ "/") := by
      simp only [isAbsolute, String.toList_append, List.head?_append]
      cases before.toList.head? <;> simp
    rw [hjoin, hbefore]
    rcases hdirectory with rfl | rfl
    · have hhead : directory.toList ≠ [] := fun hnil => hne (String.toList_eq_nil_iff.mp hnil)
      obtain ⟨c, cs, hcs⟩ := List.exists_cons_of_ne_nil hhead
      simp [isAbsolute, hcs]
    · rfl

/-! ## Plain names -/

/-- A name that stands for an entry of a directory. -/
structure Plain (name : String) : Prop where
  noSlash : '/' ∉ name.toList
  ne_empty : name ≠ ""
  ne_dot : name ≠ "."
  ne_dots : name ≠ ".."

/-- A plain name is not absolute. -/
theorem Plain.isAbsolute_eq (h : Plain name) : isAbsolute name = false := by
  rw [isAbsolute, decide_eq_false_iff_not]
  intro hhead
  exact h.noSlash (List.mem_of_head? hhead)

/-- A plain name is its only part. -/
theorem Plain.parts_eq (h : Plain name) : parts name = [name] := by
  have hne : name.toList ≠ [] := fun hnil => h.ne_empty (String.toList_eq_nil_iff.mp hnil)
  simp [parts, splitSlashes_of_not_mem h.noSlash, hne]

/-- A plain name stays plain with a longer ending. -/
theorem Plain.append (h : Plain name) (hslash : '/' ∉ suffix.toList)
    (hdots : 2 < suffix.toList.length) : Plain (name ++ suffix) := by
  have hlen : 2 < (name ++ suffix).toList.length := by
    simp only [String.toList_append, List.length_append]
    omega
  refine ⟨by simpa using ⟨h.noSlash, hslash⟩, ?_, ?_, ?_⟩
  all_goals
    intro heq
    rw [heq] at hlen
    simp at hlen

/-- A file within a directory is named by the parts of the directory and its own name. -/
theorem names_join_plain (directory : String) (h : Plain name) :
    names (join directory name) = parts directory ++ [name] := by
  have hne : name.toList ≠ [] := fun hnil => h.ne_empty (String.toList_eq_nil_iff.mp hnil)
  rw [← h.parts_eq]
  refine names_join directory h.isAbsolute_eq name.toList ?_ hne
  rw [splitSlashes_of_not_mem h.noSlash]
  rfl

/-- The sibling of a file is a file within the same directory. -/
theorem withSuffix_join (directory suffix : String) (h : Plain name) :
    withSuffix (join directory name) suffix = join directory (name ++ suffix) := by
  have hne : name.toList ≠ [] := fun hnil => h.ne_empty (String.toList_eq_nil_iff.mp hnil)
  have habsolute : isAbsolute (name ++ suffix) = isAbsolute name := by
    obtain ⟨c, cs, hcs⟩ := List.exists_cons_of_ne_nil hne
    simp [isAbsolute, hcs]
  simp only [withSuffix, join, habsolute, h.isAbsolute_eq]
  split
  · rfl
  · split <;> simp [String.append_assoc]

end NetworkIntent.Path
