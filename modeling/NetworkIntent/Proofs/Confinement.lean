import NetworkIntent.Proofs.ArtifactFile

/-!
# Confined and disjoint places

The name of a device goes into the name of a file. It may be any text that is not empty, is not a
single point, and has no slash, no backslash and no two points in a row; with such a name, the file
of a baseline is directly in the directory of baselines. A name may end like a document, or like one
that is staged, or look like the name for the other kind of baseline: the files of two artifacts are
different all the same, so are the files at which they are staged, and none of the latter is one of
the former.

A document is staged beside its file, under the name with another extension. For the files of
artifacts that is the name with a suffix.

## Main definitions

* `Path.stem`: the name of a file without its extension.
* `Path.withExtension`: the sibling of a file with another extension.

## Main results

* `Artifact.nameFault?_eq_none_iff`: the names that devices may have.
* `Artifact.withExtension_path`, `Store.withExtension_fileOf`: staging changes the extension.
* `Artifact.confined_disjoint`: the files of artifacts, and the ones at which they are staged, are
  confined and disjoint.
-/

set_option autoImplicit false

namespace NetworkIntent

namespace Path

variable {directory name : String}

/-! ## Extensions -/

/-- The name of a file without its extension, which starts at the last point. A point at the start
of a name starts no extension. -/
def stem (name : List Char) : List Char :=
  match name.reverse.dropWhile (· ≠ '.') with
  | [] => name
  | _ :: before => if before.isEmpty then name else before.reverse

/-- The sibling of a file with another extension, or with one if it has none. -/
def withExtension (path extension : String) : String :=
  let cs := path.toList
  let name := lastPart cs
  String.ofList (cs.take (cs.length - name.length) ++ stem name) ++ "." ++ extension

/-- What follows the last point of a name is its extension, if anything comes before. -/
theorem stem_append {before extension : List Char} (hne : before ≠ [])
    (hextension : '.' ∉ extension) : stem (before ++ '.' :: extension) = before := by
  have hdrop : (extension.reverse ++ '.' :: before.reverse).dropWhile (· ≠ '.') =
      '.' :: before.reverse := by
    have hall : ∀ c ∈ extension.reverse, decide (c ≠ '.') = true := by
      intro c hc
      have hmem : c ∈ extension := List.mem_reverse.mp hc
      exact decide_eq_true fun heq => hextension (heq ▸ hmem)
    rw [List.dropWhile_append_of_pos hall]
    rfl
  have hreverse : (before ++ '.' :: extension).reverse =
      extension.reverse ++ '.' :: before.reverse := by simp
  rw [stem, hreverse, hdrop]
  simp [hne]

/-- What comes before the name of a file depends on the directory alone, and ends in a slash. -/
theorem exists_append_of_join (directory : String) :
    ∃ before : String, (before = "" ∨ ∃ start, before = start ++ "/") ∧
      ∀ name, isAbsolute name = false → join directory name = before ++ name := by
  by_cases hempty : directory = ""
  · exact ⟨"", .inl rfl, fun name _ => by simp [join, hempty]⟩
  · have hjoin : ∀ name, isAbsolute name = false →
        ¬(isAbsolute name = true ∨ directory.isEmpty = true) := by
      intro name hname
      simp [hname, hempty]
    by_cases hlast : directory.toList.getLast? = some '/'
    · obtain ⟨start, rfl⟩ := exists_append_slash hlast
      refine ⟨_, .inr ⟨start, rfl⟩, fun name hname => ?_⟩
      rw [join, if_neg (hjoin name hname), if_pos hlast]
    · refine ⟨_, .inr ⟨directory, rfl⟩, fun name hname => ?_⟩
      rw [join, if_neg (hjoin name hname), if_neg hlast]

/-- The last part of a path within a directory is the name of the file. -/
theorem lastPart_append {before : String} (hbefore : before = "" ∨ ∃ start, before = start ++ "/")
    (hslash : '/' ∉ name.toList) : lastPart (before ++ name).toList = name.toList := by
  rcases hbefore with rfl | ⟨start, rfl⟩
  · simp [lastPart, splitSlashes_of_not_mem hslash]
  · have hlist : (start ++ "/" ++ name).toList = start.toList ++ '/' :: name.toList := by simp
    rw [lastPart, hlist, splitSlashes_append_slash, splitSlashes_of_not_mem hslash]
    simp

/-- **The sibling with another extension of a file within a directory is the file with another
extension, within the same directory.** -/
theorem withExtension_join (directory : String) {start extension : List Char} (other : String)
    (hname : name.toList = start ++ '.' :: extension) (hplain : Plain name) (hne : start ≠ [])
    (hextension : '.' ∉ extension) :
    withExtension (join directory name) other =
      join directory (String.ofList start ++ "." ++ other) := by
  obtain ⟨before, hbefore, hjoin⟩ := exists_append_of_join directory
  have habsolute : isAbsolute (String.ofList start ++ "." ++ other) = false := by
    obtain ⟨c, cs, rfl⟩ := List.exists_cons_of_ne_nil hne
    have hslash := hplain.noSlash
    rw [hname] at hslash
    simp only [isAbsolute, String.toList_append, String.toList_ofList]
    simp only [List.cons_append, List.mem_cons, not_or] at hslash
    simpa using Ne.symm hslash.1
  have hlast : lastPart (before ++ name).toList = name.toList :=
    lastPart_append hbefore hplain.noSlash
  have htake : (before ++ name).toList.take ((before ++ name).toList.length - name.toList.length) =
      before.toList := by simp
  rw [hjoin name hplain.isAbsolute_eq, hjoin _ habsolute, withExtension]
  simp only [hlast, htake]
  rw [hname, stem_append hne hextension]
  simp [String.append_assoc]

end Path

namespace Artifact

variable {artifact other : Artifact} {place : Place}

/-! ## The names of devices -/

theorem hasTwoPoints_iff (cs : List Char) : hasTwoPoints cs = true ↔ ['.', '.'] <:+: cs := by
  fun_induction hasTwoPoints cs with
  | case1 rest => simpa using ⟨[], rest, rfl⟩
  | case2 c rest hne ih =>
    rw [ih, List.infix_cons_iff]
    refine (or_iff_right ?_).symm
    rintro ⟨more, hmore⟩
    obtain ⟨rfl, rfl⟩ := List.cons.inj hmore
    exact hne more rfl rfl
  | case3 => simp

/-- **A device may have any name that is not empty, is not a single point, and has no separators
and no two points in a row.** -/
theorem nameFault?_eq_none_iff {device : String} : nameFault? device = none ↔
    device ≠ "" ∧ device ≠ "." ∧ '/' ∉ device.toList ∧ '\\' ∉ device.toList ∧
      ¬['.', '.'] <:+: device.toList := by
  rw [nameFault?, ← hasTwoPoints_iff]
  by_cases hempty : device = ""
  · simp [hempty]
  · have hisEmpty : device.toList.isEmpty = false := by simpa using hempty
    by_cases hdot : device = "." <;> simp [hisEmpty, hempty, hdot, hasTwoPoints, and_assoc]

/-- A baseline has a file exactly if nothing is wrong with the name of the device. -/
theorem exists_place_baseline_iff {kind : BaselineKind} {device : String} :
    (∃ place, (Artifact.baseline kind device).place = .ok place) ↔ nameFault? device = none := by
  simp [place_baseline_eq_ok_iff]

/-! ## The files of artifacts -/

/-- The names of the file of an artifact are the ones of its directory and its own. -/
theorem names_path (h : artifact.place = .ok place) :
    Path.names place.path = artifact.directoryNames ++ [artifact.fileName] := by
  obtain ⟨hdirectory, hfile⟩ := names_of_place h
  rw [Place.path, Path.names_join_plain _ (sound_of_place h).plain, hdirectory, hfile]

/-- The name of the file of an artifact is more than its ending. -/
theorem fileName_ne_ending (artifact : Artifact) : artifact.fileName ≠ ".json" := by
  have hlength : 5 < artifact.fileName.toList.length := by
    cases artifact with
    | service | routing | switching => decide
    | baseline kind device =>
      rw [fileName, baselineFile_eq]
      simp only [String.toList_append, List.length_append]
      have hbase : "base-".toList.length = 5 := rfl
      have hjson : ".json".toList.length = 5 := rfl
      omega
  intro heq
  rw [heq] at hlength
  exact absurd hlength (by decide)

/-- **The document of an artifact is staged under the name of its file with another extension,
whatever the directory.** -/
theorem withExtension_join_file (h : artifact.place = .ok place) (directory : String) :
    Path.withExtension (Path.join directory place.file) "json.tmp" =
      Store.stagingOf (Path.join directory place.file) := by
  have hsound := sound_of_place h
  obtain ⟨stem, hstem⟩ := hsound.ending
  have hne : stem.toList ≠ [] := by
    intro hnil
    obtain ⟨-, hfile⟩ := names_of_place h
    obtain rfl := String.toList_eq_nil_iff.mp hnil
    exact fileName_ne_ending artifact (hfile.symm.trans hstem)
  have hname : place.file.toList = stem.toList ++ '.' :: ['j', 's', 'o', 'n'] := by simp [hstem]
  rw [Path.withExtension_join directory "json.tmp" hname hsound.plain hne (by decide),
    Store.stagingOf, Path.withSuffix_join directory ".tmp" hsound.plain, hstem]
  simp [String.append_assoc]

/-- The names of the file at which the document of an artifact is staged. -/
theorem names_staging (h : artifact.place = .ok place) :
    Path.names (Store.stagingOf place.path) =
      artifact.directoryNames ++ [artifact.fileName ++ ".tmp"] := by
  have hplain := (sound_of_place h).plain
  have hstaging : Path.Plain (place.file ++ ".tmp") := hplain.append (by decide) (by decide)
  obtain ⟨hdirectory, hfile⟩ := names_of_place h
  rw [Store.stagingOf, Place.path, Path.withSuffix_join _ _ hplain,
    Path.names_join_plain _ hstaging, hdirectory, hfile]

/-- The file of a baseline is directly in the directory of baselines. -/
theorem names_path_baseline {kind : BaselineKind} {device : String}
    (h : (Artifact.baseline kind device).place = .ok place) :
    ∃ name, Path.Plain name ∧ Path.names place.path = ["baseline", name] := by
  refine ⟨(Artifact.baseline kind device).fileName, ?_, names_path h⟩
  rw [← (names_of_place h).2]
  exact (sound_of_place h).plain

/-- Artifacts are told by the directory and the file, also where the name of the file goes on. -/
theorem names_eq_iff (artifact other : Artifact) (suffix : String) :
    artifact.directoryNames ++ [artifact.fileName ++ suffix] =
      other.directoryNames ++ [other.fileName ++ suffix] ↔ artifact = other := by
  constructor
  · intro h
    obtain ⟨hdirectory, hfile⟩ := List.append_inj' h rfl
    have hname : artifact.fileName ++ suffix = other.fileName ++ suffix :=
      List.head_eq_of_cons_eq hfile
    refine eq_of_names hdirectory ?_
    simpa using hname
  · rintro rfl
    rfl

/-- **No artifact is staged where the file of an artifact is.** -/
theorem names_staging_ne {p q : Place} (h : artifact.place = .ok p) (h' : other.place = .ok q) :
    Path.names (Store.stagingOf p.path) ≠ Path.names q.path := by
  rw [names_staging h, names_path h']
  intro heq
  obtain ⟨-, hfile⟩ := List.append_inj' heq rfl
  refine (sound_of_place h').file_ne_staging artifact.fileName ?_
  rw [(names_of_place h').2]
  exact (List.head_eq_of_cons_eq hfile).symm

end Artifact

namespace Store

variable {artifact : Artifact} {place : Artifact.Place}

/-- The file of an artifact in a store is below the root, and its document is staged under the name
of the file with another extension. -/
theorem names_fileOf (store : Store) (h : artifact.place = .ok place) :
    Path.names (store.fileOf place) = Path.parts store.root ++ Path.names place.path ∧
      stagingOf (store.fileOf place) = Path.withExtension (store.fileOf place) "json.tmp" := by
  have hpath : store.pathOf artifact = .ok (store.fileOf place) := by rw [pathOf, h]
  refine ⟨?_, (Artifact.withExtension_join_file h _).symm⟩
  rw [(names_of_pathOf hpath .empty).2, Artifact.names_path h]

end Store

namespace Artifact

/-! ## Confinement -/

/-- **The files of artifacts are confined and disjoint.** A baseline has a file exactly if the name
of the device is not empty, is not a single point, and has no slash, no backslash and no two points
in a row, and the file is then directly in the directory of baselines. Two artifacts have the same
file only if they are the same, and are staged at the same file only then; no artifact is staged at
the file of an artifact. In a store all of this is below the root. -/
theorem confined_disjoint :
    (∀ kind device, (∃ place, (Artifact.baseline kind device).place = .ok place) ↔
      device ≠ "" ∧ device ≠ "." ∧ '/' ∉ device.toList ∧ '\\' ∉ device.toList ∧
        ¬['.', '.'] <:+: device.toList) ∧
    (∀ kind device place, (Artifact.baseline kind device).place = .ok place →
      ∃ name, Path.Plain name ∧ Path.names place.path = ["baseline", name]) ∧
    (∀ (artifact other : Artifact) (p q : Place), artifact.place = .ok p → other.place = .ok q →
      (Path.names p.path = Path.names q.path ↔ artifact = other) ∧
      (Path.names (Path.withExtension p.path "json.tmp") =
        Path.names (Path.withExtension q.path "json.tmp") ↔ artifact = other) ∧
      Path.names (Path.withExtension p.path "json.tmp") ≠ Path.names q.path) ∧
    ∀ (store : Store) (artifact : Artifact) (p : Place), artifact.place = .ok p →
      Path.names (store.fileOf p) = Path.parts store.root ++ Path.names p.path ∧
      Store.stagingOf (store.fileOf p) = Path.withExtension (store.fileOf p) "json.tmp" := by
  refine ⟨?_, fun kind device place h => names_path_baseline h, ?_,
    fun store artifact p h => store.names_fileOf h⟩
  · intro kind device
    exact exists_place_baseline_iff.trans nameFault?_eq_none_iff
  · intro artifact other p q hp hq
    have hstagingP : Path.withExtension p.path "json.tmp" = Store.stagingOf p.path :=
      withExtension_join_file hp p.directory
    have hstagingQ : Path.withExtension q.path "json.tmp" = Store.stagingOf q.path :=
      withExtension_join_file hq q.directory
    rw [hstagingP, hstagingQ]
    refine ⟨?_, ?_, names_staging_ne hp hq⟩
    · rw [names_path hp, names_path hq]
      simpa using names_eq_iff artifact other ""
    · rw [names_staging hp, names_staging hq]
      exact names_eq_iff artifact other ".tmp"

/-- The name of a device that goes on like the file at which a document is staged. -/
theorem confined_disjoint_imitated :
    (Artifact.baseline .vrf "r1").place = .ok ⟨"baseline", "base-vrf_r1.json"⟩ ∧
    (Artifact.baseline .vrf "r1.json.tmp").place =
      .ok ⟨"baseline", "base-vrf_r1.json.tmp.json"⟩ ∧
    Path.names (Path.withExtension "baseline/base-vrf_r1.json" "json.tmp") =
      ["baseline", "base-vrf_r1.json.tmp"] ∧
    Path.names (Path.withExtension "baseline/base-vrf_r1.json" "json.tmp") ≠
      Path.names "baseline/base-vrf_r1.json.tmp.json" := by
  have hplain : (Artifact.baseline .vrf "r1").place = .ok ⟨"baseline", "base-vrf_r1.json"⟩ := by
    decide
  have himitating : (Artifact.baseline .vrf "r1.json.tmp").place =
      .ok ⟨"baseline", "base-vrf_r1.json.tmp.json"⟩ := by decide
  obtain ⟨-, -, hdisjoint, -⟩ := confined_disjoint
  obtain ⟨-, -, hne⟩ := hdisjoint _ _ _ _ hplain himitating
  exact ⟨hplain, himitating, by decide, hne⟩

end Artifact

end NetworkIntent
