import NetworkIntent.Artifact.Target
import NetworkIntent.Proofs.Path

/-!
# Places of artifacts

The file of an artifact has a plain name in a directory below the root of the store, whatever the
name of a device is. Its name is told from the ones at which files are staged by its ending, and no
two artifacts share a place.

## Main definitions

* `Artifact.Place.Sound`: a place of a document within a directory below the root.
* `Artifact.directoryNames`, `Artifact.fileName`: the names that lead to the file of an artifact.

## Main results

* `Artifact.sound_of_place`: the places of artifacts are sound.
* `Artifact.names_of_place`, `Artifact.eq_of_names`: artifacts with the same directory and file are
  the same.
* `Artifact.Place.Sound.file_ne_staging`: no document is where another one is staged.
* `Artifact.Place.Sound.not_mem_directoryNames`: no document is where a directory of artifacts is.
-/

set_option autoImplicit false

namespace NetworkIntent.Artifact

variable {artifact other : Artifact} {place : Place} {device : String}

/-- The place of a document: a plain name with the ending of documents, in a directory below the
root. -/
structure Place.Sound (place : Place) : Prop where
  relative : Path.isAbsolute place.directory = false
  plain : Path.Plain place.file
  ending : ∃ stem, place.file = stem ++ ".json"

/-- A name with nothing wrong has no slash. -/
theorem slash_not_mem_of_nameFault? (h : nameFault? device = none) : '/' ∉ device.toList := by
  intro hmem
  rw [nameFault?] at h
  split at h
  · simp at h
  · simp [hmem] at h

/-- A name with the ending of documents and without a slash is plain. -/
private theorem plain_append_json (stem : String) (h : '/' ∉ stem.toList) :
    Path.Plain (stem ++ ".json") := by
  have hlen : 5 ≤ (stem ++ ".json").toList.length := by simp
  refine ⟨by simpa using h, ?_, ?_, ?_⟩
  all_goals
    intro heq
    rw [heq] at hlen
    simp at hlen

/-- The name of the file of a baseline. -/
theorem baselineFile_eq (kind : BaselineKind) (device : String) :
    s!"base-{kind.name}_{device}.json" = "base-" ++ kind.name ++ "_" ++ device ++ ".json" := rfl

/-- The place of a baseline, if nothing is wrong with the name of the device. -/
theorem place_baseline_eq_ok_iff {kind : BaselineKind} :
    (Artifact.baseline kind device).place = .ok place ↔
      nameFault? device = none ∧ place = ⟨"baseline", s!"base-{kind.name}_{device}.json"⟩ := by
  rw [Artifact.place]
  cases nameFault? device <;> simp [eq_comm]

/-- An artifact that has a place has a sound one. -/
theorem sound_of_place (h : artifact.place = .ok place) : place.Sound := by
  cases artifact with
  | service | routing | switching =>
    obtain rfl := Except.ok.inj h
    exact ⟨by decide, plain_append_json "terraform.tfvars" (by decide),
      "terraform.tfvars", rfl⟩
  | baseline kind device =>
    obtain ⟨hfault, rfl⟩ := place_baseline_eq_ok_iff.mp h
    have hslash := slash_not_mem_of_nameFault? hfault
    have hrelative : Path.isAbsolute "baseline" = false := by decide
    refine ⟨hrelative, ?_, "base-" ++ kind.name ++ "_" ++ device, baselineFile_eq kind device⟩
    rw [baselineFile_eq]
    apply plain_append_json
    cases kind <;> simpa [BaselineKind.name] using hslash

/-- No document has the name at which a document is staged. -/
theorem Place.Sound.file_ne_staging (h : place.Sound) (name : String) :
    place.file ≠ name ++ ".tmp" := by
  obtain ⟨stem, hstem⟩ := h.ending
  intro heq
  have hlast : (stem ++ ".json").toList.getLast? = (name ++ ".tmp").toList.getLast? := by
    rw [← hstem, heq]
  simp [List.getLast?_append] at hlast

/-- The file of a baseline tells its kind and device. -/
private theorem baselineFile_inj {kind other : BaselineKind} {device name : String}
    (h : s!"base-{kind.name}_{device}.json" = s!"base-{other.name}_{name}.json") :
    kind = other ∧ device = name := by
  rw [baselineFile_eq, baselineFile_eq] at h
  have hlist := congrArg String.toList h
  cases kind <;> cases other <;>
    simp [BaselineKind.name, String.toList_inj] at hlist <;> simp [hlist]

/-- The names of the directory of an artifact below the root. -/
def directoryNames : Artifact → List String
  | .service => ["services", "terraform", "netbox"]
  | .routing => ["services", "terraform", "routing"]
  | .switching => ["services", "terraform", "switching"]
  | .baseline _ _ => ["baseline"]

/-- The name of the file of an artifact. -/
def fileName : Artifact → String
  | .service | .routing | .switching => "terraform.tfvars.json"
  | .baseline kind device => s!"base-{kind.name}_{device}.json"

/-- The place of an artifact has its directory and its name. -/
theorem names_of_place (h : artifact.place = .ok place) :
    Path.parts place.directory = artifact.directoryNames ∧ place.file = artifact.fileName := by
  cases artifact with
  | service | routing | switching =>
    obtain rfl := Except.ok.inj h
    exact ⟨by decide, rfl⟩
  | baseline kind device =>
    obtain ⟨-, rfl⟩ := place_baseline_eq_ok_iff.mp h
    have hparts : Path.parts "baseline" = ["baseline"] := by decide
    exact ⟨hparts, rfl⟩

/-- The directory of a place does not end in a slash. -/
theorem exists_last_of_place (h : artifact.place = .ok place) :
    ∃ part, (Path.splitSlashes place.directory.toList).getLast? = some part ∧ part ≠ [] := by
  cases artifact with
  | service =>
    obtain rfl := Except.ok.inj h
    exact ⟨"netbox".toList, by decide, by decide⟩
  | routing =>
    obtain rfl := Except.ok.inj h
    exact ⟨"routing".toList, by decide, by decide⟩
  | switching =>
    obtain rfl := Except.ok.inj h
    exact ⟨"switching".toList, by decide, by decide⟩
  | baseline kind device =>
    obtain ⟨-, rfl⟩ := place_baseline_eq_ok_iff.mp h
    have hlast : (Path.splitSlashes "baseline".toList).getLast? = some "baseline".toList := by
      decide
    exact ⟨_, hlast, by decide⟩

/-- The names of the directory of an artifact are plain. -/
theorem plain_of_mem_directoryNames {name : String} (h : name ∈ artifact.directoryNames) :
    Path.Plain name := by
  have hplain : ∀ name ∈ ["services", "terraform", "netbox", "routing", "switching", "baseline"],
      '/' ∉ name.toList ∧ name ≠ "" ∧ name ≠ "." ∧ name ≠ ".." := by decide
  have hmem : name ∈ ["services", "terraform", "netbox", "routing", "switching", "baseline"] := by
    cases artifact <;> simp [directoryNames] at h ⊢ <;> tauto
  obtain ⟨hslash, hempty, hdot, hdots⟩ := hplain name hmem
  exact ⟨hslash, hempty, hdot, hdots⟩

/-- No directory of an artifact has the name of a document, or the name at which one is staged. -/
theorem Place.Sound.not_mem_directoryNames (h : place.Sound) (artifact : Artifact) :
    place.file ∉ artifact.directoryNames ∧ place.file ++ ".tmp" ∉ artifact.directoryNames := by
  obtain ⟨stem, hstem⟩ := h.ending
  have hnames : ∀ name ∈ artifact.directoryNames, name.toList.getLast? ≠ some 'n' ∧
      name.toList.getLast? ≠ some 'p' := by
    cases artifact <;> simp [directoryNames]
  constructor
  · intro hmem
    refine (hnames _ hmem).1 ?_
    rw [hstem]
    simp [List.getLast?_append]
  · intro hmem
    refine (hnames _ hmem).2 ?_
    simp [List.getLast?_append]

/-- Artifacts with the same names of directory and file are the same. -/
theorem eq_of_names (hdirectory : artifact.directoryNames = other.directoryNames)
    (hfile : artifact.fileName = other.fileName) : artifact = other := by
  cases artifact <;> cases other <;> simp [directoryNames] at hdirectory ⊢
  exact baselineFile_inj hfile

end NetworkIntent.Artifact
