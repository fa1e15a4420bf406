import NetworkIntent.Proofs.BaseAddress
import NetworkIntent.Proofs.Query
import NetworkIntent.Publication.GitLab

/-!
# Addresses of files

A file under version control is asked for at an address that has the project and the path of the
file as parts. Both may be any text, with slashes, question marks or percent signs in it, and even a
text that is encoded already. Each is written as a part that only has letters, digits, a few marks
and encoded bytes, and is read back from it. So an address tells its project and its path, and
neither of them brings in a segment, a query or a fragment.

A part may be a single point or two points, as far as the text of the address goes. Reading the
address takes these for directories, so the address that is requested tells all other projects and
paths.

## Main definitions

* `Percent.Encoded`: what is written for a part of an address.
* `Percent.readComponent?`: what a part of an address stands for.
* `GitLab.filePart`: what follows the base in the address of a file.

## Main results

* `Percent.encoded_component`, `Percent.readComponent?_component`: parts are read back.
* `Percent.isName_component`: the parts that stand for no directory.
* `GitLab.fileAddress_unambiguous`: addresses of files tell the project and the path.
-/

set_option autoImplicit false

namespace NetworkIntent

namespace Percent

/-! ## Parts of addresses -/

/-- Whether a character stands for itself in a part of an address. -/
def isUnreservedChar (c : Char) : Bool :=
  c.isAlphanum || c = '-' || c = '.' || c = '_' || c = '~'

/-- Whether a character is a hexadecimal digit in upper case. -/
def isUpperHexDigit (c : Char) : Bool :=
  c.isDigit || ('A' ≤ c && c ≤ 'F')

/-- **What is written for a part of an address**: characters that stand for themselves, and encoded
bytes. -/
inductive Encoded : List Char → Prop
  | nil : Encoded []
  | kept {c : Char} {cs : List Char} (hc : isUnreservedChar c = true) (h : Encoded cs) :
      Encoded (c :: cs)
  | escaped {high low : Char} {cs : List Char} (hhigh : isUpperHexDigit high = true)
      (hlow : isUpperHexDigit low = true) (h : Encoded cs) : Encoded ('%' :: high :: low :: cs)

/-- A byte that stands for itself is its character's only one. -/
theorem unreserved_char : ∀ n < 256, isUnreserved (UInt8.ofNat n) = true →
    isUnreservedChar (Char.ofNat n) = true ∧
      Utf8.encodeChar (Char.ofNat n) = [UInt8.ofNat n] := by
  decide +kernel

/-- The digits of an encoded byte are hexadecimal ones in upper case. -/
theorem isUpperHexDigit_hexDigitUpper : ∀ n < 16, isUpperHexDigit (hexDigitUpper n) = true := by
  decide

/-- A byte is written as its character, or it is encoded. -/
theorem encodeBytes_cons_cases (b : UInt8) (bytes : Bytes) :
    (∃ c, isUnreservedChar c = true ∧ Utf8.encodeChar c = [b] ∧
        encodeBytes isUnreserved (b :: bytes) = c :: encodeBytes isUnreserved bytes) ∨
      encodeBytes isUnreserved (b :: bytes) = escapeByte b ++ encodeBytes isUnreserved bytes := by
  by_cases hb : isUnreserved b = true
  · have hbyte : UInt8.ofNat b.toNat = b := UInt8.ofNat_toNat
    obtain ⟨hchar, hencode⟩ := unreserved_char b.toNat b.toNat_lt (by rwa [hbyte])
    refine .inl ⟨Char.ofNat b.toNat, hchar, hencode.trans (by rw [hbyte]), ?_⟩
    rw [encodeBytes, List.flatMap_cons, if_pos hb]
    rfl
  · refine .inr ?_
    rw [encodeBytes, List.flatMap_cons, if_neg hb]
    rfl

/-- Bytes are written with characters that stand for themselves and encoded bytes. -/
theorem encoded_encodeBytes (bytes : Bytes) : Encoded (encodeBytes isUnreserved bytes) := by
  induction bytes with
  | nil => exact .nil
  | cons b bytes ih =>
    rcases encodeBytes_cons_cases b bytes with ⟨c, hc, -, hwritten⟩ | hwritten
    · rw [hwritten]
      exact .kept hc ih
    · have hb := b.toNat_lt
      rw [hwritten]
      exact .escaped (isUpperHexDigit_hexDigitUpper (b.toNat / 16) (by omega))
        (isUpperHexDigit_hexDigitUpper (b.toNat % 16) (by omega)) ih

/-- **What is written for bytes is read as these bytes.** -/
theorem decode_encodeBytes (bytes : Bytes) : decode (encodeBytes isUnreserved bytes) = bytes := by
  induction bytes with
  | nil => rfl
  | cons b bytes ih =>
    rcases encodeBytes_cons_cases b bytes with ⟨c, hc, hencode, hwritten⟩ | hwritten
    · have hpercent : c ≠ '%' := by
        rintro rfl
        exact absurd hc (by decide)
      rw [hwritten, decode_cons_of_ne hpercent, hencode, ih]
      rfl
    · rw [hwritten, decode_escapeByte, ih]

/-- The text that a part of an address stands for, if it stands for one. -/
def readComponent? (part : String) : Option String :=
  Utf8.toString? (decode part.toList)

/-- A part of an address is written with characters that stand for themselves and encoded bytes. -/
theorem encoded_component (s : String) : Encoded (component s).toList := by
  rw [component, String.toList_ofList]
  exact encoded_encodeBytes _

/-- **A text is read back from a part of an address.** -/
theorem readComponent?_component (s : String) : readComponent? (component s) = some s := by
  rw [readComponent?, component, String.toList_ofList, decode_encodeBytes, Utf8.toString?_ofString]

/-- Texts with the same part of an address are the same. -/
theorem component_injective : Function.Injective component := by
  intro s t h
  have hread : readComponent? (component s) = readComponent? (component t) := by rw [h]
  rw [readComponent?_component, readComponent?_component] at hread
  exact Option.some.inj hread

/-- Characters of parts are characters of paths, and no slashes. -/
theorem Encoded.isPathChar {cs : List Char} (h : Encoded cs) :
    ∀ c ∈ cs, Url.isPathChar c = true ∧ c ≠ '/' := by
  have hhex : ∀ c, isUpperHexDigit c = true → c.isAlphanum = true := by
    intro c hc
    simp only [isUpperHexDigit, Bool.or_eq_true, Bool.and_eq_true, decide_eq_true_eq] at hc
    rcases hc with hc | ⟨hlow, hhigh⟩
    · simp [Char.isAlphanum, hc]
    · exact Url.isAlphanum_iff.mpr (.inl (.inl ⟨hlow, le_trans hhigh (by decide)⟩))
  have halphanum : ∀ c : Char, c.isAlphanum = true → Url.isPathChar c = true ∧ c ≠ '/' := by
    intro c hc
    refine ⟨by simp [Url.isPathChar, hc], ?_⟩
    rintro rfl
    exact absurd hc (by decide)
  induction h with
  | nil => simp
  | @kept c cs hc h ih =>
    refine List.forall_mem_cons.mpr ⟨?_, ih⟩
    simp only [isUnreservedChar, Bool.or_eq_true, decide_eq_true_eq] at hc
    rcases hc with (((hc | rfl) | rfl) | rfl) | rfl
    · exact halphanum c hc
    all_goals decide
  | @escaped high low cs hhigh hlow h ih =>
    refine List.forall_mem_cons.mpr ⟨by decide, ?_⟩
    refine List.forall_mem_cons.mpr ⟨halphanum high (hhex high hhigh), ?_⟩
    exact List.forall_mem_cons.mpr ⟨halphanum low (hhex low hlow), ih⟩

/-! ## Points -/

/-- A character is its own lower case, or a letter in upper case. -/
theorem toLower_cases (c : Char) : c.toLower = c ∨
    65 ≤ c.toNat ∧ c.toNat ≤ 90 ∧ c.toLower.toNat = c.toNat + 32 := by
  unfold Char.toLower
  split
  · next h =>
    have hlow : 65 ≤ c.toNat := UInt32.le_iff_toNat_le.mp h.1
    have hhigh : c.toNat ≤ 90 := UInt32.le_iff_toNat_le.mp h.2
    refine .inr ⟨hlow, hhigh, ?_⟩
    change (c.val + 32).toNat = c.val.toNat + 32
    rw [UInt32.toNat_add]
    exact Nat.mod_eq_of_lt (by change c.toNat + 32 < _; omega)
  · exact .inl rfl

/-- What a point may be taken for: itself, or its encoded byte. -/
def pointForms : List (List Char) :=
  [['.'], ['%', '2', 'e'], ['%', '2', 'E']]

/-- What is a point in lower case, encoded or not, is a point in some form. -/
theorem mem_pointForms {cs : List Char}
    (h : Url.lower cs = ['.'] ∨ Url.lower cs = ['%', '2', 'e']) : cs ∈ pointForms := by
  have hsame : ∀ c d : Char, c.toLower = d → d.toNat < 97 → c = d := by
    intro c d hlower hd
    rcases toLower_cases c with hc | ⟨hc, -, hc'⟩
    · rw [← hlower, hc]
    · rw [hlower] at hc'
      omega
  rcases h with h | h
  · obtain ⟨c, rest, rfl, hc, hrest⟩ := List.map_eq_cons_iff.mp h
    obtain rfl := List.map_eq_nil_iff.mp hrest
    rw [hsame c '.' hc (by decide)]
    decide
  · obtain ⟨c, rest, rfl, hc, hrest⟩ := List.map_eq_cons_iff.mp h
    obtain ⟨d, rest, rfl, hd, hrest⟩ := List.map_eq_cons_iff.mp hrest
    obtain ⟨e, rest, rfl, he, hrest⟩ := List.map_eq_cons_iff.mp hrest
    obtain rfl := List.map_eq_nil_iff.mp hrest
    rw [hsame c '%' hc (by decide), hsame d '2' hd (by decide)]
    rcases toLower_cases e with he' | ⟨-, -, he'⟩
    · rw [← he', he]
      decide
    · have hupper : e = 'E' := by
        rw [he] at he'
        have hnat : e.toNat = 'E'.toNat := by
          have hlower : 'e'.toNat = 101 := rfl
          have hE : 'E'.toNat = 69 := rfl
          omega
        exact Char.toNat_inj.mp hnat
      rw [hupper]
      decide

/-- A text is told by any text that its part can be read as. -/
theorem eq_of_component {s t : String} {cs : List Char} (h : (component s).toList = cs)
    (hread : Utf8.toString? (decode cs) = some t) : s = t := by
  have hs := readComponent?_component s
  rw [readComponent?, h, hread] at hs
  exact (Option.some.inj hs).symm

/-- **Only a point and two points are written as what stands for a directory.** -/
theorem isName_component {s : String} (hdot : s ≠ ".") (hdots : s ≠ "..") :
    Url.IsName (component s).toList := by
  have hone : ∀ cs ∈ pointForms, Utf8.toString? (decode cs) = some "." := by decide
  have htwo : ∀ cs ∈ pointForms, ∀ ds ∈ pointForms,
      Utf8.toString? (decode (cs ++ ds)) = some ".." := by decide
  have hsplit : ∀ xs ys : List Char, (xs = ['.'] ∨ xs = ['%', '2', 'e']) →
      (ys = ['.'] ∨ ys = ['%', '2', 'e']) → Url.lower (component s).toList ≠ xs ++ ys := by
    intro xs ys hxs hys hlower
    obtain ⟨cs, ds, hcs, rfl, rfl⟩ := List.map_eq_append_iff.mp hlower
    exact hdots (eq_of_component hcs
      (htwo cs (mem_pointForms hxs) ds (mem_pointForms hys)))
  have hsingle : ∀ xs : List Char, (xs = ['.'] ∨ xs = ['%', '2', 'e']) →
      Url.lower (component s).toList ≠ xs := by
    rintro xs hxs rfl
    exact hdot (eq_of_component rfl (hone _ (mem_pointForms hxs)))
  have hforms : ∀ (xs : List Char) (text : String), text.toList = xs →
      Url.lower (component s).toList ≠ xs →
        String.ofList (Url.lower (component s).toList) ≠ text := by
    rintro xs text rfl hne rfl
    exact hne String.toList_ofList.symm
  constructor
  · simp only [Url.isAbove, Bool.or_eq_false_iff, decide_eq_false_iff_not]
    refine ⟨⟨⟨?_, ?_⟩, ?_⟩, ?_⟩
    · exact hforms _ _ (by decide) (hsplit _ _ (.inl rfl) (.inl rfl))
    · exact hforms _ _ (by decide) (hsplit _ _ (.inl rfl) (.inr rfl))
    · exact hforms _ _ (by decide) (hsplit _ _ (.inr rfl) (.inl rfl))
    · exact hforms _ _ (by decide) (hsplit _ _ (.inr rfl) (.inr rfl))
  · simp only [Url.isHere, Bool.or_eq_false_iff, decide_eq_false_iff_not]
    constructor
    · exact hforms _ _ (by decide) (hsingle _ (.inl rfl))
    · exact hforms _ _ (by decide) (hsingle _ (.inr rfl))

end Percent

namespace GitLab

/-! ## Addresses of files -/

variable {settings : GitLabSettings}

/-- What follows the base in the address of a file. -/
def filePart (project path : String) : String :=
  "api/v4/projects/" ++ Percent.component project ++ "/repository/files/" ++ Percent.component path

/-- The address of a file is the base without slashes at its end, and then the project and the path
as parts. -/
theorem fileAddress_eq_parts (project : GitLab) (path : String) :
    project.fileAddress path =
      Url.trimSlashes project.settings.baseUrl ++ "/api/v4/projects/" ++
        Percent.component project.settings.project ++ "/repository/files/" ++
        Percent.component path := by
  unfold fileAddress addressOf
  simp only [String.append_assoc]

/-- The address of a file is the base without slashes at its end, and the part of the file. -/
theorem fileAddress_eq (project : GitLab) (path : String) :
    project.fileAddress path =
      Url.trimSlashes project.settings.baseUrl ++ "/" ++
        filePart project.settings.project path := by
  have hstart : "/api/v4/projects/" = "/" ++ "api/v4/projects/" := by decide
  rw [fileAddress_eq_parts, hstart]
  unfold filePart
  simp only [String.append_assoc]

/-- The part of a file has characters of paths only. -/
theorem isPathChar_filePart (project path : String) :
    ∀ c ∈ (filePart project path).toList, Url.isPathChar c = true := by
  have hstart : ∀ c ∈ "api/v4/projects/".toList, Url.isPathChar c = true :=
    List.all_eq_true.mp (by decide)
  have hmiddle : ∀ c ∈ "/repository/files/".toList, Url.isPathChar c = true :=
    List.all_eq_true.mp (by decide)
  intro c hc
  unfold filePart at hc
  simp only [String.toList_append, List.mem_append] at hc
  rcases hc with ((hc | hc) | hc) | hc
  · exact hstart c hc
  · exact ((Percent.encoded_component project).isPathChar c hc).1
  · exact hmiddle c hc
  · exact ((Percent.encoded_component path).isPathChar c hc).1

/-- **The part of a file has seven segments**, among them the project and the path. -/
theorem segments_filePart (project path : String) :
    Url.segments Url.SchemeKind.web.isSlash (filePart project path).toList =
      ["api".toList, "v4".toList, "projects".toList, (Percent.component project).toList,
        "repository".toList, "files".toList, (Percent.component path).toList] := by
  have hsegment : ∀ s, Url.segments Url.SchemeKind.web.isSlash (Percent.component s).toList =
      [(Percent.component s).toList] := by
    intro s
    refine Url.segments_of_forall fun c hc => ?_
    obtain ⟨hchar, hslash⟩ := (Percent.encoded_component s).isPathChar c hc
    simp [Url.isSlash_eq_of_isPathChar hchar, hslash]
  have hlist : (filePart project path).toList =
      "api/v4/projects".toList ++ '/' :: ((Percent.component project).toList ++ '/' ::
        ("repository/files".toList ++ '/' :: (Percent.component path).toList)) := by
    unfold filePart
    simp
  have hslash : Url.SchemeKind.web.isSlash '/' = true := by decide
  rw [hlist, Url.segments_append hslash, Url.segments_append hslash, Url.segments_append hslash,
    hsegment, hsegment]
  rfl

/-- The part of a file tells the project and the path. -/
theorem filePart_inj {project path other otherPath : String}
    (h : filePart project path = filePart other otherPath) :
    project = other ∧ path = otherPath := by
  have hsegments := segments_filePart project path
  rw [h, segments_filePart] at hsegments
  simp only [List.cons.injEq, true_and, and_true, String.toList_inj] at hsegments
  exact ⟨(Percent.component_injective hsegments.1).symm,
    (Percent.component_injective hsegments.2).symm⟩

/-- The part of a file is kept as it is, unless the project or the path stands for a directory. -/
theorem isPathText_filePart {project path : String} (hproject : project ∉ [".", ".."])
    (hpath : path ∉ [".", ".."]) : Url.IsPathText (filePart project path).toList := by
  have hname : ∀ s, s ∉ [".", ".."] → Url.IsName (Percent.component s).toList := by
    intro s hs
    simp only [List.mem_cons, List.not_mem_nil, or_false, not_or] at hs
    exact Percent.isName_component hs.1 hs.2
  refine ⟨isPathChar_filePart project path, ?_⟩
  rw [segments_filePart]
  have hfixed : ∀ segment ∈ ["api".toList, "v4".toList, "projects".toList, "repository".toList,
      "files".toList], Url.IsName segment := by decide
  simp only [List.forall_mem_cons] at hfixed ⊢
  obtain ⟨hapi, hversion, hprojects, hrepository, hfiles, hnil⟩ := hfixed
  exact ⟨hapi, hversion, hprojects, hname project hproject, hrepository, hfiles,
    hname path hpath, hnil⟩

/-- A project of a service, with the other settings of the service. -/
def ofProject (settings : GitLabSettings) (project : String) : GitLab :=
  ⟨{ settings with project := project }⟩

/-- **Addresses of files are unambiguous.** The address of a file is the base without slashes at its
end, and then the project and the path as parts, each of which is read back from what is written for
it. Neither of them adds a segment, a query or a fragment, and the address tells both of them. The
same holds for the address that is requested, unless the project or the path stands for a
directory. -/
theorem fileAddress_unambiguous (settings : GitLabSettings) :
    (∀ project path : String,
      (ofProject settings project).fileAddress path =
        Url.trimSlashes settings.baseUrl ++ "/api/v4/projects/" ++ Percent.component project ++
          "/repository/files/" ++ Percent.component path ∧
      Percent.Encoded (Percent.component project).toList ∧
      Percent.Encoded (Percent.component path).toList ∧
      Percent.readComponent? (Percent.component project) = some project ∧
      Percent.readComponent? (Percent.component path) = some path ∧
      Url.segments Url.SchemeKind.web.isSlash
          ((ofProject settings project).fileAddress path).toList =
        Url.segments Url.SchemeKind.web.isSlash (Url.trimSlashes settings.baseUrl).toList ++
          ["api".toList, "v4".toList, "projects".toList, (Percent.component project).toList,
            "repository".toList, "files".toList, (Percent.component path).toList] ∧
      ((ofProject settings project).fileAddress path).toList.filter Url.endsPath =
        (Url.trimSlashes settings.baseUrl).toList.filter Url.endsPath) ∧
    (∀ project path other otherPath : String,
      (ofProject settings project).fileAddress path =
        (ofProject settings other).fileAddress otherPath → project = other ∧ path = otherPath) ∧
    ∀ url : Url, Url.IsBase (Url.trimSlashes settings.baseUrl) url → url.query = none →
      url.fragment = none → ∃ front : String, ∀ project path : String,
        project ∉ [".", ".."] → path ∉ [".", ".."] →
          Url.read? ((ofProject settings project).fileAddress path) =
            some ⟨url.scheme, url.authority, front ++ "/" ++ filePart project path,
              none, none⟩ := by
  refine ⟨?_, ?_, ?_⟩
  · intro project path
    have hlist : ((ofProject settings project).fileAddress path).toList =
        (Url.trimSlashes settings.baseUrl).toList ++ '/' :: (filePart project path).toList := by
      rw [fileAddress_eq]
      simp [ofProject]
    refine ⟨fileAddress_eq_parts (ofProject settings project) path,
      Percent.encoded_component project, Percent.encoded_component path,
      Percent.readComponent?_component project, Percent.readComponent?_component path, ?_, ?_⟩
    · rw [hlist, Url.segments_append (by decide), segments_filePart]
    · have hnone : ('/' :: (filePart project path).toList).filter Url.endsPath = [] := by
        rw [List.filter_eq_nil_iff]
        intro c hc
        rcases List.mem_cons.mp hc with rfl | hc
        · decide
        · simp [Url.endsPath_of_isPathChar (isPathChar_filePart project path c hc)]
      rw [hlist, List.filter_append, hnone, List.append_nil]
  · intro project path other otherPath h
    rw [fileAddress_eq, fileAddress_eq] at h
    refine filePart_inj ?_
    simpa [ofProject, String.append_assoc] using h
  · intro url hbase hquery hfragment
    obtain ⟨front, hread⟩ := hbase.exists_read?
    refine ⟨front, fun project path hproject hpath => ?_⟩
    rw [fileAddress_eq]
    refine (hread _ (isPathText_filePart hproject hpath)).trans ?_
    simp only [Url.extend, Url.withPath, hfragment, hquery, String.append_assoc]

/-- The address of a file at a base that ends in a slash. -/
theorem fileAddress_unambiguous_loopback :
    let settings : GitLabSettings := ⟨"http://[::1]/", "token", "", "", "", 30⟩
    Url.IsBase (Url.trimSlashes settings.baseUrl) Url.loopback ∧
      Url.loopback.query = none ∧ Url.loopback.fragment = none ∧
      "netops/services" ∉ [".", ".."] ∧ "services/sites.json" ∉ [".", ".."] ∧
      ∃ front : String, Url.read?
          ((ofProject settings "netops/services").fileAddress "services/sites.json") =
        some ⟨"http", Url.loopback.authority,
          front ++ "/" ++ filePart "netops/services" "services/sites.json", none, none⟩ := by
  intro settings
  have htrim : Url.trimSlashes settings.baseUrl = "http://[::1]" := by decide
  have hbase : Url.IsBase (Url.trimSlashes settings.baseUrl) Url.loopback := by
    rw [htrim]
    exact Url.isBase_loopback
  obtain ⟨-, -, hread⟩ := fileAddress_unambiguous settings
  obtain ⟨front, hfront⟩ := hread Url.loopback hbase rfl rfl
  exact ⟨hbase, rfl, rfl, by decide, by decide, front, hfront _ _ (by decide) (by decide)⟩

/-- A path that is a single point is requested at the address of the empty path. -/
example : Url.read? ((ofProject ⟨"http://[::1]", "", "", "", "", 30⟩ "p").fileAddress ".") =
    Url.read? ((ofProject ⟨"http://[::1]", "", "", "", "", 30⟩ "p").fileAddress "") := by
  decide +kernel

end GitLab

end NetworkIntent
