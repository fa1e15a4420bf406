import Mathlib.Data.List.TakeWhile
import NetworkIntent.Http.Url
import NetworkIntent.Proofs.Utf8

/-!
# Addresses that start with a base

The addresses of a service start with the text of a base, which ends in a host or goes on with a
path, a query or a fragment; a slash and names of the service follow. The address that is read from
such a text is the one of the base with the names at its end, as long as they have only characters
that stand for themselves, and none of them stands for a directory. Nothing of the names is left
out, in particular no slash at their start.

## Main definitions

* `Url.extend`: an address with a text at its end.
* `Url.IsPathText`: texts that are kept as they are at the end of an address.
* `Url.IsBase`: texts that stand for addresses of the web.

## Main results

* `Url.text_extend`: the text of an address with a text at its end.
* `Url.IsBase.exists_read?`: what is read from a base with a path after it.
-/

set_option autoImplicit false

namespace NetworkIntent.Url

/-! ## Ends of addresses -/

/-- An address with a text at its end: of its fragment if it has one, or else of its query if it has
one, or else of its path. -/
def extend (url : Url) (more : String) : Url :=
  match url.fragment, url.query with
  | some fragment, _ => { url with fragment := some (fragment ++ more) }
  | none, some query => { url with query := some (query ++ more) }
  | none, none => { url with path := url.path ++ more }

/-- An address with another path. -/
def withPath (url : Url) (path : String) : Url :=
  { url with path := path }

/-- The text of an address goes on with the text at its end. -/
theorem text_extend (url : Url) (more : String) : (url.extend more).text = url.text ++ more := by
  obtain ⟨scheme, authority, path, query, fragment⟩ := url
  cases fragment <;> cases query <;> cases authority <;>
    simp [extend, text, target, ToString.toString, String.append_assoc]

/-- Without a fragment, what is sent to the host goes on with the text at the end. -/
theorem target_extend {url : Url} (h : url.fragment = none) (more : String) :
    (url.extend more).target = url.target ++ more := by
  obtain ⟨scheme, authority, path, query, fragment⟩ := url
  obtain rfl : fragment = none := h
  cases query <;> simp [extend, target, ToString.toString, String.append_assoc]

@[simp] theorem authority_extend (url : Url) (more : String) :
    (url.extend more).authority = url.authority := by
  rw [extend]
  split <;> rfl

@[simp] theorem host?_extend (url : Url) (more : String) :
    (url.extend more).host? = url.host? := by
  rw [host?, authority_extend, host?]

/-- Credentials are left out of an address with a text at its end as they are without it. -/
theorem withoutCredentials_extend (url : Url) (more : String) :
    (url.extend more).withoutCredentials = url.withoutCredentials.extend more := by
  obtain ⟨scheme, authority, path, query, fragment⟩ := url
  cases authority with
  | none => cases fragment <;> cases query <;> rfl
  | some authority =>
    simp only [withoutCredentials, authority_extend]
    split <;> cases fragment <;> cases query <;> rfl

/-! ## Characters that stand for themselves -/

/-- Whether a character is kept in paths, queries and fragments, and delimits no part but the
segments of a path. -/
def isPathChar (c : Char) : Bool :=
  c.isAlphanum || c = '/' || c = '-' || c = '.' || c = '_' || c = '~' || c = '%'

/-- Characters of paths are not encoded. -/
private theorem isPathChar_safe : ∀ n < 128, isPathChar (Char.ofNat n) = true →
    isUnsafeInPath (UInt8.ofNat n) = false ∧ isUnsafeInKnownQuery (UInt8.ofNat n) = false ∧
      isUnsafeInFragment (UInt8.ofNat n) = false := by
  decide +kernel

/-- The letters and the digits of ASCII. -/
theorem isAlphanum_iff {c : Char} : c.isAlphanum = true ↔
    (65 ≤ c.toNat ∧ c.toNat ≤ 90 ∨ 97 ≤ c.toNat ∧ c.toNat ≤ 122) ∨
      48 ≤ c.toNat ∧ c.toNat ≤ 57 := by
  have hranges : c.isAlphanum = ((decide (65 ≤ c.val ∧ c.val ≤ 90) ||
      (decide (97 ≤ c.val) && decide (c.val ≤ 122))) ||
      (decide (48 ≤ c.val) && decide (c.val ≤ 57))) := rfl
  simp only [hranges, Bool.or_eq_true, Bool.and_eq_true, decide_eq_true_eq,
    UInt32.le_iff_toNat_le]
  rfl

/-- Characters of paths are printed characters of ASCII. -/
theorem toNat_of_isPathChar {c : Char} (h : isPathChar c = true) :
    0x20 < c.toNat ∧ c.toNat < 0x80 := by
  have halphanum : c.isAlphanum = true → 0x20 < c.toNat ∧ c.toNat < 0x80 := by
    intro hc
    rw [isAlphanum_iff] at hc
    omega
  simp only [isPathChar, Bool.or_eq_true, decide_eq_true_eq] at h
  rcases h with (((((h | rfl) | rfl) | rfl) | rfl) | rfl) | rfl
  · exact halphanum h
  all_goals decide

/-- Characters of paths end no path. -/
theorem endsPath_of_isPathChar {c : Char} (h : isPathChar c = true) : endsPath c = false := by
  simp only [endsPath, Bool.or_eq_false_iff, decide_eq_false_iff_not]
  constructor <;> rintro rfl <;> exact absurd h (by decide)

/-- Of the characters of paths only the slash delimits segments. -/
theorem isSlash_eq_of_isPathChar {c : Char} (h : isPathChar c = true) :
    SchemeKind.web.isSlash c = decide (c = '/') := by
  have hback : c ≠ '\\' := by
    rintro rfl
    exact absurd h (by decide)
  simp [SchemeKind.isSlash, hback]

theorem encode_append (isUnsafe : UInt8 → Bool) (cs ds : List Char) :
    encode isUnsafe (cs ++ ds) = encode isUnsafe cs ++ encode isUnsafe ds := by
  rw [encode, Utf8.encode_append, Percent.encodeBytes, List.flatMap_append]
  rfl

/-- Characters of paths stand for themselves in every part of an address. -/
theorem encode_pathChars {isUnsafe : UInt8 → Bool}
    (hpart : isUnsafe = isUnsafeInPath ∨ isUnsafe = isUnsafeInKnownQuery ∨
      isUnsafe = isUnsafeInFragment)
    {cs : List Char} (h : ∀ c ∈ cs, isPathChar c = true) : encode isUnsafe cs = cs := by
  induction cs with
  | nil => rfl
  | cons c cs ih =>
    have hc := h c List.mem_cons_self
    have hlt := (toNat_of_isPathChar hc).2
    obtain ⟨hpath, hquery, hfragment⟩ := isPathChar_safe c.toNat hlt (by rwa [Char.ofNat_toNat])
    have hsafe : isUnsafe (UInt8.ofNat c.toNat) = false := by
      rcases hpart with rfl | rfl | rfl <;> assumption
    have hchar : encode isUnsafe [c] = [c] := by
      have hbyte : (UInt8.ofNat c.toNat).toNat = c.toNat := by
        rw [UInt8.toNat_ofNat_of_lt' (Nat.lt_trans hlt (by decide))]
      simp [encode, Utf8.encode_cons, Utf8.encodeChar_of_lt hlt, Percent.encodeBytes, hsafe, hbyte]
    have hsplit := encode_append isUnsafe [c] cs
    rwa [hchar, ih fun d hd => h d (List.mem_cons_of_mem c hd)] at hsplit

/-! ## Parts of a text -/

variable {α : Type} {d : α}

/-- What is taken from the start of a text ends before the first item that is not taken. -/
theorem takeWhile_append_stop (keeps : α → Bool) (hd : keeps d = false) (xs ys : List α) :
    (xs ++ d :: ys).takeWhile keeps = xs.takeWhile keeps := by
  induction xs with
  | nil => simp [hd]
  | cons x xs ih =>
    rw [List.cons_append, List.takeWhile_cons, List.takeWhile_cons, ih]

theorem dropWhile_append_stop (keeps : α → Bool) (hd : keeps d = false) (xs ys : List α) :
    (xs ++ d :: ys).dropWhile keeps = xs.dropWhile keeps ++ d :: ys := by
  induction xs with
  | nil => simp [hd]
  | cons x xs ih =>
    rw [List.cons_append, List.dropWhile_cons, List.dropWhile_cons, ih]
    split <;> rfl

/-- A text in which something is not taken is taken the same of if it goes on. -/
theorem span_append (keeps : α → Bool) {xs rest : List α} (h : xs.dropWhile keeps = d :: rest)
    (ys : List α) : (xs ++ ys).takeWhile keeps = xs.takeWhile keeps ∧
      (xs ++ ys).dropWhile keeps = d :: (rest ++ ys) := by
  have hd : keeps d = false := by
    have hhead := List.head?_dropWhile_not keeps xs
    rw [h] at hhead
    exact hhead
  have hsplit : xs ++ ys = xs.takeWhile keeps ++ d :: (rest ++ ys) := by
    rw [← List.cons_append, ← h, ← List.append_assoc, List.takeWhile_append_dropWhile]
  constructor
  · rw [hsplit, takeWhile_append_stop keeps hd]
    simp [List.takeWhile_takeWhile]
  · rw [List.dropWhile_append, h]
    rfl

/-- A text that is split at a character is split there as well if it goes on. -/
theorem cut_append {stops : Char → Bool} {cs before after : List Char}
    (h : cut stops cs = (before, some after)) (ds : List Char) :
    cut stops (cs ++ ds) = (before, some (after ++ ds)) := by
  rw [cut] at h
  split at h
  · simp at h
  · next d rest hdrop =>
    obtain ⟨rfl, hafter⟩ := Prod.mk.inj h
    obtain rfl := Option.some.inj hafter
    obtain ⟨htake, hdrop'⟩ := span_append (!stops ·) hdrop ds
    rw [cut, hdrop', htake]

/-- A text that is not split has no character to be split at. -/
theorem forall_of_cut {stops : Char → Bool} {cs before : List Char}
    (h : cut stops cs = (before, none)) : before = cs ∧ ∀ c ∈ cs, stops c = false := by
  rw [cut] at h
  split at h
  · next hdrop =>
    refine ⟨(Prod.mk.inj h).1.symm, fun c hc => ?_⟩
    have hkept := List.dropWhile_eq_nil_iff.mp hdrop c hc
    simpa using hkept
  · simp at h

/-- A text without a character to be split at is not split. -/
theorem cut_of_forall {stops : Char → Bool} {cs : List Char} (h : ∀ c ∈ cs, stops c = false) :
    cut stops cs = (cs, none) := by
  have hdrop : cs.dropWhile (!stops ·) = [] := by
    rw [List.dropWhile_eq_nil_iff]
    intro c hc
    simp [h c hc]
  rw [cut, hdrop]

/-- The scheme is split off a text as well if it goes on. -/
theorem splitScheme?_append {cs scheme after : List Char}
    (h : splitScheme? cs = some (scheme, after)) (ds : List Char) :
    splitScheme? (cs ++ ds) = some (scheme, after ++ ds) := by
  rw [splitScheme?] at h
  split at h
  · next c rest tail hcut =>
    dsimp only at h
    split_ifs at h with hscheme
    obtain ⟨rfl, rfl⟩ := Prod.mk.inj (Option.some.inj h)
    rw [splitScheme?, cut_append hcut ds]
    exact if_pos hscheme
  · simp at h

/-- Whether a character is dropped at the ends of an address. -/
def isEdge (c : Char) : Bool :=
  c.toNat ≤ 0x20

/-- Whether a character is kept within an address. -/
def isKept (c : Char) : Bool :=
  c ≠ '\t' ∧ c ≠ '\n' ∧ c ≠ '\r'

/-- At the end of a text nothing is dropped if the last character is no blank or control. -/
theorem trim_of_getLast? {cs : List Char} {c : Char} (hlast : cs.getLast? = some c)
    (hc : isEdge c = false) : trim cs = (cs.dropWhile isEdge).filter isKept := by
  obtain ⟨init, rfl⟩ := List.getLast?_eq_some_iff.mp hlast
  have hdrop : (init ++ [c]).dropWhile isEdge = init.dropWhile isEdge ++ [c] :=
    dropWhile_append_stop isEdge hc init []
  have hreverse : ((init ++ [c]).dropWhile isEdge).reverse.dropWhile isEdge =
      ((init ++ [c]).dropWhile isEdge).reverse := by
    rw [hdrop, List.reverse_append, List.reverse_singleton, List.singleton_append]
    exact List.dropWhile_cons_of_neg (by simp [hc])
  change ((((init ++ [c]).dropWhile isEdge).reverse.dropWhile isEdge).reverse).filter isKept = _
  rw [hreverse, List.reverse_reverse]

/-- A text that does not end in a blank or control, and goes on, is trimmed part by part. -/
theorem trim_append {cs ds : List Char} {c d : Char} (hcs : cs.getLast? = some c)
    (hc : isEdge c = false) (hds : ds.getLast? = some d) (hd : isEdge d = false) :
    trim (cs ++ ds) = trim cs ++ ds.filter isKept := by
  have hlast : (cs ++ ds).getLast? = some d := by simp [List.getLast?_append, hds]
  rw [trim_of_getLast? hlast hd, trim_of_getLast? hcs hc]
  obtain ⟨init, rfl⟩ := List.getLast?_eq_some_iff.mp hcs
  rw [List.append_assoc, List.singleton_append, dropWhile_append_stop isEdge hc,
    dropWhile_append_stop isEdge hc, ← List.filter_append, List.append_assoc,
    List.singleton_append]

/-! ## Authorities -/

/-- An authority that is followed by a path is the same with a longer path. -/
theorem readAuthority?_append {scheme : String} {cs rest : List Char} {authority : Authority}
    (h : readAuthority? scheme .web cs = some (authority, rest)) (ds : List Char) :
    readAuthority? scheme .web (cs ++ '/' :: ds) = some (authority, rest ++ '/' :: ds) := by
  have hslash : (!(SchemeKind.web.isSlash '/' || endsPath '/')) = false := by decide
  rw [readAuthority?] at h ⊢
  dsimp only at h ⊢
  rw [takeWhile_append_stop (fun c => !(SchemeKind.web.isSlash c || endsPath c)) hslash,
    dropWhile_append_stop (fun c => !(SchemeKind.web.isSlash c || endsPath c)) hslash]
  generalize cs.takeWhile (fun c => !(SchemeKind.web.isSlash c || endsPath c)) = block at h ⊢
  generalize cs.dropWhile (fun c => !(SchemeKind.web.isSlash c || endsPath c)) = after at h ⊢
  generalize afterLast (· = '@') block = place at h ⊢
  -- without a place for a host there is no authority
  have hne : place.isEmpty = false := by
    rcases place with _ | ⟨c, place⟩
    · simp [splitPort] at h
    · rfl
  simp only [hne, Bool.false_eq_true, false_and, and_false, if_false, true_or, if_true] at h ⊢
  rcases hport : readPort? scheme (((splitPort false place).2.getD []).takeWhile Char.isDigit)
    with _ | port
  · simp [hport] at h
  rw [hport] at h
  simp only [Option.bind_eq_bind, Option.bind_some] at h ⊢
  split_ifs at h ⊢ with hhost hleft
  all_goals rcases hread : Host.read? (splitPort false place).1 with _ | host
  all_goals simp only [hread, Option.bind_none, Option.bind_some, reduceCtorEq] at h ⊢
  obtain ⟨rfl, rfl⟩ := Prod.mk.inj (Option.some.inj h)
  simp

/-- Where nothing is left there is no authority of the web. -/
theorem readAuthority?_nil (scheme : String) : readAuthority? scheme .web [] = none := by
  simp [readAuthority?, afterLast, splitPort]

/-! ## Paths -/

theorem segments_ne_nil (delimits : Char → Bool) (cs : List Char) : segments delimits cs ≠ [] := by
  cases cs with
  | nil => simp [segments]
  | cons c cs =>
    rw [segments]
    split
    · simp
    · split <;> simp

/-- A text without a delimiter is its only segment. -/
theorem segments_of_forall {delimits : Char → Bool} {cs : List Char}
    (h : ∀ c ∈ cs, delimits c = false) : segments delimits cs = [cs] := by
  induction cs with
  | nil => rfl
  | cons c cs ih =>
    rw [segments, ih fun d hd => h d (List.mem_cons_of_mem c hd), h c List.mem_cons_self]
    rfl

/-- A delimiter ends one segment and starts the next one. -/
theorem segments_append {delimits : Char → Bool} {d : Char} (hd : delimits d = true)
    (cs ds : List Char) :
    segments delimits (cs ++ d :: ds) = segments delimits cs ++ segments delimits ds := by
  induction cs with
  | nil => simp [segments, hd]
  | cons c cs ih =>
    rw [List.cons_append, segments, segments, ih]
    obtain ⟨segment, more, hcs⟩ := List.exists_cons_of_ne_nil (segments_ne_nil delimits cs)
    by_cases hc : delimits c = true <;> simp [hc, hcs]

/-- The directories that are reached from a directory by entering a segment, in reverse order. -/
def enter (above : List (List Char)) (segment : List Char) : List (List Char) :=
  if isAbove segment then leave above else if isHere segment then above else segment :: above

/-- Segments that are not the last ones are entered one after the other. -/
theorem followSegments_append {last : List (List Char)} (hlast : last ≠ [])
    (first above : List (List Char)) :
    followSegments above (first ++ last) = followSegments (first.foldl enter above) last := by
  induction first generalizing above with
  | nil => rfl
  | cons segment first ih =>
    have hmore : (first ++ last).isEmpty = false := by simp [hlast]
    rw [List.cons_append, followSegments, hmore]
    simp only [Bool.false_and, Bool.false_eq_true, if_false]
    rw [ih]
    rfl

/-- Whether a segment is a name, and stands for no directory. -/
def IsName (segment : List Char) : Prop :=
  isAbove segment = false ∧ isHere segment = false

instance (segment : List Char) : Decidable (IsName segment) :=
  inferInstanceAs (Decidable (_ ∧ _))

/-- Names are added to the directories above. -/
theorem followSegments_names {names : List (List Char)} (h : ∀ name ∈ names, IsName name)
    (above : List (List Char)) : followSegments above names = above.reverse ++ names := by
  induction names generalizing above with
  | nil => simp [followSegments]
  | cons name names ih =>
    obtain ⟨habove, hhere⟩ := h name List.mem_cons_self
    rw [followSegments, habove, hhere]
    simp only [Bool.false_eq_true, if_false, Bool.or_self, Bool.and_false]
    rw [ih fun name hname => h name (List.mem_cons_of_mem _ hname)]
    simp

/-- **What may follow a base and is kept as it is**: characters of paths, with no segment that
stands for a directory. -/
structure IsPathText (cs : List Char) : Prop where
  chars : ∀ c ∈ cs, isPathChar c = true
  names : ∀ segment ∈ segments SchemeKind.web.isSlash cs, IsName segment

/-- Whether a text is kept is computed from its characters, not from all characters there are. -/
instance (cs : List Char) : Decidable (IsPathText cs) :=
  decidable_of_iff
    (cs.all isPathChar && (segments SchemeKind.web.isSlash cs).all fun s => decide (IsName s)) <| by
    simp only [Bool.and_eq_true, List.all_eq_true, decide_eq_true_eq]
    exact ⟨fun ⟨hchars, hnames⟩ => ⟨hchars, hnames⟩, fun h => ⟨h.chars, h.names⟩⟩

/-- A slash before a text that is kept is kept. -/
theorem IsPathText.slash {cs : List Char} (h : IsPathText cs) : IsPathText ('/' :: cs) where
  chars := by
    intro c hc
    rcases List.mem_cons.mp hc with rfl | hc
    · decide
    · exact h.chars c hc
  names := by
    intro segment hsegment
    rw [segments, if_pos (by decide)] at hsegment
    rcases List.mem_cons.mp hsegment with rfl | hsegment
    · exact ⟨by decide, by decide⟩
    · exact h.names segment hsegment

theorem writeSegments_append (first last : List (List Char)) :
    writeSegments (first ++ last) = writeSegments first ++ writeSegments last :=
  List.flatMap_append

/-- The segments of a text are written as the text after a slash. -/
theorem writeSegments_segments {cs : List Char} (h : ∀ c ∈ cs, isPathChar c = true) :
    writeSegments (segments SchemeKind.web.isSlash cs) = '/' :: cs := by
  induction cs with
  | nil => rfl
  | cons c cs ih =>
    have hcs := ih fun d hd => h d (List.mem_cons_of_mem c hd)
    rw [segments]
    by_cases hc : c = '/'
    · subst hc
      rw [if_pos (by decide)]
      change '/' :: writeSegments _ = _
      rw [hcs]
    · have hslash : SchemeKind.web.isSlash c = false := by
        simp [isSlash_eq_of_isPathChar (h c List.mem_cons_self), hc]
      obtain ⟨segment, more, hsegments⟩ :=
        List.exists_cons_of_ne_nil (segments_ne_nil SchemeKind.web.isSlash cs)
      have hchar : encode isUnsafeInPath [c] = [c] :=
        encode_pathChars (.inl rfl) (by simpa using h c List.mem_cons_self)
      rw [hsegments] at hcs ⊢
      simp only [hslash, Bool.false_eq_true, if_false]
      simp only [writeSegments, List.flatMap_cons, List.cons_append, List.cons.injEq,
        true_and] at hcs ⊢
      have hsplit := encode_append isUnsafeInPath [c] segment
      rw [List.singleton_append, hchar] at hsplit
      rw [hsplit, List.append_assoc, hcs, List.singleton_append]

/-- The path of a text that goes on with names is what comes before them, and the names. -/
theorem exists_writeSegments_append (cs : List Char) :
    ∃ before : List Char, ∀ ds, IsPathText ds →
      writeSegments (readSegments .web (cs ++ '/' :: ds)) = before ++ '/' :: ds := by
  -- what is entered before the names, if anything
  have hentered : ∀ first : List (List Char), ∃ before : List Char, ∀ ds, IsPathText ds →
      writeSegments (followSegments [] (first ++ segments SchemeKind.web.isSlash ds)) =
        before ++ '/' :: ds := by
    intro first
    refine ⟨writeSegments (first.foldl enter []).reverse, fun ds hds => ?_⟩
    rw [followSegments_append (segments_ne_nil _ ds), followSegments_names hds.names,
      writeSegments_append, writeSegments_segments hds.chars]
  cases cs with
  | nil => exact hentered []
  | cons c cs =>
    have hdelimits : SchemeKind.web.isSlash '/' = true := by decide
    by_cases hc : SchemeKind.web.isSlash c = true
    · obtain ⟨before, hbefore⟩ := hentered (segments SchemeKind.web.isSlash cs)
      refine ⟨before, fun ds hds => ?_⟩
      rw [← hbefore ds hds, ← segments_append hdelimits]
      simp only [readSegments, List.cons_append, if_pos hc]
    · obtain ⟨before, hbefore⟩ := hentered (segments SchemeKind.web.isSlash (c :: cs))
      refine ⟨before, fun ds hds => ?_⟩
      rw [← hbefore ds hds, ← segments_append hdelimits]
      simp only [readSegments, List.cons_append, if_neg hc]

/-! ## Bases -/

/-- **The end of an address that goes on with a path**: its fragment goes on if it has one, and its
query otherwise. -/
theorem readEnd_append {c : Char} (hc : endsPath c = true) (cs : List Char) :
    (∃ query fragment, readEnd .web (c :: cs) = (query, some fragment) ∧
      ∀ ds : List Char, (∀ d ∈ ds, isPathChar d = true) →
        readEnd .web (c :: (cs ++ ds)) = (query, some (fragment ++ String.ofList ds))) ∨
    ∃ query, readEnd .web (c :: cs) = (some query, none) ∧
      ∀ ds : List Char, (∀ d ∈ ds, isPathChar d = true) →
        readEnd .web (c :: (cs ++ ds)) = (some (query ++ String.ofList ds), none) := by
  rcases hcut : cut (· = '#') (c :: cs) with ⟨before, _ | fragment⟩
  · right
    obtain ⟨rfl, hnone⟩ := forall_of_cut hcut
    have hquestion : c = '?' := by
      have hhash : c ≠ '#' := by simpa using hnone c List.mem_cons_self
      simpa [endsPath, hhash] using hc
    subst hquestion
    refine ⟨String.ofList (encode isUnsafeInKnownQuery cs), by rw [readEnd, hcut]; rfl, ?_⟩
    intro ds hds
    have hforall : ∀ d ∈ '?' :: (cs ++ ds), decide (d = '#') = false := by
      intro d hd
      rw [← List.cons_append] at hd
      rcases List.mem_append.mp hd with hd | hd
      · exact hnone d hd
      · simp only [decide_eq_false_iff_not]
        rintro rfl
        exact absurd (hds _ hd) (by decide)
    rw [readEnd, cut_of_forall hforall]
    simp [encode_append, encode_pathChars (.inr (.inl rfl)) hds]
  · left
    refine ⟨_, String.ofList (encode isUnsafeInFragment fragment), by rw [readEnd, hcut]; rfl, ?_⟩
    intro ds hds
    rw [← List.cons_append, readEnd, cut_append hcut]
    simp [encode_append, encode_pathChars (.inr (.inr rfl)) hds]

/-- The authority is the same if the text goes on with a path. The slashes before it end there, since
it is not empty. -/
theorem readAuthority?_dropWhile_append {scheme : String} {cs rest : List Char}
    {authority : Authority}
    (h : readAuthority? scheme .web (cs.dropWhile SchemeKind.web.isSlash) = some (authority, rest))
    (ds : List Char) :
    readAuthority? scheme .web ((cs ++ '/' :: ds).dropWhile SchemeKind.web.isSlash) =
      some (authority, rest ++ '/' :: ds) := by
  obtain ⟨c, tail, htail⟩ : ∃ c tail, cs.dropWhile SchemeKind.web.isSlash = c :: tail := by
    refine List.exists_cons_of_ne_nil fun hnil => ?_
    rw [hnil, readAuthority?_nil] at h
    cases h
  rw [(span_append SchemeKind.web.isSlash htail ('/' :: ds)).2, ← List.cons_append, ← htail]
  exact readAuthority?_append h ds

/-- The address of the web that is read from a text which goes on with a path. -/
theorem exists_readWeb?_append {scheme : String} {cs : List Char} {url : Url}
    (h : readWeb? scheme cs = some url) : url.scheme = scheme ∧
      ∃ path : String, ∀ ds, IsPathText ds →
        readWeb? scheme (cs ++ '/' :: ds) =
          some ((url.withPath path).extend (String.ofList ('/' :: ds))) := by
  rw [readWeb?] at h
  rcases hauthority : readAuthority? scheme .web (cs.dropWhile SchemeKind.web.isSlash) with
    _ | ⟨authority, rest⟩
  · simp [hauthority] at h
  have hmore := readAuthority?_dropWhile_append hauthority
  rw [hauthority] at h
  obtain rfl := Option.some.inj h
  refine ⟨rfl, ?_⟩
  rcases hend : rest.dropWhile (!endsPath ·) with _ | ⟨stop, after⟩
  · -- the base ends in its path, which goes on
    obtain ⟨before, hbefore⟩ := exists_writeSegments_append rest
    refine ⟨String.ofList before, fun ds hds => ?_⟩
    have hpath : ∀ d ∈ rest ++ '/' :: ds, (!endsPath d) = true := by
      intro d hd
      rcases List.mem_append.mp hd with hd | hd
      · exact List.dropWhile_eq_nil_iff.mp hend d hd
      · simp [endsPath_of_isPathChar (hds.slash.chars d hd)]
    rw [readWeb?, hmore ds]
    simp only [Option.bind_eq_bind, Option.bind_some]
    rw [List.takeWhile_eq_self_iff.mpr hpath, List.dropWhile_eq_nil_iff.mpr hpath, hbefore ds hds]
    simp [ofParts, readEnd, cut, extend, withPath]
  · -- the base has a query or a fragment, of which the last one goes on
    have hstop : endsPath stop = true := by
      have hhead := List.head?_dropWhile_not (!endsPath ·) rest
      rw [hend] at hhead
      simpa using hhead
    refine ⟨String.ofList (writeSegments (readSegments .web (rest.takeWhile (!endsPath ·)))),
      fun ds hds => ?_⟩
    obtain ⟨htake, hdrop⟩ := span_append (!endsPath ·) hend ('/' :: ds)
    rw [readWeb?, hmore ds]
    simp only [Option.bind_eq_bind, Option.bind_some]
    rw [htake, hdrop]
    rcases readEnd_append hstop after with
      ⟨query, fragment, hread, happend⟩ | ⟨query, hread, happend⟩
    all_goals
      have hmoreEnd := happend _ hds.slash.chars
      simp only [ofParts, hmoreEnd, hread, extend, withPath]
      rfl

/-- An address has the scheme that is split off its text. -/
theorem scheme_of_read? {address : String} {scheme rest : List Char} {url : Url}
    (hscheme : splitScheme? (trim address.toList) = some (scheme, rest))
    (h : read? address = some url) : url.scheme = String.ofList scheme := by
  rw [read?, hscheme] at h
  simp only [Option.bind_eq_bind, Option.bind_some] at h
  split at h
  · exact (exists_readWeb?_append h).1
  · simp only [readFile?, Option.bind_eq_bind, Option.bind_eq_some_iff] at h
    obtain ⟨⟨host, rest⟩, -, h⟩ := h
    obtain rfl := Option.some.inj h
    rfl
  · simp only [readOther?, Option.bind_eq_bind] at h
    split at h
    all_goals
      obtain ⟨⟨authority, rest⟩, -, h⟩ := Option.bind_eq_some_iff.mp h
      obtain rfl := Option.some.inj h
      rfl

/-- **A base**: a text that stands for an address of the web, and does not end in a blank. -/
structure IsBase (base : String) (url : Url) : Prop where
  read : read? base = some url
  web : url.scheme = "http" ∨ url.scheme = "https"
  last : ∃ c, base.toList.getLast? = some c ∧ isEdge c = false

/-- A base is kept where a path follows it. -/
theorem IsBase.trim_append {base : String} {url : Url} (h : IsBase base url) {more : String}
    (hmore : ∀ c ∈ more.toList, isPathChar c = true) :
    trim (base ++ "/" ++ more).toList = trim base.toList ++ '/' :: more.toList := by
  obtain ⟨c, hlast, hc⟩ := h.last
  have hchars : ∀ d ∈ '/' :: more.toList, isPathChar d = true := by
    intro d hd
    rcases List.mem_cons.mp hd with rfl | hd
    · decide
    · exact hmore d hd
  have hkept : ('/' :: more.toList).filter isKept = '/' :: more.toList := by
    refine List.filter_eq_self.mpr fun d hd => ?_
    have hd' := hchars d hd
    simp only [isKept, decide_eq_true_eq]
    refine ⟨?_, ?_, ?_⟩ <;> rintro rfl <;> exact absurd hd' (by decide)
  obtain ⟨d, hd⟩ : ∃ d, ('/' :: more.toList).getLast? = some d :=
    ⟨_, List.getLast?_eq_some_getLast (by simp)⟩
  have hedge : isEdge d = false := by
    have hchar := (toNat_of_isPathChar (hchars d (List.mem_of_getLast? hd))).1
    simp only [isEdge, decide_eq_false_iff_not]
    omega
  have hlist : (base ++ "/" ++ more).toList = base.toList ++ '/' :: more.toList := by simp
  rw [hlist, Url.trim_append hlast hc hd hedge, hkept]

/-- **What is read from a base with a path after it**: the address of the base, up to its path, with
all that follows at its end. -/
theorem IsBase.exists_read? {base : String} {url : Url} (h : IsBase base url) :
    ∃ path : String, ∀ more : String, IsPathText more.toList →
      read? (base ++ "/" ++ more) =
        some ((url.withPath path).extend ("/" ++ more)) := by
  have hread := h.read
  rcases hscheme : splitScheme? (trim base.toList) with _ | ⟨scheme, rest⟩
  · simp [Url.read?, hscheme] at hread
  have hkind : SchemeKind.ofScheme (String.ofList scheme) = .web := by
    rw [← scheme_of_read? hscheme hread]
    rcases h.web with hweb | hweb <;> rw [hweb] <;> decide
  rw [Url.read?, hscheme] at hread
  simp only [Option.bind_eq_bind, Option.bind_some, hkind] at hread
  obtain ⟨-, path, hpath⟩ := exists_readWeb?_append hread
  refine ⟨path, fun more hmore => ?_⟩
  have htext : String.ofList ('/' :: more.toList) = "/" ++ more := by simp
  rw [Url.read?, h.trim_append hmore.chars, splitScheme?_append hscheme]
  simp only [Option.bind_eq_bind, Option.bind_some, hkind]
  rw [hpath more.toList hmore, htext]

/-- The groups of the address of the computer itself. -/
def loopbackGroups : List UInt16 :=
  [0, 0, 0, 0, 0, 0, 0, 1]

theorem length_loopbackGroups : loopbackGroups.length = 8 := rfl

/-- The address of the computer itself. -/
def loopback : Url :=
  ⟨"http", some ⟨.none, some (.v6 ⟨loopbackGroups, length_loopbackGroups⟩), none⟩, "/", none, none⟩

/-- A base without a path. -/
theorem isBase_loopback : IsBase "http://[::1]" loopback :=
  ⟨by decide +kernel, .inl rfl, ']', by decide, by decide⟩

end NetworkIntent.Url
