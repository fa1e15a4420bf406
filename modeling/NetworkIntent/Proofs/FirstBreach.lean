import NetworkIntent.Proofs.Declaration

/-!
# The first breach of an intent

An intent may break its rules in many places at once, and a check tells one of them. Which one is
told does not depend on how the check goes about it: rules come before later rules, and of the
places where a rule is broken the first one counts. A number is repeated where it comes again, so
the first place of a repetition is the end of the shortest start of the list that has one.

## Main definitions

* `FirstRepeated`: the value at the first place of a list where a value comes again.
* `Intent.FirstUndeclared`: the first kind that a VPN lists although no site is of it.
* `Intent.FirstBreach`: the first breach of an intent.

## Main results

* `FirstRepeated.unique`: only one value is the first that comes again.
* `Intent.firstRepeated?_nil_eq_some_iff`: the value that a scan finds is the one that comes again
  first.
* `Intent.undeclaredKind?_eq_some_iff`: the kind that is found undeclared is the first one.
* `Intent.checkConsistency_reports`: the check decides the rules, and reports the first breach.
-/

set_option autoImplicit false

namespace NetworkIntent

/-! ## Repetitions -/

/-- The value at the first place where a value comes again: it is among the values before this
place, and these are all different. -/
def FirstRepeated {α : Type} (a : α) (as : List α) : Prop :=
  ∃ before after, as = before ++ a :: after ∧ before.Nodup ∧ a ∈ before

namespace FirstRepeated

variable {α : Type} {a b : α} {as : List α}

/-- Where a value comes again, not all values are different. -/
theorem not_nodup (h : FirstRepeated a as) : ¬as.Nodup := by
  obtain ⟨before, after, rfl, -, hmem⟩ := h
  intro hnodup
  exact (List.nodup_append.mp hnodup).2.2 a hmem a List.mem_cons_self rfl

/-- A start of a list without repetitions does not go beyond a place where a value comes again. -/
theorem eq_of_nodup {before between after others : List α} (hnodup : (before ++ between).Nodup)
    (hmem : a ∈ before) (hsplit : a :: after = between ++ b :: others) : a = b := by
  cases between with
  | nil => exact (List.cons.inj hsplit).1
  | cons c between =>
    obtain ⟨rfl, -⟩ := List.cons.inj hsplit
    exact absurd rfl ((List.nodup_append.mp hnodup).2.2 a hmem a List.mem_cons_self)

/-- Only one value is the first that comes again. -/
theorem unique (h : FirstRepeated a as) (h' : FirstRepeated b as) : a = b := by
  obtain ⟨before, after, rfl, hnodup, hmem⟩ := h
  obtain ⟨before', after', hsplit, hnodup', hmem'⟩ := h'
  rcases List.append_eq_append_iff.mp hsplit with ⟨between, rfl, hafter⟩ | ⟨between, rfl, hafter⟩
  · exact eq_of_nodup hnodup' hmem hafter
  · exact (eq_of_nodup hnodup hmem' hafter).symm

end FirstRepeated

namespace Intent

section Scans

variable {α : Type} [DecidableEq α] {a : α} {as : List α}

/-- A scan that has seen the values of some start of a list, all different, finds the value that
comes again first in the whole list. -/
theorem firstRepeated_of_firstRepeated? {seen : List α} (hseen : seen.Nodup)
    (h : firstRepeated? seen as = some a) : FirstRepeated a (seen.reverse ++ as) := by
  induction as generalizing seen with
  | nil => cases h
  | cons b rest ih =>
    rw [firstRepeated?] at h
    by_cases hmem : b ∈ seen
    · rw [if_pos hmem] at h
      cases h
      exact ⟨seen.reverse, rest, rfl, List.nodup_reverse.mpr hseen, List.mem_reverse.mpr hmem⟩
    · rw [if_neg hmem] at h
      have hrest := ih (List.nodup_cons.mpr ⟨hmem, hseen⟩) h
      rwa [List.reverse_cons, List.append_assoc, List.singleton_append] at hrest

/-- **The value that a scan finds is the one that comes again first.** -/
theorem firstRepeated?_nil_eq_some_iff : firstRepeated? [] as = some a ↔ FirstRepeated a as := by
  constructor
  · exact firstRepeated_of_firstRepeated? List.nodup_nil
  · intro h
    have hfound : firstRepeated? [] as ≠ none := by
      rw [Ne, firstRepeated?_nil_eq_none_iff]
      exact h.not_nodup
    obtain ⟨b, hb⟩ := Option.ne_none_iff_exists'.mp hfound
    rw [hb, h.unique (firstRepeated_of_firstRepeated? List.nodup_nil hb)]

/-- Some value of a list is the first repeated one exactly if not all are different. -/
theorem exists_firstRepeated_iff : (∃ a, FirstRepeated a as) ↔ ¬as.Nodup := by
  simp only [← firstRepeated?_nil_eq_some_iff, ← firstRepeated?_nil_eq_none_iff]
  exact Option.ne_none_iff_exists'.symm

end Scans

/-! ## Undeclared kinds -/

/-- The first kind that a VPN lists although no site is of it: the VPNs before this one list
declared kinds only, and so does this one before the kind. -/
def FirstUndeclared (intent : Intent) (vpn : Vpn) (kind : SiteKind) : Prop :=
  kind ∉ intent.sites.map Site.kind ∧
  (∃ before after, intent.vpns = before ++ vpn :: after ∧
    ∀ earlier ∈ before, ∀ k ∈ earlier.sites, k ∈ intent.sites.map Site.kind) ∧
  ∃ listed more, vpn.sites = listed ++ kind :: more ∧
    ∀ k ∈ listed, k ∈ intent.sites.map Site.kind

variable {intent : Intent}

/-- What is found undeclared in a VPN is the first kind of its list that no site is of. -/
theorem undeclaredKind?_eq_some_iff {sites : List Site} {vpn : Vpn} {breach : Inconsistency} :
    undeclaredKind? sites vpn = some breach ↔ ∃ kind, breach = .undeclaredKind vpn.id kind ∧
      kind ∉ sites.map Site.kind ∧ ∃ listed more, vpn.sites = listed ++ kind :: more ∧
        ∀ k ∈ listed, k ∈ sites.map Site.kind := by
  simp only [undeclaredKind?, Option.map_eq_some_iff, List.find?_eq_some_iff_append,
    Bool.not_eq_true', List.contains_eq_mem, decide_eq_false_iff_not, Bool.not_not,
    decide_eq_true_eq]
  constructor
  · rintro ⟨kind, ⟨hkind, listed⟩, rfl⟩
    exact ⟨kind, rfl, hkind, listed⟩
  · rintro ⟨kind, rfl, hkind, listed⟩
    exact ⟨kind, ⟨hkind, listed⟩, rfl⟩

/-- What is found undeclared in an intent is the first kind that a VPN lists although no site is of
it. -/
theorem checkSiteKinds_eq_error_iff {breach : Inconsistency} :
    intent.checkSiteKinds = .error breach ↔
      ∃ vpn kind, breach = .undeclaredKind vpn.id kind ∧ intent.FirstUndeclared vpn kind := by
  have hfind : intent.checkSiteKinds = .error breach ↔
      intent.vpns.findSome? (undeclaredKind? intent.sites) = some breach := by
    rw [checkSiteKinds]
    cases intent.vpns.findSome? (undeclaredKind? intent.sites) <;> simp
  rw [hfind, List.findSome?_eq_some_iff]
  simp only [undeclaredKind?_eq_some_iff, undeclaredKind?_eq_none_iff]
  constructor
  · rintro ⟨before, vpn, after, hsplit, ⟨kind, rfl, hkind, hlisted⟩, hbefore⟩
    exact ⟨vpn, kind, rfl, hkind, ⟨before, after, hsplit, hbefore⟩, hlisted⟩
  · rintro ⟨vpn, kind, rfl, hkind, ⟨before, after, hsplit, hbefore⟩, hlisted⟩
    exact ⟨before, vpn, after, hsplit, ⟨kind, rfl, hkind, hlisted⟩, hbefore⟩

/-! ## Breaches -/

/-- The first breach of an intent: of the first rule that is broken, at the first place where it
is. -/
inductive FirstBreach (intent : Intent) : Inconsistency → Prop
  | repeatedSiteId {id : Int64} (hid : FirstRepeated id (intent.sites.map Site.id)) :
    FirstBreach intent (.repeatedSiteId id)
  | repeatedVpnId {id : Int64} (hsites : (intent.sites.map Site.id).Nodup)
      (hid : FirstRepeated id (intent.vpns.map Vpn.id)) : FirstBreach intent (.repeatedVpnId id)
  | undeclaredKind {vpn : Vpn} {kind : SiteKind} (hsites : (intent.sites.map Site.id).Nodup)
      (hvpns : (intent.vpns.map Vpn.id).Nodup) (hkind : intent.FirstUndeclared vpn kind) :
    FirstBreach intent (.undeclaredKind vpn.id kind)

/-- The numbers of sites are checked by looking for the first repeated one. -/
theorem checkSiteIds_eq_error_iff {sites : List Site} {breach : Inconsistency} :
    checkSiteIds sites = .error breach ↔
      ∃ id, breach = .repeatedSiteId id ∧ FirstRepeated id (sites.map Site.id) := by
  simp only [← firstRepeated?_nil_eq_some_iff]
  rw [checkSiteIds]
  cases firstRepeated? [] (sites.map Site.id) <;> simp [eq_comm]

/-- The numbers of VPNs are checked by looking for the first repeated one. -/
theorem checkVpnIds_eq_error_iff {vpns : List Vpn} {breach : Inconsistency} :
    checkVpnIds vpns = .error breach ↔
      ∃ id, breach = .repeatedVpnId id ∧ FirstRepeated id (vpns.map Vpn.id) := by
  simp only [← firstRepeated?_nil_eq_some_iff]
  rw [checkVpnIds]
  cases firstRepeated? [] (vpns.map Vpn.id) <;> simp [eq_comm]

/-- The rules are checked one after the other, and the check stops at the first one that is
broken. -/
theorem checkConsistency_eq_error_iff {breach : Inconsistency} :
    intent.checkConsistency = .error breach ↔ checkSiteIds intent.sites = .error breach ∨
      checkSiteIds intent.sites = .ok () ∧ (checkVpnIds intent.vpns = .error breach ∨
        checkVpnIds intent.vpns = .ok () ∧ intent.checkSiteKinds = .error breach) := by
  rw [checkConsistency]
  rcases checkSiteIds intent.sites with _ | ⟨⟩
  · simp
  · rcases checkVpnIds intent.vpns with _ | ⟨⟩ <;> simp

/-- Some kind is the first undeclared one exactly if not all listed kinds are declared. -/
theorem exists_firstUndeclared_iff : (∃ vpn kind, intent.FirstUndeclared vpn kind) ↔
    ¬∀ vpn ∈ intent.vpns, ∀ kind ∈ vpn.sites, kind ∈ intent.sites.map Site.kind := by
  rw [← checkSiteKinds_eq_ok_iff]
  constructor
  · rintro ⟨vpn, kind, hkind⟩ hok
    have herror := checkSiteKinds_eq_error_iff.mpr ⟨vpn, kind, rfl, hkind⟩
    cases hok.symm.trans herror
  · intro hne
    rcases hcheck : intent.checkSiteKinds with breach | ⟨⟩
    · obtain ⟨vpn, kind, -, hkind⟩ := checkSiteKinds_eq_error_iff.mp hcheck
      exact ⟨vpn, kind, hkind⟩
    · exact absurd hcheck hne

/-- **The check decides the rules and reports the first breach.** An intent is found consistent
exactly if it is. A site number is reported whenever one is repeated; if none is, a VPN number
whenever one is repeated; and if none is, the kind of a VPN whenever one is undeclared. What is
reported is the first repeated number, or the first undeclared kind of the first VPN that lists
any.

**Proof sketch.** Each of the three scans stops at the first place where its rule is broken, and
finds nothing exactly if there is none (`firstRepeated?_nil_eq_some_iff`,
`checkSiteKinds_eq_error_iff`). They are run in order, so that the later ones count only if the
earlier ones find nothing. -/
theorem checkConsistency_reports (intent : Intent) :
    (intent.checkConsistency = .ok () ↔ intent.Consistent) ∧
    (∀ breach, intent.checkConsistency = .error breach ↔ intent.FirstBreach breach) ∧
    ((∃ id, intent.checkConsistency = .error (.repeatedSiteId id)) ↔
      ¬(intent.sites.map Site.id).Nodup) ∧
    ((∃ id, intent.checkConsistency = .error (.repeatedVpnId id)) ↔
      (intent.sites.map Site.id).Nodup ∧ ¬(intent.vpns.map Vpn.id).Nodup) ∧
    ((∃ number kind, intent.checkConsistency = .error (.undeclaredKind number kind)) ↔
      (intent.sites.map Site.id).Nodup ∧ (intent.vpns.map Vpn.id).Nodup ∧
        ¬∀ vpn ∈ intent.vpns, ∀ kind ∈ vpn.sites, kind ∈ intent.sites.map Site.kind) := by
  have hreport (breach : Inconsistency) :
      intent.checkConsistency = .error breach ↔ intent.FirstBreach breach := by
    rw [checkConsistency_eq_error_iff, checkSiteIds_eq_error_iff, checkSiteIds_eq_ok_iff,
      checkVpnIds_eq_error_iff, checkVpnIds_eq_ok_iff, checkSiteKinds_eq_error_iff]
    constructor
    · rintro (⟨id, rfl, hid⟩ | ⟨hsites, ⟨id, rfl, hid⟩ | ⟨hvpns, vpn, kind, rfl, hkind⟩⟩)
      · exact .repeatedSiteId hid
      · exact .repeatedVpnId hsites hid
      · exact .undeclaredKind hsites hvpns hkind
    · rintro (hid | ⟨hsites, hid⟩ | ⟨hsites, hvpns, hkind⟩)
      · exact .inl ⟨_, rfl, hid⟩
      · exact .inr ⟨hsites, .inl ⟨_, rfl, hid⟩⟩
      · exact .inr ⟨hsites, .inr ⟨hvpns, _, _, rfl, hkind⟩⟩
  refine ⟨checkConsistency_eq_ok_iff, hreport, ?_, ?_, ?_⟩
  · rw [← exists_firstRepeated_iff]
    simp only [hreport]
    exact ⟨fun ⟨id, .repeatedSiteId hid⟩ => ⟨id, hid⟩, fun ⟨id, hid⟩ => ⟨id, .repeatedSiteId hid⟩⟩
  · rw [← exists_firstRepeated_iff]
    simp only [hreport]
    exact ⟨fun ⟨id, .repeatedVpnId hsites hid⟩ => ⟨hsites, id, hid⟩,
      fun ⟨hsites, id, hid⟩ => ⟨id, .repeatedVpnId hsites hid⟩⟩
  · rw [← exists_firstUndeclared_iff]
    simp only [hreport]
    exact ⟨fun ⟨_, kind, .undeclaredKind hsites hvpns hkind⟩ => ⟨hsites, hvpns, _, kind, hkind⟩,
      fun ⟨hsites, hvpns, vpn, kind, hkind⟩ => ⟨vpn.id, kind, .undeclaredKind hsites hvpns hkind⟩⟩

/-- Of the numbers 3, 5, 5 and 3 it is 5 that comes again first; that a VPN lists a kind that no
site is of is not told then. -/
example : checkConsistency ⟨[3, 5, 5, 3].map fun id => ⟨id, "hq", .dataCentre, [], []⟩,
    [⟨10, "data", [.branch]⟩]⟩ = .error (.repeatedSiteId 5) := by
  decide

end Intent

end NetworkIntent
