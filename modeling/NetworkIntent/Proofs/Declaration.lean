import NetworkIntent.Intent.Consistency
import NetworkIntent.Proofs.Record

/-!
# Reading intents

Which objects sites and VPNs are read from, which documents intents are read from, and which intents
are consistent.

## Main definitions

* `Site.ReadFrom`, `Vpn.ReadFrom`: the fields of an object are those of a site or a VPN.
* `Intent.Consistent`: the three rules about an intent as a whole.

## Main results

* `Site.decoder_eq_ok_iff`, `Vpn.decoder_eq_ok_iff`: which objects sites and VPNs are read from.
* `Intent.ofDocument_eq_ok_iff`: which objects intents are read from.
* `Intent.checkConsistency_eq_ok_iff`: which intents are found consistent.
-/

set_option autoImplicit false

namespace NetworkIntent

open Json Json.Record

/-! ## Sites and VPNs -/

/-- Texts are read from a list of them. -/
theorem texts_eq_ok_iff {value : Json} {texts : List String} :
    (Decoder.list .text).ofJson value = .ok texts ↔ value = .ofTexts texts := by
  have htexts (items : List Json) :
      List.Forall₂ (fun value text => value = .str text) items texts ↔ items = texts.map .str := by
    rw [← List.forall₂_map_right_iff, List.forall₂_eq_eq_eq]
  simp only [Decoder.list_eq_ok_iff, Decoder.text_eq_ok_iff, htexts, exists_eq_right, ofTexts]

/-- The kind of sites with a name is read from its name. -/
theorem SiteKind.decoder_str_eq_ok_iff {name : String} {kind : SiteKind} :
    SiteKind.decoder.ofJson (.str name) = .ok kind ↔ name = kind.name := by
  have hlookup : (SiteKind.all.map fun kind => (kind.name, kind)).lookup name =
      if name = "DC" then some .dataCentre else if name = "Branch" then some .branch else none := by
    split_ifs with hcentre hbranch
    · rw [hcentre]
      rfl
    · rw [hbranch]
      rfl
    · simp [SiteKind.all, SiteKind.name, List.lookup_cons, beq_false_of_ne hcentre,
        beq_false_of_ne hbranch]
  rw [SiteKind.decoder, Decoder.ofNames_str_eq_ok_iff, hlookup]
  split_ifs with hcentre hbranch <;> cases kind <;> simp [*, SiteKind.name]

/-- The fields of an object are those of a site. -/
structure Site.ReadFrom (fields : Fields) (site : Site) : Prop where
  id : Table.get? "id" fields = some (.int site.id.toInt)
  name : Table.get? "name" fields = some (.str site.name)
  kind : ∃ value, Table.get? "type" fields = some value ∧
    SiteKind.decoder.ofJson value = .ok site.kind
  routers : (Table.get? "router" fields).getD (.arr []) = .ofTexts site.routers
  switches : (Table.get? "switches" fields).getD (.arr []) = .ofTexts site.switches

/-- The fields of an object are those of a VPN. -/
structure Vpn.ReadFrom (fields : Fields) (vpn : Vpn) : Prop where
  id : Table.get? "id" fields = some (.int vpn.id.toInt)
  name : Table.get? "name" fields = some (.str vpn.name)
  sites : ∃ items, (Table.get? "sites" fields).getD (.arr []) = .arr items ∧
    List.Forall₂ (fun value kind => SiteKind.decoder.ofJson value = .ok kind) items vpn.sites

/-- A site is read from its fields. -/
theorem Site.reads_record : Site.record.Reads Site.ReadFrom := by
  have htexts {fields : Fields} {name : String} {texts : List String} :
      (Table.get? name fields).elim (texts = []) ((Decoder.list .text).ofJson · = .ok texts) ↔
        (Table.get? name fields).getD (.arr []) = .ofTexts texts := by
    cases Table.get? name fields with
    | none => simp [ofTexts, eq_comm]
    | some value => exact texts_eq_ok_iff
  refine (((((Reads.pure Site.mk).more (.required "id" .int64)).more (.required "name" .text)).more
    (.required "type" SiteKind.decoder)).more (.withDefault "router" (.list .text) [])).more
    (.withDefault "switches" (.list .text) []) |>.congr fun fields site => ?_
  simp only [Decoder.int64_eq_ok_iff, Decoder.text_eq_ok_iff, htexts]
  constructor
  · rintro ⟨_, switches, ⟨_, routers, ⟨_, kind, ⟨_, name, ⟨_, id, rfl, ⟨_, hid, rfl⟩, rfl⟩,
      ⟨_, hname, rfl⟩, rfl⟩, hkind, rfl⟩, hrouters, rfl⟩, hswitches, rfl⟩
    exact ⟨hid, hname, hkind, hrouters, hswitches⟩
  · rintro ⟨hid, hname, hkind, hrouters, hswitches⟩
    exact ⟨_, site.switches, ⟨_, site.routers, ⟨_, site.kind, ⟨_, site.name, ⟨_, site.id, rfl,
      ⟨_, hid, rfl⟩, rfl⟩, ⟨_, hname, rfl⟩, rfl⟩, hkind, rfl⟩, hrouters, rfl⟩, hswitches, rfl⟩

/-- A VPN is read from its fields. -/
theorem Vpn.reads_record : Vpn.record.Reads Vpn.ReadFrom := by
  have hkinds {fields : Fields} {kinds : List SiteKind} :
      (Table.get? "sites" fields).elim (kinds = [])
          ((Decoder.list SiteKind.decoder).ofJson · = .ok kinds) ↔
        ∃ items, (Table.get? "sites" fields).getD (.arr []) = .arr items ∧
          List.Forall₂ (fun value kind => SiteKind.decoder.ofJson value = .ok kind) items
            kinds := by
    cases Table.get? "sites" fields with
    | none => simp
    | some value => exact Decoder.list_eq_ok_iff
  refine ((((Reads.pure Vpn.mk).more (.required "id" .int64)).more (.required "name" .text)).more
    (.withDefault "sites" (.list SiteKind.decoder) [])) |>.congr fun fields vpn => ?_
  simp only [Decoder.int64_eq_ok_iff, Decoder.text_eq_ok_iff, hkinds]
  constructor
  · rintro ⟨_, kinds, ⟨_, name, ⟨_, id, rfl, ⟨_, hid, rfl⟩, rfl⟩, ⟨_, hname, rfl⟩, rfl⟩, hsites,
      rfl⟩
    exact ⟨hid, hname, hsites⟩
  · rintro ⟨hid, hname, hsites⟩
    exact ⟨_, vpn.sites, ⟨_, vpn.name, ⟨_, vpn.id, rfl, ⟨_, hid, rfl⟩, rfl⟩, ⟨_, hname, rfl⟩,
      rfl⟩, hsites, rfl⟩

theorem Site.plain_record : Site.record.Plain := by
  decide

theorem Vpn.plain_record : Vpn.record.Plain := by
  decide

/-- A site is read from an object without repeated keys exactly if its fields are those of the
site. -/
theorem Site.decoder_eq_ok_iff {fields : Fields} (hkeys : (Table.keys fields).Nodup) {site : Site} :
    Site.decoder.ofJson (.obj fields) = .ok site ↔ Site.ReadFrom fields site :=
  Site.plain_record.ofFields_eq_ok_iff Site.reads_record hkeys

/-- A VPN is read from an object without repeated keys exactly if its fields are those of the
VPN. -/
theorem Vpn.decoder_eq_ok_iff {fields : Fields} (hkeys : (Table.keys fields).Nodup) {vpn : Vpn} :
    Vpn.decoder.ofJson (.obj fields) = .ok vpn ↔ Vpn.ReadFrom fields vpn :=
  Vpn.plain_record.ofFields_eq_ok_iff Vpn.reads_record hkeys

namespace Intent

/-! ## Intents -/

/-- The items of a collection are read from the list under its key. -/
theorem collection_eq_ok_iff {α : Type} (item : Decoder α) (key name : String) {fields : Fields}
    (hkeys : (Table.keys fields).Nodup) (as : List α) :
    ((Record.required key (.list item)).decoder name).ofJson (.obj fields) = .ok as ↔
      ∃ items, Table.get? key fields = some (.arr items) ∧
        List.Forall₂ (fun value a => item.ofJson value = .ok a) items as := by
  have hplain : (Record.required key (.list item)).Plain :=
    ⟨by simp [Record.required, field], by simp [Record.required, field]⟩
  refine Iff.trans (hplain.ofFields_eq_ok_iff (Reads.required key (.list item)) hkeys) ?_
  simp only [Decoder.list_eq_ok_iff]
  constructor
  · rintro ⟨_, hget, items, rfl, hitems⟩
    exact ⟨items, hget, hitems⟩
  · rintro ⟨items, hget, hitems⟩
    exact ⟨_, hget, items, rfl, hitems⟩

/-- An intent is read from an object without repeated keys exactly if its sites and its VPNs are
read from the lists under their keys. -/
theorem ofDocument_eq_ok_iff {fields : Fields} (hkeys : (Table.keys fields).Nodup)
    {intent : Intent} :
    ofDocument (.obj fields) = .ok intent ↔
      (∃ items, Table.get? "site-service:sites" fields = some (.arr items) ∧
        List.Forall₂ (fun value site => Site.decoder.ofJson value = .ok site) items intent.sites) ∧
      ∃ items, Table.get? "vpn-service:vpns" fields = some (.arr items) ∧
        List.Forall₂ (fun value vpn => Vpn.decoder.ofJson value = .ok vpn) items intent.vpns := by
  have hsites := collection_eq_ok_iff Site.decoder "site-service:sites" "struct SiteService" hkeys
    intent.sites
  have hvpns := collection_eq_ok_iff Vpn.decoder "vpn-service:vpns" "struct VpnService" hkeys
    intent.vpns
  rw [← hsites, ← hvpns]
  change _ ↔ sitesDecoder.ofJson (.obj fields) = .ok intent.sites ∧
    vpnsDecoder.ofJson (.obj fields) = .ok intent.vpns
  rw [ofDocument]
  rcases sitesDecoder.ofJson (.obj fields) with mismatch | sites
  · simp
  · rw [map_eq_ok_iff, Except.ok.injEq]
    constructor
    · rintro ⟨vpns, hread, rfl⟩
      exact ⟨rfl, hread⟩
    · rintro ⟨rfl, hread⟩
      exact ⟨_, hread, rfl⟩

/-! ## Consistency -/

/-- The three rules about an intent as a whole: no two sites have one id, no two VPNs have one id,
and every kind of sites that a VPN lists is the kind of some site. -/
structure Consistent (intent : Intent) : Prop where
  siteIds : (intent.sites.map Site.id).Nodup
  vpnIds : (intent.vpns.map Vpn.id).Nodup
  kinds : ∀ vpn ∈ intent.vpns, ∀ kind ∈ vpn.sites, kind ∈ intent.sites.map Site.kind

/-- No value is found repeated exactly if the values are all different and none has been seen. -/
theorem firstRepeated?_eq_none_iff {α : Type} [DecidableEq α] {seen as : List α} :
    firstRepeated? seen as = none ↔ as.Nodup ∧ ∀ a ∈ as, a ∉ seen := by
  induction as generalizing seen with
  | nil => simp [firstRepeated?]
  | cons a rest ih =>
    rw [firstRepeated?, List.nodup_cons, List.forall_mem_cons]
    by_cases hseen : a ∈ seen
    · simp [hseen]
    · rw [if_neg hseen, ih]
      constructor
      · rintro ⟨hrest, hnew⟩
        have hfresh : a ∉ rest := fun hmem => hnew a hmem List.mem_cons_self
        exact ⟨⟨hfresh, hrest⟩, hseen, fun b hb hmem => hnew b hb (List.mem_cons_of_mem a hmem)⟩
      · rintro ⟨⟨hfresh, hrest⟩, -, hnew⟩
        refine ⟨hrest, fun b hb hmem => ?_⟩
        rcases List.mem_cons.mp hmem with rfl | hmem
        · exact hfresh hb
        · exact hnew b hb hmem

/-- No value of a list is repeated exactly if they are all different. -/
theorem firstRepeated?_nil_eq_none_iff {α : Type} [DecidableEq α] {as : List α} :
    firstRepeated? [] as = none ↔ as.Nodup := by
  simp [firstRepeated?_eq_none_iff]

theorem undeclaredKind?_eq_none_iff {sites : List Site} {vpn : Vpn} :
    undeclaredKind? sites vpn = none ↔ ∀ kind ∈ vpn.sites, kind ∈ sites.map Site.kind := by
  simp [undeclaredKind?]

theorem checkSiteKinds_eq_ok_iff {intent : Intent} :
    intent.checkSiteKinds = .ok () ↔
      ∀ vpn ∈ intent.vpns, ∀ kind ∈ vpn.sites, kind ∈ intent.sites.map Site.kind := by
  simp only [← undeclaredKind?_eq_none_iff, ← List.findSome?_eq_none_iff]
  rw [checkSiteKinds]
  cases intent.vpns.findSome? (undeclaredKind? intent.sites) <;> simp

theorem checkSiteIds_eq_ok_iff {sites : List Site} :
    checkSiteIds sites = .ok () ↔ (sites.map Site.id).Nodup := by
  rw [← firstRepeated?_nil_eq_none_iff, checkSiteIds]
  cases firstRepeated? [] (sites.map Site.id) <;> simp

theorem checkVpnIds_eq_ok_iff {vpns : List Vpn} :
    checkVpnIds vpns = .ok () ↔ (vpns.map Vpn.id).Nodup := by
  rw [← firstRepeated?_nil_eq_none_iff, checkVpnIds]
  cases firstRepeated? [] (vpns.map Vpn.id) <;> simp

/-- **The intents that are found consistent are the consistent ones.** -/
theorem checkConsistency_eq_ok_iff {intent : Intent} :
    intent.checkConsistency = .ok () ↔ intent.Consistent := by
  have hrules : intent.Consistent ↔ checkSiteIds intent.sites = .ok () ∧
      checkVpnIds intent.vpns = .ok () ∧ intent.checkSiteKinds = .ok () := by
    rw [checkSiteIds_eq_ok_iff, checkVpnIds_eq_ok_iff, checkSiteKinds_eq_ok_iff]
    exact ⟨fun h => ⟨h.siteIds, h.vpnIds, h.kinds⟩, fun ⟨h₁, h₂, h₃⟩ => ⟨h₁, h₂, h₃⟩⟩
  rw [hrules, checkConsistency]
  rcases checkSiteIds intent.sites with _ | ⟨⟩
  · simp
  · rcases checkVpnIds intent.vpns with _ | ⟨⟩ <;> simp

end Intent

end NetworkIntent
