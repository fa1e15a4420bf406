import NetworkIntent.Proofs.Declaration
import NetworkIntent.Proofs.Json.Parsed
import NetworkIntent.Proofs.Json.RoundTrip
import NetworkIntent.Proofs.Schema.Services
import NetworkIntent.Validation

/-!
# The grammar of intents

Whether a document is accepted as an intent is decided in three steps: by the schema of intents,
which refers to the common module for the parts of sites and VPNs; by reading the document as sites
and VPNs, which has rules of its own for numbers and for fields that are left out; and by the rules
about the intent as a whole. All steps together accept exactly the documents of one grammar, which
is told here in terms of documents alone.

The schema allows more numbers than can be read, such as `1.0` or ones that need more than 64 bits,
and reading allows more objects than the schema, such as ones with other keys. Where both agree, a
site or VPN that is read is shown by its document, so that the rules about the whole can be told by
documents too. The keys of objects ascend, as they do in every document that is read from a text.

## Main definitions

* `Grammar.IsIntent`: the documents of intents.
* `Grammar.IsSite`, `Grammar.IsVpn`, `Grammar.Compatible`: their sites and VPNs, and how these go
  together.
* `Grammar.Installed`: the shipped schemas are where they are looked for.

## Main results

* `Grammar.isSite_iff`, `Grammar.isVpn_iff`: sites and VPNs are what the schema allows and is read.
* `Grammar.compatible_iff`: they go together exactly if the intent that they show is consistent.
* `Grammar.validate_services_eq_ok_iff`: the documents that are accepted as intents are those of the
  grammar.
-/

set_option autoImplicit false

namespace NetworkIntent.Grammar

open Schema

/-! ## The grammar -/

/-- Numbers of sites and VPNs: whole ones from zero to `2 ^ 63 - 1`, the greatest one of 64 bits
with a sign. -/
def IsId (value : Json) : Prop :=
  ∃ n : Int, value = .int n ∧ 0 ≤ n ∧ n ≤ 9223372036854775807

/-- Texts with a property. -/
def IsTextOf (P : String → Prop) (value : Json) : Prop :=
  ∃ text, value = .str text ∧ P text

/-- Lists of texts with a property, all of them different. -/
def IsTextsOf (P : String → Prop) (value : Json) : Prop :=
  ∃ texts : List String, value = .arr (texts.map .str) ∧ texts.Nodup ∧ ∀ text ∈ texts, P text

/-- Names and serials are not empty. -/
def Named (text : String) : Prop :=
  text ≠ ""

/-- The names of the kinds of sites. -/
def NamesKind (text : String) : Prop :=
  text = "DC" ∨ text = "Branch"

/-- An object has a key, with a value of a form. -/
def Has (key : String) (P : Json → Prop) (fields : Fields) : Prop :=
  ∃ value, Table.get? key fields = some value ∧ P value

/-- If an object has a key, then with a value of a form. -/
def MayHave (key : String) (P : Json → Prop) (fields : Fields) : Prop :=
  ∀ value, Table.get? key fields = some value → P value

/-- The fields of a site. -/
structure SiteFields (fields : Fields) : Prop where
  keys : ∀ key ∈ Table.keys fields, key ∈ ["id", "name", "type", "router", "switches"]
  id : Has "id" IsId fields
  name : Has "name" (IsTextOf Named) fields
  type : Has "type" (IsTextOf NamesKind) fields
  router : MayHave "router" (IsTextsOf Named) fields
  switches : MayHave "switches" (IsTextsOf Named) fields

/-- The fields of a VPN. -/
structure VpnFields (fields : Fields) : Prop where
  keys : ∀ key ∈ Table.keys fields, key ∈ ["id", "name", "sites"]
  id : Has "id" IsId fields
  name : Has "name" (IsTextOf Named) fields
  sites : Has "sites" (IsTextsOf NamesKind) fields

/-- The objects of sites. -/
def IsSite (value : Json) : Prop :=
  ∃ fields, value = .obj fields ∧ SiteFields fields

/-- The objects of VPNs. -/
def IsVpn (value : Json) : Prop :=
  ∃ fields, value = .obj fields ∧ VpnFields fields

/-- Every type in a list is the type of some site. -/
def Covers (sites : List Json) (listed : Option Json) : Prop :=
  ∀ types, listed = some (.arr types) → ∀ type ∈ types, ∃ site ∈ sites,
    site.get? "type" = some type

/-- Sites and VPNs go together: no two sites have one number, no two VPNs have one number, and each
type that a VPN lists is the type of some site. -/
structure Compatible (sites vpns : List Json) : Prop where
  siteIds : (sites.map (Json.get? "id")).Nodup
  vpnIds : (vpns.map (Json.get? "id")).Nodup
  types : ∀ vpn ∈ vpns, Covers sites (vpn.get? "sites")

/-- The documents of intents: objects with a list of sites and a list of VPNs that go together.
Other keys may have any values. -/
def IsIntent (document : Json) : Prop :=
  ∃ fields sites vpns, document = .obj fields ∧
    Table.get? "site-service:sites" fields = some (.arr sites) ∧
    Table.get? "vpn-service:vpns" fields = some (.arr vpns) ∧
    (∀ site ∈ sites, IsSite site) ∧ (∀ vpn ∈ vpns, IsVpn vpn) ∧ Compatible sites vpns

/-! ## Values -/

/-- Numbers of sites and VPNs are what the schema allows and 64 bits can hold. -/
theorem isId_iff {value : Json} :
    IsId value ↔ IsCount value ∧ ∃ n : Int64, value = .int n.toInt := by
  constructor
  · rintro ⟨n, rfl, hmin, hmax⟩
    refine ⟨isCount_int_iff.mpr hmin, Int64.ofInt n, ?_⟩
    rw [Int64.toInt_ofInt_of_le (by omega) (by omega)]
  · rintro ⟨hcount, n, rfl⟩
    have hmax : Int64.maxValue.toInt = 9223372036854775807 := by decide
    exact ⟨n.toInt, rfl, isCount_int_iff.mp hcount, hmax ▸ n.toInt_le⟩

/-- Types of sites are the names of kinds. -/
theorem isTextOf_namesKind_iff {value : Json} :
    IsTextOf NamesKind value ↔ ∃ kind : SiteKind, value = kind.toJson := by
  constructor
  · rintro ⟨_, rfl, rfl | rfl⟩
    · exact ⟨.dataCentre, rfl⟩
    · exact ⟨.branch, rfl⟩
  · rintro ⟨kind, rfl⟩
    cases kind
    · exact ⟨"DC", rfl, .inl rfl⟩
    · exact ⟨"Branch", rfl, .inr rfl⟩

/-- The kinds of the schema are the ones of the grammar. -/
theorem isOneOf_eq : IsOneOf ["DC", "Branch"] = IsTextOf NamesKind := by
  funext value
  simp only [IsOneOf, IsTextOf, NamesKind, List.mem_cons, List.not_mem_nil, or_false, and_comm]

/-- Different kinds have different names. -/
theorem toJson_injective : Function.Injective SiteKind.toJson := by
  intro a b
  cases a <;> cases b <;> simp [SiteKind.toJson, SiteKind.name]

/-- A kind is read from its name only, among the names of kinds. -/
theorem decoder_eq_ok_iff {value : Json} (h : IsTextOf NamesKind value) {kind : SiteKind} :
    SiteKind.decoder.ofJson value = .ok kind ↔ value = kind.toJson := by
  obtain ⟨name, rfl, -⟩ := h
  rw [SiteKind.decoder_str_eq_ok_iff, SiteKind.toJson, Json.str.injEq]

/-- The sets of the schema are the ones of the grammar. -/
theorem isSetOf_eq {P : String → Prop} : IsSetOf (IsTextOf P) = IsTextsOf P := by
  funext value
  exact propext isSetOf_texts_iff

/-! ## Sites and VPNs -/

section Fields

variable {fields : Fields}

/-- An object has a key with a value of a form exactly if it has the key, and then with such a
value. -/
theorem has_iff {key : String} {P : Json → Prop} :
    Has key P fields ↔ key ∈ Table.keys fields ∧ MayHave key P fields := by
  rw [Has, MayHave]
  rcases hget : Table.get? key fields with _ | value
  · simpa using fun h => absurd h (Table.get?_eq_none_iff.mp hget)
  · have hmem : key ∈ Table.keys fields :=
      List.mem_map.mpr ⟨_, Table.mem_of_get?_eq_some hget, rfl⟩
    simp [hmem]

/-- The sites of the schema. -/
theorem meets_site_iff (hkeys : (Table.keys fields).Nodup) :
    Part.site.Meets (.obj fields) ↔
      (∀ key ∈ Table.keys fields, key ∈ ["id", "name", "type", "router", "switches"]) ∧
      Has "id" IsCount fields ∧ Has "name" (IsTextOf Named) fields ∧
      Has "type" (IsTextOf NamesKind) fields ∧ MayHave "router" (IsTextsOf Named) fields ∧
      MayHave "switches" (IsTextsOf Named) fields := by
  have horder (key : String) : key ∈ ["id", "name", "router", "switches", "type"] ↔
      key ∈ ["id", "name", "type", "router", "switches"] :=
    List.Perm.mem_iff (by decide)
  have hname : Schema.IsText = IsTextOf Named := rfl
  refine (isClosedObject_iff (by decide) hkeys).trans ?_
  simp only [hname, isOneOf_eq, isSetOf_eq, List.map_cons, List.map_nil, horder, has_iff,
    List.forall_mem_cons]
  constructor
  · rintro ⟨hclosed, ⟨hid, hname, hrouter, hswitches, htype, -⟩, hasId, hasName, hasType, -⟩
    exact ⟨hclosed, ⟨hasId, hid⟩, ⟨hasName, hname⟩, ⟨hasType, htype⟩, hrouter, hswitches⟩
  · rintro ⟨hclosed, ⟨hasId, hid⟩, ⟨hasName, hname⟩, ⟨hasType, htype⟩, hrouter, hswitches⟩
    exact ⟨hclosed, ⟨hid, hname, hrouter, hswitches, htype, by simp⟩, hasId, hasName, hasType,
      by simp⟩

/-- The VPNs of the schema. -/
theorem meets_vpn_iff (hkeys : (Table.keys fields).Nodup) :
    Part.vpn.Meets (.obj fields) ↔
      (∀ key ∈ Table.keys fields, key ∈ ["id", "name", "sites"]) ∧
      Has "id" IsCount fields ∧ Has "name" (IsTextOf Named) fields ∧
      Has "sites" (IsTextsOf NamesKind) fields := by
  have hname : Schema.IsText = IsTextOf Named := rfl
  refine (isClosedObject_iff (by decide) hkeys).trans ?_
  simp only [hname, isOneOf_eq, isSetOf_eq, List.map_cons, List.map_nil, has_iff,
    List.forall_mem_cons]
  constructor
  · rintro ⟨hclosed, ⟨hid, hname, hsites, -⟩, hasId, hasName, hasSites, -⟩
    exact ⟨hclosed, ⟨hasId, hid⟩, ⟨hasName, hname⟩, hasSites, hsites⟩
  · rintro ⟨hclosed, ⟨hasId, hid⟩, ⟨hasName, hname⟩, hasSites, hsites⟩
    exact ⟨hclosed, ⟨hid, hname, hsites, by simp⟩, hasId, hasName, hasSites, by simp⟩

/-- Numbers under a key are what the schema allows and 64 bits can hold. -/
theorem has_isId_iff {key : String} :
    Has key IsId fields ↔
      Has key IsCount fields ∧ ∃ n : Int64, Table.get? key fields = some (.int n.toInt) := by
  constructor
  · rintro ⟨_, hget, hid⟩
    obtain ⟨hcount, n, rfl⟩ := isId_iff.mp hid
    exact ⟨⟨_, hget, hcount⟩, n, hget⟩
  · rintro ⟨⟨value, hget, hcount⟩, n, hn⟩
    obtain rfl : value = .int n.toInt := Option.some.inj (hget.symm.trans hn)
    exact ⟨_, hget, isId_iff.mpr ⟨hcount, n, rfl⟩⟩

/-- A list of texts that may be left out is read from the object. -/
theorem exists_texts {key : String} {P : String → Prop} (h : MayHave key (IsTextsOf P) fields) :
    ∃ texts, (Table.get? key fields).getD (.arr []) = .ofTexts texts := by
  rcases hget : Table.get? key fields with _ | value
  · exact ⟨[], rfl⟩
  · obtain ⟨texts, rfl, -⟩ := h value hget
    exact ⟨texts, rfl⟩

/-- The objects of sites are those that the schema allows and that sites are read from. -/
theorem siteFields_iff (hkeys : (Table.keys fields).Nodup) :
    SiteFields fields ↔
      Part.site.Meets (.obj fields) ∧ ∃ site, Site.decoder.ofJson (.obj fields) = .ok site := by
  simp only [meets_site_iff hkeys, Site.decoder_eq_ok_iff hkeys]
  constructor
  · intro h
    obtain ⟨hcount, id, hid⟩ := has_isId_iff.mp h.id
    obtain ⟨_, hname, name, rfl, -⟩ := h.name
    obtain ⟨type, htype, hkind⟩ := h.type
    obtain ⟨kind, rfl⟩ := isTextOf_namesKind_iff.mp hkind
    obtain ⟨routers, hrouters⟩ := exists_texts h.router
    obtain ⟨switches, hswitches⟩ := exists_texts h.switches
    refine ⟨⟨h.keys, hcount, h.name, h.type, h.router, h.switches⟩,
      ⟨id, name, kind, routers, switches⟩, hid, hname, ⟨_, htype, ?_⟩, hrouters, hswitches⟩
    exact (decoder_eq_ok_iff hkind).mpr rfl
  · rintro ⟨⟨hclosed, hcount, hname, htype, hrouter, hswitches⟩, site, hread⟩
    exact ⟨hclosed, has_isId_iff.mpr ⟨hcount, site.id, hread.id⟩, hname, htype, hrouter, hswitches⟩

/-- Kinds are read from the list of their names. -/
theorem kinds_eq_ok_iff {items : List Json} (h : IsTextsOf NamesKind (.arr items))
    {kinds : List SiteKind} :
    List.Forall₂ (fun value kind => SiteKind.decoder.ofJson value = .ok kind) items kinds ↔
      items.map id = kinds.map SiteKind.toJson := by
  obtain ⟨names, ⟨⟩, -, hnames⟩ := h
  have hitems : ∀ item ∈ names.map Json.str, IsTextOf NamesKind item := by
    rw [List.forall_mem_map]
    exact fun name hname => ⟨name, rfl, hnames name hname⟩
  rw [map_eq_map_iff_forall₂]
  exact forall₂_congr_of_mem fun item hitem kind => decoder_eq_ok_iff (hitems item hitem)

/-- Lists of names of kinds are read. -/
theorem exists_kinds {items : List Json} (h : IsTextsOf NamesKind (.arr items)) :
    ∃ kinds, List.Forall₂ (fun value kind => SiteKind.decoder.ofJson value = .ok kind) items
      kinds := by
  obtain ⟨names, ⟨⟩, -, hnames⟩ := h
  rw [exists_forall₂_iff, List.forall_mem_map]
  intro name hname
  have hkind : IsTextOf NamesKind (.str name) := ⟨name, rfl, hnames name hname⟩
  obtain ⟨kind, heq⟩ := isTextOf_namesKind_iff.mp hkind
  exact ⟨kind, (decoder_eq_ok_iff hkind).mpr heq⟩

/-- The objects of VPNs are those that the schema allows and that VPNs are read from. -/
theorem vpnFields_iff (hkeys : (Table.keys fields).Nodup) :
    VpnFields fields ↔
      Part.vpn.Meets (.obj fields) ∧ ∃ vpn, Vpn.decoder.ofJson (.obj fields) = .ok vpn := by
  simp only [meets_vpn_iff hkeys, Vpn.decoder_eq_ok_iff hkeys]
  constructor
  · intro h
    obtain ⟨hcount, id, hid⟩ := has_isId_iff.mp h.id
    obtain ⟨_, hname, name, rfl, -⟩ := h.name
    obtain ⟨_, hsites, hset⟩ := h.sites
    rcases hset with ⟨names, rfl, hnames⟩
    obtain ⟨kinds, hkinds⟩ := exists_kinds ⟨names, rfl, hnames⟩
    exact ⟨⟨h.keys, hcount, h.name, h.sites⟩, ⟨id, name, kinds⟩, hid, hname, _,
      by rw [hsites]; rfl, hkinds⟩
  · rintro ⟨⟨hclosed, hcount, hname, hsites⟩, vpn, hread⟩
    exact ⟨hclosed, has_isId_iff.mpr ⟨hcount, vpn.id, hread.id⟩, hname, hsites⟩

end Fields

/-! ## Items -/

/-- In an object with ascending keys no key is repeated. -/
theorem nodup_keys {fields : Fields} (h : (Json.obj fields).Sorted) :
    (Table.keys fields).Nodup := by
  rw [Json.Sorted] at h
  exact h.1.imp fun hlt => ne_of_lt hlt

/-- The sites of the grammar are those that the schema allows and that are read. -/
theorem isSite_iff {value : Json} (h : value.Sorted) :
    IsSite value ↔ Part.site.Meets value ∧ ∃ site, Site.decoder.ofJson value = .ok site := by
  cases value with
  | obj fields => simpa [IsSite] using siteFields_iff (nodup_keys h)
  | _ => simp [IsSite, Part.Meets, IsClosedObject]

/-- The VPNs of the grammar are those that the schema allows and that are read. -/
theorem isVpn_iff {value : Json} (h : value.Sorted) :
    IsVpn value ↔ Part.vpn.Meets value ∧ ∃ vpn, Vpn.decoder.ofJson value = .ok vpn := by
  cases value with
  | obj fields => simpa [IsVpn] using vpnFields_iff (nodup_keys h)
  | _ => simp [IsVpn, Part.Meets, IsClosedObject]

/-- A document shows the number and the kind of a site. -/
structure ShowsSite (value : Json) (site : Site) : Prop where
  id : value.get? "id" = some (.int site.id.toInt)
  type : value.get? "type" = some site.kind.toJson

/-- A document shows the number and the kinds of a VPN. -/
structure ShowsVpn (value : Json) (vpn : Vpn) : Prop where
  id : value.get? "id" = some (.int vpn.id.toInt)
  sites : value.get? "sites" = some (.arr (vpn.sites.map SiteKind.toJson))

/-- The site that is read from a document is the one that it shows. -/
theorem IsSite.shows {value : Json} {site : Site} (h : IsSite value) (hsorted : value.Sorted)
    (hread : Site.decoder.ofJson value = .ok site) : ShowsSite value site := by
  obtain ⟨fields, rfl, hfields⟩ := h
  have hsite := (Site.decoder_eq_ok_iff (nodup_keys hsorted)).mp hread
  obtain ⟨type, htype, hkind⟩ := hfields.type
  obtain ⟨_, htype', hread'⟩ := hsite.kind
  obtain rfl := Option.some.inj (htype.symm.trans htype')
  exact ⟨hsite.id, htype.trans (congrArg some ((decoder_eq_ok_iff hkind).mp hread'))⟩

/-- The VPN that is read from a document is the one that it shows. -/
theorem IsVpn.shows {value : Json} {vpn : Vpn} (h : IsVpn value) (hsorted : value.Sorted)
    (hread : Vpn.decoder.ofJson value = .ok vpn) : ShowsVpn value vpn := by
  obtain ⟨fields, rfl, hfields⟩ := h
  have hvpn := (Vpn.decoder_eq_ok_iff (nodup_keys hsorted)).mp hread
  obtain ⟨sites, hsites, hkinds⟩ := hfields.sites
  obtain ⟨items, hitems, hread'⟩ := hvpn.sites
  obtain rfl : sites = .arr items := by simpa [hsites] using hitems
  have hmap := (kinds_eq_ok_iff hkinds).mp hread'
  rw [List.map_id] at hmap
  exact ⟨hvpn.id, hmap ▸ hsites⟩

section Items

variable {α : Type} {Is Meets : Json → Prop} {decoder : Json.Decoder α} {items : List Json}

/-- What holds for one item of a collection holds for all of them: they have the form of the grammar
exactly if the schema allows them and they are read. -/
theorem forall_items_iff
    (h : ∀ value, value.Sorted → (Is value ↔ Meets value ∧ ∃ a, decoder.ofJson value = .ok a))
    (hsorted : ∀ item ∈ items, item.Sorted) :
    (∀ item ∈ items, Is item) ↔ (∀ item ∈ items, Meets item) ∧
      ∃ as, List.Forall₂ (fun value a => decoder.ofJson value = .ok a) items as := by
  rw [exists_forall₂_iff, ← forall₂_and]
  exact forall₂_congr fun item hitem => h item (hsorted item hitem)

/-- What is read from the items of a collection is what they show. -/
theorem forall₂_shows {Shows : Json → α → Prop} {as : List α}
    (h : ∀ value a, Is value → value.Sorted → decoder.ofJson value = .ok a → Shows value a)
    (hitems : ∀ item ∈ items, Is item) (hsorted : ∀ item ∈ items, item.Sorted)
    (hread : List.Forall₂ (fun value a => decoder.ofJson value = .ok a) items as) :
    List.Forall₂ Shows items as := by
  have hall : ∀ item ∈ items, Is item ∧ item.Sorted := fun item hitem =>
    ⟨hitems item hitem, hsorted item hitem⟩
  exact ((List.forall₂_and_left items as).mpr ⟨hall, hread⟩).imp fun value a hvalue =>
    h value a hvalue.1.1 hvalue.1.2 hvalue.2

end Items

/-! ## Sites and VPNs together -/

section Together

variable {sites vpns : List Json} {intent : Intent}

/-- Numbers that are shown are different exactly if they are. -/
theorem nodup_ids_iff {α : Type} {idOf : α → Int64} {items : List Json} {as : List α}
    (h : List.Forall₂ (fun value a => value.get? "id" = some (.int (idOf a).toInt)) items as) :
    (items.map (Json.get? "id")).Nodup ↔ (as.map idOf).Nodup := by
  have hinj : Function.Injective fun n : Int64 => some (Json.int n.toInt) := fun n m heq =>
    Int64.toInt_inj.mp (Json.int.inj (Option.some.inj heq))
  rw [map_eq_map_iff_forall₂.mpr h, ← List.nodup_map_iff hinj, List.map_map]
  rfl

/-- Sites and VPNs go together exactly if the intent they show is consistent. -/
theorem compatible_iff (hsites : List.Forall₂ ShowsSite sites intent.sites)
    (hvpns : List.Forall₂ ShowsVpn vpns intent.vpns) :
    Compatible sites vpns ↔ intent.Consistent := by
  have hsiteIds := nodup_ids_iff (hsites.imp fun _ _ h => h.id)
  have hvpnIds := nodup_ids_iff (hvpns.imp fun _ _ h => h.id)
  have htypes := map_eq_map_iff_forall₂.mpr (hsites.imp fun _ _ h => h.type)
  have hlists := map_eq_map_iff_forall₂.mpr (hvpns.imp fun _ _ h => h.sites)
  have hdeclared (kind : SiteKind) : (∃ site ∈ sites, site.get? "type" = some kind.toJson) ↔
      kind ∈ intent.sites.map Site.kind := by
    rw [← List.mem_map, htypes]
    simp only [List.mem_map, Option.some.injEq, toJson_injective.eq_iff]
  have hlisted : (∀ vpn ∈ vpns, Covers sites (vpn.get? "sites")) ↔
      ∀ vpn ∈ intent.vpns, ∀ kind ∈ vpn.sites, kind ∈ intent.sites.map Site.kind := by
    -- What VPNs list is looked up in their documents, so it is compared look-up by look-up.
    rw [← List.forall_mem_map, hlists, List.forall_mem_map]
    simp only [Covers, Option.some.injEq, Json.arr.injEq, forall_eq', List.forall_mem_map,
      hdeclared]
  exact ⟨fun h => ⟨hsiteIds.mp h.siteIds, hvpnIds.mp h.vpnIds, hlisted.mp h.types⟩,
    fun h => ⟨hsiteIds.mpr h.siteIds, hvpnIds.mpr h.vpnIds, hlisted.mpr h.kinds⟩⟩

end Together

/-! ## Documents -/

/-- In the items of the lists of an object keys ascend if they do so in the object. -/
theorem sorted_items {fields : Fields} (h : (Json.obj fields).Sorted) {key : String}
    {items : List Json} (hget : Table.get? key fields = some (.arr items)) :
    ∀ item ∈ items, item.Sorted := by
  rw [Json.Sorted] at h
  have hlist := (Json.sortedFields_iff fields).mp h.2 _ (Table.mem_of_get?_eq_some hget)
  rw [Json.Sorted] at hlist
  exact (Json.sortedItems_iff items).mp hlist

/-- A document declares a consistent intent exactly if the last two steps accept it. -/
theorem checkIntent_eq_ok_iff {document : Json} :
    SchemaDirectory.checkIntent document = .ok () ↔
      ∃ intent, Intent.ofDocument document = .ok intent ∧ intent.Consistent := by
  rw [SchemaDirectory.checkIntent]
  rcases Intent.ofDocument document with mismatch | intent
  · simp
  · simp only [Except.ok.injEq, exists_eq_left', ← Intent.checkConsistency_eq_ok_iff]
    cases intent.checkConsistency <;> simp [Except.mapError]

/-- The documents of intents are those that obey the schema and declare a consistent intent.

**Proof sketch.** In either direction the lists of the document are those that are read, item by
item. Each item is a site or VPN of the grammar exactly if the schema allows it and it is read, and
the items go together exactly if the intent they show is consistent. -/
theorem isIntent_iff {document : Json} (hsorted : document.Sorted) :
    IsIntent document ↔
      Shipped.IsServices document ∧ SchemaDirectory.checkIntent document = .ok () := by
  rw [checkIntent_eq_ok_iff]
  constructor
  · rintro ⟨fields, sites, vpns, rfl, hgetSites, hgetVpns, hsites, hvpns, hcompatible⟩
    have hsortedSites := sorted_items hsorted hgetSites
    have hsortedVpns := sorted_items hsorted hgetVpns
    obtain ⟨hmeetSites, as, hreadSites⟩ :=
      (forall_items_iff (fun _ => isSite_iff) hsortedSites).mp hsites
    obtain ⟨hmeetVpns, bs, hreadVpns⟩ :=
      (forall_items_iff (fun _ => isVpn_iff) hsortedVpns).mp hvpns
    have hread : Intent.ofDocument (.obj fields) = .ok ⟨as, bs⟩ :=
      (Intent.ofDocument_eq_ok_iff (nodup_keys hsorted)).mpr
        ⟨⟨sites, hgetSites, hreadSites⟩, vpns, hgetVpns, hreadVpns⟩
    have hconsistent : Intent.Consistent ⟨as, bs⟩ :=
      (compatible_iff (forall₂_shows (fun _ _ => IsSite.shows) hsites hsortedSites hreadSites)
        (forall₂_shows (fun _ _ => IsVpn.shows) hvpns hsortedVpns hreadVpns)).mp hcompatible
    exact ⟨⟨fields, sites, vpns, rfl, hgetSites, hgetVpns, hmeetSites, hmeetVpns⟩, _, hread,
      hconsistent⟩
  · rintro ⟨⟨fields, sites, vpns, rfl, hgetSites, hgetVpns, hmeetSites, hmeetVpns⟩, intent, hread,
      hconsistent⟩
    obtain ⟨⟨sites', hgetSites', hreadSites⟩, vpns', hgetVpns', hreadVpns⟩ :=
      (Intent.ofDocument_eq_ok_iff (nodup_keys hsorted)).mp hread
    obtain rfl : sites = sites' := by simpa [hgetSites] using hgetSites'
    obtain rfl : vpns = vpns' := by simpa [hgetVpns] using hgetVpns'
    have hsortedSites := sorted_items hsorted hgetSites
    have hsortedVpns := sorted_items hsorted hgetVpns
    have hsites := (forall_items_iff (fun _ => isSite_iff) hsortedSites).mpr
      ⟨hmeetSites, _, hreadSites⟩
    have hvpns := (forall_items_iff (fun _ => isVpn_iff) hsortedVpns).mpr
      ⟨hmeetVpns, _, hreadVpns⟩
    have hcompatible : Compatible sites vpns :=
      (compatible_iff (forall₂_shows (fun _ _ => IsSite.shows) hsites hsortedSites hreadSites)
        (forall₂_shows (fun _ _ => IsVpn.shows) hvpns hsortedVpns hreadVpns)).mpr hconsistent
    exact ⟨fields, sites, vpns, rfl, hgetSites, hgetVpns, hsites, hvpns, hcompatible⟩

/-! ## The gate -/

/-- The shipped schemas that intents need are in their directories. -/
structure Installed (tree : FileTree) (schemas : SchemaDirectory) : Prop where
  services : ∃ text, tree.readText (Path.join schemas.directory "services.schema.json") = .ok text ∧
    Json.parse text = .ok Shipped.services
  common : ∃ text, tree.readText (Path.join schemas.modules "common.schema.json") = .ok text ∧
    Json.parse text = .ok Shipped.common

/-- A document is accepted exactly if it obeys the schema and, as an intent, declares a consistent
one. -/
theorem validate_eq_ok_iff {tree : FileTree} {schemas : SchemaDirectory} {name : SchemaName}
    {schema : Schema} (h : schemas.schema tree name = .ok schema) {document : Json} :
    schemas.validate tree name document = .ok () ↔ schema.check document = [] ∧
      (name = .services → SchemaDirectory.checkIntent document = .ok ()) := by
  have hjudge : schemas.validate tree name document =
      SchemaDirectory.judge name schema document := by
    rw [SchemaDirectory.validate, h]
    rfl
  rw [hjudge]
  cases name <;> simp only [SchemaDirectory.judge] <;> cases schema.check document <;> simp

/-- A document that is accepted as an intent declares a consistent one, whatever the schema is. -/
theorem exists_intent_of_validate {tree : FileTree} {schemas : SchemaDirectory} {document : Json}
    (h : schemas.validate tree .services document = .ok ()) :
    ∃ intent, Intent.ofDocument document = .ok intent ∧ intent.Consistent := by
  rcases hschema : schemas.schema tree .services with fault | schema
  · rw [SchemaDirectory.validate, hschema] at h
    cases h
  · exact checkIntent_eq_ok_iff.mp (((validate_eq_ok_iff hschema).mp h).2 rfl)

/-- The schema of intents is found. -/
theorem schema_services {tree : FileTree} {schemas : SchemaDirectory}
    (h : Installed tree schemas) : schemas.schema tree .services = .ok Shipped.servicesSchema := by
  obtain ⟨servicesText, hservices, hparse⟩ := h.services
  obtain ⟨commonText, hcommon, hparse'⟩ := h.common
  have hload : schemas.load tree .services = .ok Shipped.services := by
    unfold SchemaDirectory.load
    simp only [SchemaName.file, hservices, hparse, Except.mapError]
  rw [SchemaDirectory.schema, hload]
  simp only [bind, Except.bind, Shipped.load_services hcommon hparse', Except.mapError]

/-- The text of a schema. -/
def schemaText (schema : Json) : Bytes :=
  Utf8.ofString (schema.render .file)

/-- A tree with nothing but the schemas that intents need. -/
def schemaTree : FileTree :=
  ⟨[(["schemas"], .directory), (["schemas", "modules"], .directory),
    (["schemas", "services.schema.json"], .file (schemaText Shipped.services)),
    (["schemas", "modules", "common.schema.json"], .file (schemaText Shipped.common))], []⟩

/-- A schema is read from a file with its text. -/
theorem exists_schemaText {tree : FileTree} {path : String} {schema : Json} (location : Location)
    (hlocate : tree.locate path = .ok location)
    (hfile : tree.get? location = some (.file (schemaText schema))) (h : schema.Storable) :
    ∃ text, tree.readText path = .ok text ∧ Json.parse text = .ok schema := by
  have hdecode : Utf8.decode (schemaText schema) = .ok (schema.render .file).toList :=
    Utf8.decode_encode _
  have hparse := Json.parse_render .file h (rfl : Json.skipGap [] = [])
  rw [List.append_nil] at hparse
  refine ⟨schemaText schema, ?_, hparse⟩
  rw [FileTree.readText, FileTree.read, hlocate]
  simp only [hfile, hdecode]

theorem installed_schemaTree : Installed schemaTree (.new "schemas") where
  services := by
    have hnames : Path.names (Path.join "schemas" "services.schema.json") =
        ["schemas", "services.schema.json"] := by decide +kernel
    refine exists_schemaText ["schemas", "services.schema.json"] ?_ rfl (by decide +kernel)
    rw [FileTree.locate, SchemaDirectory.new, if_neg (by decide +kernel),
      if_neg (by decide +kernel), if_neg (by decide +kernel), hnames]
    rfl
  common := by
    have hnames : Path.names (Path.join (Path.join "schemas" "modules") "common.schema.json") =
        ["schemas", "modules", "common.schema.json"] := by decide +kernel
    refine exists_schemaText ["schemas", "modules", "common.schema.json"] ?_ rfl
      (by decide +kernel)
    rw [FileTree.locate, SchemaDirectory.new, if_neg (by decide +kernel),
      if_neg (by decide +kernel), if_neg (by decide +kernel), hnames]
    rfl

/-- An intent with one site and one VPN. -/
def smallIntent : Json :=
  .obj [("site-service:sites", .arr [.obj [("id", .int 1), ("name", .str "hq"),
      ("router", .arr [.str "R1"]), ("type", .str "DC")]]),
    ("vpn-service:vpns", .arr [.obj [("id", .int 10), ("name", .str "data"),
      ("sites", .arr [.str "DC"])]])]

/-- **The documents that are accepted as intents are those of the grammar.** -/
theorem validate_services_eq_ok_iff {tree : FileTree} {schemas : SchemaDirectory}
    (h : Installed tree schemas) {document : Json} (hsorted : document.Sorted) :
    schemas.validate tree .services document = .ok () ↔ IsIntent document := by
  rw [SchemaDirectory.validate, schema_services h, isIntent_iff hsorted,
    ← Shipped.check_eq_nil_iff]
  simp only [bind, Except.bind]
  rw [SchemaDirectory.judge]
  cases Shipped.servicesSchema.check document <;> simp

/-- An intent is accepted. -/
theorem validate_smallIntent :
    (SchemaDirectory.new "schemas").validate schemaTree .services smallIntent = .ok () := by
  have hsorted : smallIntent.Sorted := by decide +kernel
  have hid (n : Nat) (hn : n < 100) : IsId (.int n) := ⟨n, rfl, by omega, by omega⟩
  have hname (text : String) (h : text ≠ "") : IsTextOf Named (.str text) := ⟨text, rfl, h⟩
  have hsite : SiteFields [("id", .int 1), ("name", .str "hq"), ("router", .arr [.str "R1"]),
      ("type", .str "DC")] :=
    ⟨by decide, ⟨_, rfl, hid 1 (by decide)⟩, ⟨_, rfl, hname "hq" (by decide)⟩,
      ⟨_, rfl, "DC", rfl, .inl rfl⟩,
      fun _ h => Option.some.inj h ▸ ⟨["R1"], rfl, by decide, by simp [Named]⟩, nofun⟩
  have hvpn : VpnFields [("id", .int 10), ("name", .str "data"), ("sites", .arr [.str "DC"])] :=
    ⟨by decide, ⟨_, rfl, hid 10 (by decide)⟩, ⟨_, rfl, hname "data" (by decide)⟩,
      ⟨_, rfl, ["DC"], rfl, by decide, by simp [NamesKind]⟩⟩
  refine (validate_services_eq_ok_iff installed_schemaTree hsorted).mpr ⟨_, _, _, rfl, rfl, rfl,
    List.forall_mem_singleton.mpr ⟨_, rfl, hsite⟩, List.forall_mem_singleton.mpr ⟨_, rfl, hvpn⟩, ?_⟩
  refine ⟨by decide, by decide, List.forall_mem_singleton.mpr ?_⟩
  rintro _ ⟨⟩
  exact List.forall_mem_singleton.mpr ⟨_, List.mem_singleton_self _, rfl⟩

end NetworkIntent.Grammar
