import NetworkIntent.Proofs.Grammar

/-!
# Intents written back

The schema of intents and the reading of intents are two descriptions of the same objects, and what
the schema lets pass need not be what the reading keeps. It is: an accepted document is read as
sites and VPNs that are written as the document has them, number by number and in their order, and
all that is added is an empty list for the devices that a site does not list. So the VPNs among the
variables are those of the document that was accepted.

An object that is read has its keys in ascending order, and so has one that is written. Hence they
are equal as soon as they have the same values, and for this it matters that the schema allows no
other keys than the ones that are read: any other field of a site would be lost.

## Main definitions

* `Grammar.withDevices`: a site with its devices filled in.

## Main results

* `Grammar.IsVpn.eq_toJson`: a VPN is written as it was read.
* `Grammar.IsSite.withDevices_eq_toJson`: a site is written as it was read, with its devices filled
  in.
* `Grammar.written_back`: so are all sites and VPNs of an accepted document.
-/

set_option autoImplicit false

namespace NetworkIntent.Grammar

open Schema

variable {value : Json} {fields : Fields}

/-! ## VPNs -/

/-- The keys of an object of a document ascend. -/
theorem ascending_fields (h : (Json.obj fields).Sorted) : Table.Ascending fields := by
  rw [Json.Sorted] at h
  exact h.1

/-- **A VPN is written as it was read.** -/
theorem IsVpn.eq_toJson {vpn : Vpn} (h : IsVpn value) (hsorted : value.Sorted)
    (hread : Vpn.decoder.ofJson value = .ok vpn) : value = vpn.toJson := by
  have hshows := h.shows hsorted hread
  obtain ⟨fields, rfl, hfields⟩ := h
  have hfrom := (Vpn.decoder_eq_ok_iff (nodup_keys hsorted)).mp hread
  have hget : ∀ key value, (key, value) ∈ [("id", Json.ofInt64 vpn.id), ("name", .str vpn.name),
      ("sites", .arr (vpn.sites.map SiteKind.toJson))] → Table.get? key fields = some value := by
    intro key value hmem
    simp only [List.mem_cons, Prod.mk.injEq, List.not_mem_nil, or_false] at hmem
    rcases hmem with ⟨rfl, rfl⟩ | ⟨rfl, rfl⟩ | ⟨rfl, rfl⟩
    · exact hfrom.id
    · exact hfrom.name
    · exact hshows.sites
  exact congrArg Json.obj ((ascending_fields hsorted).eq_ofEntries hfields.keys hget)

/-! ## Sites -/

/-- A site with its devices filled in: an empty list stands for the ones that it does not list. -/
def withDevices : Json → Json
  | .obj fields => .ofEntries ([("router", .arr []), ("switches", .arr [])] ++ fields)
  | value => value

/-- All keys that a site has keep their values when its devices are filled in. -/
theorem get?_withDevices (h : Table.Ascending fields) (key : String) :
    (withDevices (.obj fields)).get? key = (Table.get? key fields).or
      (Table.get? key [("router", .arr []), ("switches", .arr [])]) := by
  rw [withDevices, Json.ofEntries, Json.get?, Table.get?_ofEntries_append,
    Table.get?_ofEntries_of_ascending h, Table.get?_ofEntries_of_nodup (by decide)]

/-- **A site is written as it was read, with its devices filled in.** -/
theorem IsSite.withDevices_eq_toJson {site : Site} (h : IsSite value) (hsorted : value.Sorted)
    (hread : Site.decoder.ofJson value = .ok site) : withDevices value = site.toJson := by
  have hshows := h.shows hsorted hread
  obtain ⟨fields, rfl, hfields⟩ := h
  have hfrom := (Site.decoder_eq_ok_iff (nodup_keys hsorted)).mp hread
  have hget : ∀ key value, (key, value) ∈ [("id", Json.ofInt64 site.id), ("name", .str site.name),
      ("type", site.kind.toJson), ("router", .ofTexts site.routers),
      ("switches", .ofTexts site.switches)] →
      (withDevices (.obj fields)).get? key = some value := by
    intro key value hmem
    rw [get?_withDevices (ascending_fields hsorted)]
    simp only [List.mem_cons, Prod.mk.injEq, List.not_mem_nil, or_false] at hmem
    rcases hmem with ⟨rfl, rfl⟩ | ⟨rfl, rfl⟩ | ⟨rfl, rfl⟩ | ⟨rfl, rfl⟩ | ⟨rfl, rfl⟩
    · rw [hfrom.id, Option.some_or]
      rfl
    · rw [hfrom.name, Option.some_or]
    · rw [show Table.get? "type" fields = some site.kind.toJson from hshows.type, Option.some_or]
    · rw [← hfrom.routers]
      cases Table.get? "router" fields <;> rfl
    · rw [← hfrom.switches]
      cases Table.get? "switches" fields <;> rfl
  refine congrArg Json.obj ((Table.ascending_ofEntries _).eq_ofEntries ?_ hget)
  intro key hkey
  have hmem := Table.mem_keys_ofEntries_iff.mp hkey
  rw [Table.keys, List.map_append] at hmem
  rcases List.mem_append.mp hmem with hdevices | hfield
  · have hsubset : ["router", "switches"] ⊆ ["id", "name", "type", "router", "switches"] := by
      decide
    exact hsubset hdevices
  · exact hfields.keys key hfield

/-! ## Documents -/

/-- **The sites and VPNs of an accepted document are written as they were read**, with the devices
of sites filled in. -/
theorem written_back {tree : FileTree} {schemas : SchemaDirectory} {document : Json}
    (h : Installed tree schemas) (hsorted : document.Sorted)
    (hvalid : schemas.validate tree .services document = .ok ()) :
    ∃ intent sites, Intent.ofDocument document = .ok intent ∧
      document.get? (Collection.key .qualified .vpns) =
        some (.arr (intent.vpns.map Vpn.toJson)) ∧
      document.get? (Collection.key .qualified .sites) = some (.arr sites) ∧
      intent.sites.map Site.toJson = sites.map withDevices := by
  obtain ⟨hschema, hcheck⟩ := (validate_eq_ok_iff (schema_services h)).mp hvalid
  have hintent : IsIntent document :=
    (isIntent_iff hsorted).mpr ⟨(Shipped.check_eq_nil_iff document).mp hschema, hcheck rfl⟩
  obtain ⟨intent, hread, -⟩ := checkIntent_eq_ok_iff.mp (hcheck rfl)
  obtain ⟨fields, sites, vpns, rfl, hgetSites, hgetVpns, hsites, hvpns, -⟩ := hintent
  obtain ⟨⟨sites', hgetSites', hreadSites⟩, vpns', hgetVpns', hreadVpns⟩ :=
    (Intent.ofDocument_eq_ok_iff (nodup_keys hsorted)).mp hread
  obtain rfl : sites = sites' := by simpa [hgetSites] using hgetSites'
  obtain rfl : vpns = vpns' := by simpa [hgetVpns] using hgetVpns'
  have hwrittenVpns := forall₂_shows (fun _ _ => IsVpn.eq_toJson) hvpns
    (sorted_items hsorted hgetVpns) hreadVpns
  have hwrittenSites := forall₂_shows (fun _ _ => IsSite.withDevices_eq_toJson) hsites
    (sorted_items hsorted hgetSites) hreadSites
  refine ⟨intent, sites, hread, ?_, hgetSites, (map_eq_map_iff_forall₂.mpr hwrittenSites).symm⟩
  have hmap : vpns.map id = intent.vpns.map Vpn.toJson := map_eq_map_iff_forall₂.mpr hwrittenVpns
  rw [← hmap, List.map_id]
  exact hgetVpns

/-- The site of an intent has no switches, and an empty list of them is written. -/
theorem written_back_smallIntent :
    Installed schemaTree (.new "schemas") ∧ smallIntent.Sorted ∧
    (SchemaDirectory.new "schemas").validate schemaTree .services smallIntent = .ok () ∧
    ∃ intent sites, Intent.ofDocument smallIntent = .ok intent ∧
      smallIntent.get? "vpn-service:vpns" = some (.arr (intent.vpns.map Vpn.toJson)) ∧
      smallIntent.get? "site-service:sites" = some (.arr sites) ∧
      intent.sites.map Site.toJson = sites.map withDevices := by
  have hsorted : smallIntent.Sorted := by decide +kernel
  have hvalid : (SchemaDirectory.new "schemas").validate schemaTree .services smallIntent =
      .ok () :=
    (validate_eq_ok_iff (schema_services installed_schemaTree)).mpr
      ⟨by decide +kernel, fun _ => rfl⟩
  exact ⟨installed_schemaTree, hsorted, hvalid, written_back installed_schemaTree hsorted hvalid⟩

end NetworkIntent.Grammar
