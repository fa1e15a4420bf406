import NetworkIntent.Proofs.Derivation
import NetworkIntent.Proofs.FileTree
import NetworkIntent.Proofs.Switching
import NetworkIntent.Proofs.VariablesDocument
import NetworkIntent.Proofs.Written

/-!
# The gate of variables

Variables are judged by a schema of their own before they are stored. What is derived from an intent
that has been accepted passes this gate unless the inventory has bad data: whatever the schema of
variables asks for beyond the schema of intents comes from the inventory as it is, namely the names
and roles of devices, the names of interfaces and their addresses.

## Main definitions

* `Intent.Presentable`: what the schema of intents says about an intent.
* `Snapshot.Presentable`: the data of a snapshot have the forms that the gate asks for.
* `Routing.Document.Obeys`, `Switching.Document.Obeys`: what the schema says about variables.
* `Compilation.AllInstalled`: the shipped schemas are where they are looked for.

## Main results

* `Derivation.obeys_routing`, `Derivation.obeys_switching`: what is derived obeys the schema of
  variables.
* `Compilation.isDeployment_variablesDocument_iff`: which documents with variables obey it.
* `Compilation.validate_variablesDocument`: what is derived passes the gate.
-/

set_option autoImplicit false

namespace NetworkIntent

open Schema

variable {σ : Type}

/-! ## Intents that are accepted -/

/-- What the schema of intents says about an intent. -/
structure Intent.Presentable (intent : Intent) : Prop where
  siteIds : ∀ site ∈ intent.sites, 0 ≤ site.id.toInt
  routers : ∀ site ∈ intent.sites, ∀ serial ∈ site.routers, serial ≠ ""
  switches : ∀ site ∈ intent.sites, ∀ serial ∈ site.switches, serial ≠ ""
  vpns : ∀ vpn ∈ intent.vpns, vpn.Presentable

namespace Grammar

/-- A number that an object has is not negative. -/
theorem nonneg_of_has {fields : Fields} {id : Int64} (h : Has "id" IsId fields)
    (hread : Table.get? "id" fields = some (.int id.toInt)) : 0 ≤ id.toInt := by
  obtain ⟨_, hget, n, rfl, hmin, -⟩ := h
  rwa [← Json.int.inj (Option.some.inj (hget.symm.trans hread))]

/-- Serials that an object may have are not empty. -/
theorem named_of_mayHave {fields : Fields} {key : String} {serials : List String}
    (h : MayHave key (IsTextsOf Named) fields)
    (hread : (Table.get? key fields).getD (.arr []) = .ofTexts serials) :
    ∀ serial ∈ serials, serial ≠ "" := by
  have hinj : Function.Injective Json.str := fun _ _ => Json.str.inj
  rcases hget : Table.get? key fields with _ | value
  · rw [hget] at hread
    obtain rfl : serials = [] := List.map_eq_nil_iff.mp (Json.arr.inj hread).symm
    simp
  · obtain ⟨texts, rfl, -, hnamed⟩ := h value hget
    rw [hget] at hread
    obtain rfl : texts = serials := List.map_injective_iff.mpr hinj (Json.arr.inj hread)
    exact hnamed

/-- An accepted intent is what the schema says. -/
theorem presentable_of_isIntent {document : Json} (h : IsIntent document)
    (hsorted : document.Sorted) {intent : Intent} (hread : Intent.ofDocument document = .ok intent) :
    intent.Presentable := by
  obtain ⟨fields, sites, vpns, rfl, hgetSites, hgetVpns, hsites, hvpns, -⟩ := h
  obtain ⟨⟨sites', hgetSites', hreadSites⟩, vpns', hgetVpns', hreadVpns⟩ :=
    (Intent.ofDocument_eq_ok_iff (nodup_keys hsorted)).mp hread
  obtain rfl : sites = sites' := by simpa [hgetSites] using hgetSites'
  obtain rfl : vpns = vpns' := by simpa [hgetVpns] using hgetVpns'
  have hsite : ∀ site ∈ intent.sites, 0 ≤ site.id.toInt ∧
      (∀ serial ∈ site.routers, serial ≠ "") ∧ ∀ serial ∈ site.switches, serial ≠ "" := by
    refine forall_mem_of_forall₂ (forall₂_shows (fun value site hvalue hsorted hread => ?_) hsites
      (sorted_items hsorted hgetSites) hreadSites)
    obtain ⟨fields, rfl, hfields⟩ := hvalue
    have hfrom := (Site.decoder_eq_ok_iff (nodup_keys hsorted)).mp hread
    exact ⟨nonneg_of_has hfields.id hfrom.id, named_of_mayHave hfields.router hfrom.routers,
      named_of_mayHave hfields.switches hfrom.switches⟩
  have hvpn : ∀ vpn ∈ intent.vpns, vpn.Presentable := by
    refine forall_mem_of_forall₂ (forall₂_shows (fun value vpn hvalue hsorted hread => ?_) hvpns
      (sorted_items hsorted hgetVpns) hreadVpns)
    have hshows := hvalue.shows hsorted hread
    obtain ⟨fields, rfl, hfields⟩ := hvalue
    obtain ⟨_, hname, name, rfl, hnamed⟩ := hfields.name
    obtain ⟨_, hsites, texts, rfl, hnodup, -⟩ := hfields.sites
    have hread := (Vpn.decoder_eq_ok_iff (nodup_keys hsorted)).mp hread
    have hkinds : texts.map Json.str = vpn.sites.map SiteKind.toJson :=
      Json.arr.inj (Option.some.inj (hsites.symm.trans hshows.sites))
    refine ⟨nonneg_of_has hfields.id hread.id, ?_, ?_⟩
    · rwa [← Json.str.inj (Option.some.inj (hname.symm.trans hread.name))]
    · exact List.Nodup.of_map _ (hkinds ▸ hnodup.map fun _ _ => Json.str.inj)
  exact ⟨fun site h => (hsite site h).1, fun site h => (hsite site h).2.1,
    fun site h => (hsite site h).2.2, hvpn⟩

end Grammar

/-! ## Variables that obey the schema -/

/-- What the schema says about routing variables. -/
structure Routing.Document.Obeys (document : Routing.Document) : Prop where
  routers : ∀ router ∈ document.routers, Definition.Meets .router router.toJson
  vpns : ∀ vpn ∈ document.vpns, vpn.Presentable
  roles : IsSetOf IsText (.ofTexts document.roles)

/-- What the schema says about switching variables. -/
structure Switching.Document.Obeys (document : Switching.Document) : Prop where
  switches : ∀ switch ∈ document.switches, Definition.Meets .switch switch.toJson
  vlans : ∀ vlan ∈ document.vlans, Definition.Meets .vlan vlan.toJson
  roles : IsSetOf IsText (.ofTexts document.roles)

/-! ## Inventories with good data -/

/-- The data of a snapshot have the forms that the gate asks for: devices have names and roles, no
role is listed twice, the names of interfaces are ASCII texts, and addresses are written with a
mask in the form of version 4. -/
structure Snapshot.Presentable (snapshot : Snapshot) : Prop where
  names : ∀ device ∈ snapshot.devices, device.name ≠ ""
  deviceRoles : ∀ device ∈ snapshot.devices, device.role ≠ ""
  roles : snapshot.roles.Nodup
  interfaces : ∀ interface ∈ snapshot.interfaces, interface.name ≠ "" ∧ IsAscii interface.name
  addresses : ∀ assigned ∈ snapshot.addresses, IsIpv4Prefix assigned.address.toList

namespace Snapshot.Presentable

variable {snapshot : Snapshot} {device : Device} {condition : Interface → Bool}
  {interface : Interface}

/-- What is wired has a name and an address in their forms. -/
theorem wired (h : snapshot.Presentable) {assigned : AssignedAddress}
    (hwired : snapshot.Wired device condition interface assigned) :
    interface.name ≠ "" ∧ IsIpv4Prefix assigned.address.toList :=
  ⟨(h.interfaces _ (mem_of_filter_eq_singleton hwired.interface_only).1).1,
    h.addresses _ (mem_of_filter_eq_singleton hwired.address_only).1⟩

/-- What is addressed has a name in its form, and its address is written in both forms. -/
theorem addressed (h : snapshot.Presentable) {cidr : Cidr}
    (haddressed : snapshot.Addressed device condition interface cidr) :
    interface.name ≠ "" ∧ IsIpv4 cidr.bare.toList ∧ IsIpv4Prefix cidr.text.toList := by
  obtain ⟨assigned, hwired, hread⟩ := haddressed
  obtain ⟨hname, haddress⟩ := h.wired hwired
  exact ⟨hname, Cidr.isIpv4_bare haddress hread, Cidr.isIpv4Prefix_text haddress hread⟩

/-- The roles of some devices are different ones that are not empty. -/
theorem filter_roles (h : snapshot.Presentable) {present : List String}
    (hpresent : ∀ role ∈ present, role ≠ "") :
    IsSetOf IsText (.ofTexts (snapshot.roles.filter present.contains)) :=
  isSetOf_ofTexts (h.roles.filter _) fun role hrole =>
    hpresent role (List.contains_iff_mem.mp (List.mem_filter.mp hrole).2)

end Snapshot.Presentable

namespace Derivation

variable {snapshot : Snapshot} {intent : Intent}

/-! ## Routing variables -/

/-- A reserved VPN is bound to what the schema allows. -/
theorem ReservedBinding.presentable {device : Device} {reserved : Int64 × String}
    {binding : Routing.Binding} (hsnapshot : snapshot.Presentable)
    (h : ReservedBinding snapshot device reserved binding) (hvpn : 0 ≤ reserved.1.toInt) :
    binding.Presentable := by
  obtain ⟨interface, cidr, haddressed, rfl⟩ := h
  obtain ⟨hname, -, haddress⟩ := hsnapshot.addressed haddressed
  exact ⟨hvpn, hname, haddress⟩

/-- A declared VPN is bound to what the schema allows. -/
theorem DeclaredBinding.presentable {device : Device} {vpn : Vpn} {binding : Routing.Binding}
    (hsnapshot : snapshot.Presentable) (h : DeclaredBinding snapshot device vpn binding)
    (hvpn : vpn.Presentable) : binding.Presentable := by
  obtain ⟨interface, assigned, hwired, rfl⟩ := h
  obtain ⟨hname, haddress⟩ := hsnapshot.wired hwired
  exact ⟨hvpn.id, hname, haddress⟩

/-- The router of a listed serial obeys the schema, and has a role. -/
theorem meets_of_routerOf (hsnapshot : snapshot.Presentable) (hintent : intent.Presentable)
    {site : Site} {serial : String} {router : Routing.Router}
    (hlisted : (site, serial) ∈ listed Site.routers intent)
    (h : RouterOf snapshot intent site serial router) :
    Definition.Meets .router router.toJson ∧ router.role ≠ "" := by
  obtain ⟨device, hdevice, interface, cidr, hsystem, reserved, hreserved, declared, hdeclared,
    rfl⟩ := h
  obtain ⟨hsite, hserial⟩ := mem_listed_iff.mp hlisted
  obtain ⟨hdevice, hfound⟩ := mem_of_filter_eq_singleton hdevice
  have hserial : device.serial ≠ "" :=
    of_decide_eq_true hfound ▸ hintent.routers site hsite serial hserial
  have hbindings : ∀ binding ∈ reserved ++ declared, binding.Presentable := by
    refine List.forall_mem_append.mpr ⟨?_, ?_⟩
    · have hnumbers : ∀ reserved ∈ reservedVpns, 0 ≤ reserved.1.toInt := by decide
      refine forall_mem_of_forall₂ (((List.forall₂_and_left _ _).mpr ⟨hnumbers, hreserved⟩).imp ?_)
      exact fun _ _ h => h.2.presentable hsnapshot h.1
    · have hvpns : ∀ vpn ∈ intent.vpnsFor site.kind, vpn.Presentable := fun vpn hvpn =>
        hintent.vpns vpn (List.mem_of_mem_filter hvpn)
      refine forall_mem_of_forall₂ (((List.forall₂_and_left _ _).mpr ⟨hvpns, hdeclared⟩).imp ?_)
      exact fun _ _ h => h.2.presentable hsnapshot h.1
  have hnumbers : reserved.map Routing.Binding.vpn = reservedVpns.map Prod.fst :=
    map_vpn_of_forall₂ (fun _ _ h => h.vpn_eq) hreserved
  have hbound : ∀ k ∈ [(0 : Int64), 99], ∃ binding ∈ reserved ++ declared, binding.vpn = k := by
    change ∀ k ∈ reservedVpns.map Prod.fst, _
    rw [← hnumbers, List.forall_mem_map]
    exact fun binding hbinding => ⟨binding, List.mem_append_left _ hbinding, rfl⟩
  have hrole := hsnapshot.deviceRoles device hdevice
  refine ⟨Routing.meets_router hserial hrole ?_, hrole⟩
  exact Routing.isSettings_bindAll (hintent.siteIds site hsite) (hsnapshot.addressed hsystem).2.1
    (hsnapshot.names device hdevice) hbindings hbound

/-- **The routing variables that are derived obey the schema.** -/
theorem obeys_routing (hsnapshot : snapshot.Presentable) (hintent : intent.Presentable) {s : σ}
    {document : Routing.Document}
    (h : ((routing (snapshot.inventory σ) intent).perform s).1 = .ok document) :
    document.Obeys := by
  obtain ⟨routers, hrouters, rfl⟩ := ((yields_routing snapshot intent).result_eq_ok_iff s).mp h
  have hall : ∀ router ∈ routers, Definition.Meets .router router.toJson ∧ router.role ≠ "" :=
    forall_mem_of_forall₂ (((List.forall₂_and_left _ _).mpr ⟨fun _ => id, hrouters⟩).imp
      fun _ _ h => meets_of_routerOf hsnapshot hintent h.1 h.2)
  refine ⟨fun router h => (hall router h).1, hintent.vpns, hsnapshot.filter_roles ?_⟩
  exact List.forall_mem_map.mpr fun router h => (hall router h).2

/-! ## Switching variables -/

/-- **The switching variables that are derived obey the schema.** -/
theorem obeys_switching {snapshot : Snapshot} {intent : Intent} (hsnapshot : snapshot.Presentable)
    (hintent : intent.Presentable) {s : σ} {document : Switching.Document}
    (h : ((switching (snapshot.inventory σ) intent).perform s).1 = .ok document) :
    document.Obeys := by
  obtain ⟨switches, hswitches, rfl⟩ :=
    ((yields_switching snapshot intent).result_eq_ok_iff s).mp h
  have hall : ∀ switch ∈ switches, switch.2 ∈ snapshot.devices ∧ switch.2.serial ≠ "" := by
    refine forall_mem_of_forall₂ (((List.forall₂_and_left _ _).mpr ⟨fun _ => id, hswitches⟩).imp ?_)
    rintro ⟨site, serial⟩ switch ⟨hlisted, hdevice, -⟩
    obtain ⟨hsite, hserial⟩ := mem_listed_iff.mp hlisted
    obtain ⟨hdevice, hfound⟩ := mem_of_filter_eq_singleton hdevice
    exact ⟨hdevice, of_decide_eq_true hfound ▸ hintent.switches site hsite serial hserial⟩
  refine ⟨List.forall_mem_map.mpr fun switch hswitch => ?_,
    List.forall_mem_map.mpr fun vpn hvpn => ?_,
    hsnapshot.filter_roles (List.forall_mem_map.mpr fun switch hswitch => ?_)⟩
  · obtain ⟨hdevice, hserial⟩ := hall switch hswitch
    exact Switching.meets_switch hserial (hsnapshot.names _ hdevice)
      (hsnapshot.deviceRoles _ hdevice)
  · obtain ⟨hid, hname, -⟩ := hintent.vpns vpn hvpn
    refine Switching.meets_vlan hid hname (List.Nodup.filter _ (by decide)) fun port hport => ?_
    obtain ⟨_, -, _, -, _, -, interface, hinterface, -, -, hport⟩ :=
      ((spans_vlanOf hswitches vpn).mem_ports port).mp hport
    exact Port.isPosition_of_ofInterface? (hsnapshot.interfaces interface hinterface).2 hport
  · exact hsnapshot.deviceRoles _ (hall switch hswitch).1

end Derivation

/-! ## The gate -/

namespace Compilation

/-- The shipped schemas are in their directories. -/
structure AllInstalled (tree : FileTree) (schemas : SchemaDirectory) : Prop extends
    Grammar.Installed tree schemas where
  deployment : ∃ text,
    tree.readText (Path.join schemas.directory "variables.schema.json") = .ok text ∧
      Json.parse text = .ok Shipped.deployment

/-- The schema of variables is found. -/
theorem schema_deployment {tree : FileTree} {schemas : SchemaDirectory}
    (h : AllInstalled tree schemas) :
    schemas.schema tree .deployment = .ok Shipped.deploymentSchema := by
  obtain ⟨deploymentText, hdeployment, hparse⟩ := h.deployment
  obtain ⟨commonText, hcommon, hparse'⟩ := h.common
  have hload : schemas.load tree .deployment = .ok Shipped.deployment := by
    unfold SchemaDirectory.load
    simp only [SchemaName.file, hdeployment, hparse, Except.mapError]
  rw [SchemaDirectory.schema, hload]
  simp only [bind, Except.bind, Shipped.load_deployment hcommon hparse', Except.mapError]

/-- A key that does not start with a word is not one with the word before it. -/
theorem ne_prefixedKey {word key : String} (h : ¬word.toList <+: key.toList) (field : String) :
    key ≠ prefixedKey word field := by
  rintro rfl
  refine h ⟨(":" ++ field).toList, ?_⟩
  simp [prefixedKey]

/-- The document of an intent with its variables obeys the schema of variables exactly if the
collections of the intent do and all of the variables. -/
theorem isDeployment_variablesDocument_iff {document : Json} (hsorted : document.Sorted)
    {routing : Routing.Document} {switching : Switching.Document} :
    Shipped.IsDeployment (variablesDocument document routing switching) ↔
      ((∃ sites, document.get? "site-service:sites" = some sites ∧
          IsListOf Part.site.Meets sites) ∧
        ∃ vpns, document.get? "vpn-service:vpns" = some vpns ∧ IsListOf Part.vpn.Meets vpns) ∧
      ((∀ router ∈ routing.routers, Definition.Meets .router router.toJson) ∧
        (∀ vpn ∈ routing.vpns, Part.vpn.Meets vpn.toJson) ∧
        IsSetOf IsText (.ofTexts routing.roles)) ∧
      (∀ switch ∈ switching.switches, Definition.Meets .switch switch.toJson) ∧
        (∀ vlan ∈ switching.vlans, Definition.Meets .vlan vlan.toJson) ∧
        IsSetOf IsText (.ofTexts switching.roles) := by
  have hascending : Table.Ascending document.entries := by
    cases document with
    | obj fields =>
      rw [Json.Sorted] at hsorted
      exact hsorted.1
    | _ => exact Table.ascending_nil
  have hextends := extends_variablesDocument hascending routing switching
  obtain ⟨extended, heq, -⟩ := hextends.ascending
  rw [heq] at hextends ⊢
  obtain ⟨-, hroutingKeys, hswitchingKeys, hother⟩ := hextends
  have hkept (c : Collection) :
      Table.get? (c.key .qualified) extended = document.get? (c.key .qualified) :=
    hother _ (fun field _ => ne_prefixedKey (by cases c <;> decide) field)
      fun field _ => ne_prefixedKey (by cases c <;> decide) field
  have hsites : Table.get? "site-service:sites" extended = document.get? "site-service:sites" :=
    hkept .sites
  have hvpns : Table.get? "vpn-service:vpns" extended = document.get? "vpn-service:vpns" :=
    hkept .vpns
  have hroutingRoles : Table.get? "routing:device_roles" extended =
      some (.ofTexts routing.roles) := hroutingKeys "device_roles" _ rfl
  have hrouters : Table.get? "routing:router" extended =
      some (.arr (routing.routers.map Routing.Router.toJson)) := hroutingKeys "router" _ rfl
  have hrouted : Table.get? "routing:vpns" extended =
      some (.arr (routing.vpns.map Vpn.toJson)) := hroutingKeys "vpns" _ rfl
  have hswitchingRoles : Table.get? "switching:device_roles" extended =
      some (.ofTexts switching.roles) := hswitchingKeys "device_roles" _ rfl
  have hswitches : Table.get? "switching:switches" extended =
      some (.arr (switching.switches.map Switching.Switch.toJson)) :=
    hswitchingKeys "switches" _ rfl
  have hvlans : Table.get? "switching:vlans" extended =
      some (.arr (switching.vlans.map Switching.Vlan.toJson)) := hswitchingKeys "vlans" _ rfl
  have hlist {α : Type} (P : Json → Prop) (toJson : α → Json) (items : List α) :
      IsListOf P (.arr (items.map toJson)) ↔ ∀ item ∈ items, P (toJson item) := by
    simp [IsListOf]
  simp only [Shipped.IsDeployment, IsObjectWith, Json.obj.injEq, exists_eq_left',
    List.forall_mem_cons, hsites, hvpns, hroutingRoles, hrouters, hrouted, hswitchingRoles,
    hswitches, hvlans, Option.some.injEq, hlist]
  constructor
  · rintro ⟨hroles, hrouter, hvpn, hsite, hroles', hswitch, hvlan, hdeclared, -⟩
    exact ⟨⟨hsite, hdeclared⟩, ⟨hrouter, hvpn, hroles⟩, hswitch, hvlan, hroles'⟩
  · rintro ⟨⟨hsite, hdeclared⟩, ⟨hrouter, hvpn, hroles⟩, hswitch, hvlan, hroles'⟩
    exact ⟨hroles, hrouter, hvpn, hsite, hroles', hswitch, hvlan, hdeclared, by simp⟩

/-- The document of an intent with its variables obeys the schema of variables if all of them do
so. -/
theorem isDeployment_variablesDocument {document : Json} (hsorted : document.Sorted)
    (hservices : Shipped.IsServices document) {routing : Routing.Document}
    {switching : Switching.Document} (hrouting : routing.Obeys) (hswitching : switching.Obeys) :
    Shipped.IsDeployment (variablesDocument document routing switching) := by
  obtain ⟨fields, sites, vpns, rfl, hgetSites, hgetVpns, hsites, hvpns⟩ := hservices
  exact (isDeployment_variablesDocument_iff hsorted).mpr
    ⟨⟨⟨_, hgetSites, _, rfl, hsites⟩, _, hgetVpns, _, rfl, hvpns⟩,
      ⟨hrouting.routers, fun vpn hvpn => Vpn.meets_toJson (hrouting.vpns vpn hvpn), hrouting.roles⟩,
      hswitching.switches, hswitching.vlans, hswitching.roles⟩

/-- **The gate of variables rejects nothing but bad data of the inventory**: if a document is
accepted as an intent, and both kinds of variables can be derived for it from a snapshot whose data
are presentable, the document together with them is accepted.

**Proof sketch.** An accepted document is one of the grammar, so the intent that is read from it has
numbers that are not negative, and names and serials that are not empty. What is derived from a
snapshot is put together from the devices, interfaces and addresses of the snapshot and from what
the intent says, and is written with the keys of the schema; addresses are written in the form of
version 4 since they are read from it. -/
theorem validate_variablesDocument {tree : FileTree} {schemas : SchemaDirectory}
    (hinstalled : AllInstalled tree schemas) {document : Json} (hsorted : document.Sorted)
    (haccepted : schemas.validate tree .services document = .ok ()) {intent : Intent}
    (hintent : Intent.ofDocument document = .ok intent) {snapshot : Snapshot}
    (hsnapshot : snapshot.Presentable) {s t : σ} {routing : Routing.Document}
    (hrouting : ((Derivation.routing (snapshot.inventory σ) intent).perform s).1 = .ok routing)
    {switching : Switching.Document}
    (hswitching : ((Derivation.switching (snapshot.inventory σ) intent).perform t).1 =
      .ok switching) :
    schemas.validate tree .deployment (variablesDocument document routing switching) = .ok () := by
  have hservices := Grammar.schema_services hinstalled.toInstalled
  obtain ⟨hcheck, hconsistent⟩ := (Grammar.validate_eq_ok_iff hservices).mp haccepted
  have hdocument := (Shipped.check_eq_nil_iff document).mp hcheck
  have hpresentable := Grammar.presentable_of_isIntent
    ((Grammar.isIntent_iff hsorted).mpr ⟨hdocument, hconsistent rfl⟩) hsorted hintent
  refine (Grammar.validate_eq_ok_iff (schema_deployment hinstalled)).mpr ⟨?_, nofun⟩
  exact (Shipped.check_deploymentSchema_eq_nil_iff _).mpr
    (isDeployment_variablesDocument hsorted hdocument
      (Derivation.obeys_routing hsnapshot hpresentable hrouting)
      (Derivation.obeys_switching hsnapshot hpresentable hswitching))

/-- The schemas stay where they are when something is put where there was nothing. -/
theorem AllInstalled.put {tree : FileTree} {schemas : SchemaDirectory} {ℓ : Location} {entry : Entry}
    (h : AllInstalled tree schemas) (hnone : tree.get? ℓ = none) :
    AllInstalled (tree.put ℓ entry) schemas where
  services :=
    let ⟨text, hread, hparse⟩ := h.services
    ⟨text, FileTree.readText_put hnone hread, hparse⟩
  common :=
    let ⟨text, hread, hparse⟩ := h.common
    ⟨text, FileTree.readText_put hnone hread, hparse⟩
  deployment :=
    let ⟨text, hread, hparse⟩ := h.deployment
    ⟨text, FileTree.readText_put hnone hread, hparse⟩

/-- A tree with the shipped schemas. -/
def schemaTree : FileTree :=
  Grammar.schemaTree.put ["schemas", "variables.schema.json"]
    (.file (Grammar.schemaText Shipped.deployment))

theorem allInstalled_schemaTree : AllInstalled schemaTree (.new "schemas") where
  services :=
    let ⟨text, hread, hparse⟩ := Grammar.installed_schemaTree.services
    ⟨text, FileTree.readText_put rfl hread, hparse⟩
  common :=
    let ⟨text, hread, hparse⟩ := Grammar.installed_schemaTree.common
    ⟨text, FileTree.readText_put rfl hread, hparse⟩
  deployment := by
    have hnames : Path.names (Path.join "schemas" "variables.schema.json") =
        ["schemas", "variables.schema.json"] := by decide +kernel
    refine Grammar.exists_schemaText ["schemas", "variables.schema.json"] ?_ rfl (by decide +kernel)
    rw [FileTree.locate, SchemaDirectory.new, if_neg (by decide +kernel),
      if_neg (by decide +kernel), if_neg (by decide +kernel), hnames]
    rfl

/-- An intent with a site that has a router and a switch, and with a VPN. Its document has the key
of a variable, too. -/
def campusDocument : Json :=
  .obj [("routing:router", .null),
    ("site-service:sites", .arr [.obj [("id", .int 1), ("name", .str "campus"),
      ("router", .arr [.str "R1"]), ("switches", .arr [.str "S1"]), ("type", .str "DC")]]),
    ("vpn-service:vpns", .arr [.obj [("id", .int 10), ("name", .str "data"),
      ("sites", .arr [.str "DC"])]])]

/-- An inventory with the devices of the site. One address is in its form without being one. -/
def campusSnapshot : Snapshot where
  devices := [⟨1, "edge", "R1", "router", ""⟩, ⟨2, "access", "S1", "switch", "campus"⟩]
  interfaces := [⟨1, 1, "Sdwan-system-intf", ""⟩, ⟨2, 1, "ge0", "WAN"⟩, ⟨3, 1, "ge1", "INFRA"⟩,
    ⟨4, 1, "ge2", "data"⟩, ⟨5, 2, "GigabitEthernet1/0/5.10", "data"⟩]
  addresses := [⟨1, 1, "10.0.0.1/32"⟩, ⟨2, 2, "192.0.2.1/24"⟩, ⟨3, 3, "10.9.0.1/24"⟩,
    ⟨4, 4, "10.1.0.999/99"⟩]
  roles := ["switch", "router"]

theorem presentable_campusSnapshot : campusSnapshot.Presentable where
  names := by decide
  deviceRoles := by decide
  roles := by decide
  interfaces := by
    simp [campusSnapshot, IsAscii]
  addresses := by
    simp only [← Pattern.find?_ipv4Prefix_iff]
    decide +kernel

/-- The gate accepts the variables of the campus. -/
theorem validate_campusDocument : ∃ intent routing switching,
    Intent.ofDocument campusDocument = .ok intent ∧
      ((Derivation.routing (campusSnapshot.inventory Unit) intent).perform ()).1 = .ok routing ∧
      ((Derivation.switching (campusSnapshot.inventory Unit) intent).perform ()).1 =
        .ok switching ∧
      (SchemaDirectory.new "schemas").validate schemaTree .deployment
        (variablesDocument campusDocument routing switching) = .ok () := by
  have hservices := Grammar.schema_services allInstalled_schemaTree.toInstalled
  have haccepted : (SchemaDirectory.new "schemas").validate schemaTree .services campusDocument =
      .ok () :=
    (Grammar.validate_eq_ok_iff hservices).mpr ⟨by decide +kernel, fun _ => rfl⟩
  have hintent : Intent.ofDocument campusDocument =
      .ok ⟨[⟨1, "campus", .dataCentre, ["R1"], ["S1"]⟩], [⟨10, "data", [.dataCentre]⟩]⟩ := rfl
  exact ⟨_, _, _, hintent, rfl, rfl, validate_variablesDocument allInstalled_schemaTree
    (by decide +kernel) haccepted hintent presentable_campusSnapshot (s := ()) (t := ()) rfl rfl⟩

end Compilation

end NetworkIntent
