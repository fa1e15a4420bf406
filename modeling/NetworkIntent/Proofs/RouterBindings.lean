import NetworkIntent.Proofs.Derivation
import NetworkIntent.Proofs.Grammar

/-!
# What the VPNs of a router are bound to

A router has bindings for the WAN and for the infrastructure under numbers that are reserved for
them, and one for each declared VPN that applies to its site. All of them are kept in one table by
their numbers, and the declared ones come last. In an intent that is accepted no two VPNs have one
number, so every declared VPN keeps its binding; but nothing keeps a declared VPN from having a
reserved number, and then its binding takes the place of the reserved one.

## Main definitions

* `Derivation.Tells`: an inventory may tell of an interface of a device and of its address.
* `Derivation.BoundAsTold`: the VPNs of a router are bound to what an inventory tells.

## Main results

* `Derivation.bound_unless_displaced`: over any inventory, every declared VPN of a router is bound,
  and so are the reserved ones unless a declared VPN has their number.
* `Derivation.wan_displaced`: an accepted intent with which the WAN of a router is not bound.
-/

set_option autoImplicit false

namespace NetworkIntent.Derivation

open Routing

variable {σ : Type}

section Telling

variable (inventory : Inventory σ)

/-- An inventory may tell of an interface of a device with a description, and of its address. -/
structure Tells (device : Device) (description : String) (interface : Interface)
    (assigned : AssignedAddress) : Prop where
  interface_told :
    (inventory.interfaceByDescription description (.number device.id)).CanGive interface
  address_told : (inventory.addressOf interface.id).CanGive assigned

/-- The VPNs of a router are bound to what an inventory tells of its device: the declared ones to
the interfaces described by their names, with their addresses as they are stored; the WAN and the
infrastructure to the interfaces described by these words, with their addresses in canonical form,
unless a declared VPN has their number. -/
structure BoundAsTold (device : Device) (vpns : List Vpn) (settings : Variables) : Prop where
  declared : ∀ vpn ∈ vpns, ∃ interface assigned,
    Tells inventory device vpn.name interface assigned ∧
      settings.interface? vpn.id = some interface.name ∧
      settings.address? vpn.id = some assigned.address
  reserved : ∀ k description, (k, description) ∈ [((0 : Int64), "WAN"), (99, "INFRA")] →
    (∀ vpn ∈ vpns, vpn.id ≠ k) →
    ∃ interface assigned cidr, Tells inventory device description interface assigned ∧
      Cidr.read assigned.address = .ok cidr ∧
      settings.interface? k = some interface.name ∧ settings.address? k = some cidr.text

/-- A reserved VPN is bound to what an inventory tells of the interface described by its name. -/
def ReservedAsTold (device : Device) (reserved : Int64 × String) (binding : Binding) : Prop :=
  ∃ interface assigned cidr, Tells inventory device reserved.2 interface assigned ∧
    Cidr.read assigned.address = .ok cidr ∧ binding = ⟨reserved.1, interface.name, cidr.text⟩

/-- A declared VPN is bound to what an inventory tells of the interface described by its name. -/
def DeclaredAsTold (device : Device) (vpn : Vpn) (binding : Binding) : Prop :=
  ∃ interface assigned, Tells inventory device vpn.name interface assigned ∧
    binding = ⟨vpn.id, interface.name, assigned.address⟩

/-! ## What is derived -/

/-- A question about a device has one of the answers that the inventory may give. -/
theorem ensures_ask {α : Type} (device : String) (question : Action σ Inventory.Fault α) :
    (ask device question).Ensures question.CanGive :=
  (Action.Ensures.canGive question).mapFailure _

/-- The address of an interface with its mask is read from one that the inventory tells. -/
theorem ensures_cidrOf (device : Device) (interface : Interface) :
    (cidrOf inventory device interface).Ensures fun cidr =>
      ∃ assigned, (inventory.addressOf interface.id).CanGive assigned ∧
        Cidr.read assigned.address = .ok cidr := by
  refine (ensures_ask _ _).bind fun assigned hassigned => ?_
  intro cidr hcidr
  refine ⟨assigned, hassigned, ?_⟩
  have hread := Action.Ensures.ofExcept _ cidr hcidr
  rw [AssignedAddress.cidr] at hread
  cases hcase : Cidr.read assigned.address with
  | error fault => simp [hcase, Except.mapError] at hread
  | ok other => simpa [hcase, Except.mapError] using hread

/-- The reserved VPNs are bound as told, one after the other. -/
theorem ensures_bindReserved (serial : String) (device : Device) (reserved : List (Int64 × String))
    (settings : Variables) :
    (bindReserved inventory serial device reserved settings).Ensures fun result =>
      ∃ bindings, List.Forall₂ (ReservedAsTold inventory device) reserved bindings ∧
        result = settings.bindAll bindings := by
  induction reserved generalizing settings with
  | nil => exact .pure ⟨[], .nil, rfl⟩
  | cons first rest ih =>
    refine (ensures_ask _ _).bind fun interface hinterface =>
      (ensures_cidrOf inventory device interface).bind fun cidr hcidr => ?_
    intro result hresult
    obtain ⟨assigned, hassigned, hread⟩ := hcidr
    exact exists_bindAll_cons_iff.mp
      ⟨_, ⟨interface, assigned, cidr, ⟨hinterface, hassigned⟩, hread, rfl⟩, ih _ result hresult⟩

/-- The declared VPNs are bound as told, one after the other. -/
theorem ensures_bindDeclared (serial : String) (device : Device) (vpns : List Vpn)
    (settings : Variables) :
    (bindDeclared inventory serial device vpns settings).Ensures fun result =>
      ∃ bindings, List.Forall₂ (DeclaredAsTold inventory device) vpns bindings ∧
        result = settings.bindAll bindings := by
  induction vpns generalizing settings with
  | nil => exact .pure ⟨[], .nil, rfl⟩
  | cons vpn rest ih =>
    refine (ensures_ask _ _).bind fun interface hinterface =>
      (ensures_ask _ _).bind fun assigned hassigned => ?_
    intro result hresult
    exact exists_bindAll_cons_iff.mp
      ⟨_, ⟨interface, assigned, ⟨hinterface, hassigned⟩, rfl⟩, ih _ result hresult⟩

end Telling

/-! ## Numbers -/

variable {inventory : Inventory σ} {device : Device}

theorem ReservedAsTold.vpn_eq {reserved : Int64 × String} {binding : Binding}
    (h : ReservedAsTold inventory device reserved binding) : binding.vpn = reserved.1 := by
  obtain ⟨_, _, _, _, _, rfl⟩ := h
  rfl

theorem DeclaredAsTold.vpn_eq {vpn : Vpn} {binding : Binding}
    (h : DeclaredAsTold inventory device vpn binding) : binding.vpn = vpn.id := by
  obtain ⟨_, _, _, rfl⟩ := h
  rfl

/-- Where no number comes twice, each thing is the last one for its number. -/
theorem lastFor_of_nodup {α : Type} {idOf : α → Int64} {items : List α}
    (h : (items.map idOf).Nodup) {item : α} (hitem : item ∈ items) :
    lastFor idOf (idOf item) items = some item := by
  induction items with
  | nil => cases hitem
  | cons first rest ih =>
    obtain ⟨hfirst, hrest⟩ := List.nodup_cons.mp h
    rw [lastFor_cons]
    rcases List.mem_cons.mp hitem with rfl | hmem
    · have hnone : rest.filter (idOf · = idOf item) = [] :=
        List.filter_eq_nil_iff.mpr fun other hother heq =>
          hfirst (List.mem_map.mpr ⟨other, hother, of_decide_eq_true heq⟩)
      rw [lastFor, hnone, List.getLast?_nil, Option.none_or, if_pos rfl]
    · rw [ih hrest hmem, Option.some_or]

/-- Bindings of the reserved VPNs and then of declared ones with different numbers are those that
were told. -/
theorem boundAsTold_bindAll {vpns : List Vpn} (hvpns : (vpns.map Vpn.id).Nodup)
    {reserved declared : List Binding}
    (hreserved : List.Forall₂ (ReservedAsTold inventory device) reservedVpns reserved)
    (hdeclared : List.Forall₂ (DeclaredAsTold inventory device) vpns declared)
    (siteId : Int64) (systemIp hostName : String) :
    BoundAsTold inventory device vpns
      ((Variables.new siteId systemIp hostName).bindAll (reserved ++ declared)) where
  declared vpn hvpn := by
    obtain ⟨binding, hlast, interface, assigned, htells, rfl⟩ :=
      exists_lastFor (fun _ _ h => h.vpn_eq) hdeclared (lastFor_of_nodup hvpns hvpn)
    have hbound : lastFor Binding.vpn vpn.id (reserved ++ declared) =
        some ⟨vpn.id, interface.name, assigned.address⟩ := by
      rw [lastFor_append, hlast, Option.some_or]
    exact ⟨interface, assigned, htells, bound_of_lastFor hbound⟩
  reserved k description hmem hnone := by
    have hself : lastFor Prod.fst k reservedVpns = some (k, description) :=
      lastFor_of_nodup (by decide) hmem
    obtain ⟨binding, hlast, interface, assigned, cidr, htells, hread, rfl⟩ :=
      exists_lastFor (fun _ _ h => h.vpn_eq) hreserved hself
    have hbound : lastFor Binding.vpn k (reserved ++ declared) =
        some ⟨k, interface.name, cidr.text⟩ := by
      rw [lastFor_append, lastFor_eq_none (fun _ _ h => h.vpn_eq) hdeclared hnone, hlast,
        Option.none_or]
    exact ⟨interface, assigned, cidr, htells, hread, bound_of_lastFor hbound⟩

/-- The VPNs of a router that is derived are bound as told. -/
theorem ensures_router {intent : Intent} (hvpns : (intent.vpns.map Vpn.id).Nodup) (site : Site)
    (serial : String) :
    (router inventory intent site serial).Ensures fun router =>
      ∃ device, (inventory.deviceBySerial serial).CanGive device ∧
        BoundAsTold inventory device (intent.vpnsFor site.kind) router.settings := by
  have happlying : ((intent.vpnsFor site.kind).map Vpn.id).Nodup :=
    hvpns.sublist (List.filter_sublist.map _)
  refine (ensures_ask _ _).bind fun device hdevice => (ensures_ask _ _).bind fun system _ =>
    (ensures_cidrOf inventory device system).bind fun cidr _ =>
    (ensures_bindReserved inventory serial device reservedVpns _).bind ?_
  rintro _ ⟨reserved, hreserved, rfl⟩
  refine (ensures_bindDeclared inventory serial device _ _).bind ?_
  rintro _ ⟨declared, hdeclared, rfl⟩
  rw [← Variables.bindAll_append]
  exact .pure ⟨device, hdevice, boundAsTold_bindAll happlying hreserved hdeclared _ _ _⟩

/-- **Declared VPNs are bound, and so are the reserved ones unless they are displaced.** -/
theorem bound_unless_displaced {tree : FileTree} {schemas : SchemaDirectory} {document : Json}
    (haccepted : schemas.validate tree .services document = .ok ()) {intent : Intent}
    (hread : Intent.ofDocument document = .ok intent) {s t : σ} {result : Routing.Document}
    (hrouting : (routing inventory intent).perform s = (.ok result, t)) :
    List.Forall₂ (fun (site, serial) router =>
        ∃ device, (inventory.deviceBySerial serial).CanGive device ∧
          BoundAsTold inventory device (intent.vpns.filter (·.appliesTo site.kind)) router.settings)
      (intent.sites.flatMap fun site => site.routers.map fun serial => (site, serial))
      result.routers := by
  obtain ⟨other, hother, hconsistent⟩ := Grammar.exists_intent_of_validate haccepted
  obtain rfl : intent = other := Except.ok.inj (hread.symm.trans hother)
  have hensures : (routing inventory intent).Ensures _ :=
    (Action.Ensures.mapM (fun entry : Site × String =>
      ensures_router hconsistent.vpnIds entry.1 entry.2)
        (listed Site.routers intent)).bind fun routers hrouters =>
      (Action.Ensures.canGive (roles inventory _)).bind fun roles _ =>
        Action.Ensures.pure (P := fun result : Routing.Document => List.Forall₂ _ _ result.routers)
          hrouters
  exact hensures result ⟨s, t, hrouting⟩

/-! ## A displaced binding -/

/-- An intent with one router and one VPN, which has the given number. -/
def oneVpnDocument (id : Int) : Json :=
  .obj [("site-service:sites", .arr [.obj [("id", .int 1), ("name", .str "hq"),
      ("router", .arr [.str "R1"]), ("type", .str "DC")]]),
    ("vpn-service:vpns", .arr [.obj [("id", .int id), ("name", .str "data"),
      ("sites", .arr [.str "DC"])]])]

/-- What the document of an intent with one router and one VPN declares. -/
def oneVpnIntent (id : Int64) : Intent :=
  ⟨[⟨1, "hq", .dataCentre, ["R1"], []⟩], [⟨id, "data", [.dataCentre]⟩]⟩

/-- A router with interfaces for the WAN, the infrastructure and a VPN. -/
def edgeRouter : Snapshot :=
  ⟨[⟨1, "hq-rtr-01", "R1", "edge", ""⟩],
    [⟨10, 1, "Sdwan-system-intf", ""⟩, ⟨11, 1, "GigabitEthernet1", "WAN"⟩,
      ⟨12, 1, "GigabitEthernet2", "INFRA"⟩, ⟨13, 1, "GigabitEthernet3", "data"⟩],
    [⟨100, 10, "10.255.0.1/32"⟩, ⟨101, 11, "198.51.100.2/30"⟩, ⟨102, 12, "10.99.1.1/24"⟩,
      ⟨103, 13, "10.10.1.1/24"⟩], ["edge"]⟩

/-- What is derived for the router with a VPN of the given number. -/
def edgeSettings (id : Int64) : Variables :=
  (Variables.new 1 "10.255.0.1" "hq-rtr-01").bindAll
    [⟨0, "GigabitEthernet1", "198.51.100.2/30"⟩, ⟨99, "GigabitEthernet2", "10.99.1.1/24"⟩,
      ⟨id, "GigabitEthernet3", "10.10.1.1/24"⟩]

/-- A VPN with a number of its own leaves the reserved ones where they are. -/
theorem bound_edgeRouter :
    (SchemaDirectory.new "schemas").validate Grammar.schemaTree .services (oneVpnDocument 10) =
        .ok () ∧
      ((routing (edgeRouter.inventory Unit) (oneVpnIntent 10)).perform ()).1 =
        .ok ⟨[⟨"R1", "edge", edgeSettings 10⟩], (oneVpnIntent 10).vpns, ["edge"]⟩ ∧
      ∃ device, BoundAsTold (edgeRouter.inventory Unit) device (oneVpnIntent 10).vpns
        (edgeSettings 10) := by
  have haccepted : (SchemaDirectory.new "schemas").validate Grammar.schemaTree .services
      (oneVpnDocument 10) = .ok () :=
    (Grammar.validate_eq_ok_iff (Grammar.schema_services Grammar.installed_schemaTree)).mpr
      ⟨by decide +kernel, fun _ => by decide +kernel⟩
  have hread : Intent.ofDocument (oneVpnDocument 10) = .ok (oneVpnIntent 10) := by rfl
  have hrouting : (routing (edgeRouter.inventory Unit) (oneVpnIntent 10)).perform () =
      (.ok ⟨[⟨"R1", "edge", edgeSettings 10⟩], (oneVpnIntent 10).vpns, ["edge"]⟩, ()) := by
    rfl
  obtain ⟨device, -, hbound⟩ :=
    (List.forall₂_cons.mp (bound_unless_displaced haccepted hread hrouting)).1
  exact ⟨haccepted, congrArg Prod.fst hrouting, device, hbound⟩

/-- **A VPN with the number of the WAN displaces it**: the intent is accepted, but the router has
the interface of the VPN for its WAN. -/
theorem wan_displaced :
    (SchemaDirectory.new "schemas").validate Grammar.schemaTree .services (oneVpnDocument 0) =
        .ok () ∧
      Intent.ofDocument (oneVpnDocument 0) = .ok (oneVpnIntent 0) ∧
      ((routing (edgeRouter.inventory Unit) (oneVpnIntent 0)).perform ()).1 =
        .ok ⟨[⟨"R1", "edge", edgeSettings 0⟩], (oneVpnIntent 0).vpns, ["edge"]⟩ ∧
      (((edgeRouter.inventory Unit).interfaceByDescription "WAN" (.number 1)).perform ()).1 =
        .ok ⟨11, 1, "GigabitEthernet1", "WAN"⟩ ∧
      (edgeSettings 0).interface? 0 = some "GigabitEthernet3" ∧
      (edgeSettings 0).address? 0 = some "10.10.1.1/24" :=
  ⟨(Grammar.validate_eq_ok_iff (Grammar.schema_services Grammar.installed_schemaTree)).mpr
      ⟨by decide +kernel, fun _ => by decide +kernel⟩,
    by rfl, by rfl, by rfl, by decide +kernel, by decide +kernel⟩

end NetworkIntent.Derivation
