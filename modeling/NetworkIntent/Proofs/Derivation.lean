import NetworkIntent.Derivation
import NetworkIntent.Inventory.Snapshot
import NetworkIntent.Proofs.Action
import NetworkIntent.Proofs.Bindings
import NetworkIntent.Proofs.Pointwise

/-!
# Derivation from a snapshot

Over a snapshot, the derivation of routing variables needs no state, and whether a router can be
derived depends on nothing but what the snapshot has for it: one device, one interface for each
purpose, and one address for each interface. If all routers can be derived so can the document, and
it holds what the snapshot has.

## Main definitions

* `Snapshot.Wired`: the only interface of a device for a purpose, with its only address.
* `Snapshot.Resolvable`: a snapshot has what the router with a serial needs.
* `Snapshot.Describes`: a router is what a snapshot has for it.

## Main results

* `Derivation.vpnsFor_spec`, `Derivation.getLast?_vpnsFor_iff`: the VPNs of a kind of sites.
* `Derivation.yields_router`, `Derivation.yields_routing`: what is derived from a snapshot.
* `Derivation.routing_complete`: a document is derived exactly if all routers are resolvable, and it
  describes them.
-/

set_option autoImplicit false

namespace NetworkIntent

open Routing

variable {σ : Type}

/-- A single thing is found exactly if nothing else meets the question. -/
theorem Inventory.single_eq_ok_iff {α : Type} {kind : Kind} {query : String} {found : List α}
    {a : α} : single kind query found = .ok a ↔ found = [a] := by
  rcases found with _ | ⟨b, _ | ⟨c, rest⟩⟩ <;> simp [single]

/-- A single thing is not found exactly if nothing meets the question, or several things do. -/
theorem Inventory.single_eq_error_iff {α : Type} {kind : Kind} {query : String} {found : List α}
    {cause : Fault} :
    single kind query found = .error cause ↔
      found = [] ∧ cause = .notFound kind query ∨
        2 ≤ found.length ∧ cause = .ambiguous kind query found.length := by
  rcases found with _ | ⟨b, _ | ⟨c, rest⟩⟩ <;> simp [single, eq_comm]

/-! ## What a snapshot has -/

namespace Snapshot

variable (snapshot : Snapshot)

/-- The only interface of a device that meets a condition, and its only address. -/
structure Wired (device : Device) (condition : Interface → Bool) (interface : Interface)
    (assigned : AssignedAddress) : Prop where
  interface_only :
    snapshot.interfaces.filter (fun other => other.device = device.id && condition other) =
      [interface]
  address_only : snapshot.addresses.filter (·.interface = interface.id) = [assigned]

/-- The only interface of a device that meets a condition, and its only address, which has a
mask. -/
def Addressed (device : Device) (condition : Interface → Bool) (interface : Interface)
    (cidr : Cidr) : Prop :=
  ∃ assigned, snapshot.Wired device condition interface assigned ∧
    Cidr.read assigned.address = .ok cidr

/-- A snapshot has what the router with a serial needs: one device, one interface for the system,
for the WAN, for the infrastructure and for each of the VPNs, one address for each of these
interfaces, and the first three addresses have a mask. -/
def Resolvable (vpns : List Vpn) (serial : String) : Prop :=
  ∃ device, snapshot.devices.filter (·.serial = serial) = [device] ∧
    (∃ interface cidr,
      snapshot.Addressed device (·.name = "Sdwan-system-intf") interface cidr) ∧
    (∃ interface cidr, snapshot.Addressed device (·.description = "WAN") interface cidr) ∧
    (∃ interface cidr, snapshot.Addressed device (·.description = "INFRA") interface cidr) ∧
    ∀ vpn ∈ vpns, ∃ interface assigned,
      snapshot.Wired device (·.description = vpn.name) interface assigned

/-- The VPNs of a router are bound to what a snapshot has for its device. The keys are the ones of
the declared VPNs, of the WAN and of the infrastructure. The last declared VPN with a number has
this number; the WAN and the infrastructure have theirs if no declared VPN has them. -/
structure Binds (device : Device) (vpns : List Vpn) (settings : Variables) : Prop where
  ascending : Table.Ascending settings.bindings
  keys : ∀ key, key ∈ Table.keys settings.bindings ↔
    ∃ k : Int64, (k = 0 ∨ k = 99 ∨ ∃ vpn ∈ vpns, vpn.id = k) ∧
      (key = Variables.interfaceKey k ∨ key = Variables.addressKey k)
  declared : ∀ k vpn, (vpns.filter (·.id = k)).getLast? = some vpn →
    ∃ interface assigned, snapshot.Wired device (·.description = vpn.name) interface assigned ∧
      settings.interface? k = some interface.name ∧
      settings.address? k = some assigned.address
  reserved : ∀ k description, (k, description) ∈ [((0 : Int64), "WAN"), (99, "INFRA")] →
    (∀ vpn ∈ vpns, vpn.id ≠ k) →
    ∃ interface cidr, snapshot.Addressed device (·.description = description) interface cidr ∧
      settings.interface? k = some interface.name ∧ settings.address? k = some cidr.text

/-- A router is what a snapshot has for a serial that is listed for a site. -/
structure Describes (intent : Intent) (site : Site) (serial : String) (router : Router) : Prop where
  of_device : ∃ device, snapshot.devices.filter (·.serial = serial) = [device] ∧
    router.serial = device.serial ∧ router.role = device.role ∧
    router.settings.hostName = device.name ∧
    (∃ interface cidr,
      snapshot.Addressed device (·.name = "Sdwan-system-intf") interface cidr ∧
        router.settings.systemIp = cidr.bare) ∧
    snapshot.Binds device (intent.vpnsFor site.kind) router.settings
  siteId_eq : router.settings.siteId = site.id

end Snapshot

/-! ## What is derived -/

namespace Derivation

variable (snapshot : Snapshot)

/-- A reserved VPN is bound to the interface described by its name, with its address in canonical
form. -/
def ReservedBinding (device : Device) (reserved : Int64 × String) (binding : Binding) : Prop :=
  ∃ interface cidr, snapshot.Addressed device (·.description = reserved.2) interface cidr ∧
    binding = ⟨reserved.1, interface.name, cidr.text⟩

/-- A declared VPN is bound to the interface described by its name, with its address as it is
stored. -/
def DeclaredBinding (device : Device) (vpn : Vpn) (binding : Binding) : Prop :=
  ∃ interface assigned, snapshot.Wired device (·.description = vpn.name) interface assigned ∧
    binding = ⟨vpn.id, interface.name, assigned.address⟩

/-- A question for a single thing yields the only thing that meets it. -/
theorem yields_ask_single {α : Type} (device : String) (kind : Inventory.Kind) (query : String)
    (found : List α) :
    Action.Yields (ask device (.ofExcept (Inventory.single kind query found) : Action σ _ α))
      (found = [·]) :=
  ((Action.Yields.ofExcept _).mapFailure _).congr fun _ => Inventory.single_eq_ok_iff

/-- The interfaces of a device that is named by its number. -/
theorem interfacesWhere_number (id : Int64) (condition : Interface → Bool) :
    snapshot.interfacesWhere (.number id) condition =
      snapshot.interfaces.filter (fun other => other.device = id && condition other) := by
  simp [Snapshot.interfacesWhere, Snapshot.deviceIds]

/-- The only address of an interface is yielded with its mask. -/
theorem yields_cidrOf (device : Device) (interface : Interface) :
    Action.Yields (cidrOf (snapshot.inventory σ) device interface) fun cidr =>
      ∃ assigned, snapshot.addresses.filter (·.interface = interface.id) = [assigned] ∧
        Cidr.read assigned.address = .ok cidr := by
  refine ((yields_ask_single _ _ _ _).bind fun assigned => .ofExcept _).congr fun cidr => ?_
  refine exists_congr fun assigned => and_congr_right fun _ => ?_
  rw [AssignedAddress.cidr]
  cases Cidr.read assigned.address <;> simp [Except.mapError]

/-- The only interface of a device that meets a condition, with its only address. -/
theorem exists_addressed_iff {device : Device} {condition : Interface → Bool}
    {P : Interface → Cidr → Prop} :
    (∃ interface, snapshot.interfacesWhere (.number device.id) condition = [interface] ∧
      ∃ cidr, (∃ assigned, snapshot.addresses.filter (·.interface = interface.id) = [assigned] ∧
        Cidr.read assigned.address = .ok cidr) ∧ P interface cidr) ↔
    ∃ interface cidr, snapshot.Addressed device condition interface cidr ∧ P interface cidr := by
  rw [interfacesWhere_number]
  constructor
  · rintro ⟨interface, hinterface, cidr, ⟨assigned, hassigned, hread⟩, hP⟩
    exact ⟨interface, cidr, ⟨assigned, ⟨hinterface, hassigned⟩, hread⟩, hP⟩
  · rintro ⟨interface, cidr, ⟨assigned, ⟨hinterface, hassigned⟩, hread⟩, hP⟩
    exact ⟨interface, hinterface, cidr, ⟨assigned, hassigned, hread⟩, hP⟩

/-- The bindings of several things are the binding of the first one and those of the others. -/
theorem exists_bindAll_cons_iff {α : Type} {R : α → Binding → Prop} {first : α} {rest : List α}
    {settings result : Variables} :
    (∃ binding, R first binding ∧ ∃ bindings, List.Forall₂ R rest bindings ∧
      result = (settings.bind binding.vpn binding.interface binding.address).bindAll bindings) ↔
    ∃ bindings, List.Forall₂ R (first :: rest) bindings ∧ result = settings.bindAll bindings := by
  simp only [← Variables.bindAll_cons]
  constructor
  · rintro ⟨binding, hbinding, bindings, hbindings, hresult⟩
    exact ⟨binding :: bindings, .cons hbinding hbindings, hresult⟩
  · rintro ⟨_, hbindings, hresult⟩
    obtain ⟨binding, bindings, hbinding, hrest, rfl⟩ := List.forall₂_cons_left_iff.mp hbindings
    exact ⟨binding, hbinding, bindings, hrest, hresult⟩

/-- The reserved VPNs are bound one after the other. -/
theorem yields_bindReserved (serial : String) (device : Device)
    (reserved : List (Int64 × String)) (settings : Variables) :
    Action.Yields
      (bindReserved (snapshot.inventory σ) serial device reserved settings) fun result =>
      ∃ bindings, List.Forall₂ (ReservedBinding snapshot device) reserved bindings ∧
        result = settings.bindAll bindings := by
  induction reserved generalizing settings with
  | nil => exact (Action.Yields.pure settings).congr fun result => by simp
  | cons first rest ih =>
    obtain ⟨vpn, description⟩ := first
    refine ((yields_ask_single _ _ _ _).bind fun interface =>
      (yields_cidrOf snapshot device interface).bind fun cidr => ih _).congr fun result => ?_
    rw [exists_addressed_iff, ← exists_bindAll_cons_iff]
    constructor
    · rintro ⟨interface, cidr, haddressed, hrest⟩
      exact ⟨_, ⟨interface, cidr, haddressed, rfl⟩, hrest⟩
    · rintro ⟨_, ⟨interface, cidr, haddressed, rfl⟩, hrest⟩
      exact ⟨interface, cidr, haddressed, hrest⟩

/-- The declared VPNs are bound one after the other. -/
theorem yields_bindDeclared (serial : String) (device : Device) (vpns : List Vpn)
    (settings : Variables) :
    Action.Yields (bindDeclared (snapshot.inventory σ) serial device vpns settings) fun result =>
      ∃ bindings, List.Forall₂ (DeclaredBinding snapshot device) vpns bindings ∧
        result = settings.bindAll bindings := by
  induction vpns generalizing settings with
  | nil => exact (Action.Yields.pure settings).congr fun result => by simp
  | cons vpn rest ih =>
    refine ((yields_ask_single _ _ _ _).bind fun interface =>
      (yields_ask_single _ _ _ _).bind fun assigned => ih _).congr fun result => ?_
    rw [← exists_bindAll_cons_iff]
    simp only [interfacesWhere_number]
    constructor
    · rintro ⟨interface, hinterface, assigned, hassigned, hrest⟩
      exact ⟨_, ⟨interface, assigned, ⟨hinterface, hassigned⟩, rfl⟩, hrest⟩
    · rintro ⟨_, ⟨interface, assigned, ⟨hinterface, hassigned⟩, rfl⟩, hrest⟩
      exact ⟨interface, hinterface, assigned, hassigned, hrest⟩

/-- The router with a serial, in terms of what a snapshot has. -/
def RouterOf (intent : Intent) (site : Site) (serial : String) (router : Router) : Prop :=
  ∃ device, snapshot.devices.filter (·.serial = serial) = [device] ∧
    ∃ interface cidr, snapshot.Addressed device (·.name = systemInterface) interface cidr ∧
      ∃ reserved, List.Forall₂ (ReservedBinding snapshot device) reservedVpns reserved ∧
        ∃ declared,
          List.Forall₂ (DeclaredBinding snapshot device) (intent.vpnsFor site.kind) declared ∧
            router = ⟨device.serial, device.role,
              (Variables.new site.id cidr.bare device.name).bindAll (reserved ++ declared)⟩

/-- The router with a serial is yielded. -/
theorem yields_router (intent : Intent) (site : Site) (serial : String) :
    Action.Yields (router (snapshot.inventory σ) intent site serial)
      (RouterOf snapshot intent site serial) := by
  refine ((yields_ask_single _ _ _ _).bind fun device => (yields_ask_single _ _ _ _).bind
    fun interface => (yields_cidrOf snapshot device interface).bind fun cidr =>
    (yields_bindReserved snapshot serial device reservedVpns _).bind fun withReserved =>
    (yields_bindDeclared snapshot serial device _ withReserved).bind fun settings =>
    Action.Yields.pure _).congr fun router => exists_congr fun device => ?_
  rw [exists_addressed_iff]
  refine and_congr_right fun _ => exists_congr fun interface => exists_congr fun cidr =>
    and_congr_right fun _ => ?_
  constructor
  · rintro ⟨_, ⟨reserved, hreserved, rfl⟩, _, ⟨declared, hdeclared, rfl⟩, rfl⟩
    exact ⟨reserved, hreserved, declared, hdeclared, by rw [Variables.bindAll_append]⟩
  · rintro ⟨reserved, hreserved, declared, hdeclared, rfl⟩
    exact ⟨_, ⟨reserved, hreserved, rfl⟩, _, ⟨declared, hdeclared, rfl⟩,
      by rw [Variables.bindAll_append]⟩

/-- The roles that are present are yielded in the order of the snapshot. -/
theorem yields_roles (present : List String) :
    Action.Yields (roles (snapshot.inventory σ) present)
      (· = snapshot.roles.filter present.contains) :=
  (Action.Yields.mapFailure (.ofExcept _) _).congr fun found => by
    rw [Except.ok.injEq, eq_comm]

/-- What is listed is a site with one of its serials. -/
theorem mem_listed_iff {serials : Site → List String} {intent : Intent} {site : Site}
    {serial : String} :
    (site, serial) ∈ listed serials intent ↔ site ∈ intent.sites ∧ serial ∈ serials site := by
  simp [listed]

/-- The routing variables of an intent are yielded. -/
theorem yields_routing (intent : Intent) :
    Action.Yields (routing (snapshot.inventory σ) intent) fun document =>
      ∃ routers, List.Forall₂ (fun (site, serial) => RouterOf snapshot intent site serial)
          (listed Site.routers intent) routers ∧
        document = ⟨routers, intent.vpns,
          snapshot.roles.filter (routers.map Router.role).contains⟩ := by
  have hrouters := Action.Yields.mapM
    (fun entry : Site × String => yields_router (σ := σ) snapshot intent entry.1 entry.2)
    (listed Site.routers intent)
  refine (hrouters.bind fun routers => (yields_roles snapshot _).bind fun roles =>
    Action.Yields.pure _).congr fun document => exists_congr fun routers => ?_
  refine and_congr_right fun _ => ?_
  constructor
  · rintro ⟨_, rfl, rfl⟩
    rfl
  · rintro rfl
    exact ⟨_, rfl, rfl⟩

/-! ## Completeness -/

/-- A router can be derived exactly if the snapshot has what it needs. -/
theorem exists_routerOf_iff {intent : Intent} {site : Site} {serial : String} :
    (∃ router, RouterOf snapshot intent site serial router) ↔
      snapshot.Resolvable (intent.vpnsFor site.kind) serial := by
  have hreserved : ∀ device, (∃ bindings, List.Forall₂ (ReservedBinding snapshot device)
      reservedVpns bindings) ↔
      (∃ interface cidr, snapshot.Addressed device (·.description = "WAN") interface cidr) ∧
        ∃ interface cidr, snapshot.Addressed device (·.description = "INFRA") interface cidr := by
    intro device
    rw [exists_forall₂_iff]
    simp [reservedVpns, ReservedBinding]
  constructor
  · rintro ⟨router, device, hdevice, interface, cidr, hsystem, reserved, hbound, declared,
      hdeclared, -⟩
    obtain ⟨hwan, hinfra⟩ := (hreserved device).mp ⟨reserved, hbound⟩
    refine ⟨device, hdevice, ⟨interface, cidr, hsystem⟩, hwan, hinfra, fun vpn hvpn => ?_⟩
    obtain ⟨_, interface, assigned, hwired, -⟩ :=
      exists_forall₂_iff.mp ⟨declared, hdeclared⟩ vpn hvpn
    exact ⟨interface, assigned, hwired⟩
  · rintro ⟨device, hdevice, ⟨interface, cidr, hsystem⟩, hwan, hinfra, hvpns⟩
    obtain ⟨reserved, hbound⟩ := (hreserved device).mpr ⟨hwan, hinfra⟩
    have hdeclared : ∀ vpn ∈ intent.vpnsFor site.kind,
        ∃ binding, DeclaredBinding snapshot device vpn binding := fun vpn hvpn =>
      let ⟨interface, assigned, hwired⟩ := hvpns vpn hvpn
      ⟨_, interface, assigned, hwired, rfl⟩
    obtain ⟨declared, hdeclared⟩ := exists_forall₂_iff.mpr hdeclared
    exact ⟨_, device, hdevice, interface, cidr, hsystem, reserved, hbound, declared, hdeclared, rfl⟩

/-- The numbers of bindings are the ones of the VPNs that are bound. -/
theorem map_vpn_of_forall₂ {α : Type} {R : α → Binding → Prop} {idOf : α → Int64}
    (hid : ∀ a binding, R a binding → binding.vpn = idOf a) {items : List α}
    {bindings : List Binding} (h : List.Forall₂ R items bindings) :
    bindings.map Binding.vpn = items.map idOf :=
  (map_eq_map_iff_forall₂.mpr (h.imp fun a binding hab => (hid a binding hab).symm)).symm

variable {snapshot} {device : Device}

theorem ReservedBinding.vpn_eq {reserved : Int64 × String} {binding : Binding}
    (h : ReservedBinding snapshot device reserved binding) : binding.vpn = reserved.1 := by
  obtain ⟨_, _, _, rfl⟩ := h
  rfl

theorem DeclaredBinding.vpn_eq {vpn : Vpn} {binding : Binding}
    (h : DeclaredBinding snapshot device vpn binding) : binding.vpn = vpn.id := by
  obtain ⟨_, _, _, rfl⟩ := h
  rfl

/-- The VPN of the last binding is bound to its interface and address. -/
theorem bound_of_lastFor {bindings : List Binding} {siteId k : Int64} {systemIp hostName : String}
    {binding : Binding} (h : lastFor Binding.vpn k bindings = some binding) :
    let settings := (Variables.new siteId systemIp hostName).bindAll bindings
    settings.interface? k = some binding.interface ∧ settings.address? k = some binding.address :=
  ⟨(get?_interfaceKey k bindings).trans (by rw [h]; rfl),
    (get?_addressKey k bindings).trans (by rw [h]; rfl)⟩

/-- Bindings of the reserved VPNs and then of declared ones bind them as they should. -/
theorem binds_bindAll {vpns : List Vpn} {reserved declared : List Binding}
    (hreserved : List.Forall₂ (ReservedBinding snapshot device) reservedVpns reserved)
    (hdeclared : List.Forall₂ (DeclaredBinding snapshot device) vpns declared)
    (siteId : Int64) (systemIp hostName : String) :
    snapshot.Binds device vpns
      ((Variables.new siteId systemIp hostName).bindAll (reserved ++ declared)) where
  ascending := Table.ascending_ofEntries _
  keys key := by
    have hids : (reserved ++ declared).map Binding.vpn = [0, 99] ++ vpns.map Vpn.id := by
      rw [List.map_append, map_vpn_of_forall₂ (fun _ _ h => h.vpn_eq) hreserved,
        map_vpn_of_forall₂ (fun _ _ h => h.vpn_eq) hdeclared]
      rfl
    calc key ∈ Table.keys (Table.ofEntries ((reserved ++ declared).flatMap Binding.entries))
        ↔ ∃ k ∈ (reserved ++ declared).map Binding.vpn,
            key = Variables.interfaceKey k ∨ key = Variables.addressKey k := by
          simp only [mem_keys_bindings_iff, List.mem_map, exists_exists_and_eq_and]
      _ ↔ _ := by
          rw [hids]
          simp
  declared k vpn hvpn := by
    obtain ⟨binding, hlast, interface, assigned, hwired, rfl⟩ :=
      exists_lastFor (fun _ _ h => h.vpn_eq) hdeclared hvpn
    have hbound : lastFor Binding.vpn k (reserved ++ declared) =
        some ⟨vpn.id, interface.name, assigned.address⟩ := by
      rw [lastFor_append, hlast, Option.some_or]
    exact ⟨interface, assigned, hwired, bound_of_lastFor hbound⟩
  reserved k description hmem hnone := by
    have hself : lastFor Prod.fst k reservedVpns = some (k, description) := by
      simp only [List.mem_cons, Prod.mk.injEq, List.not_mem_nil, or_false] at hmem
      rcases hmem with ⟨rfl, rfl⟩ | ⟨rfl, rfl⟩ <;> rfl
    obtain ⟨binding, hlast, interface, cidr, haddressed, rfl⟩ :=
      exists_lastFor (fun _ _ h => h.vpn_eq) hreserved hself
    have hbound : lastFor Binding.vpn k (reserved ++ declared) =
        some ⟨k, interface.name, cidr.text⟩ := by
      rw [lastFor_append, lastFor_eq_none (fun _ _ h => h.vpn_eq) hdeclared hnone, hlast,
        Option.none_or]
    exact ⟨interface, cidr, haddressed, bound_of_lastFor hbound⟩

/-- A router that is derived is what the snapshot has for it. -/
theorem describes_of_routerOf {intent : Intent} {site : Site} {serial : String} {router : Router}
    (h : RouterOf snapshot intent site serial router) :
    snapshot.Describes intent site serial router := by
  obtain ⟨device, hdevice, interface, cidr, hsystem, reserved, hreserved, declared, hdeclared,
    rfl⟩ := h
  exact ⟨⟨device, hdevice, rfl, rfl, rfl, ⟨interface, cidr, hsystem, rfl⟩,
    binds_bindAll hreserved hdeclared site.id cidr.bare device.name⟩, rfl⟩

/-- **The VPNs of a kind of sites are the declared ones that list the kind**, in document order. -/
theorem vpnsFor_spec (intent : Intent) (kind : SiteKind) :
    (intent.vpnsFor kind).Sublist intent.vpns ∧
      ∀ vpn, vpn ∈ intent.vpnsFor kind ↔ vpn ∈ intent.vpns ∧ kind ∈ vpn.sites := by
  refine ⟨List.filter_sublist, fun vpn => ?_⟩
  rw [Intent.vpnsFor, List.mem_filter, Vpn.appliesTo, List.contains_iff_mem]

/-- The VPN of a number that counts for a kind of sites is the last declared one that has the number
and lists the kind. -/
theorem getLast?_vpnsFor_iff {intent : Intent} {kind : SiteKind} {k : Int64} {vpn : Vpn} :
    ((intent.vpnsFor kind).filter (·.id = k)).getLast? = some vpn ↔
      ∃ before after, intent.vpns = before ++ vpn :: after ∧ kind ∈ vpn.sites ∧ vpn.id = k ∧
        ∀ later ∈ after, kind ∈ later.sites → later.id ≠ k := by
  have hcounts : ∀ other : Vpn, (decide (other.id = k) && other.appliesTo kind) = true ↔
      other.id = k ∧ kind ∈ other.sites := by
    intro other
    rw [Bool.and_eq_true, decide_eq_true_eq, Vpn.appliesTo, List.contains_iff_mem]
  rw [Intent.vpnsFor, List.filter_filter, List.getLast?_eq_some_iff]
  constructor
  · rintro ⟨earlier, hsplit⟩
    obtain ⟨first, second, hvpns, -, hsecond⟩ := List.filter_eq_append_iff.mp hsplit
    obtain ⟨before, after, rfl, -, hvpn, hafter⟩ := List.filter_eq_cons_iff.mp hsecond
    obtain ⟨hid, hkind⟩ := (hcounts vpn).mp hvpn
    refine ⟨first ++ before, after, by rw [hvpns, List.append_assoc], hkind, hid, ?_⟩
    intro later hlater hlists hsame
    exact List.filter_eq_nil_iff.mp hafter later hlater ((hcounts later).mpr ⟨hsame, hlists⟩)
  · rintro ⟨before, after, hvpns, hkind, hid, hlater⟩
    have hvpn := (hcounts vpn).mpr ⟨hid, hkind⟩
    have hafter :
        after.filter (fun other => decide (other.id = k) && other.appliesTo kind) = [] := by
      refine List.filter_eq_nil_iff.mpr fun later hmem hcount => ?_
      obtain ⟨hsame, hlists⟩ := (hcounts later).mp hcount
      exact hlater later hmem hlists hsame
    exact ⟨_, by rw [hvpns, List.filter_append, List.filter_cons, if_pos hvpn, hafter]⟩

/-- **Derivation is complete and exact**: the routing variables of an intent are derived from a
snapshot exactly if it has what each listed router needs. Then there is a router for each serial
that is listed for a site, in document order, which is what the snapshot has for it; the VPNs are
those of the intent, and the roles those of the snapshot that some router has.

**Proof sketch.** What is yielded is followed from the questions to the document. All routers exist
exactly if each of them does, and a router exists exactly if each of its bindings does. Of the
bindings of one VPN the last one counts, and declared VPNs are bound after reserved ones. -/
theorem routing_complete (snapshot : Snapshot) (intent : Intent) (s : σ) :
    let result := ((routing (snapshot.inventory σ) intent).perform s).1
    ((∃ document, result = .ok document) ↔
      ∀ site ∈ intent.sites, ∀ serial ∈ site.routers,
        snapshot.Resolvable (intent.vpnsFor site.kind) serial) ∧
    ∀ document, result = .ok document →
      List.Forall₂ (fun (site, serial) router => snapshot.Describes intent site serial router)
          (intent.sites.flatMap fun site => site.routers.map fun serial => (site, serial))
          document.routers ∧
        document.vpns = intent.vpns ∧
        document.roles = snapshot.roles.filter (document.routers.map Router.role).contains := by
  intro result
  have hyields {document : Document} := (yields_routing snapshot intent).result_eq_ok_iff s
    (a := document)
  constructor
  · calc (∃ document, result = .ok document)
        ↔ ∃ routers, List.Forall₂ (fun (site, serial) => RouterOf snapshot intent site serial)
            (listed Site.routers intent) routers := by
          simp only [result, hyields]
          exact ⟨fun ⟨_, routers, hrouters, _⟩ => ⟨routers, hrouters⟩,
            fun ⟨routers, hrouters⟩ => ⟨_, routers, hrouters, rfl⟩⟩
      _ ↔ ∀ entry ∈ listed Site.routers intent,
            snapshot.Resolvable (intent.vpnsFor entry.1.kind) entry.2 := by
          rw [exists_forall₂_iff]
          exact forall₂_congr fun _ _ => exists_routerOf_iff snapshot
      _ ↔ _ := by
          simp only [listed, List.forall_mem_flatMap, List.forall_mem_map]
  · intro document hdocument
    obtain ⟨routers, hrouters, rfl⟩ := hyields.mp hdocument
    exact ⟨hrouters.imp fun _ _ => describes_of_routerOf, rfl, rfl⟩

end Derivation

end NetworkIntent
