import Mathlib.Data.List.Perm.Basic
import Mathlib.Data.List.Forall2
import NetworkIntent.Derivation
import NetworkIntent.Proofs.Agreement
import NetworkIntent.Proofs.Table

/-!
# Inventories that concur

A derivation asks an inventory about the serials and VPNs of its intent, then about the devices it
has been told of, and then about the interfaces of these devices. Two inventories that concur on
these questions make no difference to what is derived. Of the interfaces on a VLAN not even the
order matters: a port is told apart by its key, and a VLAN holds its ports in the order of their
keys.

## Main definitions

* `Inventory.Scope`: the questions that may be asked.
* `Inventory.Concurs`: two inventories have the same answers to the questions of a scope.
* `Inventory.Scope.Covers`: the questions about an intent are in a scope.

## Main results

* `Derivation.vlanOf_congr`: the order of the interfaces on a VLAN does not matter.
* `Derivation.agrees_routing`, `Derivation.agrees_switching`: from inventories that concur the same
  variables are derived.
-/

set_option autoImplicit false

namespace NetworkIntent

variable {σ τ : Type}

namespace Inventory

/-! ## Questions -/

/-- The questions that may be asked: the serials, the names and descriptions of interfaces, the
devices whose interfaces are asked for, and the interfaces whose addresses are. -/
structure Scope where
  serials : String → Prop
  texts : String → Prop
  devices : Device → Prop
  interfaces : Interface → Prop

/-- Two inventories have the same answers to the questions of a scope, except that several
interfaces may come in different orders. What they answer may be asked about. -/
structure Concurs (S : σ → τ → Prop) (scope : Scope) (first : Inventory σ) (second : Inventory τ) :
    Prop where
  deviceBySerial : ∀ serial, scope.serials serial →
    Action.Agrees S (fun device other => device = other ∧ scope.devices device)
      (first.deviceBySerial serial) (second.deviceBySerial serial)
  interfaceByName : ∀ name device, scope.texts name → scope.devices device →
    Action.Agrees S (fun interface other => interface = other ∧ scope.interfaces interface)
      (first.interfaceByName name (.number device.id))
      (second.interfaceByName name (.number device.id))
  interfaceByDescription : ∀ description device, scope.texts description → scope.devices device →
    Action.Agrees S (fun interface other => interface = other ∧ scope.interfaces interface)
      (first.interfaceByDescription description (.number device.id))
      (second.interfaceByDescription description (.number device.id))
  interfacesByDescription : ∀ description device, scope.texts description → scope.devices device →
    Action.Agrees S List.Perm (first.interfacesByDescription description (.number device.id))
      (second.interfacesByDescription description (.number device.id))
  addressOf : ∀ interface, scope.interfaces interface →
    Action.Agrees S Eq (first.addressOf interface.id) (second.addressOf interface.id)
  rolesAmong : ∀ present, Action.Agrees S Eq (first.rolesAmong present) (second.rolesAmong present)

/-- The questions about an intent are in a scope. -/
structure Scope.Covers (scope : Scope) (intent : Intent) : Prop where
  serials : ∀ site ∈ intent.sites, ∀ serial ∈ site.routers ++ site.switches, scope.serials serial
  system : scope.texts Derivation.systemInterface
  reserved : ∀ vpn ∈ Derivation.reservedVpns, scope.texts vpn.2
  vpns : ∀ vpn ∈ intent.vpns, scope.texts vpn.name

end Inventory

/-! ## Ports -/

/-- The family of a port and its position are told by its key. -/
theorem Port.key_injective : Function.Injective Port.key := by
  rintro ⟨family, position⟩ ⟨family', position'⟩ h
  have hchars : family.name.toList ++ ':' :: position.toList =
      family'.name.toList ++ ':' :: position'.toList := by
    simpa [Port.key, toString] using congrArg String.toList h
  cases family <;> cases family' <;> simp [PortFamily.name, String.toList_inj] at hchars ⊢ <;>
    exact hchars

/-- Among ports under their keys, those with one key are one port. -/
theorem Port.eq_of_mem_keyed {ports : List Port} {key : String} {port other : Port}
    (h : (key, port) ∈ ports.map fun port => (port.key, port))
    (h' : (key, other) ∈ ports.map fun port => (port.key, port)) : port = other := by
  obtain ⟨_, _, heq⟩ := List.mem_map.mp h
  obtain ⟨_, _, heq'⟩ := List.mem_map.mp h'
  cases heq
  obtain ⟨hkey, rfl⟩ := Prod.mk.inj heq'
  exact (key_injective hkey).symm

namespace Table

variable {α : Type} {key : String} {value : α} {entries others : Table α}

/-- If no key has two values, every entry counts. -/
theorem get?_ofEntries_eq_some_iff
    (h : ∀ key v w, (key, v) ∈ entries → (key, w) ∈ entries → v = w) :
    get? key (ofEntries entries) = some value ↔ (key, value) ∈ entries := by
  constructor
  · exact fun hget => mem_of_mem_ofEntries (mem_of_get?_eq_some hget)
  · intro hmem
    rcases hget : get? key (ofEntries entries) with _ | v
    · have hnone := get?_eq_none_iff.mp (get?_ofEntries_eq_none_iff.mp hget)
      exact absurd (List.mem_map.mpr ⟨_, hmem, rfl⟩) hnone
    · rw [h key v value (mem_of_mem_ofEntries (mem_of_get?_eq_some hget)) hmem]

/-- If no key has two values, the order of the entries does not matter. -/
theorem ofEntries_eq_of_perm (hperm : entries.Perm others)
    (h : ∀ key v w, (key, v) ∈ entries → (key, w) ∈ entries → v = w) :
    ofEntries entries = ofEntries others := by
  refine (ascending_ofEntries _).ext (ascending_ofEntries _) fun key => Option.ext fun value => ?_
  have h' : ∀ key v w, (key, v) ∈ others → (key, w) ∈ others → v = w := fun key v w hv hw =>
    h key v w (hperm.mem_iff.mpr hv) (hperm.mem_iff.mpr hw)
  rw [get?_ofEntries_eq_some_iff h, get?_ofEntries_eq_some_iff h', hperm.mem_iff]

end Table

namespace Derivation

/-- Two switches are of sites of one kind and have the same interfaces on a VLAN, up to their
order. -/
def SameTagged (tagged other : SiteKind × List Interface) : Prop :=
  tagged.1 = other.1 ∧ tagged.2.Perm other.2

/-- Interfaces in another order belong to ports in another order. -/
theorem portsOf_perm {interfaces others : List Interface} (h : interfaces.Perm others) :
    (portsOf interfaces).Perm (portsOf others) :=
  h.filterMap _

/-- The order of the interfaces on a VLAN does not matter. -/
theorem vlanOf_congr (vpn : Vpn) {tagged others : List (SiteKind × List Interface)}
    (h : List.Forall₂ SameTagged tagged others) : vlanOf vpn tagged = vlanOf vpn others := by
  have hports : (tagged.flatMap fun entry => portsOf entry.2).Perm
      (others.flatMap fun entry => portsOf entry.2) := by
    induction h with
    | nil => exact .nil
    | cons hfirst _ ih => exact (portsOf_perm hfirst.2).append ih
  have hkinds : (tagged.filterMap fun entry =>
        if (portsOf entry.2).isEmpty then none else some entry.1) =
      others.filterMap fun entry =>
        if (portsOf entry.2).isEmpty then none else some entry.1 := by
    clear hports
    induction h with
    | nil => rfl
    | cons hfirst _ ih =>
      obtain ⟨hkind, hperm⟩ := hfirst
      simp only [List.filterMap_cons, (portsOf_perm hperm).isEmpty_eq, hkind, ih]
  have hvlan (tagged : List (SiteKind × List Interface)) : vlanOf vpn tagged =
      ⟨vpn.id, vpn.name, SiteKind.setOf (tagged.filterMap fun entry =>
        if (portsOf entry.2).isEmpty then none else some entry.1),
        (Table.ofEntries ((tagged.flatMap fun entry => portsOf entry.2).map fun port =>
          (port.key, port))).map Prod.snd⟩ := rfl
  rw [hvlan, hvlan, hkinds, Table.ofEntries_eq_of_perm (hports.map _)
    fun _ _ _ => Port.eq_of_mem_keyed]

/-! ## What is derived -/

section Concurring

variable {S : σ → τ → Prop} {scope : Inventory.Scope} {first : Inventory σ} {second : Inventory τ}
  {intent : Intent}

/-- The address of an interface is the same with its mask. -/
theorem agrees_cidrOf (h : Inventory.Concurs S scope first second) (device : Device)
    {interface : Interface} (hinterface : scope.interfaces interface) :
    Action.Agrees S Eq (cidrOf first device interface) (cidrOf second device interface) := by
  refine ((h.addressOf interface hinterface).mapFailure _).bind ?_
  rintro assigned _ rfl
  exact .ofExcept (Action.agreement_eq_iff.mpr rfl)

/-- The reserved VPNs of a device are bound alike. -/
theorem agrees_bindReserved (h : Inventory.Concurs S scope first second) (serial : String)
    {device : Device} (hdevice : scope.devices device) {reserved : List (Int64 × String)}
    (htexts : ∀ vpn ∈ reserved, scope.texts vpn.2) (settings : Routing.Variables) :
    Action.Agrees S Eq (bindReserved first serial device reserved settings)
      (bindReserved second serial device reserved settings) := by
  induction reserved generalizing settings with
  | nil => exact .pure rfl
  | cons vpn rest ih =>
    obtain ⟨htext, hrest⟩ := List.forall_mem_cons.mp htexts
    refine ((h.interfaceByDescription vpn.2 device htext hdevice).mapFailure _).bind ?_
    rintro interface _ ⟨rfl, hinterface⟩
    refine (agrees_cidrOf h device hinterface).bind ?_
    rintro cidr _ rfl
    exact ih hrest _

/-- The declared VPNs of a device are bound alike. -/
theorem agrees_bindDeclared (h : Inventory.Concurs S scope first second) (serial : String)
    {device : Device} (hdevice : scope.devices device) {vpns : List Vpn}
    (htexts : ∀ vpn ∈ vpns, scope.texts vpn.name) (settings : Routing.Variables) :
    Action.Agrees S Eq (bindDeclared first serial device vpns settings)
      (bindDeclared second serial device vpns settings) := by
  induction vpns generalizing settings with
  | nil => exact .pure rfl
  | cons vpn rest ih =>
    obtain ⟨htext, hrest⟩ := List.forall_mem_cons.mp htexts
    refine ((h.interfaceByDescription vpn.name device htext hdevice).mapFailure _).bind ?_
    rintro interface _ ⟨rfl, hinterface⟩
    refine ((h.addressOf interface hinterface).mapFailure _).bind ?_
    rintro assigned _ rfl
    exact ih hrest _

/-- The router with a serial is the same. -/
theorem agrees_router (h : Inventory.Concurs S scope first second) (hcovers : scope.Covers intent)
    (site : Site) {serial : String} (hserial : scope.serials serial) :
    Action.Agrees S Eq (router first intent site serial) (router second intent site serial) := by
  refine ((h.deviceBySerial serial hserial).mapFailure _).bind ?_
  rintro device _ ⟨rfl, hdevice⟩
  refine ((h.interfaceByName systemInterface device hcovers.system hdevice).mapFailure _).bind ?_
  rintro system _ ⟨rfl, hsystem⟩
  refine (agrees_cidrOf h device hsystem).bind ?_
  rintro cidr _ rfl
  refine (agrees_bindReserved h serial hdevice hcovers.reserved _).bind ?_
  rintro settings _ rfl
  have hvpns : ∀ vpn ∈ intent.vpnsFor site.kind, scope.texts vpn.name := fun vpn hvpn =>
    hcovers.vpns vpn (List.mem_of_mem_filter hvpn)
  refine (agrees_bindDeclared h serial hdevice hvpns settings).bind ?_
  rintro settings _ rfl
  exact .pure rfl

/-- The serials that are listed for sites may be asked for. -/
theorem serials_of_mem_listed {serials : Site → List String}
    (h : ∀ site ∈ intent.sites, ∀ serial ∈ serials site, scope.serials serial) {site : Site}
    {serial : String} (hmem : (site, serial) ∈ listed serials intent) : scope.serials serial := by
  obtain ⟨_, hsite, hserial⟩ := List.mem_flatMap.mp hmem
  obtain ⟨_, hserial, ⟨⟩⟩ := List.mem_map.mp hserial
  exact h _ hsite _ hserial

/-- **Inventories that concur make no difference to the routing variables.** -/
theorem agrees_routing (h : Inventory.Concurs S scope first second)
    (hcovers : scope.Covers intent) :
    Action.Agrees S Eq (routing first intent) (routing second intent) := by
  have hrouters : ∀ entry ∈ listed Site.routers intent, Action.Agrees S Eq
      (router first intent entry.1 entry.2) (router second intent entry.1 entry.2) := by
    intro entry hentry
    refine agrees_router h hcovers entry.1 (serials_of_mem_listed (fun site hsite serial hserial =>
      hcovers.serials site hsite serial (List.mem_append_left _ hserial)) hentry)
  refine (Action.Agrees.mapM_same hrouters).bind fun routers others hsame => ?_
  obtain rfl : routers = others := List.forall₂_eq_eq_eq ▸ hsame
  refine ((h.rolesAmong _).mapFailure _).bind ?_
  rintro roles _ rfl
  exact .pure rfl

/-- The VLAN of a VPN is the same. -/
theorem agrees_vlan (h : Inventory.Concurs S scope first second)
    {switches : List (SiteKind × Device)} (hswitches : ∀ switch ∈ switches, scope.devices switch.2)
    {vpn : Vpn} (htext : scope.texts vpn.name) :
    Action.Agrees S Eq (vlan first switches vpn) (vlan second switches vpn) := by
  refine (Action.Agrees.mapM_same (R := SameTagged) fun switch hswitch => ?_).bind
    fun tagged others hsame => .pure (vlanOf_congr vpn hsame)
  refine ((h.interfacesByDescription vpn.name switch.2 htext
    (hswitches switch hswitch)).mapFailure _).bind fun interfaces others hperm => ?_
  exact .pure ⟨rfl, hperm⟩

/-- **Inventories that concur make no difference to the switching variables.** -/
theorem agrees_switching (h : Inventory.Concurs S scope first second)
    (hcovers : scope.Covers intent) :
    Action.Agrees S Eq (switching first intent) (switching second intent) := by
  refine (Action.Agrees.mapM_same (R := fun switch other => scope.devices switch.2 ∧
    switch = other) fun entry hentry => ?_).bind fun switches others hsame => ?_
  · have hserial := serials_of_mem_listed (fun site hsite serial hserial =>
      hcovers.serials site hsite serial (List.mem_append_right _ hserial)) hentry
    refine ((h.deviceBySerial entry.2 hserial).mapFailure _).bind ?_
    rintro device _ ⟨rfl, hdevice⟩
    exact .pure ⟨hdevice, rfl⟩
  · obtain ⟨hswitches, hsame⟩ := (List.forall₂_and_left _ _).mp hsame
    obtain rfl : switches = others := List.forall₂_eq_eq_eq ▸ hsame
    refine (Action.Agrees.mapM_same fun vpn hvpn =>
      agrees_vlan h hswitches (hcovers.vpns vpn hvpn)).bind fun vlans others hsame => ?_
    obtain rfl : vlans = others := List.forall₂_eq_eq_eq ▸ hsame
    refine ((h.rolesAmong _).mapFailure _).bind ?_
    rintro roles _ rfl
    exact .pure rfl

end Concurring

end Derivation

end NetworkIntent
