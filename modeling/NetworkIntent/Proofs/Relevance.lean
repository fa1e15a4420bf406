import NetworkIntent.Proofs.Concurrence
import NetworkIntent.Proofs.Derivation

/-!
# What matters in a snapshot

Of a snapshot only some things matter for an intent: the devices whose serials the intent lists,
their interfaces, the addresses of these, and the roles. The order of the roles is the order in
which they are derived. All other things may be left out or added, and the devices, interfaces and
addresses may be in any order.

## Main definitions

* `Snapshot.devicesFor`, `Snapshot.interfacesFor`, `Snapshot.addressesFor`: what matters for an
  intent.
* `Snapshot.SameFacts`: two snapshots have the same for an intent.

## Main results

* `Snapshot.SameFacts.concurs`: such snapshots concur as inventories.
* `Derivation.derived_eq_of_sameFacts`: what is derived from them is the same.
-/

set_option autoImplicit false

namespace NetworkIntent

variable {σ : Type}

/-! ## Single things -/

/-- A single thing among some that differ from others only in their order is single among these,
too. Otherwise both questions have no answer, for the same reason. -/
theorem Inventory.agreement_single {α : Type} {P : α → Prop} (kind : Kind) (query : String)
    {found others : List α} (hperm : found.Perm others) (hfound : ∀ a ∈ found, P a) :
    Action.Agreement (fun a b => a = b ∧ P a) (single kind query found)
      (single kind query others) := by
  rcases found with _ | ⟨a, _ | ⟨b, rest⟩⟩
  · obtain rfl := List.nil_perm.mp hperm
    exact .error _
  · obtain rfl := List.singleton_perm.mp hperm
    exact .ok ⟨rfl, hfound a List.mem_cons_self⟩
  · -- Both lists are too long, and their lengths are the same.
    have hlength := hperm.length_eq
    rcases others with _ | ⟨c, _ | ⟨d, more⟩⟩
    · cases hlength
    · cases hlength
    · change Action.Agreement _ (.error (Fault.ambiguous kind query (a :: b :: rest).length))
        (.error (Fault.ambiguous kind query (c :: d :: more).length))
      rw [hlength]
      exact .error _

/-! ## What matters -/

/-- The serials that an intent lists. -/
def Intent.serials (intent : Intent) : List String :=
  intent.sites.flatMap fun site => site.routers ++ site.switches

namespace Snapshot

/-- The devices with serials that an intent lists. -/
def devicesFor (snapshot : Snapshot) (intent : Intent) : List Device :=
  snapshot.devices.filter fun device => device.serial ∈ intent.serials

/-- The interfaces of the devices with serials that an intent lists. -/
def interfacesFor (snapshot : Snapshot) (intent : Intent) : List Interface :=
  snapshot.interfaces.filter fun interface =>
    interface.device ∈ (snapshot.devicesFor intent).map Device.id

/-- The addresses of these interfaces. -/
def addressesFor (snapshot : Snapshot) (intent : Intent) : List AssignedAddress :=
  snapshot.addresses.filter fun assigned =>
    assigned.interface ∈ (snapshot.interfacesFor intent).map Interface.id

/-- Two snapshots have the same for an intent, up to the order of devices, interfaces and
addresses. -/
structure SameFacts (intent : Intent) (first second : Snapshot) : Prop where
  devices : (first.devicesFor intent).Perm (second.devicesFor intent)
  interfaces : (first.interfacesFor intent).Perm (second.interfacesFor intent)
  addresses : (first.addressesFor intent).Perm (second.addressesFor intent)
  roles : first.roles = second.roles

/-- A filter that lets nothing pass but what another one lets pass may be applied after it. -/
private theorem filter_filter_of_imp {α : Type} {items : List α} {p q : α → Bool}
    (h : ∀ a, p a = true → q a = true) : (items.filter q).filter p = items.filter p := by
  rw [List.filter_filter]
  refine List.filter_congr fun a _ => ?_
  cases hp : p a
  · rfl
  · rw [h a hp, Bool.and_self]

variable {intent : Intent} {first second snapshot : Snapshot}

/-- The devices with a listed serial are among those that matter. -/
theorem filter_devicesFor {serial : String} (h : serial ∈ intent.serials) :
    (snapshot.devicesFor intent).filter (·.serial = serial) = snapshot.devicesBySerial serial := by
  refine filter_filter_of_imp fun device hdevice => ?_
  rw [of_decide_eq_true hdevice]
  exact decide_eq_true h

/-- The interfaces of a device that matters are among those that matter. -/
theorem filter_interfacesFor {device : Device} (h : device ∈ snapshot.devicesFor intent)
    (condition : Interface → Bool) :
    (snapshot.interfacesFor intent).filter
        (fun interface => interface.device = device.id && condition interface) =
      snapshot.interfacesWhere (.number device.id) condition := by
  rw [Derivation.interfacesWhere_number]
  refine filter_filter_of_imp fun interface hinterface => ?_
  have hid := of_decide_eq_true (Bool.and_eq_true_iff.mp hinterface).1
  exact decide_eq_true (List.mem_map.mpr ⟨device, h, hid.symm⟩)

/-- The addresses of an interface that matters are among those that matter. -/
theorem filter_addressesFor {interface : Interface} (h : interface ∈ snapshot.interfacesFor intent) :
    (snapshot.addressesFor intent).filter (·.interface = interface.id) =
      snapshot.addressesOf interface.id := by
  refine filter_filter_of_imp fun assigned hassigned => ?_
  exact decide_eq_true (List.mem_map.mpr ⟨interface, h, (of_decide_eq_true hassigned).symm⟩)

/-- The questions about what matters for an intent. -/
def scopeFor (intent : Intent) (snapshot : Snapshot) : Inventory.Scope where
  serials serial := serial ∈ intent.serials
  texts _ := True
  devices device := device ∈ snapshot.devicesFor intent
  interfaces interface := interface ∈ snapshot.interfacesFor intent

/-- An intent is about nothing else than what matters for it. -/
theorem covers_scopeFor (intent : Intent) (snapshot : Snapshot) :
    (scopeFor intent snapshot).Covers intent where
  serials site hsite _ hserial := List.mem_flatMap.mpr ⟨site, hsite, hserial⟩
  system := trivial
  reserved _ _ := trivial
  vpns _ _ := trivial

/-- The interfaces of a device are the same, up to their order. -/
theorem SameFacts.interfacesWhere_perm (h : SameFacts intent first second) {device : Device}
    (hdevice : device ∈ first.devicesFor intent) (condition : Interface → Bool) :
    (first.interfacesWhere (.number device.id) condition).Perm
      (second.interfacesWhere (.number device.id) condition) := by
  rw [← filter_interfacesFor hdevice, ← filter_interfacesFor (h.devices.mem_iff.mp hdevice)]
  exact h.interfaces.filter _

/-- The interfaces of a device that matters matter. -/
theorem mem_interfacesFor {device : Device} (hdevice : device ∈ snapshot.devicesFor intent)
    {condition : Interface → Bool} {interface : Interface}
    (h : interface ∈ snapshot.interfacesWhere (.number device.id) condition) :
    interface ∈ snapshot.interfacesFor intent := by
  rw [← filter_interfacesFor hdevice] at h
  exact List.mem_of_mem_filter h

/-- **Snapshots that have the same for an intent concur on it.** -/
theorem SameFacts.concurs (h : SameFacts intent first second) :
    Inventory.Concurs (σ := σ) Eq (scopeFor intent first) (first.inventory σ)
      (second.inventory σ) where
  deviceBySerial serial hserial := by
    have hperm : (first.devicesBySerial serial).Perm (second.devicesBySerial serial) := by
      rw [← filter_devicesFor hserial, ← filter_devicesFor hserial]
      exact h.devices.filter _
    refine .ofExcept (Inventory.agreement_single _ _ hperm fun device hdevice => ?_)
    rw [← filter_devicesFor hserial] at hdevice
    exact List.mem_of_mem_filter hdevice
  interfaceByName name device _ hdevice :=
    .ofExcept (Inventory.agreement_single _ _ (h.interfacesWhere_perm hdevice _)
      fun _ => mem_interfacesFor hdevice)
  interfaceByDescription description device _ hdevice :=
    .ofExcept (Inventory.agreement_single _ _ (h.interfacesWhere_perm hdevice _)
      fun _ => mem_interfacesFor hdevice)
  interfacesByDescription description device _ hdevice :=
    .ofExcept (.ok (h.interfacesWhere_perm hdevice _))
  addressOf interface hinterface := by
    have hperm : (first.addressesOf interface.id).Perm (second.addressesOf interface.id) := by
      rw [← filter_addressesFor hinterface,
        ← filter_addressesFor (h.interfaces.mem_iff.mp hinterface)]
      exact h.addresses.filter _
    exact .ofExcept ((Inventory.agreement_single (P := fun _ => True) _ _ hperm
      fun _ _ => trivial).imp fun _ _ hab => hab.1)
  rolesAmong present := by
    refine .ofExcept (Action.agreement_eq_iff.mpr ?_)
    rw [h.roles]

end Snapshot

/-! ## What is derived -/

namespace Derivation

/-- **What is derived depends on what matters, and not on its order**: from two snapshots that have
the same for an intent, up to the order of devices, interfaces and addresses, the same variables are
derived, or the derivation fails in the same way.

**Proof sketch.** Every question that comes up is about a listed serial, or about a device or an
interface that has been found before, so it is answered from the things that matter. A question for
a single thing counts what meets it, and the ports of a VLAN are put in the order of their keys; in
either case the order does not matter. -/
theorem derived_eq_of_sameFacts {intent : Intent} {first second : Snapshot}
    (h : Snapshot.SameFacts intent first second) :
    routing (first.inventory σ) intent = routing (second.inventory σ) intent ∧
      switching (first.inventory σ) intent = switching (second.inventory σ) intent :=
  ⟨(agrees_routing h.concurs (Snapshot.covers_scopeFor intent first)).eq,
    (agrees_switching h.concurs (Snapshot.covers_scopeFor intent first)).eq⟩

/-- Two switches with a port each, which carry one VLAN and have one name, and a spare device. -/
def twoSwitches : Snapshot :=
  ⟨[⟨1, "sw", "S1", "access", ""⟩, ⟨2, "sw", "S2", "access", ""⟩, ⟨3, "spare", "S3", "access", ""⟩],
    [⟨10, 1, "GigabitEthernet1/0/1", "data"⟩, ⟨20, 2, "GigabitEthernet1/0/1", "data"⟩,
      ⟨30, 3, "GigabitEthernet1/0/3", "data"⟩], [⟨100, 10, "10.0.0.1/24"⟩], ["access"]⟩

/-- The same two switches in another order and without the spare device. -/
def twoSwitchesReversed : Snapshot :=
  ⟨[⟨2, "sw", "S2", "access", ""⟩, ⟨1, "sw", "S1", "access", ""⟩],
    [⟨20, 2, "GigabitEthernet1/0/1", "data"⟩, ⟨10, 1, "GigabitEthernet1/0/1", "data"⟩],
    [⟨100, 10, "10.0.0.1/24"⟩], ["access"]⟩

/-- A site with the two switches, and a VPN that applies to it. -/
def switchedIntent : Intent :=
  ⟨[⟨1, "hq", .dataCentre, [], ["S1", "S2"]⟩], [⟨10, "data", [.dataCentre]⟩]⟩

/-- From the two snapshots of the switches the same variables are derived. -/
theorem derived_eq_twoSwitches :
    Snapshot.SameFacts switchedIntent twoSwitches twoSwitchesReversed ∧
      switching (twoSwitches.inventory Unit) switchedIntent =
        switching (twoSwitchesReversed.inventory Unit) switchedIntent := by
  have hsame : Snapshot.SameFacts switchedIntent twoSwitches twoSwitchesReversed :=
    ⟨by decide, by decide, by decide, rfl⟩
  exact ⟨hsame, (derived_eq_of_sameFacts hsame).2⟩

end Derivation

end NetworkIntent
