import NetworkIntent.Proofs.Concurrence
import NetworkIntent.Proofs.Derivation
import NetworkIntent.Proofs.Utf8

/-!
# Switching variables from a snapshot

Over a snapshot, switching variables are derived exactly if every listed serial belongs to one
device. Then the switches are those devices in document order. The VLAN of a VPN has the ports that
carry it on any of them, each once and in the order of their keys, and the kinds of the sites where
there is such a port.

## Main definitions

* `Derivation.Resolves`: a switch is the device with a serial that is listed for a site.
* `Snapshot.Carries`: a device with a serial carries a VPN over a port.
* `Snapshot.Unresolved`: a serial does not belong to one device, and why.
* `Snapshot.Spans`: a VLAN is what a snapshot has for a VPN.

## Main results

* `Derivation.yields_switching`: what switching variables are derived from a snapshot.
* `Derivation.mem_ports_vlanOf_iff`, `Derivation.mem_sites_vlanOf_iff`,
  `Derivation.pairwise_ports_vlanOf`: the ports of a VLAN with their order, and its sites.
* `Derivation.switching_eq_error_iff`: why switching variables are not derived.
* `Derivation.switching_complete`: variables are derived exactly if all serials belong to one
  device, and they are what the snapshot has.
-/

set_option autoImplicit false

namespace NetworkIntent

variable {σ : Type}

/-- The only thing that meets a condition is one of the things, and meets it. -/
theorem mem_of_filter_eq_singleton {α : Type} {p : α → Bool} {items : List α} {item : α}
    (h : items.filter p = [item]) : item ∈ items ∧ p item = true :=
  List.mem_filter.mp (h ▸ List.mem_singleton_self item)

namespace Snapshot

variable (snapshot : Snapshot)

/-- The only device with a serial carries a VPN over a port: one of its interfaces is described by
the name of the VPN and belongs to the port. -/
def Carries (vpn : Vpn) (serial : String) (port : Port) : Prop :=
  ∃ device, snapshot.devices.filter (·.serial = serial) = [device] ∧
    ∃ interface ∈ snapshot.interfaces, interface.device = device.id ∧
      interface.description = vpn.name ∧ Port.ofInterface? interface.name = some port

/-- A serial does not belong to one device: either no device has it, or several have. -/
def Unresolved (serial : String) (cause : Inventory.Fault) : Prop :=
  let found := snapshot.devices.filter (·.serial = serial)
  found = [] ∧ cause = .notFound .device s!"serial={serial}" ∨
    2 ≤ found.length ∧ cause = .ambiguous .device s!"serial={serial}" found.length

/-- A VLAN is what a snapshot has for a VPN: the ports that carry it on the switches of any site,
strictly ascending in the bytes of their keys, and the kinds of the sites with a switch that has
such a port, each once in their order. -/
structure Spans (intent : Intent) (vpn : Vpn) (vlan : Switching.Vlan) : Prop where
  id_eq : vlan.id = vpn.id
  name_eq : vlan.name = vpn.name
  mem_ports : ∀ port, port ∈ vlan.ports ↔
    ∃ site ∈ intent.sites, ∃ serial ∈ site.switches, snapshot.Carries vpn serial port
  ascending : vlan.ports.Pairwise fun port next => Utf8.ofString port.key < Utf8.ofString next.key
  nodup : vlan.ports.Nodup
  mem_sites : ∀ kind, kind ∈ vlan.sites ↔
    ∃ site ∈ intent.sites, site.kind = kind ∧
      ∃ serial ∈ site.switches, ∃ port, snapshot.Carries vpn serial port
  sites_ordered : vlan.sites.Sublist SiteKind.all

end Snapshot

namespace Derivation

/-! ## What is derived -/

/-- A switch with its interfaces that are described by the name of a VPN. -/
def taggedIn (snapshot : Snapshot) (vpn : Vpn) (switch : SiteKind × Device) :
    SiteKind × List Interface :=
  (switch.1, snapshot.interfacesWhere (.number switch.2.id) (·.description = vpn.name))

/-- The VLAN of a VPN is yielded. -/
theorem yields_vlan (snapshot : Snapshot) (switches : List (SiteKind × Device)) (vpn : Vpn) :
    Action.Yields (vlan (snapshot.inventory σ) switches vpn)
      (vlanOf vpn (switches.map (taggedIn snapshot vpn)) = ·) := by
  have htagged (switch : SiteKind × Device) : Action.Yields (do
      let interfaces ← ask switch.2.serial
        ((snapshot.inventory σ).interfacesByDescription vpn.name (.number switch.2.id))
      return (switch.1, interfaces)) (taggedIn snapshot vpn switch = ·) := by
    refine (((Action.Yields.ofExcept _).mapFailure _).bind fun interfaces =>
      Action.Yields.pure (switch.1, interfaces)).congr fun tagged => ?_
    simp [taggedIn, eq_comm]
  refine ((Action.Yields.mapM htagged switches).bind fun tagged => Action.Yields.pure _).congr
    fun vlan => ?_
  simp only [forall₂_eq_map_iff, exists_eq_left', eq_comm (a := vlan)]

/-- A switch is the device with a serial that is listed for a site, and of the kind of the site. -/
def Resolves (snapshot : Snapshot) (entry : Site × String) (switch : SiteKind × Device) : Prop :=
  snapshot.devices.filter (·.serial = entry.2) = [switch.2] ∧ switch.1 = entry.1.kind

/-- The switching variables of an intent are yielded. -/
theorem yields_switching (snapshot : Snapshot) (intent : Intent) :
    Action.Yields (switching (snapshot.inventory σ) intent) fun document =>
      ∃ switches, List.Forall₂ (Resolves snapshot) (listed Site.switches intent) switches ∧
        document = ⟨switches.map fun (_, device) =>
            ⟨device.serial, device.name, device.site, device.role⟩,
          intent.vpns.map fun vpn => vlanOf vpn (switches.map (taggedIn snapshot vpn)),
          snapshot.roles.filter (switches.map (·.2.role)).contains⟩ := by
  have hresolves (entry : Site × String) : Action.Yields (do
      let device ← ask entry.2 ((snapshot.inventory σ).deviceBySerial entry.2)
      return (entry.1.kind, device)) (Resolves snapshot entry) := by
    refine ((yields_ask_single _ _ _ _).bind fun device =>
      Action.Yields.pure (entry.1.kind, device)).congr fun switch => ?_
    constructor
    · rintro ⟨device, hdevice, rfl⟩
      exact ⟨hdevice, rfl⟩
    · rintro ⟨hdevice, hkind⟩
      exact ⟨switch.2, hdevice, Prod.ext hkind rfl⟩
  refine ((Action.Yields.mapM hresolves _).bind fun switches =>
    (Action.Yields.mapM (yields_vlan snapshot switches) intent.vpns).bind fun vlans =>
    (yields_roles snapshot _).bind fun roles => Action.Yields.pure _).congr fun document =>
      exists_congr fun switches => and_congr_right fun _ => ?_
  simp only [forall₂_eq_map_iff, exists_eq_left', exists_eq_left, List.map_map]
  rfl

/-! ## VLANs -/

section Vlans

variable {vpn : Vpn} {tagged : List (SiteKind × List Interface)} {snapshot : Snapshot}
  {port : Port} {kind : SiteKind}

/-- The ports of a VLAN under their keys are the entries of a table. -/
theorem map_key_ports_vlanOf (vpn : Vpn) (tagged : List (SiteKind × List Interface)) :
    (vlanOf vpn tagged).ports.map Port.key = Table.keys (Table.ofEntries
      ((tagged.flatMap fun entry => portsOf entry.2).map fun port => (port.key, port))) := by
  show (List.map Prod.snd _).map Port.key = List.map Prod.fst _
  rw [List.map_map]
  refine List.map_congr_left fun entry hentry => ?_
  obtain ⟨port, -, rfl⟩ := List.mem_map.mp (Table.mem_of_mem_ofEntries hentry)
  rfl

/-- The ports of a VLAN come in the order of their keys, and so of the bytes of their keys. -/
theorem pairwise_ports_vlanOf (vpn : Vpn) (tagged : List (SiteKind × List Interface)) :
    (vlanOf vpn tagged).ports.Pairwise fun port next =>
      Utf8.ofString port.key < Utf8.ofString next.key := by
  have hkeys : ((vlanOf vpn tagged).ports.map Port.key).Pairwise (· < ·) := by
    rw [map_key_ports_vlanOf]
    exact Table.ascending_ofEntries _
  exact (List.pairwise_map.mp hkeys).imp Utf8.ofString_lt_iff.mpr

/-- The ports of a VLAN are those of the interfaces on it. That a later port takes the place of an
earlier one with its key does not matter, since it is the same port. -/
theorem mem_ports_vlanOf :
    port ∈ (vlanOf vpn tagged).ports ↔ ∃ entry ∈ tagged, port ∈ portsOf entry.2 := by
  set entries := (tagged.flatMap fun entry => portsOf entry.2).map fun port => (port.key, port)
    with hentries
  have hnodup := (Table.ascending_ofEntries entries).nodup
  calc port ∈ (Table.ofEntries entries).map Prod.snd
      ↔ ∃ key, (key, port) ∈ Table.ofEntries entries := by simp
    _ ↔ ∃ key, (key, port) ∈ entries := by
        refine exists_congr fun key => ?_
        rw [← Table.get?_eq_some_iff hnodup,
          Table.get?_ofEntries_eq_some_iff fun _ _ _ => Port.eq_of_mem_keyed]
    _ ↔ ∃ entry ∈ tagged, port ∈ portsOf entry.2 := by
        simp [hentries]

/-- The sites of a VLAN are of the kinds of the switches that have a port on it. -/
theorem mem_sites_vlanOf :
    kind ∈ (vlanOf vpn tagged).sites ↔
      ∃ entry ∈ tagged, entry.1 = kind ∧ ∃ port, port ∈ portsOf entry.2 := by
  have hall : kind ∈ SiteKind.all := by cases kind <;> decide
  have hentry (entry : SiteKind × List Interface) :
      (if (portsOf entry.2).isEmpty then none else some entry.1) = some kind ↔
        entry.1 = kind ∧ ∃ port, port ∈ portsOf entry.2 := by
    rcases portsOf entry.2 with _ | ⟨port, ports⟩
    · simp
    · simp only [List.isEmpty_cons, Bool.false_eq_true, if_false, Option.some.injEq]
      exact (and_iff_left ⟨port, List.mem_cons_self⟩).symm
  show kind ∈ SiteKind.setOf _ ↔ _
  rw [SiteKind.setOf, List.mem_filter, List.contains_iff_mem, List.mem_filterMap,
    and_iff_right hall]
  exact exists_congr fun entry => and_congr_right fun _ => hentry entry

/-- The ports of a switch on the VLAN of a VPN are those of its interfaces that are described by
the name of the VPN. -/
theorem mem_portsOf_taggedIn {switch : SiteKind × Device} :
    port ∈ portsOf (taggedIn snapshot vpn switch).2 ↔
      ∃ interface ∈ snapshot.interfaces, interface.device = switch.2.id ∧
        interface.description = vpn.name ∧ Port.ofInterface? interface.name = some port := by
  simp only [portsOf, taggedIn, interfacesWhere_number, List.mem_filterMap, List.mem_filter,
    Bool.and_eq_true, decide_eq_true_eq, and_assoc]

/-- A serial resolves to one switch. -/
theorem Resolves.unique {entry : Site × String} {switch other : SiteKind × Device}
    (h : Resolves snapshot entry switch) (h' : Resolves snapshot entry other) : switch = other := by
  refine Prod.ext (h.2.trans h'.2.symm) ?_
  simpa using h.1.symm.trans h'.1

/-- Some switch that has been resolved has a property exactly if the one of some listed serial
has. -/
theorem exists_switch_iff {intent : Intent} {switches : List (SiteKind × Device)}
    (h : List.Forall₂ (Resolves snapshot) (listed Site.switches intent) switches)
    {P : SiteKind × Device → Prop} :
    (∃ switch ∈ switches, P switch) ↔
      ∃ site ∈ intent.sites, ∃ serial ∈ site.switches, ∃ device,
        snapshot.devices.filter (·.serial = serial) = [device] ∧ P (site.kind, device) := by
  rw [exists_mem_iff_of_forall₂ h fun _ _ _ => Resolves.unique]
  constructor
  · rintro ⟨⟨site, serial⟩, hlisted, ⟨kind, device⟩, ⟨hdevice, rfl⟩, hP⟩
    obtain ⟨hsite, hserial⟩ := mem_listed_iff.mp hlisted
    exact ⟨site, hsite, serial, hserial, device, hdevice, hP⟩
  · rintro ⟨site, hsite, serial, hserial, device, hdevice, hP⟩
    exact ⟨(site, serial), mem_listed_iff.mpr ⟨hsite, hserial⟩, (site.kind, device),
      ⟨hdevice, rfl⟩, hP⟩

/-- **The VLAN of a VPN over the listed switches is what the snapshot has for the VPN.** -/
theorem spans_vlanOf {intent : Intent} {switches : List (SiteKind × Device)}
    (h : List.Forall₂ (Resolves snapshot) (listed Site.switches intent) switches) (vpn : Vpn) :
    snapshot.Spans intent vpn (vlanOf vpn (switches.map (taggedIn snapshot vpn))) where
  id_eq := rfl
  name_eq := rfl
  mem_ports port := by
    simp only [mem_ports_vlanOf, List.mem_map, exists_exists_and_eq_and, mem_portsOf_taggedIn]
    exact exists_switch_iff h
  ascending := pairwise_ports_vlanOf vpn _
  nodup := (pairwise_ports_vlanOf vpn _).imp fun hlt heq => by
    rw [heq] at hlt
    exact List.lt_irrefl _ hlt
  mem_sites kind := by
    simp only [mem_sites_vlanOf, List.mem_map, exists_exists_and_eq_and, mem_portsOf_taggedIn]
    rw [exists_switch_iff h]
    refine exists_congr fun site => and_congr_right fun _ => ?_
    constructor
    · rintro ⟨serial, hserial, device, hdevice, hkind, port, hport⟩
      exact ⟨hkind, serial, hserial, port, device, hdevice, hport⟩
    · rintro ⟨hkind, serial, hserial, port, device, hdevice, hport⟩
      exact ⟨serial, hserial, device, hdevice, hkind, port, hport⟩
  sites_ordered := List.filter_sublist

/-- A port found twice counts once, and an interface that is no port counts for nothing. -/
example : vlanOf ⟨10, "data", []⟩
    [(.dataCentre, [⟨1, 1, "GigabitEthernet1/0/2.7", "data"⟩, ⟨2, 1, "GigabitEthernet1/0/2", "data"⟩]),
      (.branch, [⟨3, 2, "Vlan10", "data"⟩])] =
    ⟨10, "data", [.dataCentre], [⟨.gigabit, "1/0/2"⟩]⟩ := by
  decide

end Vlans

/-! ## Serials without a device -/

section Failure

variable (snapshot : Snapshot) (intent : Intent)

/-- The switch of a listed serial, or why there is none. -/
def resolve (entry : Site × String) : Except Fault (SiteKind × Device) :=
  (fun device => (entry.1.kind, device)) <$>
    (Inventory.single .device (Inventory.serialQuery entry.2)
      (snapshot.devicesBySerial entry.2)).mapError (.lookup entry.2)

/-- A serial is resolved exactly if one device has it. -/
theorem resolve_eq_ok_iff (entry : Site × String) (switch : SiteKind × Device) :
    resolve snapshot entry = .ok switch ↔ Resolves snapshot entry switch := by
  have hfound (device : Device) : snapshot.devices.filter (·.serial = entry.2) = [device] ↔
      Inventory.single .device (Inventory.serialQuery entry.2)
        (snapshot.devicesBySerial entry.2) = .ok device :=
    Inventory.single_eq_ok_iff.symm
  have htold (result : Except Inventory.Fault Device) (device : Device) :
      result.mapError (Fault.lookup entry.2) = .ok device ↔ result = .ok device := by
    cases result <;> simp [Except.mapError]
  unfold resolve Resolves
  simp only [map_eq_ok_iff, htold, hfound]
  constructor
  · rintro ⟨device, hdevice, rfl⟩
    exact ⟨hdevice, rfl⟩
  · rintro ⟨hdevice, hkind⟩
    exact ⟨switch.2, hdevice, Prod.ext hkind.symm rfl⟩

/-- A serial is resolved to some switch exactly if one device has it. -/
theorem exists_resolves_iff (entry : Site × String) :
    (∃ switch, Resolves snapshot entry switch) ↔
      ∃ device, snapshot.devices.filter (·.serial = entry.2) = [device] :=
  ⟨fun ⟨switch, hdevice, _⟩ => ⟨switch.2, hdevice⟩,
    fun ⟨device, hdevice⟩ => ⟨(entry.1.kind, device), hdevice, rfl⟩⟩

/-- A serial is not resolved exactly if it does not belong to one device. -/
theorem resolve_eq_error_iff (entry : Site × String) (fault : Fault) :
    resolve snapshot entry = .error fault ↔
      ∃ cause, snapshot.Unresolved entry.2 cause ∧ fault = .lookup entry.2 cause := by
  have hunresolved (cause : Inventory.Fault) : snapshot.Unresolved entry.2 cause ↔
      Inventory.single .device (Inventory.serialQuery entry.2)
        (snapshot.devicesBySerial entry.2) = .error cause :=
    Inventory.single_eq_error_iff.symm
  simp only [hunresolved, resolve]
  rcases Inventory.single .device (Inventory.serialQuery entry.2)
    (snapshot.devicesBySerial entry.2) with cause | device
  · simp [Except.mapError, eq_comm]
  · simp [Except.mapError]

/-- The devices of serials that are asked for one after the other are those they resolve to. -/
theorem mapM_ask_deviceBySerial (entries : List (Site × String)) :
    (entries.mapM fun entry => do
      let device ← ask entry.2 ((snapshot.inventory σ).deviceBySerial entry.2)
      return (entry.1.kind, device)) =
      (Action.ofExcept (entries.mapM (resolve snapshot)) :
        Action σ Fault (List (SiteKind × Device))) := by
  rw [← Action.mapM_ofExcept]
  congr 1
  funext entry
  show Action.mapFailure _ (Action.ofExcept _) >>= _ = _
  unfold resolve
  rcases Inventory.single .device (Inventory.serialQuery entry.2)
    (snapshot.devicesBySerial entry.2) with cause | device
  · rfl
  · rfl

/-- Switching variables are not derived exactly if some listed serial is not resolved.

**Proof sketch.** The serials are resolved one after the other, before anything else is asked. If
all of them are resolved there is a document, by `yields_switching`, and so no failure. -/
theorem perform_switching_eq_error_iff (s : σ) {fault : Fault} :
    ((switching (snapshot.inventory σ) intent).perform s).1 = .error fault ↔
      (listed Site.switches intent).mapM (resolve snapshot) = .error fault := by
  rcases hresolved : (listed Site.switches intent).mapM (resolve snapshot) with e | switches
  · unfold switching
    rw [mapM_ask_deviceBySerial, hresolved, Action.ofExcept_error_bind, Action.perform_ofExcept,
      Except.error.injEq, Except.error.injEq]
  · have hswitches : List.Forall₂ (Resolves snapshot) (listed Site.switches intent) switches :=
      (mapM_eq_ok_iff.mp hresolved).imp fun entry switch => (resolve_eq_ok_iff snapshot _ _).mp
    have hdocument := ((yields_switching snapshot intent).result_eq_ok_iff s).mpr
      ⟨switches, hswitches, rfl⟩
    rw [hdocument]
    exact ⟨nofun, nofun⟩

/-- **Switching variables are not derived exactly if some serial does not belong to one device.**
The derivation fails with the first such serial in document order. -/
theorem switching_eq_error_iff (s : σ) {fault : Fault} :
    ((switching (snapshot.inventory σ) intent).perform s).1 = .error fault ↔
      ∃ before site serial after cause,
        listed Site.switches intent = before ++ (site, serial) :: after ∧
        (∀ entry ∈ before, ∃ device, snapshot.devices.filter (·.serial = entry.2) = [device]) ∧
        snapshot.Unresolved serial cause ∧ fault = .lookup serial cause := by
  rw [perform_switching_eq_error_iff, mapM_eq_error_iff]
  simp only [resolve_eq_ok_iff, exists_resolves_iff, resolve_eq_error_iff]
  constructor
  · rintro ⟨before, ⟨site, serial⟩, after, hlisted, hbefore, cause, hcause, hfault⟩
    exact ⟨before, site, serial, after, cause, hlisted, hbefore, hcause, hfault⟩
  · rintro ⟨before, site, serial, after, cause, hlisted, hbefore, hcause, hfault⟩
    exact ⟨before, (site, serial), after, hlisted, hbefore, cause, hcause, hfault⟩

end Failure

/-! ## Completeness -/

/-- **Switching variables are complete and exact**: they are derived from a snapshot exactly if
each serial that a site lists belongs to one device, and otherwise the derivation fails with the
first serial in document order that does not. If they are derived there is a switch for each listed
serial in document order, which is the device with the serial; there is a VLAN for each VPN in
their order, which is what the snapshot has for the VPN; and the roles are those of the snapshot
that some switch has.

**Proof sketch.** What is yielded is followed from the questions to the document. The ports of all
switches are put in one table under their keys; a key tells its port, so the table has every port
that carries the VPN, and nothing else. A table is ascending by its keys as texts, which is their
order as bytes by `Utf8.ofString_lt_iff`. -/
theorem switching_complete (snapshot : Snapshot) (intent : Intent) (s : σ) :
    let result := ((switching (snapshot.inventory σ) intent).perform s).1
    let listing := intent.sites.flatMap fun site => site.switches.map fun serial => (site, serial)
    ((∃ document, result = .ok document) ↔
      ∀ site ∈ intent.sites, ∀ serial ∈ site.switches,
        ∃ device, snapshot.devices.filter (·.serial = serial) = [device]) ∧
    (∀ fault, result = .error fault ↔
      ∃ before site serial after cause, listing = before ++ (site, serial) :: after ∧
        (∀ entry ∈ before, ∃ device, snapshot.devices.filter (·.serial = entry.2) = [device]) ∧
        snapshot.Unresolved serial cause ∧ fault = .lookup serial cause) ∧
    ∀ document, result = .ok document →
      List.Forall₂ (fun (_, serial) switch =>
          ∃ device, snapshot.devices.filter (·.serial = serial) = [device] ∧
            switch = ⟨device.serial, device.name, device.site, device.role⟩)
          listing document.switches ∧
        List.Forall₂ (snapshot.Spans intent) intent.vpns document.vlans ∧
        document.roles = snapshot.roles.filter (document.switches.map (·.role)).contains := by
  intro result listing
  have hyields {document : Switching.Document} :=
    (yields_switching snapshot intent).result_eq_ok_iff s (a := document)
  refine ⟨?_, fun fault => switching_eq_error_iff snapshot intent s, ?_⟩
  · calc (∃ document, result = .ok document)
        ↔ ∃ switches, List.Forall₂ (Resolves snapshot) (listed Site.switches intent) switches := by
          simp only [result, hyields]
          exact ⟨fun ⟨_, switches, hswitches, _⟩ => ⟨switches, hswitches⟩,
            fun ⟨switches, hswitches⟩ => ⟨_, switches, hswitches, rfl⟩⟩
      _ ↔ ∀ entry ∈ listed Site.switches intent,
            ∃ device, snapshot.devices.filter (·.serial = entry.2) = [device] := by
          rw [exists_forall₂_iff]
          exact forall₂_congr fun entry _ => exists_resolves_iff snapshot entry
      _ ↔ _ := by
          simp only [listed, List.forall_mem_flatMap, List.forall_mem_map]
  · intro document hdocument
    obtain ⟨switches, hswitches, rfl⟩ := hyields.mp hdocument
    refine ⟨?_, ?_, ?_⟩
    · rw [List.forall₂_map_right_iff]
      exact hswitches.imp fun _ switch h => ⟨switch.2, h.1, rfl⟩
    · rw [List.forall₂_map_right_iff, List.forall₂_same]
      exact fun vpn _ => spans_vlanOf hswitches vpn
    · show snapshot.roles.filter (switches.map (·.2.role)).contains = _
      rw [List.map_map]
      rfl

end Derivation

end NetworkIntent
