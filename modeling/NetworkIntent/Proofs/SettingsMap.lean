import NetworkIntent.Proofs.VariablesRestored

/-!
# Settings as a map of VPNs

What the VPNs of a router are bound to is kept as texts under keys that are put together from words
and numbers, and in a document these texts stand among the system settings. They are a map from VPNs
all the same. A key tells the number of its VPN, negative or not, and ends in what it is for; and
none starts like a field of the system settings. So a document has two entries for each VPN that is
bound, no matter how often, and they are those of its last binding.

## Main definitions

* `Routing.lastBindings`: the last binding of each VPN that is bound.

## Main results

* `Routing.Variables.interface?_bind`, `Routing.Variables.address?_bind`: to bind a VPN changes what
  this VPN is bound to, and no other one.
* `Routing.ofEntries_lastBindings`: no other bindings count than the last ones.
* `Routing.Variables.perm_fields_bindAll`: the entries of the document of settings.
* `Routing.Variables.bound_as_map`: settings are a map of VPNs, which is written and read back.
-/

set_option autoImplicit false

namespace NetworkIntent.Routing

open Json Variables

variable {bindings : List Binding}

/-! ## Last bindings -/

/-- The last thing for a VPN is one of the things, and is for this VPN. -/
theorem mem_and_eq_of_lastFor {α : Type} {idOf : α → Int64} {vpn : Int64} {items : List α}
    {item : α} (h : lastFor idOf vpn items = some item) : item ∈ items ∧ idOf item = vpn := by
  have hmem : item ∈ items.filter (idOf · = vpn) := List.mem_of_getLast? h
  obtain ⟨hitem, hvpn⟩ := List.mem_filter.mp hmem
  exact ⟨hitem, of_decide_eq_true hvpn⟩

/-- If there is a thing for a VPN, there is a last one. -/
theorem exists_lastFor_of_mem {α : Type} (idOf : α → Int64) {items : List α} {item : α}
    (h : item ∈ items) : ∃ last, lastFor idOf (idOf item) items = some last := by
  have hne : items.filter (idOf · = idOf item) ≠ [] :=
    List.ne_nil_of_mem (List.mem_filter.mpr ⟨h, decide_eq_true rfl⟩)
  exact ⟨_, List.getLast?_eq_some_getLast hne⟩

/-- The last binding of each VPN that is bound. -/
def lastBindings (bindings : List Binding) : List Binding :=
  (bindings.map Binding.vpn).dedup.filterMap fun vpn => lastFor Binding.vpn vpn bindings

/-- The last bindings are those that are the last ones for their VPNs. -/
theorem mem_lastBindings_iff {binding : Binding} :
    binding ∈ lastBindings bindings ↔ lastFor Binding.vpn binding.vpn bindings = some binding := by
  rw [lastBindings, List.mem_filterMap]
  constructor
  · rintro ⟨vpn, -, hlast⟩
    rwa [(mem_and_eq_of_lastFor hlast).2]
  · intro hlast
    have hvpn : binding.vpn ∈ (bindings.map Binding.vpn).dedup :=
      List.mem_dedup.mpr (List.mem_map_of_mem (mem_and_eq_of_lastFor hlast).1)
    exact ⟨binding.vpn, hvpn, hlast⟩

/-- There is one last binding for each VPN that is bound. -/
theorem map_vpn_lastBindings (bindings : List Binding) :
    (lastBindings bindings).map Binding.vpn = (bindings.map Binding.vpn).dedup := by
  have hone : ∀ vpn ∈ (bindings.map Binding.vpn).dedup,
      (lastFor Binding.vpn vpn bindings).map Binding.vpn = some vpn := by
    intro vpn hvpn
    obtain ⟨binding, hbinding, rfl⟩ := List.mem_map.mp (List.mem_dedup.mp hvpn)
    obtain ⟨last, hlast⟩ := exists_lastFor_of_mem Binding.vpn hbinding
    rw [hlast, Option.map_some, (mem_and_eq_of_lastFor hlast).2]
  rw [lastBindings, List.map_filterMap, List.filterMap_congr hone, List.filterMap_some]

/-! ## Keys and entries -/

/-- Bindings of different VPNs have different keys. -/
theorem nodup_keys_entries (h : (bindings.map Binding.vpn).Nodup) :
    (Table.keys (bindings.flatMap Binding.entries)).Nodup := by
  rw [Table.keys, List.map_flatMap, List.nodup_flatMap]
  refine ⟨fun binding _ => ?_, (List.pairwise_map.mp h).imp fun hne => ?_⟩
  · simp [Binding.entries, interfaceKey_ne_addressKey]
  · simp [Function.onFun, Binding.entries, interfaceKey_inj, addressKey_inj, Ne.symm hne,
      interfaceKey_ne_addressKey, (interfaceKey_ne_addressKey _ _).symm]

/-- **No other bindings count than the last ones.** -/
theorem ofEntries_lastBindings (bindings : List Binding) :
    Table.ofEntries (bindings.flatMap Binding.entries) =
      Table.ofEntries ((lastBindings bindings).flatMap Binding.entries) := by
  refine (Table.ascending_ofEntries _).eq_ofEntries (fun key hkey => ?_) fun key value hentry => ?_
  · -- the keys of any binding are those of the last one for the same VPN
    obtain ⟨binding, hbinding, hkind⟩ := mem_keys_bindings_iff.mp hkey
    obtain ⟨last, hlast⟩ := exists_lastFor_of_mem Binding.vpn hbinding
    rw [← (mem_and_eq_of_lastFor hlast).2] at hkind hlast
    exact Table.mem_keys_ofEntries_iff.mp
      (mem_keys_bindings_iff.mpr ⟨last, mem_lastBindings_iff.mpr hlast, hkind⟩)
  · obtain ⟨last, hmem, hentry⟩ := List.mem_flatMap.mp hentry
    have hlast := mem_lastBindings_iff.mp hmem
    rcases List.mem_pair.mp hentry with heq | heq
    · cases heq
      rw [get?_interfaceKey, hlast, Option.map_some]
    · cases heq
      rw [get?_addressKey, hlast, Option.map_some]

namespace Variables

variable (settings : Variables) (siteId : Int64) (systemIp hostName : String)

/-! ## Binding -/

/-- A VPN that is bound has the interface, and all others keep theirs. -/
theorem interface?_bind (vpn : Int64) (interface address : String) (other : Int64) :
    (settings.bind vpn interface address).interface? other =
      if other = vpn then some interface else settings.interface? other := by
  rw [interface?, bind, Table.get?_insert, Table.get?_insert,
    if_neg (interfaceKey_ne_addressKey other vpn).symm]
  simp only [interfaceKey_inj, eq_comm, interface?]

/-- A VPN that is bound has the address, and all others keep theirs. -/
theorem address?_bind (vpn : Int64) (interface address : String) (other : Int64) :
    (settings.bind vpn interface address).address? other =
      if other = vpn then some address else settings.address? other := by
  rw [address?, bind, Table.get?_insert, Table.get?_insert,
    if_neg (interfaceKey_ne_addressKey vpn other)]
  simp only [addressKey_inj, eq_comm, address?]

/-- To bind VPNs one after the other is to make all their bindings. -/
theorem foldl_bind (bindings : List Binding) :
    bindings.foldl (fun settings binding =>
      settings.bind binding.vpn binding.interface binding.address) settings =
      settings.bindAll bindings := by
  induction bindings generalizing settings with
  | nil => rfl
  | cons binding rest ih => rw [List.foldl_cons, ih, bindAll_cons]

/-! ## Documents -/

/-- The table of bindings has two entries for each VPN, those of its last binding. -/
theorem perm_bindings (bindings : List Binding) :
    ((new siteId systemIp hostName).bindAll bindings).bindings.Perm
      ((lastBindings bindings).flatMap Binding.entries) := by
  have hvpns : ((lastBindings bindings).map Binding.vpn).Nodup := by
    rw [map_vpn_lastBindings]
    exact List.nodup_dedup _
  have htable : ((new siteId systemIp hostName).bindAll bindings).bindings =
      Table.ofEntries ((lastBindings bindings).flatMap Binding.entries) :=
    ofEntries_lastBindings bindings
  rw [htable]
  exact Table.ofEntries_perm_of_nodup (nodup_keys_entries hvpns)

variable {settings} in
/-- The document of sound settings has the entries of the system settings and of the bindings. -/
theorem Sound.perm_fields (h : settings.Sound) :
    settings.fields.Perm (settings.systemEntries ++ settings.bindingEntries) := by
  refine Table.ofEntries_perm_of_nodup ?_
  rw [Table.keys, List.map_append]
  refine List.Nodup.append settings.nodup_systemEntries h.ascending_bindingEntries.nodup ?_
  intro key hsystem hbinding
  have hslot := settings.mem_keys_systemEntries_iff.mp hsystem
  rw [h.apart key (settings.keys_bindingEntries ▸ hbinding)] at hslot
  exact Bool.false_ne_true hslot

/-- The document of settings has three entries for the system settings and two for each VPN that is
bound. -/
theorem perm_fields_bindAll (bindings : List Binding) :
    ((new siteId systemIp hostName).bindAll bindings).fields.Perm
      ([("system_site_id", .ofInt64 siteId), ("system_system_ip", .str systemIp),
          ("system_host_name", .str hostName)] ++
        (lastBindings bindings).flatMap fun binding =>
          [(interfaceKey binding.vpn, .str binding.interface),
            (addressKey binding.vpn, .str binding.address)]) := by
  have hsound : ((new siteId systemIp hostName).bindAll bindings).Sound :=
    (sound_new siteId systemIp hostName).bindAll bindings
  have hbindings := (perm_bindings siteId systemIp hostName bindings).map
    fun entry => (entry.1, Json.str entry.2)
  rw [List.map_flatMap] at hbindings
  exact hsound.perm_fields.trans (hbindings.append_left _)

/-- **Settings are a map of VPNs.** After any bindings, a VPN has the interface and the address of
its last binding, and has none if it was not bound; and to bind a VPN of whatever settings changes
nothing for the others. The document of the settings is an object with one entry for each of the
three system settings and two for each VPN that is bound, no key of which comes twice. The settings
are read back from it, and it is itself read back from its text in any layout.

**Proof sketch.** Numerals of different numbers differ, and the keys for interfaces and for
addresses end in different words, so the last entry for a key is that of the last binding of its
VPN. Only the last bindings count, therefore, and they have different keys. None of these is a field
of the system settings, all of which start with another letter. -/
theorem bound_as_map (bindings : List Binding) :
    let settings := bindings.foldl (fun settings binding =>
      settings.bind binding.vpn binding.interface binding.address) (new siteId systemIp hostName)
    (∀ vpn,
      settings.interface? vpn = (lastFor Binding.vpn vpn bindings).map Binding.interface ∧
      settings.address? vpn = (lastFor Binding.vpn vpn bindings).map Binding.address) ∧
    (∀ (before : Variables) (vpn : Int64) (interface address : String) (other : Int64),
      (before.bind vpn interface address).interface? other =
        (if other = vpn then some interface else before.interface? other) ∧
      (before.bind vpn interface address).address? other =
        (if other = vpn then some address else before.address? other)) ∧
    (∃ fields, settings.toJson = .obj fields ∧ Table.Ascending fields ∧
      fields.length = 3 + 2 * (bindings.map Binding.vpn).dedup.length ∧
      fields.Perm
        ([("system_site_id", .ofInt64 siteId), ("system_system_ip", .str systemIp),
            ("system_host_name", .str hostName)] ++
          (lastBindings bindings).flatMap fun binding =>
            [(interfaceKey binding.vpn, .str binding.interface),
              (addressKey binding.vpn, .str binding.address)])) ∧
    decoder.ofJson settings.toJson = .ok settings ∧
    ∀ layout, Json.parse (Utf8.ofString (settings.toJson.render layout)) = .ok settings.toJson := by
  intro settings
  have hmade : settings = (new siteId systemIp hostName).bindAll bindings := foldl_bind _ bindings
  clear_value settings
  subst hmade
  have hperm := perm_fields_bindAll siteId systemIp hostName bindings
  have hrestores := restores ((sound_new siteId systemIp hostName).bindAll bindings)
  refine ⟨fun vpn => ⟨get?_interfaceKey vpn bindings, get?_addressKey vpn bindings⟩, ?_,
    ⟨_, rfl, Table.ascending_ofEntries _, ?_, hperm⟩, hrestores.read, fun layout => ?_⟩
  · intro before vpn interface address other
    exact ⟨before.interface?_bind vpn interface address other,
      before.address?_bind vpn interface address other⟩
  · have hlength : (lastBindings bindings).length = (bindings.map Binding.vpn).dedup.length := by
      rw [← map_vpn_lastBindings, List.length_map]
    rw [← hlength]
    refine hperm.length_eq.trans ?_
    simp only [List.length_append, List.length_flatMap, List.length_cons, List.length_nil,
      List.map_const', List.sum_replicate, smul_eq_mul]
    omega
  · have hparse := parse_render layout (hrestores.storable.storable (by decide))
      (List.dropWhile_nil : skipGap [] = [])
    rwa [List.append_nil] at hparse

/-- A VPN with a negative number has keys of its own, and its second binding counts. -/
example :
    ((new 7 "10.255.0.1" "hq").bindAll
      [⟨-1, "Gi1", "10.0.0.1/24"⟩, ⟨1, "Gi2", "10.0.1.1/24"⟩, ⟨-1, "Gi3", "10.0.2.1/24"⟩]).toJson =
    .obj [("system_host_name", .str "hq"), ("system_site_id", .int 7),
      ("system_system_ip", .str "10.255.0.1"), ("vpn-1_interface", .str "Gi3"),
      ("vpn-1_ipv4_address", .str "10.0.2.1/24"), ("vpn1_interface", .str "Gi2"),
      ("vpn1_ipv4_address", .str "10.0.1.1/24")] := by
  decide +kernel

end Variables

end NetworkIntent.Routing
