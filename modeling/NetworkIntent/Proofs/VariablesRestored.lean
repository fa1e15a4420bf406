import NetworkIntent.Proofs.Json.Restored
import NetworkIntent.Proofs.Recompilation

/-!
# Variables that are read back

The settings of a router stand beside its bindings in one object, so they are told apart when they
are read by the keys alone. The bindings that are derived have keys of their own for every number of
a VPN, and so whatever is derived is read back from the document that it is written as.

## Main definitions

* `Routing.Variables.Sound`: bindings that can be told apart from the settings beside them.

## Main results

* `Routing.Variables.restores`: sound settings are read back.
* `Derivation.ensures_sound`: over any inventory, sound settings are derived.
* `Routing.Document.restores`, `Switching.Document.restores`: so the variables are read back.
* `Compiler.variables_restored`: compiled variables are read back from the store.
-/

set_option autoImplicit false

namespace NetworkIntent

open Json

/-! ## Parts of variables -/

/-- The kind of sites with a name is read back. -/
theorem SiteKind.restores {levels : Nat} (kind : SiteKind) :
    SiteKind.decoder.Restores levels kind.toJson kind :=
  ⟨storableIn_str kind.name, SiteKind.decoder_str_eq_ok_iff.mpr rfl⟩

/-- VPNs are read back. -/
theorem Vpn.restores (vpn : Vpn) : Vpn.decoder.Restores 2 vpn.toJson vpn :=
  ((((Record.Restores.pure Vpn.mk).more (.required (.int64 vpn.id) "id")).more
    (.required (.text vpn.name) "name")).more
    (.withDefault (.list fun kind _ => kind.restores) "sites" [])).decoder Vpn.plain_record _

/-- Ports are read back. -/
theorem Port.restores (port : Port) : Port.decoder.Restores 1 port.toJson port := by
  have hfamily : Port.familyDecoder.Restores 0 (.str port.family.name) port.family := by
    refine ⟨storableIn_str _, Decoder.ofNames_str_eq_ok_iff.mpr ?_⟩
    cases port.family <;> decide
  exact (((Record.Restores.pure Port.mk).more (.required hfamily "type")).more
    (.required (.text port.position) "name")).decoder (by decide) _

namespace Routing

namespace Variables

/-! ## Settings of routers -/

/-- The bindings of a router are a table, none of whose keys is a field of the system settings. -/
structure Sound (settings : Variables) : Prop where
  ascending : Table.Ascending settings.bindings
  apart : ∀ key ∈ Table.keys settings.bindings, record.slotOf? key = none

/-- A key that starts like those of the VPNs is no field of the system settings. -/
theorem slotOf?_eq_none {key : String} (h : key.toList.head? = some 'v') :
    record.slotOf? key = none := by
  have hnames : ∀ slot ∈ record.slots, slot.aliases = [] ∧ slot.name.toList.head? = some 's' := by
    decide
  refine List.find?_eq_none.mpr fun slot hslot hkey => ?_
  obtain ⟨haliases, hname⟩ := hnames slot hslot
  have hsame : slot.name = key := by simpa [Slot.hasKey, haliases] using hkey
  rw [hsame, h] at hname
  exact absurd hname (by decide)

/-- Settings without VPNs are sound. -/
theorem sound_new (siteId : Int64) (systemIp hostName : String) :
    (new siteId systemIp hostName).Sound :=
  ⟨Table.ascending_nil, fun _ hkey => nomatch hkey⟩

variable {settings : Variables}

/-- Sound settings stay sound if a VPN is bound. -/
theorem Sound.bind (h : settings.Sound) (vpn : Int64) (interface address : String) :
    (settings.bind vpn interface address).Sound where
  ascending := (h.ascending.insert _ _).insert _ _
  apart key hkey := by
    rcases Table.mem_keys_insert hkey with rfl | hkey
    · exact slotOf?_eq_none (by simp [addressKey, toString])
    rcases Table.mem_keys_insert hkey with rfl | hkey
    · exact slotOf?_eq_none (by simp [interfaceKey, toString])
    exact h.apart key hkey

/-- Sound settings stay sound if several VPNs are bound. -/
theorem Sound.bindAll (h : settings.Sound) (bindings : List Binding) :
    (settings.bindAll bindings).Sound := by
  induction bindings generalizing settings with
  | nil => exact h
  | cons binding rest ih =>
    rw [bindAll_cons]
    exact ih (h.bind _ _ _)

/-- The entries of the system settings. -/
def systemEntries (settings : Variables) : Fields :=
  [("system_site_id", .ofInt64 settings.siteId), ("system_system_ip", .str settings.systemIp),
    ("system_host_name", .str settings.hostName)]

/-- The system settings are made of their entries. -/
theorem restores_systemEntries (settings : Variables) : record.Restores 0 settings.systemEntries
    (settings.siteId, settings.systemIp, settings.hostName) :=
  (((@Record.Restores.pure _ 0 fun (siteId : Int64) (systemIp hostName : String) =>
    (siteId, systemIp, hostName)).more
    (.required (.int64 settings.siteId) "system_site_id")).more
    (.required (.text settings.systemIp) "system_system_ip")).more
    (.required (.text settings.hostName) "system_host_name")

/-- The entries of the bindings. -/
def bindingEntries (settings : Variables) : Fields :=
  settings.bindings.map fun entry => (entry.1, .str entry.2)

theorem keys_bindingEntries (settings : Variables) :
    Table.keys settings.bindingEntries = Table.keys settings.bindings := by
  rw [bindingEntries, Table.keys, List.map_map]
  rfl

theorem nodup_systemEntries (settings : Variables) :
    (Table.keys settings.systemEntries).Nodup := by
  rw [settings.restores_systemEntries.keys_eq]
  decide

/-- The system settings have an entry for each of their fields. -/
theorem mem_keys_systemEntries_iff (settings : Variables) {key : String} :
    key ∈ Table.keys settings.systemEntries ↔ (record.slotOf? key).isSome := by
  have hplain : record.Plain := by decide
  rw [settings.restores_systemEntries.keys_eq, List.mem_map, Option.isSome_iff_exists]
  exact exists_congr fun slot => hplain.slotOf?_eq_some_iff.symm

/-- The fields of the document of settings. -/
def fields (settings : Variables) : Fields :=
  Table.ofEntries (settings.systemEntries ++ settings.bindingEntries)

theorem Sound.ascending_bindingEntries (h : settings.Sound) :
    Table.Ascending settings.bindingEntries := by
  rw [Table.Ascending, keys_bindingEntries]
  exact h.ascending

/-- The fields of the system settings are looked up among their entries, and all other keys among
those of the bindings. -/
theorem Sound.get?_fields (h : settings.Sound) (key : String) :
    Table.get? key settings.fields = if (record.slotOf? key).isSome
      then Table.get? key settings.systemEntries else Table.get? key settings.bindingEntries := by
  rw [fields, Table.get?_ofEntries_append, Table.get?_ofEntries_of_nodup settings.nodup_systemEntries,
    Table.get?_ofEntries_of_ascending h.ascending_bindingEntries]
  by_cases hslot : (record.slotOf? key).isSome
  · have hnone : Table.get? key settings.bindingEntries = none := by
      rw [Table.get?_eq_none_iff, keys_bindingEntries]
      intro hkey
      rw [h.apart key hkey] at hslot
      exact Bool.false_ne_true hslot
    rw [hnone, Option.none_or, if_pos hslot]
  · have hnone : Table.get? key settings.systemEntries = none := by
      rw [Table.get?_eq_none_iff, mem_keys_systemEntries_iff]
      exact hslot
    rw [hnone, Option.or_none, if_neg hslot]

/-- The entries that are no fields of the system settings are those of the bindings. -/
theorem Sound.filter_fields (h : settings.Sound) :
    (settings.fields.filter fun entry => (record.slotOf? entry.1).isNone) =
      settings.bindingEntries := by
  have hascending : Table.Ascending settings.fields := Table.ascending_ofEntries _
  refine (hascending.filter _).ext h.ascending_bindingEntries fun key => ?_
  rw [Table.get?_filter (fun key => (record.slotOf? key).isNone), h.get?_fields]
  rcases hslot : record.slotOf? key with _ | slot
  · rw [Option.isNone_none, Option.isSome_none, if_pos rfl, if_neg Bool.false_ne_true]
  · rw [Option.isNone_some, if_neg Bool.false_ne_true, eq_comm, Table.get?_eq_none_iff,
      keys_bindingEntries]
    intro hkey
    rw [h.apart key hkey] at hslot
    exact absurd hslot (by simp)

/-- **Sound settings are read back.**

**Proof sketch.** The system settings are looked up among their own entries, since no binding has
one of their keys; and the entries of all other keys are those of the bindings, in their order. -/
theorem restores (h : settings.Sound) : decoder.Restores 1 settings.toJson settings where
  storable := by
    refine .ofEntries (List.forall_mem_append.mpr ⟨settings.restores_systemEntries.storable, ?_⟩)
    exact List.forall_mem_map.mpr fun _ _ => storableIn_str _
  read := by
    have hsystem : record.ofFields settings.fields =
        .ok (settings.siteId, settings.systemIp, settings.hostName) := by
      refine settings.restores_systemEntries.ofFields (by decide)
        (Table.ascending_ofEntries _).nodup fun entry hentry => ?_
      have hfield : (record.slotOf? entry.1).isSome :=
        settings.mem_keys_systemEntries_iff.mp (List.mem_map_of_mem hentry)
      rw [h.get?_fields, if_pos hfield]
      exact (Table.get?_eq_some_iff settings.nodup_systemEntries).mpr hentry
    have hbindings : (settings.bindingEntries.mapM fun entry =>
        (entry.1, ·) <$> Decoder.text.ofJson entry.2) = .ok settings.bindings := by
      rw [mapM_eq_ok_iff, bindingEntries, List.forall₂_map_left_iff, List.forall₂_same]
      intro entry _
      rw [Decoder.text_eq_ok_iff.mpr rfl]
      rfl
    have hothers : (settings.fields.filter fun entry => (record.slotOf? entry.1).isNone).mapM
        (fun entry => (entry.1, ·) <$> Decoder.text.ofJson entry.2) = .ok settings.bindings := by
      rw [h.filter_fields, hbindings]
    have hrest : ∀ read : Except Json.Mismatch (Table String), read = .ok settings.bindings →
        (read.bind fun bindings => Except.ok (Variables.mk settings.siteId settings.systemIp
          settings.hostName bindings)) = .ok settings := by
      rintro _ rfl
      rfl
    change ofJson (.obj settings.fields) = .ok settings
    rw [ofJson, hsystem]
    exact hrest _ hothers

end Variables

/-! ## Routing -/

/-- Routers with sound settings are read back. -/
theorem Router.restores {router : Router} (h : router.settings.Sound) :
    Router.decoder.Restores 2 router.toJson router :=
  ((((Record.Restores.pure Router.mk).more (.required (.text router.serial) "id")).more
    (.required (.text router.role) "type")).more
    (.required (Variables.restores h) "variables")).decoder (by decide) _

/-- Routing variables are read back if the settings of all routers are sound. -/
theorem Document.restores {document : Document}
    (h : ∀ router ∈ document.routers, router.settings.Sound) :
    Document.decoder.Restores 4 document.toJson document :=
  ((((Record.Restores.pure Document.mk).more
    (.required (.list fun router hrouter => Router.restores (h router hrouter)) "router")).more
    (.required (.mono (.list fun vpn _ => vpn.restores) (Nat.le_refl 3)) "vpns")).more
    (.required (.texts document.roles) "device_roles")).decoder (by decide) _

end Routing

/-! ## Switching -/

/-- A set of kinds of sites is its own set. -/
theorem SiteKind.setOf_setOf (kinds : List SiteKind) : setOf (setOf kinds) = setOf kinds := by
  refine List.filter_congr fun kind hkind => ?_
  rw [Bool.eq_iff_iff, List.contains_iff_mem, List.contains_iff_mem, setOf, List.mem_filter,
    List.contains_iff_mem]
  exact and_iff_right hkind

namespace Switching

/-- Switches are read back. -/
theorem Switch.restores (switch : Switch) : Switch.decoder.Restores 1 switch.toJson switch :=
  (((((Record.Restores.pure Switch.mk).more (.required (.text switch.serial) "id")).more
    (.required (.text switch.name) "name")).more (.required (.text switch.site) "site")).more
    (.required (.text switch.role) "type")).decoder (by decide) _

/-- VLANs are read back if their kinds of sites are a set. -/
theorem Vlan.restores {vlan : Vlan} (h : SiteKind.setOf vlan.sites = vlan.sites) :
    Vlan.decoder.Restores 3 vlan.toJson vlan := by
  have hmade : Vlan.decoder.Restores 3 vlan.toJson
      ⟨vlan.id, vlan.name, SiteKind.setOf vlan.sites, vlan.ports⟩ :=
    (((((Record.Restores.pure fun id name sites ports =>
        Vlan.mk id name (SiteKind.setOf sites) ports).more
      (.required (.int64 vlan.id) "id")).more (.required (.text vlan.name) "name")).more
      (.required (.list fun kind _ => kind.restores) "sites")).more
      (.required (.list fun port _ => port.restores) "interfaces")).decoder (by decide) _
  rw [h] at hmade
  exact hmade

/-- Switching variables are read back if the kinds of sites of all VLANs are sets. -/
theorem Document.restores {document : Document}
    (h : ∀ vlan ∈ document.vlans, SiteKind.setOf vlan.sites = vlan.sites) :
    Document.decoder.Restores 5 document.toJson document :=
  ((((Record.Restores.pure Document.mk).more
    (.required (.mono (.list fun switch _ => switch.restores) (by decide : 2 ≤ 4)) "switches")).more
    (.required (.list fun vlan hvlan => Vlan.restores (h vlan hvlan)) "vlans")).more
    (.required (.texts document.roles) "device_roles")).decoder (by decide) _

end Switching

/-! ## Derived variables -/

namespace Derivation

variable {σ : Type} {inventory : Inventory σ}

/-- The settings of a router that is derived are sound. -/
theorem ensures_sound_router (intent : Intent) (site : Site) (serial : String) :
    (router inventory intent site serial).Ensures fun router => router.settings.Sound := by
  refine (ensures_ask _ _).bind fun device _ => (ensures_ask _ _).bind fun system _ =>
    (ensures_cidrOf inventory device system).bind fun cidr _ =>
    (ensures_bindReserved inventory serial device Derivation.reservedVpns _).bind ?_
  rintro _ ⟨reserved, -, rfl⟩
  refine (ensures_bindDeclared inventory serial device _ _).bind ?_
  rintro _ ⟨declared, -, rfl⟩
  exact .pure (((Routing.Variables.sound_new _ _ _).bindAll reserved).bindAll declared)

/-- **Over any inventory, sound settings are derived.** -/
theorem ensures_sound_routing (intent : Intent) :
    (routing inventory intent).Ensures fun document =>
      ∀ router ∈ document.routers, router.settings.Sound := by
  refine (Action.Ensures.mapM (fun entry : Site × String =>
    ensures_sound_router intent entry.1 entry.2) (listed Site.routers intent)).bind
    fun routers hrouters => ?_
  refine (Action.Ensures.canGive (roles inventory _)).bind fun roles _ => ?_
  exact .pure (forall_mem_of_forall₂ hrouters)

/-- The kinds of sites of a VLAN that is derived are a set. -/
theorem ensures_setOf_vlan (switches : List (SiteKind × Device)) (vpn : Vpn) :
    (vlan inventory switches vpn).Ensures fun vlan =>
      SiteKind.setOf vlan.sites = vlan.sites := by
  refine (Action.Ensures.canGive _).bind fun tagged _ => ?_
  exact .pure (SiteKind.setOf_setOf _)

/-- Over any inventory, the kinds of sites of the VLANs that are derived are sets. -/
theorem ensures_setOf_switching (intent : Intent) :
    (switching inventory intent).Ensures fun document =>
      ∀ vlan ∈ document.vlans, SiteKind.setOf vlan.sites = vlan.sites := by
  refine (Action.Ensures.canGive _).bind fun resolved _ => ?_
  refine (Action.Ensures.mapM (fun vpn => ensures_setOf_vlan resolved vpn) intent.vpns).bind
    fun vlans hvlans => ?_
  refine (Action.Ensures.canGive (roles inventory _)).bind fun roles _ => ?_
  exact .pure (forall_mem_of_forall₂ hvlans)

end Derivation

/-! ## Stored variables -/

/-- A value is read back from an artifact that contains its document. -/
theorem Store.Contains.readAs_eq {α : Type} {store : Store} {tree : FileTree}
    {artifact : Artifact} {document : Json} {decoder : Decoder α} {levels : Nat} {a : α}
    (hcontains : store.Contains tree artifact document) (hartifact : artifact ≠ .service)
    (h : decoder.Restores levels document a) (hle : levels ≤ maxDepth) :
    store.readAs artifact decoder tree = .ok a := by
  obtain ⟨form, hform, hread⟩ := hcontains.read_eq (h.storable.storable hle)
  have hsame : Store.exchangeForm artifact document = .ok document := by
    cases artifact with
    | service => exact absurd rfl hartifact
    | _ => rfl
  rw [hsame] at hform
  obtain rfl := Except.ok.inj hform
  rw [Store.readAs, hread]
  change (decoder.ofJson document).mapError _ = _
  rw [h.read]
  rfl

namespace Compiler

variable {σ : Type}

/-- **Compiled variables are read back as the values that were derived.** Whatever the source, the
inventory and the files are, after a run for variables that succeeds the routing variables and the
switching variables that the run has derived are read from the store.

**Proof sketch.** The run has stored the documents of the variables. Those of the settings of
routers are read back since all keys of bindings are those of VPNs, and those of VLANs since their
kinds of sites are sets; everything else is read back whatever it is. -/
theorem variables_restored {compiler : Compiler} {source : IntentSource σ}
    {inventory : Inventory σ} {tree after : FileTree} {state last : σ} {paths : String × String}
    (h : (compiler.compileVariables source inventory).perform (tree, state) =
      (.ok paths, after, last)) :
    ∃ document intent loaded asked routing switching,
      compiler.Loaded source tree state document intent loaded ∧
      (Derivation.routing inventory intent).perform loaded = (.ok routing, asked) ∧
      (Derivation.switching inventory intent).perform asked = (.ok switching, last) ∧
      compiler.store.readAs .routing Routing.Document.decoder after = .ok routing ∧
      compiler.store.readAs .switching Switching.Document.decoder after = .ok switching := by
  obtain ⟨document, routing, switching, hstored⟩ := variablesStored_of_perform h
  obtain ⟨intent, loaded, asked, hloaded, hrouting, hswitching⟩ := hstored.derived
  have hsound := Derivation.ensures_sound_routing intent routing ⟨_, _, hrouting⟩
  have hsets := Derivation.ensures_setOf_switching intent switching ⟨_, _, hswitching⟩
  refine ⟨document, intent, loaded, asked, routing, switching, hloaded, hrouting, hswitching, ?_, ?_⟩
  · exact hstored.routing.readAs_eq (by decide) (Routing.Document.restores hsound) (by decide)
  · exact hstored.switching.readAs_eq (by decide) (Switching.Document.restores hsets) (by decide)

/-- The variables of an intent with a VPN of the greatest number are read back. -/
theorem variables_restored_edgeFiles : ∃ paths after,
    (compileVariables ⟨.new "schemas", ⟨"net"⟩⟩ (.filesBelow "net")
      (Derivation.edgeRouter.inventory Unit)).perform (edgeFiles, ()) = (.ok paths, after, ()) ∧
    Store.readAs ⟨"net"⟩ .routing Routing.Document.decoder after = .ok edgeRouting ∧
    Store.readAs ⟨"net"⟩ .switching Switching.Document.decoder after = .ok edgeSwitching := by
  obtain ⟨first, second, after, hrun⟩ := compileVariables_edgeFiles
  obtain ⟨document, intent, ⟨⟩, ⟨⟩, routing, switching, hloaded, hrouting, hswitching, hread, hread'⟩ :=
    variables_restored hrun
  -- what has been derived is what is derived from the intent of the files
  obtain rfl := Except.ok.inj (Prod.mk.inj (hloaded.had.symm.trans loaded_edgeFiles.had)).1
  obtain rfl := Except.ok.inj (hloaded.understood.symm.trans loaded_edgeFiles.understood)
  obtain rfl := Except.ok.inj (Prod.mk.inj (hrouting.symm.trans derived_edgeFiles.1)).1
  obtain rfl := Except.ok.inj (Prod.mk.inj (hswitching.symm.trans derived_edgeFiles.2)).1
  exact ⟨(first, second), after, hrun, hread, hread'⟩

end Compiler

end NetworkIntent
