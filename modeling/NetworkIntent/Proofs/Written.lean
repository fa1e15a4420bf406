import NetworkIntent.Proofs.Address
import NetworkIntent.Proofs.Bindings
import NetworkIntent.Proofs.Grammar
import NetworkIntent.Proofs.PortName
import NetworkIntent.Proofs.Schema.Deployment
import NetworkIntent.Variables.Switching

/-!
# Written variables

The documents that are written for routers, switches, VLANs and VPNs have the keys that the schema
of variables asks for and no others, so whether they obey it depends on their values alone: numbers
must not be negative, names and roles not be empty, and addresses and ports be in their forms.

## Main definitions

* `Routing.Binding.Presentable`: a VPN is bound to what the schema allows.
* `Vpn.Presentable`: what the schema says about a VPN.

## Main results

* `Port.isPosition_iff_isAscii`: which ports of interfaces are in their form.
* `Port.isPosition_of_ofInterface?`: the ports of interfaces with ASCII names are in it.
* `Routing.isSettings_bindAll`: the settings of a router obey the schema.
* `Routing.meets_router`, `Switching.meets_switch`, `Switching.meets_vlan`, `Vpn.meets_toJson`: so do
  routers, switches, VLANs and VPNs.
-/

set_option autoImplicit false

namespace NetworkIntent

open Schema

/-! ## Ports -/

namespace Port

/-- Among ASCII characters the decimal digits of all scripts are the usual ones. -/
theorem isAsciiDigit_of_isDecimalDigit {c : Char} (hascii : c.toNat < 128)
    (h : isDecimalDigit c = true) : '0' ≤ c ∧ c ≤ '9' := by
  have hzero : ∀ start ∈ digitZeros, start < 128 → start = 48 := by decide
  simp only [isDecimalDigit, List.any_eq_true, Bool.and_eq_true, decide_eq_true_eq] at h
  obtain ⟨start, hstart, hle, hlt⟩ := h
  obtain rfl := hzero start hstart (by omega)
  exact ⟨Char.le_def.mpr hle, Char.le_def.mpr (UInt32.le_iff_toNat_le.mpr (Nat.lt_succ_iff.mp hlt))⟩

/-- Among ASCII characters a number consists of the usual digits. -/
theorem IsNumber.isDigits {cs : List Char} (h : IsNumber cs) (hascii : ∀ c ∈ cs, c.toNat < 128) :
    IsDigits 1 none cs :=
  ⟨fun c hc => isAsciiDigit_of_isDecimalDigit (hascii c hc) (h.2 c hc),
    List.length_pos_iff.mpr h.1, by simp⟩

/-- A port is written at the start of the name of its interface, and its position consists of three
numbers joined by slashes. -/
theorem exists_of_ofInterface? {name : String} {port : Port} (h : ofInterface? name = some port) :
    (∃ rest, name.toList = port.family.name.toList ++ (port.position.toList ++ rest)) ∧
      ∃ a b c, port.position.toList = a ++ '/' :: (b ++ '/' :: c) ∧
        ∀ part ∈ [a, b, c], IsNumber part := by
  obtain ⟨⟨a, b, c, hposition, ha, hb, hc⟩, rest, rfl, -⟩ := heads_iff.mpr h
  exact ⟨⟨rest.toList, by simp⟩, a, b, c, hposition, by simp [ha, hb, hc]⟩

/-- The position of a recognised port is in its form exactly if it is an ASCII text: numbers may be
written with the digits of any script, but only the usual ones are in the form. -/
theorem isPosition_iff_isAscii {name : String} {port : Port} (h : ofInterface? name = some port) :
    IsPosition port.position.toList ↔ IsAscii port.position := by
  obtain ⟨-, a, b, c, hposition, hparts⟩ := exists_of_ofInterface? h
  constructor
  · rintro ⟨a, b, c, hposition, hparts⟩
    have hdigit {part : List Char} (hpart : part ∈ [a, b, c]) : ∀ ch ∈ part, ch.toNat < 128 := by
      intro ch hch
      have hle : ch.toNat ≤ 57 := ((hparts part hpart).1 ch hch).2
      omega
    intro ch hch
    rw [hposition] at hch
    simp only [List.mem_append, List.mem_cons] at hch
    rcases hch with hch | rfl | hch | rfl | hch
    · exact hdigit (by simp) ch hch
    · decide
    · exact hdigit (by simp) ch hch
    · decide
    · exact hdigit (by simp) ch hch
  · intro hascii
    have hsub : ∀ part ∈ [a, b, c], ∀ ch ∈ part, ch ∈ port.position.toList := by
      intro part hpart ch hch
      simp only [List.mem_cons, List.not_mem_nil, or_false] at hpart
      rw [hposition]
      rcases hpart with rfl | rfl | rfl <;> simp [hch]
    exact ⟨a, b, c, hposition, fun part hpart => (hparts part hpart).isDigits fun ch hch =>
      hascii ch (hsub part hpart ch hch)⟩

/-- The port of an interface with an ASCII name has a position of ASCII digits. -/
theorem isPosition_of_ofInterface? {name : String} {port : Port} (hascii : IsAscii name)
    (h : ofInterface? name = some port) : IsPosition port.position.toList := by
  rw [isPosition_iff_isAscii h]
  obtain ⟨⟨rest, hname⟩, -⟩ := exists_of_ofInterface? h
  intro ch hch
  refine hascii ch ?_
  rw [hname]
  exact List.mem_append_right _ (List.mem_append_left _ hch)

end Port

/-! ## Objects made of entries -/

namespace Schema

/-- An object made of entries is closed if each entry has the form of its key and all required keys
are among them. -/
theorem isClosedObject_ofEntries {forms : List (String × (Json → Prop))} {required : List String}
    {entries : Fields} (hfits : ∀ entry ∈ entries, Fits forms entry.1 entry.2)
    (hrequired : ∀ key ∈ required, key ∈ Table.keys entries) :
    IsClosedObject forms required (.ofEntries entries) :=
  ⟨_, rfl, fun entry hentry => hfits entry (Table.mem_of_mem_ofEntries hentry),
    fun key hkey => Table.mem_keys_ofEntries_iff.mpr (hrequired key hkey)⟩

/-- An object made of entries without repeated keys is closed only if they are so. -/
theorem isClosedObject_ofEntries_iff {forms : List (String × (Json → Prop))}
    {required : List String} {entries : Fields} (hkeys : (Table.keys entries).Nodup) :
    IsClosedObject forms required (.ofEntries entries) ↔
      (∀ entry ∈ entries, Fits forms entry.1 entry.2) ∧
        ∀ key ∈ required, key ∈ Table.keys entries := by
  constructor
  · rintro ⟨_, ⟨⟩, hfits, hrequired⟩
    exact ⟨fun entry hentry => hfits entry ((Table.mem_ofEntries_iff_of_nodup hkeys).mpr hentry),
      fun key hkey => Table.mem_keys_ofEntries_iff.mp (hrequired key hkey)⟩
  · exact fun h => isClosedObject_ofEntries h.1 h.2

/-- The same for objects that may have keys of patterns. -/
theorem isClosedObjectWith_ofEntries {patterns : List (Pattern × (Json → Prop))}
    {forms : List (String × (Json → Prop))} {required : List String} {entries : Fields}
    (hfits : ∀ entry ∈ entries, FitsWith patterns forms entry.1 entry.2)
    (hrequired : ∀ key ∈ required, key ∈ Table.keys entries) :
    IsClosedObjectWith patterns forms required (.ofEntries entries) :=
  ⟨_, rfl, fun entry hentry => hfits entry (Table.mem_of_mem_ofEntries hentry),
    fun key hkey => Table.mem_keys_ofEntries_iff.mpr (hrequired key hkey)⟩

/-- Numbers that are not negative. -/
theorem isCount_ofInt64 {n : Int64} (h : 0 ≤ n.toInt) : IsCount (.ofInt64 n) :=
  isCount_int_iff.mpr h

/-- Texts that are not empty. -/
theorem isText_str {text : String} (h : text ≠ "") : IsText (.str text) :=
  ⟨text, rfl, h⟩

/-- Different texts that are not empty. -/
theorem isSetOf_ofTexts {texts : List String} (hnodup : texts.Nodup)
    (hall : ∀ text ∈ texts, text ≠ "") : IsSetOf IsText (.ofTexts texts) :=
  isSetOf_texts_iff.mpr ⟨texts, rfl, hnodup, hall⟩

/-- Different kinds of sites. -/
theorem isSetOf_kinds {kinds : List SiteKind} (h : kinds.Nodup) :
    IsSetOf (IsOneOf ["DC", "Branch"]) (.arr (kinds.map SiteKind.toJson)) := by
  have hname : SiteKind.name.Injective := by
    intro a b
    cases a <;> cases b <;> simp [SiteKind.name]
  rw [Grammar.isOneOf_eq]
  refine isSetOf_texts_iff.mpr ⟨kinds.map SiteKind.name, ?_, h.map hname, ?_⟩
  · rw [List.map_map]
    rfl
  · rw [List.forall_mem_map]
    intro kind _
    cases kind
    · exact .inl rfl
    · exact .inr rfl

end Schema

/-! ## VPNs -/

/-- What the schema says about a VPN. -/
structure Vpn.Presentable (vpn : Vpn) : Prop where
  id : 0 ≤ vpn.id.toInt
  name : vpn.name ≠ ""
  sites : vpn.sites.Nodup

theorem Vpn.meets_toJson {vpn : Vpn} (h : vpn.Presentable) : Part.vpn.Meets vpn.toJson := by
  refine isClosedObject_ofEntries ?_ (by simp [Table.keys])
  simp only [List.forall_mem_cons, Fits]
  exact ⟨isCount_ofInt64 h.id, isText_str h.name, isSetOf_kinds h.sites, by simp⟩

/-! ## Routers -/

namespace Routing

open Variables

/-- What the schema says about a VPN that is bound. -/
structure Binding.Presentable (binding : Binding) : Prop where
  vpn : 0 ≤ binding.vpn.toInt
  interface : binding.interface ≠ ""
  address : IsIpv4Prefix binding.address.toList

/-- A number that is not negative is written with ASCII digits. -/
theorem isDigits_repr {n : Int} (h : 0 ≤ n) : IsDigits 1 none n.repr.toList := by
  obtain ⟨m, rfl⟩ := Int.eq_ofNat_of_zero_le h
  have hrepr : (m : Int).repr.toList = Nat.toDigits 10 m := String.toList_ofList
  rw [hrepr]
  exact isDigits_toDigits m

/-- A pattern of keys is found in the keys of its form. -/
theorem isMatch_vpnKey_iff {field key : String} :
    (Pattern.vpnKey field).isMatch key = true ↔ IsVpnKey field key.toList := by
  rw [Pattern.isMatch, decide_eq_true_eq, Pattern.find?_vpnKey_iff]

theorem isVpnKey_interfaceKey {vpn : Int64} (h : 0 ≤ vpn.toInt) :
    IsVpnKey "_interface" (interfaceKey vpn).toList := by
  refine ⟨_, ?_, isDigits_repr h⟩
  simp [interfaceKey, toString]

theorem isVpnKey_addressKey {vpn : Int64} (h : 0 ≤ vpn.toInt) :
    IsVpnKey "_ipv4_address" (addressKey vpn).toList := by
  refine ⟨_, ?_, isDigits_repr h⟩
  simp [addressKey, toString]

/-- No key is of both forms. -/
theorem not_isVpnKey_both {cs : List Char} (h : IsVpnKey "_interface" cs) :
    ¬IsVpnKey "_ipv4_address" cs := by
  rintro ⟨number, rfl, -⟩
  obtain ⟨other, heq, -⟩ := h
  have hlast := congrArg (fun cs : List Char => cs.reverse.head?) heq
  simp at hlast

/-- Keys of either form start with a letter that no key of the system settings starts with. -/
theorem head?_of_isVpnKey {field : String} {cs : List Char} (h : IsVpnKey field cs) :
    cs.head? = some 'v' := by
  obtain ⟨number, rfl, -⟩ := h
  simp

/-- An entry of the system settings fits if its value has the form of its key. -/
theorem fits_system {key : String} {value : Json} (hstart : key.toList.head? = some 's')
    (hkey : key ∈ Definition.settingsForms.map Prod.fst)
    (hvalue : ∀ P, Definition.settingsForms.lookup key = some P → P value) :
    FitsWith Definition.settingsPatterns Definition.settingsForms key value := by
  refine ⟨.inl hkey, hvalue, ?_⟩
  have hfield (field : String) : (Pattern.vpnKey field).isMatch key ≠ true := fun hmatch => by
    rw [head?_of_isVpnKey (isMatch_vpnKey_iff.mp hmatch)] at hstart
    cases hstart
  simp [Definition.settingsPatterns, hfield]

/-- No system setting has a key of a VPN. -/
theorem lookup_settingsForms {field key : String} (h : IsVpnKey field key.toList) :
    Definition.settingsForms.lookup key = none := by
  have hstarts : ∀ name ∈ Definition.settingsForms.map Prod.fst,
      name.toList.head? = some 's' := by decide
  rw [List.lookup_eq_none_iff]
  intro form hform
  refine bne_iff_ne.mpr fun heq => ?_
  have hstart := hstarts form.1 (List.mem_map_of_mem hform)
  rw [← heq, head?_of_isVpnKey h] at hstart
  cases hstart

theorem fits_interface {vpn : Int64} (hvpn : 0 ≤ vpn.toInt) {interface : String}
    (h : interface ≠ "") : FitsWith Definition.settingsPatterns Definition.settingsForms
      (interfaceKey vpn) (.str interface) := by
  have hkey := isVpnKey_interfaceKey hvpn
  have hmatch := isMatch_vpnKey_iff.mpr hkey
  have hother : (Pattern.vpnKey "_ipv4_address").isMatch (interfaceKey vpn) ≠ true := fun hmatch =>
    not_isVpnKey_both hkey (isMatch_vpnKey_iff.mp hmatch)
  refine ⟨.inr ⟨_, List.mem_cons_self, hmatch⟩, ?_, ?_⟩
  · simp [lookup_settingsForms hkey]
  · simp [Definition.settingsPatterns, hother, isText_str h]

theorem fits_address {vpn : Int64} (hvpn : 0 ≤ vpn.toInt) {address : String}
    (h : IsIpv4Prefix address.toList) : FitsWith Definition.settingsPatterns
      Definition.settingsForms (addressKey vpn) (.str address) := by
  have hkey := isVpnKey_addressKey hvpn
  have hmatch := isMatch_vpnKey_iff.mpr hkey
  have hother : (Pattern.vpnKey "_interface").isMatch (addressKey vpn) ≠ true := fun hmatch =>
    not_isVpnKey_both (isMatch_vpnKey_iff.mp hmatch) hkey
  refine ⟨.inr ⟨_, List.mem_cons_of_mem _ List.mem_cons_self, hmatch⟩, ?_, ?_⟩
  · simp [lookup_settingsForms hkey]
  · have hlike : IsTextLike .ipv4Prefix (.str address) :=
      ⟨address, rfl, (Pattern.find?_ipv4Prefix_iff _).mpr h⟩
    simp [Definition.settingsPatterns, hother, hlike]

/-- The settings of a router obey the schema. -/
theorem isSettings_bindAll {siteId : Int64} {systemIp hostName : String} {bindings : List Binding}
    (hsite : 0 ≤ siteId.toInt) (hip : IsIpv4 systemIp.toList) (hname : hostName ≠ "")
    (hbindings : ∀ binding ∈ bindings, binding.Presentable)
    (hreserved : ∀ k ∈ [(0 : Int64), 99], ∃ binding ∈ bindings, binding.vpn = k) :
    Definition.IsSettings
      ((Variables.new siteId systemIp hostName).bindAll bindings).toJson := by
  refine isClosedObjectWith_ofEntries ?_ ?_
  · rw [List.forall_mem_append]
    constructor
    · have hlike : IsTextLike .ipv4Address (.str systemIp) :=
        ⟨systemIp, rfl, (Pattern.find?_ipv4Address_iff _).mpr hip⟩
      simp only [List.forall_mem_cons]
      refine ⟨fits_system (by decide) (by decide) ?_, fits_system (by decide) (by decide) ?_,
        fits_system (by decide) (by decide) ?_, by simp⟩
      · rintro _ ⟨⟩
        exact isCount_ofInt64 hsite
      · rintro _ ⟨⟩
        exact hlike
      · rintro _ ⟨⟩
        exact isText_str hname
    · rw [List.forall_mem_map]
      intro entry hentry
      obtain ⟨binding, hbinding, hmem⟩ :=
        List.mem_flatMap.mp (Table.mem_of_mem_ofEntries hentry)
      have hpresentable := hbindings binding hbinding
      rcases List.mem_pair.mp hmem with rfl | rfl
      · exact fits_interface hpresentable.vpn hpresentable.interface
      · exact fits_address hpresentable.vpn hpresentable.address
  · have hbound (key : String) (h : ∃ k ∈ [(0 : Int64), 99],
        key = interfaceKey k ∨ key = addressKey k) :
        key ∈ Table.keys (Table.ofEntries (bindings.flatMap Binding.entries)) := by
      obtain ⟨k, hk, hkey⟩ := h
      obtain ⟨binding, hbinding, rfl⟩ := hreserved k hk
      exact mem_keys_bindings_iff.mpr ⟨binding, hbinding, hkey⟩
    have hkeys : ∀ key ∈ Definition.settingsKeys,
        key ∈ ["system_site_id", "system_system_ip", "system_host_name"] ∨
          ∃ k ∈ [(0 : Int64), 99], key = interfaceKey k ∨ key = addressKey k := by
      decide
    intro key hkey
    rw [Table.keys, List.map_append, List.mem_append, List.map_map]
    exact (hkeys key hkey).imp_right (hbound key)

/-- A router obeys the schema if its settings do. -/
theorem meets_router {router : Router} (hserial : router.serial ≠ "") (hrole : router.role ≠ "")
    (hsettings : Definition.IsSettings router.settings.toJson) :
    Definition.Meets .router router.toJson := by
  refine isClosedObject_ofEntries ?_ (by simp [Table.keys])
  simp only [List.forall_mem_cons, Fits]
  exact ⟨isText_str hserial, isText_str hrole, hsettings, by simp⟩

end Routing

/-! ## Switches and VLANs -/

namespace Switching

/-- A switch obeys the schema if its texts are not empty; it need not be at a site. -/
theorem meets_switch {switch : Switch} (hserial : switch.serial ≠ "") (hname : switch.name ≠ "")
    (hrole : switch.role ≠ "") : Definition.Meets .switch switch.toJson := by
  refine isClosedObject_ofEntries ?_ (by simp [Table.keys])
  simp only [List.forall_mem_cons, Fits]
  exact ⟨isText_str hserial, isText_str hname, ⟨_, rfl⟩, isText_str hrole, by simp⟩

/-- A port obeys the schema exactly if its position is in its form. -/
theorem isPort_toJson_iff {port : Port} :
    Definition.IsPort port.toJson ↔ IsPosition port.position.toList := by
  have hfamily : IsOneOf Definition.familyNames (.str port.family.name) := by
    cases port.family
    · exact ⟨_, List.mem_cons_self, rfl⟩
    · exact ⟨_, List.mem_cons_of_mem _ List.mem_cons_self, rfl⟩
  rw [Definition.IsPort, Port.toJson, isClosedObject_ofEntries_iff (by simp [Table.keys]),
    and_iff_left (by simp [Table.keys]), ← Pattern.find?_position_iff]
  simp only [List.forall_mem_cons, Fits]
  constructor
  · rintro ⟨-, ⟨_, ⟨⟩, hposition⟩, -⟩
    exact hposition
  · exact fun hposition => ⟨hfamily, ⟨_, rfl, hposition⟩, by simp⟩

/-- A VLAN obeys the schema exactly if its number, its name, its sites and all of its ports do. -/
theorem meets_vlan_iff {vlan : Vlan} :
    Definition.Meets .vlan vlan.toJson ↔
      (IsCount (.ofInt64 vlan.id) ∧ IsText (.str vlan.name) ∧
        IsSetOf (IsOneOf ["DC", "Branch"]) (.arr (vlan.sites.map SiteKind.toJson))) ∧
      ∀ port ∈ vlan.ports, Definition.IsPort port.toJson := by
  have hports : IsListOf Definition.IsPort (.arr (vlan.ports.map Port.toJson)) ↔
      ∀ port ∈ vlan.ports, Definition.IsPort port.toJson := by
    simp [IsListOf]
  rw [Definition.Meets, Vlan.toJson, isClosedObject_ofEntries_iff (by simp [Table.keys]),
    and_iff_left (by simp [Table.keys]), ← hports]
  simp only [List.forall_mem_cons, Fits]
  constructor
  · rintro ⟨hid, hname, hsites, hlist, -⟩
    exact ⟨⟨hid, hname, hsites⟩, hlist⟩
  · rintro ⟨⟨hid, hname, hsites⟩, hlist⟩
    exact ⟨hid, hname, hsites, hlist, by simp⟩

/-- A VLAN obeys the schema if its VPN and its ports do, and no kind of sites comes twice. -/
theorem meets_vlan {vlan : Vlan} (hid : 0 ≤ vlan.id.toInt) (hname : vlan.name ≠ "")
    (hsites : vlan.sites.Nodup) (hports : ∀ port ∈ vlan.ports, IsPosition port.position.toList) :
    Definition.Meets .vlan vlan.toJson :=
  meets_vlan_iff.mpr ⟨⟨isCount_ofInt64 hid, isText_str hname, isSetOf_kinds hsites⟩,
    fun port hport => isPort_toJson_iff.mpr (hports port hport)⟩

end Switching

end NetworkIntent
