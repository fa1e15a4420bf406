import NetworkIntent.Proofs.Schema.Services
import NetworkIntent.Proofs.Schema.Spelling

/-!
# The schema of intents with their variables

The schema of variables has definitions of its own and refers to the common module, which it shares
with the schema of intents. From the files of both documents it is loaded with all definitions that
it needs, and its meaning is put together from theirs.

## Main definitions

* `Schema.Definition`: the definitions that variables need, each with its place, rules and property.
* `Schema.Shipped.deploymentSchema`: the schema of variables with the rules of its definitions.
* `Schema.Shipped.IsDeployment`: the documents that obey the schema of variables.

## Main results

* `Schema.Shipped.load_deployment`: the schema of variables is loaded with its definitions.
* `Schema.Shipped.check_deploymentSchema_eq_nil_iff`: the documents without violations.
-/

set_option autoImplicit false

namespace NetworkIntent.Schema

/-! ## The definitions that variables need -/

/-- The definitions that the schema of variables refers to: some of the common module, and its
own. -/
inductive Definition where
  | shared (part : Part)
  | ipv4Address
  | ipv4Prefix
  | roles
  | router
  | switch
  | vlan
  deriving DecidableEq

namespace Definition

/-- The place of a definition. -/
def target : Definition → Target
  | shared part => part.target
  | ipv4Address => ⟨Part.address, "/$defs/ipv4Address"⟩
  | ipv4Prefix => ⟨Part.address, "/$defs/ipv4Prefix"⟩
  | roles => ⟨.root, "/$defs/roles"⟩
  | router => ⟨.root, "/$defs/router"⟩
  | switch => ⟨.root, "/$defs/switch"⟩
  | vlan => ⟨.root, "/$defs/vlan"⟩

/-- The document of a definition. -/
def home : Definition → Module
  | shared _ | ipv4Address | ipv4Prefix => ⟨Part.address, .modern, Shipped.common⟩
  | roles | router | switch | vlan => ⟨.root, .modern, Shipped.deployment⟩

/-- What is defined. -/
def schema : Definition → Json
  | shared part => part.schema
  | ipv4Address => Shipped.textLike Pattern.ipv4Address.source
  | ipv4Prefix => Shipped.textLike Pattern.ipv4Prefix.source
  | roles => Shipped.setOf Shipped.someText
  | router => Shipped.closed [("id", Shipped.shared "serial"), ("type", Shipped.someText),
      ("variables", Shipped.routerVariables)] ["id", "type", "variables"]
  | switch => Shipped.closed [("id", Shipped.shared "serial"), ("name", Shipped.someText),
      ("site", .obj [("type", .str "string")]), ("type", Shipped.someText)]
      ["id", "name", "site", "type"]
  | vlan => Shipped.closed [("id", Shipped.shared "identifier"),
      ("interfaces", Shipped.listOf Shipped.port), ("name", Shipped.someText),
      ("sites", Shipped.setOf (Shipped.shared "siteType"))] ["id", "name", "sites", "interfaces"]

/-- The keys that the settings of a router have to have. -/
def settingsKeys : List String :=
  ["system_site_id", "system_system_ip", "system_host_name", "vpn0_interface",
    "vpn0_ipv4_address", "vpn99_interface", "vpn99_ipv4_address"]

/-- The names of the families of ports. -/
def familyNames : List String :=
  ["GigabitEthernet", "TenGigabitEthernet"]

/-- The rules of the settings of a router. -/
def settingsRules : Rules :=
  .closedWith [(.vpnKey "_interface", .someText),
      (.vpnKey "_ipv4_address", .referring ipv4Prefix.target)]
    [("system_host_name", .someText), ("system_site_id", .referring Part.identifier.target),
      ("system_system_ip", .referring ipv4Address.target)] settingsKeys

/-- The rules of the ports of a VLAN. -/
def portRules : Rules :=
  .closed [("name", .textLike .position), ("type", .oneOf familyNames)] ["type", "name"]

/-- The rules of a definition. -/
def rules : Definition → Rules
  | shared part => part.rules
  | ipv4Address => .textLike .ipv4Address
  | ipv4Prefix => .textLike .ipv4Prefix
  | roles => .setOf .someText
  | router => .closed [("id", .referring Part.serial.target), ("type", .someText),
      ("variables", settingsRules)] ["id", "type", "variables"]
  | switch => .closed [("id", .referring Part.serial.target), ("name", .someText),
      ("site", .text), ("type", .someText)] ["id", "name", "site", "type"]
  | vlan => .closed [("id", .referring Part.identifier.target), ("interfaces", .listOf portRules),
      ("name", .someText), ("sites", .setOf (.referring Part.siteType.target))]
      ["id", "name", "sites", "interfaces"]

/-- The definitions that a definition refers to. -/
def references : Definition → List Definition
  | shared part => part.references.map shared
  | router => [shared .serial, shared .identifier, ipv4Address, ipv4Prefix]
  | switch => [shared .serial]
  | vlan => [shared .identifier, shared .siteType]
  | ipv4Address | ipv4Prefix | roles => []

/-- The definitions that are mentioned in a definition, in the order of the keywords. -/
def mentioned : Definition → List Definition
  | router => [shared .serial, ipv4Prefix, shared .identifier, ipv4Address]
  | definition => definition.references

/-- All definitions, in the order in which they are compiled. -/
def all : List Definition :=
  [roles, router, shared .serial, shared .identifier, ipv4Address, ipv4Prefix, shared .vpn,
    shared .name, shared .siteType, shared .site, switch, vlan]

theorem mem_all (definition : Definition) : definition ∈ all := by
  cases definition with
  | shared part => cases part <;> decide
  | _ => decide

/-- Different definitions are at different places. -/
theorem target_injective : target.Injective := by
  have hnodup : (all.map target).Nodup := by decide +kernel
  intro definition other h
  exact List.inj_on_of_nodup_map hnodup (mem_all definition) (mem_all other) h

theorem targetsIn_schema (definition : Definition) :
    targetsIn definition.home.address definition.schema =
      .ok (definition.mentioned.map target) := by
  cases definition with
  | shared part =>
    change _ = Except.ok ((part.references.map shared).map target)
    rw [List.map_map]
    exact part.targetsIn_schema
  | _ => cbv

theorem targets_rules (definition : Definition) :
    definition.rules.targets = definition.references.map target := by
  cases definition with
  | shared part =>
    rw [references, List.map_map]
    exact part.targets_rules
  | _ => cbv

theorem resolve_target (definition : Definition) :
    resolve definition.target.fragment definition.home.document = .ok definition.schema := by
  cases definition with
  | shared part => exact part.resolve_target
  | _ => cbv

/-! ## Reading the definitions -/

section Reading

variable {visit : Target → Except Defect Unit}

theorem parse?_ipv4Address : Pattern.parse? Pattern.ipv4Address.source = some .ipv4Address := by
  cbv

theorem parse?_ipv4Prefix : Pattern.parse? Pattern.ipv4Prefix.source = some .ipv4Prefix := by
  cbv

theorem parse?_position : Pattern.parse? Pattern.position.source = some .position := by
  cbv

theorem parse?_vpnKey : ∀ field ∈ ["_interface", "_ipv4_address"],
    Pattern.parse? ("^vpn[0-9]+" ++ field ++ "$") = some (.vpnKey field) := by
  decide +kernel

/-- The settings of a router are read as their rules. -/
theorem rulesOf_routerVariables (hidentifier : visit Part.identifier.target = .ok ())
    (haddress : visit ipv4Address.target = .ok ()) (hmask : visit ipv4Prefix.target = .ok ()) :
    rulesOf ⟨.modern, .root, visit⟩ Shipped.routerVariables = .ok settingsRules := by
  have hmaskOf : targetOf .root "common.schema.json#/$defs/ipv4Prefix" =
      .ok ipv4Prefix.target := by cbv
  have haddressOf : targetOf .root "common.schema.json#/$defs/ipv4Address" =
      .ok ipv4Address.target := by cbv
  exact rulesOf_closedWith
    (eachPatternOf_cons (parse?_vpnKey "_interface" (by decide)) rulesOf_someText
      (eachPatternOf_cons (parse?_vpnKey "_ipv4_address" (by decide))
        (rulesOf_reference hmaskOf hmask) rfl))
    (eachNamedOf_cons rulesOf_someText
      (eachNamedOf_cons (Part.rulesOf_shared .identifier hidentifier)
      (eachNamedOf_cons (rulesOf_reference haddressOf haddress) rfl))) _

/-- The ports of a VLAN are read as their rules. -/
theorem rulesOf_port : rulesOf ⟨.modern, .root, visit⟩ Shipped.port = .ok portRules :=
  rulesOf_closed (eachNamedOf_cons (rulesOf_textLike parse?_position)
    (eachNamedOf_cons (rulesOf_oneOf familyNames) rfl)) _

/-- A definition is read as its rules, if there is no defect at the places it refers to. -/
theorem rulesOf_schema (definition : Definition)
    (h : ∀ other ∈ definition.references, visit other.target = .ok ()) :
    rulesOf ⟨definition.home.dialect, definition.home.address, visit⟩ definition.schema =
      .ok definition.rules := by
  cases definition with
  | shared part => exact part.rulesOf_schema fun other hother => h _ (List.mem_map_of_mem hother)
  | ipv4Address => exact rulesOf_textLike parse?_ipv4Address
  | ipv4Prefix => exact rulesOf_textLike parse?_ipv4Prefix
  | roles => exact rulesOf_setOf rulesOf_someText
  | router =>
    have hsettings := rulesOf_routerVariables (h (shared .identifier) (by decide))
      (h ipv4Address (by decide)) (h ipv4Prefix (by decide))
    have hserial := Part.rulesOf_shared .serial (h (shared .serial) (by decide))
    exact rulesOf_closed (eachNamedOf_cons hserial
      (eachNamedOf_cons rulesOf_someText (eachNamedOf_cons hsettings rfl))) _
  | switch =>
    have hserial := Part.rulesOf_shared .serial (h (shared .serial) (by decide))
    exact rulesOf_closed (eachNamedOf_cons hserial (eachNamedOf_cons rulesOf_someText
      (eachNamedOf_cons rulesOf_text (eachNamedOf_cons rulesOf_someText rfl)))) _
  | vlan =>
    have hidentifier := Part.rulesOf_shared .identifier (h (shared .identifier) (by decide))
    have hkinds := rulesOf_setOf (Part.rulesOf_shared .siteType (h (shared .siteType) (by decide)))
    exact rulesOf_closed (eachNamedOf_cons hidentifier (eachNamedOf_cons
      (rulesOf_listOf rulesOf_port) (eachNamedOf_cons rulesOf_someText
        (eachNamedOf_cons hkinds rfl)))) _

end Reading

end Definition

/-! ## Loading the schema -/

namespace Shipped

/-- The schema of variables with the common module. -/
def deploymentModules : List Module :=
  [⟨.root, .modern, deployment⟩, ⟨Part.address, .modern, common⟩]

/-- The definitions that variables need, with the documents of variables. -/
def deploymentGlossary : Glossary Definition where
  modules := deploymentModules
  home := Definition.home
  target := Definition.target
  schema := Definition.schema
  rules := Definition.rules
  references := Definition.references
  target_injective := Definition.target_injective
  find_home definition := by
    cases definition with
    | shared part => cases part <;> cbv
    | _ => cbv
  resolve_target := Definition.resolve_target
  targetsIn_schema definition := ⟨_, definition.targetsIn_schema⟩
  rulesOf_schema definition _ := definition.rulesOf_schema
  targets_rules := Definition.targets_rules

/-- The keys of variables with the rules of their values. -/
def deploymentProperties : List (String × Rules) :=
  [("routing:device_roles", .referring Definition.roles.target),
    ("routing:router", .listOf (.referring Definition.router.target)),
    ("routing:vpns", .listOf (.referring Part.vpn.target)),
    ("site-service:sites", .listOf (.referring Part.site.target)),
    ("switching:device_roles", .referring Definition.roles.target),
    ("switching:switches", .listOf (.referring Definition.switch.target)),
    ("switching:vlans", .listOf (.referring Definition.vlan.target)),
    ("vpn-service:vpns", .listOf (.referring Part.vpn.target))]

/-- The keys that variables have to have. -/
def deploymentKeys : List String :=
  ["site-service:sites", "vpn-service:vpns", "routing:router", "routing:vpns",
    "routing:device_roles", "switching:switches", "switching:vlans", "switching:device_roles"]

/-- The rules of variables. -/
def deploymentRules : Rules :=
  .withKeys deploymentProperties deploymentKeys

/-- The schema of variables. -/
def deploymentSchema : Schema :=
  ⟨deploymentRules, deploymentGlossary.compiled Definition.all⟩

/-- The only module that the schema of variables needs is the common one. -/
theorem loadModules_deployment {tree : FileTree} {directory : String} {text : Bytes}
    (htext : tree.readText (Path.join directory "common.schema.json") = .ok text)
    (hparse : Json.parse text = .ok common) :
    loadModules tree directory .modern deployment = .ok deploymentModules := by
  have hmentioned : targetsIn .root deployment = .ok (([.shared .serial, .ipv4Prefix,
      .shared .identifier, .ipv4Address, .shared .serial, .shared .identifier, .shared .siteType,
      .roles, .router, .shared .vpn, .shared .site, .roles, .switch, .vlan, .shared .vpn] :
        List Definition).map Definition.target) := by cbv
  have hinside : targetsIn Part.address common = .ok (((Part.site.references ++
      Part.vpn.references).map Definition.shared).map Definition.target) := by
    rw [List.map_map]
    exact targetsIn_common
  exact deploymentGlossary.loadModules_eq rfl hmentioned rfl (by decide)
    (loadDocument_common htext hparse) (by cbv) hinside

/-- The rules of variables, if there is no defect at the places they refer to. -/
theorem rulesAt_deployment {visit : Target → Except Defect Unit}
    (h : ∀ definition ∈ ([.roles, .router, .shared .vpn, .shared .site, .switch, .vlan] :
      List Definition), visit definition.target = .ok ()) :
    rulesAt deploymentModules visit ⟨.root, ""⟩ = .ok deploymentRules := by
  have hwithin (definition : Definition) (key : String)
      (hmem : definition ∈ ([.roles, .router, .shared .vpn, .shared .site, .switch, .vlan] :
        List Definition))
      (htarget : targetOf .root ("#/$defs/" ++ key) = .ok definition.target) :
      rulesOf ⟨.modern, .root, visit⟩ (within key) = .ok (.referring definition.target) :=
    rulesOf_reference htarget (h _ hmem)
  have hroles := hwithin .roles "roles" (by decide) (by cbv)
  have hrouter := hwithin .router "router" (by decide) (by cbv)
  have hswitch := hwithin .switch "switch" (by decide) (by cbv)
  have hvlan := hwithin .vlan "vlan" (by decide) (by cbv)
  have hvpn := Part.rulesOf_shared .vpn (h (.shared .vpn) (by decide))
  have hsite := Part.rulesOf_shared .site (h (.shared .site) (by decide))
  have hnamed : eachNamedOf ⟨.modern, .root, visit⟩
      [("routing:device_roles", within "roles"), ("routing:router", listOf (within "router")),
        ("routing:vpns", listOf (shared "vpn")), ("site-service:sites", listOf (shared "site")),
        ("switching:device_roles", within "roles"),
        ("switching:switches", listOf (within "switch")),
        ("switching:vlans", listOf (within "vlan")), ("vpn-service:vpns", listOf (shared "vpn"))] =
      .ok deploymentProperties :=
    eachNamedOf_cons hroles (eachNamedOf_cons (rulesOf_listOf hrouter)
      (eachNamedOf_cons (rulesOf_listOf hvpn) (eachNamedOf_cons (rulesOf_listOf hsite)
        (eachNamedOf_cons hroles (eachNamedOf_cons (rulesOf_listOf hswitch)
          (eachNamedOf_cons (rulesOf_listOf hvlan)
            (eachNamedOf_cons (rulesOf_listOf hvpn) rfl)))))))
  have hfind : deploymentModules.find? (·.address = Uri.root) =
      some ⟨.root, .modern, deployment⟩ := by
    cbv
  have hresolve : resolve "" deployment = .ok deployment := by cbv
  rw [rulesAt, hfind]
  simp only [hresolve, bind, Except.bind]
  simp only [deployment, rulesOf, keywordsOf, activeKeyword, keywordOf, namedOf, hnamed, textsOf,
    kindsOf_object]
  rfl

/-- The schema of variables is compiled with its definitions. -/
theorem compile_deployment : compile deploymentModules = .ok deploymentSchema := by
  have htargets : deploymentRules.targets = ([.roles, .router, .shared .vpn, .shared .site, .roles,
      .switch, .vlan, .shared .vpn] : List Definition).map deploymentGlossary.target := by cbv
  have htotal : sizeItems (deploymentModules.map Module.document) + 1 = 206 := by cbv
  refine deploymentGlossary.compile_eq (fun _ h => rulesAt_deployment fun definition hmem => ?_)
    htargets htotal rfl
  exact h definition (by revert hmem; revert definition; decide)

/-- The schema of variables is loaded with its definitions. -/
theorem load_deployment {tree : FileTree} {directory : String} {text : Bytes}
    (htext : tree.readText (Path.join directory "common.schema.json") = .ok text)
    (hparse : Json.parse text = .ok common) :
    Schema.load tree directory deployment = .ok deploymentSchema := by
  have hdialect : mainDialect tree directory deployment = .ok .modern := by cbv
  have hdefect : Dialect.modern.defect? deployment = none := by decide +kernel
  rw [Schema.load, hdialect]
  simp only [loadModules_deployment htext hparse, hdefect, bind, Except.bind]
  exact compile_deployment

end Shipped

/-! ## What the schema means -/

namespace Definition

/-- The interfaces and addresses of VPNs under their keys. -/
def settingsPatterns : List (Pattern × (Json → Prop)) :=
  [(.vpnKey "_interface", IsText), (.vpnKey "_ipv4_address", IsTextLike .ipv4Prefix)]

/-- The system settings of a router. -/
def settingsForms : List (String × (Json → Prop)) :=
  [("system_host_name", IsText), ("system_site_id", IsCount),
    ("system_system_ip", IsTextLike .ipv4Address)]

/-- The settings of a router. -/
def IsSettings : Json → Prop :=
  IsClosedObjectWith settingsPatterns settingsForms settingsKeys

/-- The ports of a VLAN. -/
def IsPort : Json → Prop :=
  IsClosedObject [("name", IsTextLike .position), ("type", IsOneOf familyNames)] ["type", "name"]

/-- The property that a definition stands for. -/
def Meets : Definition → Json → Prop
  | shared part => part.Meets
  | ipv4Address => IsTextLike .ipv4Address
  | ipv4Prefix => IsTextLike .ipv4Prefix
  | roles => IsSetOf IsText
  | router => IsClosedObject [("id", IsText), ("type", IsText), ("variables", IsSettings)]
      ["id", "type", "variables"]
  | switch => IsClosedObject [("id", IsText), ("name", IsText), ("site", IsAnyText),
      ("type", IsText)] ["id", "name", "site", "type"]
  | vlan => IsClosedObject [("id", IsCount), ("interfaces", IsListOf IsPort), ("name", IsText),
      ("sites", IsSetOf (IsOneOf ["DC", "Branch"]))] ["id", "name", "sites", "interfaces"]

/-- The number of references that can be followed in a row from a definition. -/
def height : Definition → Nat
  | shared part => part.height
  | router | switch | vlan => 1
  | ipv4Address | ipv4Prefix | roles => 0

theorem height_lt_of_mem_references {definition other : Definition}
    (h : other ∈ definition.references) : other.height < definition.height := by
  cases definition with
  | shared part =>
    obtain ⟨inner, hinner, rfl⟩ := List.mem_map.mp h
    exact Part.height_lt_of_mem_references hinner
  | _ =>
    revert other
    decide

theorem means_portRules {follow : Follow} : portRules.Means follow IsPort :=
  means_closed (.cons ⟨rfl, means_textLike _⟩ (.cons ⟨rfl, means_oneOf familyNames⟩ .nil)) _

/-- The rules of a definition mean its property, if references do so for the definitions that it
refers to. -/
theorem means_rules (definition : Definition) {follow : Follow}
    (h : ∀ other ∈ definition.references, ∀ path document,
      follow other.target path document = [] ↔ other.Meets document) :
    definition.rules.Means follow definition.Meets := by
  have hrefer : ∀ other ∈ definition.references,
      (Rules.referring other.target).Means follow other.Meets :=
    fun other hother => means_referring (h other hother)
  cases definition with
  | shared part => exact part.means_rules fun other hother => h _ (List.mem_map_of_mem hother)
  | ipv4Address => exact means_textLike _
  | ipv4Prefix => exact means_textLike _
  | roles => exact means_setOf means_someText
  | router =>
    have hsettings : settingsRules.Means follow IsSettings :=
      means_closedWith
        (.cons ⟨rfl, means_someText⟩ (.cons ⟨rfl, hrefer ipv4Prefix (by decide)⟩ .nil))
        (.cons ⟨rfl, means_someText⟩ (.cons ⟨rfl, hrefer (shared .identifier) (by decide)⟩
          (.cons ⟨rfl, hrefer ipv4Address (by decide)⟩ .nil))) _
    exact means_closed (.cons ⟨rfl, hrefer (shared .serial) (by decide)⟩
      (.cons ⟨rfl, means_someText⟩ (.cons ⟨rfl, hsettings⟩ .nil))) _
  | switch =>
    exact means_closed (.cons ⟨rfl, hrefer (shared .serial) (by decide)⟩
      (.cons ⟨rfl, means_someText⟩ (.cons ⟨rfl, means_text⟩ (.cons ⟨rfl, means_someText⟩ .nil)))) _
  | vlan =>
    have hkinds := means_setOf (hrefer (shared .siteType) (by decide))
    exact means_closed (.cons ⟨rfl, hrefer (shared .identifier) (by decide)⟩
      (.cons ⟨rfl, means_listOf means_portRules⟩ (.cons ⟨rfl, means_someText⟩
        (.cons ⟨rfl, hkinds⟩ .nil)))) _

end Definition

namespace Shipped

/-- The documents of intents with their variables. -/
def IsDeployment : Json → Prop :=
  IsObjectWith [("routing:device_roles", IsSetOf IsText),
    ("routing:router", IsListOf (Definition.Meets .router)),
    ("routing:vpns", IsListOf Part.vpn.Meets), ("site-service:sites", IsListOf Part.site.Meets),
    ("switching:device_roles", IsSetOf IsText),
    ("switching:switches", IsListOf (Definition.Meets .switch)),
    ("switching:vlans", IsListOf (Definition.Meets .vlan)),
    ("vpn-service:vpns", IsListOf Part.vpn.Meets)]

/-- **What the schema of variables means**: the documents that obey it are the documents of intents
with their variables. -/
theorem check_deploymentSchema_eq_nil_iff (document : Json) :
    deploymentSchema.check document = [] ↔ IsDeployment document := by
  have hbound : 1 < (depth document + 1) * (deploymentSchema.targets.length + 1) := by
    change 1 < (depth document + 1) * 13
    omega
  have hheight (definition : Definition) : definition.height ≤ 1 := by
    cases definition with
    | shared part => cases part <;> decide
    | _ => decide
  have hfollow (definition : Definition) : (Rules.referring definition.target).Means
      (deploymentSchema.follow _) definition.Meets :=
    means_referring fun path document => deploymentGlossary.follow_eq_nil_iff
      (fun definition => deploymentGlossary.lookup_compiled definition.mem_all)
      (fun _ _ => Definition.height_lt_of_mem_references)
      (fun definition _ => definition.means_rules) definition
      (Nat.lt_of_le_of_lt (hheight definition) hbound) path document
  have hlist (definition : Definition) := means_listOf (hfollow definition)
  have hkeys : deploymentKeys.Perm (deploymentProperties.map Prod.fst) := by decide
  exact means_withKeys (.cons ⟨rfl, hfollow .roles⟩ (.cons ⟨rfl, hlist .router⟩
    (.cons ⟨rfl, hlist (.shared .vpn)⟩ (.cons ⟨rfl, hlist (.shared .site)⟩
      (.cons ⟨rfl, hfollow .roles⟩ (.cons ⟨rfl, hlist .switch⟩ (.cons ⟨rfl, hlist .vlan⟩
        (.cons ⟨rfl, hlist (.shared .vpn)⟩ .nil))))))))
    (fun key => hkeys.mem_iff) [] document

end Shipped

end NetworkIntent.Schema
