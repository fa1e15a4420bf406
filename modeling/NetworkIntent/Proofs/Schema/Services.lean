import Mathlib
import NetworkIntent.Proofs.Schema.Glossary

/-!
# The schema of intents

The schema of intents refers to definitions of the common module, and some of these refer to others.
From the files of both documents the schema is loaded with the rules of all definitions that it
needs, whatever else is in the directories, and its meaning is put together from theirs.

## Main definitions

* `Schema.Part`: the definitions that intents need, each with its place, rules and property.
* `Schema.Part.glossary`: these definitions in their documents.
* `Schema.Shipped.servicesSchema`: the schema of intents with the rules of its definitions.
* `Schema.Shipped.IsServices`: the documents that obey the schema of intents.

## Main results

* `Schema.Shipped.loadModules_services`: the only module that the schema of intents needs is the
  common one.
* `Schema.Shipped.load_services`: the schema of intents is loaded with its definitions.
* `Schema.Part.means_rules`: the rules of definitions mean their properties.
* `Schema.Shipped.check_eq_nil_iff`: the documents without violations.
-/

set_option autoImplicit false

namespace NetworkIntent.Schema

/-! ## The definitions that intents need -/

/-- The definitions of the common module that the schema of intents refers to. -/
inductive Part where
  | identifier
  | name
  | serial
  | siteType
  | site
  | vpn
  deriving DecidableEq

namespace Part

/-- The key of a definition. -/
def key : Part → String
  | .identifier => "identifier"
  | .name => "name"
  | .serial => "serial"
  | .siteType => "siteType"
  | .site => "site"
  | .vpn => "vpn"

/-- The address of the common module. -/
def address : Uri :=
  ⟨"json-schema".toList, some [], "/common.schema.json".toList, none⟩

/-- The place of a definition. -/
def target (part : Part) : Target :=
  ⟨address, "/$defs/" ++ part.key⟩

/-- What is defined. -/
def schema : Part → Json
  | .identifier => .obj [("minimum", .int 0), ("type", .str "integer")]
  | .name | .serial => Shipped.someText
  | .siteType => Shipped.oneOf ["DC", "Branch"]
  | .site => Shipped.closed [("id", Shipped.within "identifier"), ("name", Shipped.within "name"),
      ("router", Shipped.setOf (Shipped.within "serial")),
      ("switches", Shipped.setOf (Shipped.within "serial")),
      ("type", Shipped.within "siteType")] ["id", "name", "type"]
  | .vpn => Shipped.closed [("id", Shipped.within "identifier"), ("name", Shipped.within "name"),
      ("sites", Shipped.setOf (Shipped.within "siteType"))] ["id", "name", "sites"]

/-- The rules of a definition. -/
def rules : Part → Rules
  | .identifier => .identifier
  | .name | .serial => .someText
  | .siteType => .oneOf ["DC", "Branch"]
  | .site => .closed [("id", .referring identifier.target), ("name", .referring name.target),
      ("router", .setOf (.referring serial.target)),
      ("switches", .setOf (.referring serial.target)),
      ("type", .referring siteType.target)] ["id", "name", "type"]
  | .vpn => .closed [("id", .referring identifier.target), ("name", .referring name.target),
      ("sites", .setOf (.referring siteType.target))] ["id", "name", "sites"]

/-- The definitions that a definition refers to. -/
def references : Part → List Part
  | .site => [.identifier, .name, .serial, .serial, .siteType]
  | .vpn => [.identifier, .name, .siteType]
  | _ => []

/-- Different definitions are at different places. -/
theorem target_inj {part other : Part} : part.target = other.target ↔ part = other := by
  constructor
  · intro h
    have hkey := congrArg Target.fragment h
    cases part <;> cases other <;> first | rfl | cases hkey
  · rintro rfl
    rfl

/-- The definitions are in the common module. -/
theorem resolve_target (part : Part) :
    resolve part.target.fragment Shipped.common = .ok part.schema := by
  cases part <;> cbv

/-- A reference within the common module leads to the definition that it names. -/
theorem targetOf_within (part : Part) :
    targetOf address ("#/$defs/" ++ part.key) = .ok part.target := by
  cases part <;> cbv

theorem targetsIn_schema (part : Part) :
    targetsIn address part.schema = .ok (part.references.map target) := by
  cases part <;> cbv

theorem targets_rules (part : Part) : part.rules.targets = part.references.map target := by
  cases part <;> cbv

/-- A definition is read as its rules, if there is no defect at the places it refers to. -/
theorem rulesOf_schema (part : Part) {visit : Target → Except Defect Unit}
    (h : ∀ other ∈ part.references, visit other.target = .ok ()) :
    rulesOf ⟨.modern, address, visit⟩ part.schema = .ok part.rules := by
  have hwithin : ∀ other ∈ part.references,
      rulesOf ⟨.modern, address, visit⟩ (Shipped.within other.key) =
        .ok (.referring other.target) :=
    fun other hother => rulesOf_reference (targetOf_within other) (h other hother)
  cases part with
  | identifier => cbv
  | name | serial => exact rulesOf_someText
  | siteType => exact rulesOf_oneOf _
  | site =>
    have hserials := rulesOf_setOf (hwithin .serial (by decide))
    exact rulesOf_closed (eachNamedOf_cons (hwithin .identifier (by decide))
      (eachNamedOf_cons (hwithin .name (by decide)) (eachNamedOf_cons hserials
        (eachNamedOf_cons hserials (eachNamedOf_cons (hwithin .siteType (by decide)) rfl))))) _
  | vpn =>
    have hkinds := rulesOf_setOf (hwithin .siteType (by decide))
    exact rulesOf_closed (eachNamedOf_cons (hwithin .identifier (by decide))
      (eachNamedOf_cons (hwithin .name (by decide)) (eachNamedOf_cons hkinds rfl))) _

/-- A reference to the common module leads to the definition that it names. -/
theorem rulesOf_shared (part : Part) {visit : Target → Except Defect Unit}
    (h : visit part.target = .ok ()) :
    rulesOf ⟨.modern, .root, visit⟩ (Shipped.shared part.key) = .ok (.referring part.target) :=
  rulesOf_reference (by cases part <;> cbv) h

end Part

/-! ## Loading the schema -/

namespace Shipped

/-- The schema of intents with the common module. -/
def intentModules : List Module :=
  [⟨.root, .modern, services⟩, ⟨Part.address, .modern, common⟩]

/-- The rules of intents. -/
def servicesRules : Rules :=
  .all [.properties [("site-service:sites", .listOf (.referring Part.site.target)),
      ("vpn-service:vpns", .listOf (.referring Part.vpn.target))],
    .required ["site-service:sites", "vpn-service:vpns"], .kind [.object]]

/-- The definitions in the order in which they are compiled. -/
def compiledParts : List Part :=
  [.site, .identifier, .name, .serial, .siteType, .vpn]

/-- The schema of intents. -/
def servicesSchema : Schema :=
  ⟨servicesRules, compiledParts.map fun part => (part.target, part.rules)⟩

/-- The common module is loaded from its file. -/
theorem loadDocument_common {tree : FileTree} {directory : String} {text : Bytes}
    (htext : tree.readText (Path.join directory "common.schema.json") = .ok text)
    (hparse : Json.parse text = .ok common) :
    loadDocument tree directory Part.address = .ok common := by
  have hname : Part.address.fileName = "common.schema.json" := by cbv
  have hempty : "common.schema.json".isEmpty = false := by cbv
  rw [loadDocument, hname, hempty]
  simp only [Bool.false_eq_true, if_false, htext, hparse]

/-- The definitions that the common module mentions are the ones that sites and VPNs refer to. -/
theorem targetsIn_common : targetsIn Part.address common =
    .ok ((Part.site.references ++ Part.vpn.references).map Part.target) := by
  cbv

/-- The definitions that intents need, with the documents of intents. -/
def glossary : Glossary Part where
  modules := intentModules
  home _ := ⟨Part.address, .modern, common⟩
  target := Part.target
  schema := Part.schema
  rules := Part.rules
  references := Part.references
  target_injective _ _ := Part.target_inj.mp
  find_home part := by cases part <;> cbv
  resolve_target := Part.resolve_target
  targetsIn_schema part := ⟨_, Part.targetsIn_schema part⟩
  rulesOf_schema part _ := Part.rulesOf_schema part
  targets_rules := Part.targets_rules

/-- The only module that the schema of intents needs is the common one. -/
theorem loadModules_services {tree : FileTree} {directory : String} {text : Bytes}
    (htext : tree.readText (Path.join directory "common.schema.json") = .ok text)
    (hparse : Json.parse text = .ok common) :
    loadModules tree directory .modern services = .ok intentModules := by
  have hmentioned : targetsIn .root services = .ok ([Part.site, .vpn].map Part.target) := by cbv
  exact glossary.loadModules_eq rfl hmentioned rfl (by decide)
    (loadDocument_common htext hparse) (by cbv) targetsIn_common

/-- The rules of intents, if there is no defect at the places they refer to. -/
theorem rulesAt_root {visit : Target → Except Defect Unit} (hsite : visit Part.site.target = .ok ())
    (hvpn : visit Part.vpn.target = .ok ()) :
    rulesAt intentModules visit ⟨.root, ""⟩ = .ok servicesRules := by
  have hfind : intentModules.find? (·.address = Uri.root) = some ⟨.root, .modern, services⟩ := by
    cbv
  have hnamed : eachNamedOf ⟨.modern, .root, visit⟩
      [("site-service:sites", listOf (shared "site")),
        ("vpn-service:vpns", listOf (shared "vpn"))] =
      .ok [("site-service:sites", .listOf (.referring Part.site.target)),
        ("vpn-service:vpns", .listOf (.referring Part.vpn.target))] :=
    eachNamedOf_cons (rulesOf_listOf (Part.rulesOf_shared .site hsite))
      (eachNamedOf_cons (rulesOf_listOf (Part.rulesOf_shared .vpn hvpn)) rfl)
  rw [rulesAt, hfind]
  have hresolve : resolve "" services = .ok services := by cbv
  simp only [hresolve, bind, Except.bind]
  simp only [services, rulesOf, keywordsOf, activeKeyword, keywordOf, namedOf, hnamed, textsOf,
    kindsOf_object]
  rfl

/-- The schema of intents is compiled with its definitions. -/
theorem compile_services : compile intentModules = .ok servicesSchema :=
  have htargets : servicesRules.targets = [Part.site, .vpn].map glossary.target := by cbv
  have htotal : sizeItems (intentModules.map Module.document) + 1 = 81 := by cbv
  glossary.compile_eq
    (fun _ h => rulesAt_root (h .site (by decide)) (h .vpn (by decide))) htargets htotal rfl

/-- The schema of intents is loaded with its definitions. -/
theorem load_services {tree : FileTree} {directory : String} {text : Bytes}
    (htext : tree.readText (Path.join directory "common.schema.json") = .ok text)
    (hparse : Json.parse text = .ok common) :
    Schema.load tree directory services = .ok servicesSchema := by
  have hdialect : mainDialect tree directory services = .ok .modern := by cbv
  have hdefect : Dialect.modern.defect? services = none := by decide +kernel
  rw [Schema.load, hdialect]
  simp only [loadModules_services htext hparse, hdefect, bind, Except.bind]
  exact compile_services

end Shipped

/-! ## What the schema means -/

namespace Part

/-- The property that a definition stands for. -/
def Meets : Part → Json → Prop
  | .identifier => IsCount
  | .name | .serial => IsText
  | .siteType => IsOneOf ["DC", "Branch"]
  | .site => IsClosedObject [("id", IsCount), ("name", IsText), ("router", IsSetOf IsText),
      ("switches", IsSetOf IsText), ("type", IsOneOf ["DC", "Branch"])] ["id", "name", "type"]
  | .vpn => IsClosedObject [("id", IsCount), ("name", IsText),
      ("sites", IsSetOf (IsOneOf ["DC", "Branch"]))] ["id", "name", "sites"]

/-- The number of references that can be followed in a row from a definition. -/
def height : Part → Nat
  | .site | .vpn => 1
  | _ => 0

theorem height_lt_of_mem_references {part other : Part} (h : other ∈ part.references) :
    other.height < part.height := by
  revert other
  cases part <;> decide

/-- The rules of a definition mean its property, if references do so for the definitions that it
refers to. -/
theorem means_rules (part : Part) {follow : Follow}
    (h : ∀ other ∈ part.references, ∀ path document,
      follow other.target path document = [] ↔ other.Meets document) :
    part.rules.Means follow part.Meets := by
  have hrefer : ∀ other ∈ part.references,
      (Rules.referring other.target).Means follow other.Meets :=
    fun other hother => means_referring (h other hother)
  cases part with
  | identifier => exact means_identifier
  | name | serial => exact means_someText
  | siteType => exact means_oneOf _
  | site =>
    have hserials := means_setOf (hrefer .serial (by decide))
    exact means_closed (.cons ⟨rfl, hrefer .identifier (by decide)⟩ (.cons
      ⟨rfl, hrefer .name (by decide)⟩ (.cons ⟨rfl, hserials⟩ (.cons ⟨rfl, hserials⟩ (.cons
        ⟨rfl, hrefer .siteType (by decide)⟩ .nil))))) _
  | vpn =>
    have hkinds := means_setOf (hrefer .siteType (by decide))
    exact means_closed (.cons ⟨rfl, hrefer .identifier (by decide)⟩ (.cons
      ⟨rfl, hrefer .name (by decide)⟩ (.cons ⟨rfl, hkinds⟩ .nil))) _

end Part

namespace Shipped

/-- References to definitions mean their properties. -/
theorem follow_target (part : Part) {fuel : Nat} (h : part.height < fuel) (path : List String)
    (document : Json) :
    servicesSchema.follow fuel part.target path document = [] ↔ part.Meets document :=
  have hall (part : Part) : part ∈ compiledParts := by cases part <;> decide
  glossary.follow_eq_nil_iff (fun part => glossary.lookup_compiled (hall part))
    (fun _ _ => Part.height_lt_of_mem_references) (fun part _ => part.means_rules) part h path
    document

/-- The documents of intents: objects that have a list of sites and a list of VPNs under their
keys. -/
def IsServices (document : Json) : Prop :=
  ∃ fields sites vpns, document = .obj fields ∧
    Table.get? "site-service:sites" fields = some (.arr sites) ∧
    Table.get? "vpn-service:vpns" fields = some (.arr vpns) ∧
    (∀ site ∈ sites, Part.site.Meets site) ∧ ∀ vpn ∈ vpns, Part.vpn.Meets vpn

theorem means_servicesRules {follow : Follow}
    (h : ∀ part : Part, ∀ path document,
      follow part.target path document = [] ↔ part.Meets document) :
    servicesRules.Means follow IsServices := by
  have hlist (part : Part) := means_listOf (means_referring (h part))
  intro path document
  rw [servicesRules, checkRules, checkEach_eq_nil_iff]
  cases document with
  | obj fields =>
    have hkey (key : String) (part : Part) :
        (checkKey (checkRules follow (.listOf (.referring part.target))) path key fields = [] ∧
          Table.contains key fields = true) ↔
        ∃ items, Table.get? key fields = some (.arr items) ∧ ∀ item ∈ items, part.Meets item := by
      rw [checkKey, Table.contains]
      cases Table.get? key fields with
      | none => simp
      | some value => simp [hlist part _ value, IsListOf]
    simp only [List.forall_mem_cons, checkRule, checkProperties, List.append_nil,
      List.append_eq_nil_iff, List.map_eq_nil_iff, List.filter_eq_nil_iff, Bool.not_eq_true']
    constructor
    · rintro ⟨⟨hsites, hvpns⟩, ⟨hsite, hvpn, -⟩, -⟩
      obtain ⟨sites, hgetSites, hmeetSites⟩ := (hkey _ _).mp ⟨hsites, by simpa using hsite⟩
      obtain ⟨vpns, hgetVpns, hmeetVpns⟩ := (hkey _ _).mp ⟨hvpns, by simpa using hvpn⟩
      exact ⟨fields, sites, vpns, rfl, hgetSites, hgetVpns, hmeetSites, hmeetVpns⟩
    · rintro ⟨_, sites, vpns, ⟨⟩, hgetSites, hgetVpns, hmeetSites, hmeetVpns⟩
      obtain ⟨hsites, hsite⟩ := (hkey _ .site).mpr ⟨sites, hgetSites, hmeetSites⟩
      obtain ⟨hvpns, hvpn⟩ := (hkey _ .vpn).mpr ⟨vpns, hgetVpns, hmeetVpns⟩
      exact ⟨⟨hsites, hvpns⟩, by simp [hsite, hvpn], by simp [Kind.has]⟩
  | _ => simp [checkRule, Kind.has, IsServices]

/-- **What the schema of intents means**: the documents that obey it are the documents of
intents. -/
theorem check_eq_nil_iff (document : Json) :
    servicesSchema.check document = [] ↔ IsServices document := by
  have hbound : 1 < (depth document + 1) * (servicesSchema.targets.length + 1) := by
    change 1 < (depth document + 1) * 7
    omega
  have hheight (part : Part) : part.height ≤ 1 := by cases part <;> decide
  exact means_servicesRules (fun part =>
    follow_target part (Nat.lt_of_le_of_lt (hheight part) hbound)) [] document

end Shipped

end NetworkIntent.Schema
