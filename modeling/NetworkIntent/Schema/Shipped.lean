import NetworkIntent.Json.Printer

/-!
# The schemas of intents and variables

The documents of the schemas that come with the library: the one of intents, the one of intents with
their variables, and the module of what they share. All objects with known keys are closed, except
that an intent may carry more at its top.

## Main definitions

* `Schema.Shipped.common`: sites, VPNs and their parts.
* `Schema.Shipped.services`: intents.
* `Schema.Shipped.deployment`: intents with routing and switching variables.
* `Schema.Shipped.files`: the three documents under the names of their files.
-/

set_option autoImplicit false

namespace NetworkIntent.Schema.Shipped

/-- The version of the schema language. -/
def dialect : Json :=
  .str "https://json-schema.org/draft/2020-12/schema"

/-! ### Forms of schemas -/

/-- A reference to another schema. -/
def reference (target : String) : Json :=
  .obj [("$ref", .str target)]

/-- A reference to a definition of the common module. -/
def shared (name : String) : Json :=
  reference ("common.schema.json#/$defs/" ++ name)

/-- A reference to a definition of the same document. -/
def within (name : String) : Json :=
  reference ("#/$defs/" ++ name)

/-- Texts of at least one character. -/
def someText : Json :=
  .obj [("minLength", .int 1), ("type", .str "string")]

/-- Texts that match a pattern. -/
def textLike (pattern : String) : Json :=
  .obj [("pattern", .str pattern), ("type", .str "string")]

/-- One of the given texts. -/
def oneOf (options : List String) : Json :=
  .obj [("enum", .arr (options.map .str))]

/-- Lists of items. -/
def listOf (item : Json) : Json :=
  .obj [("items", item), ("type", .str "array")]

/-- Lists of items that are all different. -/
def setOf (item : Json) : Json :=
  .obj [("items", item), ("type", .str "array"), ("uniqueItems", .bool true)]

/-- Objects with no other keys than the given ones. -/
def closed (properties : Fields) (required : List String) : Json :=
  .obj [("additionalProperties", .bool false), ("properties", .obj properties),
    ("required", .arr (required.map .str)), ("type", .str "object")]

/-- Objects with no other keys than the given ones and those that match a pattern. -/
def closedWith (patterns properties : Fields) (required : List String) : Json :=
  .obj [("additionalProperties", .bool false), ("patternProperties", .obj patterns),
    ("properties", .obj properties), ("required", .arr (required.map .str)),
    ("type", .str "object")]

/-! ### Documents -/

/-- Sites, VPNs and their parts. -/
def common : Json :=
  .obj [("$defs", .obj [
      ("identifier", .obj [("minimum", .int 0), ("type", .str "integer")]),
      ("ipv4Address", textLike "^[0-9]\x7b1,3\x7d(\\.[0-9]\x7b1,3\x7d)\x7b3\x7d$"),
      ("ipv4Prefix",
        textLike "^[0-9]\x7b1,3\x7d(\\.[0-9]\x7b1,3\x7d)\x7b3\x7d/[0-9]\x7b1,2\x7d$"),
      ("name", someText),
      ("serial", someText),
      ("site", closed [("id", within "identifier"), ("name", within "name"),
        ("router", setOf (within "serial")), ("switches", setOf (within "serial")),
        ("type", within "siteType")] ["id", "name", "type"]),
      ("siteType", oneOf ["DC", "Branch"]),
      ("vpn", closed [("id", within "identifier"), ("name", within "name"),
        ("sites", setOf (within "siteType"))] ["id", "name", "sites"])]),
    ("$schema", dialect),
    ("title", .str "Shared definitions for service intent and compiled variables")]

/-- Intents. -/
def services : Json :=
  .obj [("$schema", dialect),
    ("properties", .obj [("site-service:sites", listOf (shared "site")),
      ("vpn-service:vpns", listOf (shared "vpn"))]),
    ("required", .arr [.str "site-service:sites", .str "vpn-service:vpns"]),
    ("title", .str "Service intent: sites and VPNs"),
    ("type", .str "object")]

/-- The settings of a router. -/
def routerVariables : Json :=
  closedWith
    [("^vpn[0-9]+_interface$", someText), ("^vpn[0-9]+_ipv4_address$", shared "ipv4Prefix")]
    [("system_host_name", someText), ("system_site_id", shared "identifier"),
      ("system_system_ip", shared "ipv4Address")]
    ["system_site_id", "system_system_ip", "system_host_name", "vpn0_interface",
      "vpn0_ipv4_address", "vpn99_interface", "vpn99_ipv4_address"]

/-- The ports of a VLAN. -/
def port : Json :=
  closed [("name", textLike "^[0-9]+/[0-9]+/[0-9]+$"),
    ("type", oneOf ["GigabitEthernet", "TenGigabitEthernet"])] ["type", "name"]

/-- Intents with routing and switching variables. -/
def deployment : Json :=
  .obj [("$defs", .obj [
      ("roles", setOf someText),
      ("router", closed [("id", shared "serial"), ("type", someText),
        ("variables", routerVariables)] ["id", "type", "variables"]),
      ("switch", closed [("id", shared "serial"), ("name", someText),
        ("site", .obj [("type", .str "string")]), ("type", someText)]
        ["id", "name", "site", "type"]),
      ("vlan", closed [("id", shared "identifier"), ("interfaces", listOf port),
        ("name", someText), ("sites", setOf (shared "siteType"))]
        ["id", "name", "sites", "interfaces"])]),
    ("$schema", dialect),
    ("properties", .obj [("routing:device_roles", within "roles"),
      ("routing:router", listOf (within "router")), ("routing:vpns", listOf (shared "vpn")),
      ("site-service:sites", listOf (shared "site")),
      ("switching:device_roles", within "roles"),
      ("switching:switches", listOf (within "switch")),
      ("switching:vlans", listOf (within "vlan")),
      ("vpn-service:vpns", listOf (shared "vpn"))]),
    ("required", .arr [.str "site-service:sites", .str "vpn-service:vpns",
      .str "routing:router", .str "routing:vpns", .str "routing:device_roles",
      .str "switching:switches", .str "switching:vlans", .str "switching:device_roles"]),
    ("title", .str "Service intent merged with compiled routing and switching variables"),
    ("type", .str "object")]

/-- The documents under the names of their files. -/
def files : List (String × Json) :=
  [("services.schema.json", services), ("variables.schema.json", deployment),
    ("modules/common.schema.json", common)]

end NetworkIntent.Schema.Shipped
