import NetworkIntent.Intent.Basic

/-!
# Routing variables

What the routers of a network are configured with: for every router its system settings, and for
every VPN on it the interface that carries the VPN and the address of the interface.

The VPNs of a router share one table, with two keys for each VPN. In a document the table stands
beside the system settings.

## Main definitions

* `Routing.Variables`: the settings of a router, with `bind`, `interface?` and `address?` for its
  VPNs.
* `Routing.Router`: a router with its settings.
* `Routing.Document`: the routers of a network.
-/

set_option autoImplicit false

namespace NetworkIntent.Routing

/-- The settings of a router. -/
structure Variables where
  siteId : Int64
  systemIp : String
  hostName : String
  bindings : Table String
  deriving DecidableEq, Repr

namespace Variables

/-- The key of the interface that carries a VPN. -/
def interfaceKey (vpn : Int64) : String :=
  s!"vpn{vpn.toInt}_interface"

/-- The key of the address of the interface that carries a VPN. -/
def addressKey (vpn : Int64) : String :=
  s!"vpn{vpn.toInt}_ipv4_address"

/-- The settings of a router without VPNs. -/
def new (siteId : Int64) (systemIp hostName : String) : Variables :=
  ⟨siteId, systemIp, hostName, []⟩

/-- Has a VPN carried by an interface with an address, in place of the ones it may have had. -/
def bind (vpn : Int64) (interface address : String) (settings : Variables) : Variables :=
  { settings with
    bindings := Table.insert (addressKey vpn) address
      (Table.insert (interfaceKey vpn) interface settings.bindings) }

/-- The interface that carries a VPN. -/
def interface? (settings : Variables) (vpn : Int64) : Option String :=
  Table.get? (interfaceKey vpn) settings.bindings

/-- The address of the interface that carries a VPN. -/
def address? (settings : Variables) (vpn : Int64) : Option String :=
  Table.get? (addressKey vpn) settings.bindings

/-- The fields of the system settings. -/
def record : Json.Record (Int64 × String × String) :=
  (Json.Record.pure fun siteId systemIp hostName => (siteId, systemIp, hostName))
    |>.more (.required "system_site_id" .int64)
    |>.more (.required "system_system_ip" .text)
    |>.more (.required "system_host_name" .text)

/-- Reads the settings of a router from an object: first the system settings, and then the entries
of all other keys, which are texts. -/
def ofJson : Json → Except Json.Mismatch Variables
  | .obj fields => do
    let (siteId, systemIp, hostName) ← record.ofFields fields
    let others := fields.filter fun (key, _) => (record.slotOf? key).isNone
    let bindings ← others.mapM fun (key, value) => (key, ·) <$> Json.Decoder.text.ofJson value
    return ⟨siteId, systemIp, hostName, bindings⟩
  | document => throw (.ofType document "struct RouterVariables")

/-- Reads the settings of a router. -/
def decoder : Json.Decoder Variables :=
  .ofDocument ofJson

/-- The object of all bindings. -/
def bindingsToJson (settings : Variables) : Json :=
  .ofEntries (settings.bindings.map fun (key, value) => (key, .str value))

/-- The document of the settings of a router. -/
def toJson (settings : Variables) : Json :=
  .ofEntries ([("system_site_id", .ofInt64 settings.siteId),
      ("system_system_ip", .str settings.systemIp), ("system_host_name", .str settings.hostName)]
    ++ settings.bindings.map fun (key, value) => (key, .str value))

end Variables

/-- A router: its serial, its role in the inventory and its settings. -/
structure Router where
  serial : String
  role : String
  settings : Variables
  deriving DecidableEq, Repr

namespace Router

/-- Reads a router from a document. -/
def decoder : Json.Decoder Router :=
  ((Json.Record.pure Router.mk)
    |>.more (.required "id" .text)
    |>.more (.required "type" .text)
    |>.more (.required "variables" Variables.decoder)).decoder "struct RouterRecord"

/-- The document of a router. -/
def toJson (router : Router) : Json :=
  .ofEntries [("id", .str router.serial), ("type", .str router.role),
    ("variables", router.settings.toJson)]

end Router

/-- The routers of a network, with its VPNs and the roles of its devices. -/
structure Document where
  routers : List Router
  vpns : List Vpn
  roles : List String
  deriving DecidableEq, Repr

namespace Document

/-- Reads the routers of a network from a document. -/
def decoder : Json.Decoder Document :=
  ((Json.Record.pure Document.mk)
    |>.more (.required "router" (.list Router.decoder))
    |>.more (.required "vpns" (.list Vpn.decoder))
    |>.more (.required "device_roles" (.list .text))).decoder "struct RoutingVariables"

/-- The document of the routers of a network. -/
def toJson (document : Document) : Json :=
  .ofEntries [("router", .arr (document.routers.map Router.toJson)),
    ("vpns", .arr (document.vpns.map Vpn.toJson)), ("device_roles", .ofTexts document.roles)]

end Document

end NetworkIntent.Routing
