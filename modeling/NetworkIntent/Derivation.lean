import NetworkIntent.Inventory.Basic
import NetworkIntent.Variables.Routing
import NetworkIntent.Variables.Switching

/-!
# Derivation of variables

The variables of the devices that an intent lists, from what an inventory knows about them.

A router needs a system interface, an interface for the WAN and one for management, and one for each
VPN that applies to its site. The ports of a VLAN are collected from all switches. The first
question that has no answer ends the derivation.

## Main definitions

* `Derivation.Fault`: why variables cannot be derived.
* `Derivation.routing`: the routing variables of an intent.
* `Derivation.switching`: its switching variables.
-/

set_option autoImplicit false

namespace NetworkIntent.Derivation

variable {σ : Type}

/-- Why variables cannot be derived. -/
inductive Fault where
  /-- A question about a device has no answer. -/
  | lookup (device : String) (cause : Inventory.Fault)
  /-- An address of a device has no meaning. -/
  | address (device address : String) (cause : Cidr.Fault)
  deriving DecidableEq, Repr

/-- The description of what lies behind a fault. -/
def Fault.cause : Fault → String
  | .lookup _ cause => cause.message
  | .address _ _ cause => cause.message

/-- The description of a fault. -/
def Fault.message : Fault → String
  | .lookup device cause => s!"Inventory lookup for {device} failed: {cause.message}"
  | .address device written cause =>
    s!"Device {device} has malformed address {quoted written}: {cause.message}"

/-- The name of the system interface of a router. -/
def systemInterface : String := "Sdwan-system-intf"

/-- The VPNs that every router has, each with the description of its interface: the WAN, and the
management of the infrastructure. -/
def reservedVpns : List (Int64 × String) :=
  [(0, "WAN"), (99, "INFRA")]

/-- Asks a question about a device. -/
def ask {α : Type} (device : String) (question : Action σ Inventory.Fault α) : Action σ Fault α :=
  question.mapFailure (.lookup device)

/-- The roles of devices, in the order of the inventory. -/
def roles (inventory : Inventory σ) (present : List String) : Action σ Fault (List String) :=
  ask "device roles" (inventory.rolesAmong present)

/-! ### Routers -/

/-- The address of an interface with its mask. -/
def cidrOf (inventory : Inventory σ) (device : Device) (interface : Interface) :
    Action σ Fault Cidr := do
  let assigned ← ask device.serial (inventory.addressOf interface.id)
  .ofExcept (assigned.cidr.mapError (.address device.serial assigned.address))

/-- Binds the reserved VPNs of a router to the interfaces described by them, with their addresses in
canonical form. -/
def bindReserved (inventory : Inventory σ) (serial : String) (device : Device) :
    List (Int64 × String) → Routing.Variables → Action σ Fault Routing.Variables
  | [], settings => return settings
  | (vpn, description) :: rest, settings => do
    let interface ← ask serial (inventory.interfaceByDescription description (.number device.id))
    let cidr ← cidrOf inventory device interface
    bindReserved inventory serial device rest (settings.bind vpn interface.name cidr.text)

/-- Binds the declared VPNs of a router to the interfaces described by their names, with their
addresses as they are stored. -/
def bindDeclared (inventory : Inventory σ) (serial : String) (device : Device) :
    List Vpn → Routing.Variables → Action σ Fault Routing.Variables
  | [], settings => return settings
  | vpn :: rest, settings => do
    let interface ← ask serial (inventory.interfaceByDescription vpn.name (.number device.id))
    let assigned ← ask serial (inventory.addressOf interface.id)
    bindDeclared inventory serial device rest
      (settings.bind vpn.id interface.name assigned.address)

/-- The router of a site with a serial. -/
def router (inventory : Inventory σ) (intent : Intent) (site : Site) (serial : String) :
    Action σ Fault Routing.Router := do
  let device ← ask serial (inventory.deviceBySerial serial)
  let system ← ask serial (inventory.interfaceByName systemInterface (.number device.id))
  let cidr ← cidrOf inventory device system
  let settings := Routing.Variables.new site.id cidr.bare device.name
  let settings ← bindReserved inventory serial device reservedVpns settings
  let settings ←
    bindDeclared inventory serial device (intent.vpnsFor site.kind) settings
  return ⟨device.serial, device.role, settings⟩

/-- The sites of an intent with the serials that are listed for each, in document order. -/
def listed (serials : Site → List String) (intent : Intent) : List (Site × String) :=
  intent.sites.flatMap fun site => (serials site).map fun serial => (site, serial)

/-- The routing variables of an intent. -/
def routing (inventory : Inventory σ) (intent : Intent) : Action σ Fault Routing.Document := do
  let routers ← (listed Site.routers intent).mapM fun (site, serial) =>
    router inventory intent site serial
  let roles ← roles inventory (routers.map Routing.Router.role)
  return ⟨routers, intent.vpns, roles⟩

/-! ### Switches -/

/-- The ports of interfaces that belong to ports. -/
def portsOf (interfaces : List Interface) : List Port :=
  interfaces.filterMap fun interface => Port.ofInterface? interface.name

/-- The VLAN of a VPN over switches, each given with the kind of its site and the interfaces on it
that are described by the name of the VPN. -/
def vlanOf (vpn : Vpn) (tagged : List (SiteKind × List Interface)) : Switching.Vlan :=
  let ports := tagged.flatMap fun (_, interfaces) => portsOf interfaces
  let kinds := tagged.filterMap fun (kind, interfaces) =>
    if (portsOf interfaces).isEmpty then none else some kind
  ⟨vpn.id, vpn.name, SiteKind.setOf kinds,
    (Table.ofEntries (ports.map fun port => (port.key, port))).map Prod.snd⟩

/-- The VLAN of a VPN over switches, each given with the kind of its site. -/
def vlan (inventory : Inventory σ) (switches : List (SiteKind × Device)) (vpn : Vpn) :
    Action σ Fault Switching.Vlan := do
  let tagged ← switches.mapM fun (kind, device) => do
    let interfaces ← ask device.serial
      (inventory.interfacesByDescription vpn.name (.number device.id))
    return (kind, interfaces)
  return vlanOf vpn tagged

/-- The switching variables of an intent. -/
def switching (inventory : Inventory σ) (intent : Intent) :
    Action σ Fault Switching.Document := do
  let resolved ← (listed Site.switches intent).mapM fun (site, serial) => do
    let device ← ask serial (inventory.deviceBySerial serial)
    return (site.kind, device)
  let vlans ← intent.vpns.mapM (vlan inventory resolved)
  let switches := resolved.map fun (_, device) =>
    Switching.Switch.mk device.serial device.name device.site device.role
  let roles ← roles inventory (switches.map Switching.Switch.role)
  return ⟨switches, vlans, roles⟩

end NetworkIntent.Derivation
