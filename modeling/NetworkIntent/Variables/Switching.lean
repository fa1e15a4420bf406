import NetworkIntent.Intent.Basic
import NetworkIntent.Port

/-!
# Switching variables

What the switches of a network are configured with: the switches, and for every VPN its VLAN with
the ports that carry it and the kinds of the sites where there are such ports.

## Main definitions

* `Switching.Switch`: a switch as the inventory knows it.
* `Switching.Vlan`: the VLAN of a VPN.
* `Switching.Document`: the switches and VLANs of a network.
-/

set_option autoImplicit false

namespace NetworkIntent

/-- Some kinds of sites as a set: each of them once, in their order. -/
def SiteKind.setOf (kinds : List SiteKind) : List SiteKind :=
  SiteKind.all.filter kinds.contains

namespace Switching

/-- A switch: its serial, and its name, site and role in the inventory. -/
structure Switch where
  serial : String
  name : String
  site : String
  role : String
  deriving DecidableEq, Repr

namespace Switch

/-- Reads a switch from a document. -/
def decoder : Json.Decoder Switch :=
  ((Json.Record.pure Switch.mk)
    |>.more (.required "id" .text)
    |>.more (.required "name" .text)
    |>.more (.required "site" .text)
    |>.more (.required "type" .text)).decoder "struct SwitchRecord"

/-- The document of a switch. -/
def toJson (switch : Switch) : Json :=
  .ofEntries [("id", .str switch.serial), ("name", .str switch.name), ("site", .str switch.site),
    ("type", .str switch.role)]

end Switch

/-- The VLAN of a VPN: the kinds of the sites where it has ports, and the ports. -/
structure Vlan where
  id : Int64
  name : String
  sites : List SiteKind
  ports : List Port
  deriving DecidableEq, Repr

namespace Vlan

/-- Reads a VLAN from a document. -/
def decoder : Json.Decoder Vlan :=
  ((Json.Record.pure fun id name sites ports => Vlan.mk id name (SiteKind.setOf sites) ports)
    |>.more (.required "id" .int64)
    |>.more (.required "name" .text)
    |>.more (.required "sites" (.list SiteKind.decoder))
    |>.more (.required "interfaces" (.list Port.decoder))).decoder "struct VlanRecord"

/-- The document of a VLAN. -/
def toJson (vlan : Vlan) : Json :=
  .ofEntries [("id", .ofInt64 vlan.id), ("name", .str vlan.name),
    ("sites", .arr (vlan.sites.map SiteKind.toJson)),
    ("interfaces", .arr (vlan.ports.map Port.toJson))]

end Vlan

/-- The switches and VLANs of a network, with the roles of its devices. -/
structure Document where
  switches : List Switch
  vlans : List Vlan
  roles : List String
  deriving DecidableEq, Repr

namespace Document

/-- Reads the switches and VLANs of a network from a document. -/
def decoder : Json.Decoder Document :=
  ((Json.Record.pure Document.mk)
    |>.more (.required "switches" (.list Switch.decoder))
    |>.more (.required "vlans" (.list Vlan.decoder))
    |>.more (.required "device_roles" (.list .text))).decoder "struct SwitchingVariables"

/-- The document of the switches and VLANs of a network. -/
def toJson (document : Document) : Json :=
  .ofEntries [("switches", .arr (document.switches.map Switch.toJson)),
    ("vlans", .arr (document.vlans.map Vlan.toJson)), ("device_roles", .ofTexts document.roles)]

end Document

end Switching

end NetworkIntent
