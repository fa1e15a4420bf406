import NetworkIntent.FileTree.Basic
import NetworkIntent.Inventory.Basic

/-!
# Snapshots of an inventory

The contents of an inventory as one document. Questions are answered by exact comparison, in the
order of the document.

## Main definitions

* `Snapshot`: the contents of an inventory.
* `Snapshot.inventory`: the inventory that answers from a snapshot.
* `Snapshot.parse`, `Snapshot.load`: the snapshot that a text or a file holds.
-/

set_option autoImplicit false

namespace NetworkIntent

/-- The contents of an inventory. -/
structure Snapshot where
  devices : List Device
  interfaces : List Interface
  addresses : List AssignedAddress
  roles : List String
  deriving DecidableEq, Repr

namespace Snapshot

/-- Reads a snapshot from a document. Every part may be left out. -/
def decoder : Json.Decoder Snapshot :=
  ((Json.Record.pure Snapshot.mk)
    |>.more (.withDefault "devices" (.list Device.decoder) [])
    |>.more (.withDefault "interfaces" (.list Interface.decoder) [])
    |>.more (.withDefault "ip_addresses" (.list AssignedAddress.decoder) [])
    |>.more (.withDefault "roles" (.list .text) [])).decoder "struct InventorySnapshot"

/-- The document of a snapshot. -/
def toJson (snapshot : Snapshot) : Json :=
  .ofEntries [("devices", .arr (snapshot.devices.map Device.toJson)),
    ("interfaces", .arr (snapshot.interfaces.map Interface.toJson)),
    ("ip_addresses", .arr (snapshot.addresses.map AssignedAddress.toJson)),
    ("roles", .ofTexts snapshot.roles)]

/-- The snapshot that a text holds. -/
def parse (text : Bytes) : Except Inventory.Fault Snapshot :=
  (decoder.parse text).mapError fun fault => .malformed .snapshot fault.message

/-- The snapshot that a file holds. -/
def load (path : String) (tree : FileTree) : Except Inventory.Fault Snapshot :=
  match tree.readText path with
  | .error cause => .error (.unreachable s!"cannot read snapshot {path}: {cause.message}")
  | .ok text => parse text

/-! ### Answers -/

/-- The devices with a serial. -/
def devicesBySerial (snapshot : Snapshot) (serial : String) : List Device :=
  snapshot.devices.filter (·.serial = serial)

/-- The numbers of the devices that a reference names. -/
def deviceIds (snapshot : Snapshot) : DeviceRef → List Int64
  | .number id => [id]
  | .named name => (snapshot.devices.filter (·.name = name)).map Device.id

/-- The interfaces of a device that meet a condition. -/
def interfacesWhere (snapshot : Snapshot) (device : DeviceRef) (condition : Interface → Bool) :
    List Interface :=
  snapshot.interfaces.filter fun interface =>
    (snapshot.deviceIds device).contains interface.device && condition interface

/-- The addresses of an interface. -/
def addressesOf (snapshot : Snapshot) (interface : Int64) : List AssignedAddress :=
  snapshot.addresses.filter (·.interface = interface)

/-- The inventory that answers from a snapshot. It needs no state. -/
def inventory (snapshot : Snapshot) (σ : Type) : Inventory σ where
  deviceBySerial serial :=
    .ofExcept (Inventory.single .device (Inventory.serialQuery serial)
      (snapshot.devicesBySerial serial))
  interfaceByName name device :=
    .ofExcept (Inventory.single .interface (Inventory.interfaceQuery ("name", name) device)
      (snapshot.interfacesWhere device (·.name = name)))
  interfaceByDescription description device :=
    .ofExcept (Inventory.single .interface
      (Inventory.interfaceQuery ("description", description) device)
      (snapshot.interfacesWhere device (·.description = description)))
  interfacesByDescription description device :=
    .ofExcept (.ok (snapshot.interfacesWhere device (·.description = description)))
  addressOf interface :=
    .ofExcept (Inventory.single .address (Inventory.addressQuery interface)
      (snapshot.addressesOf interface))
  rolesAmong present := .ofExcept (.ok (snapshot.roles.filter present.contains))

end Snapshot

end NetworkIntent
