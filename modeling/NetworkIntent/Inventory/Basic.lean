import NetworkIntent.Action
import NetworkIntent.Address.Cidr
import NetworkIntent.Intent.Basic

/-!
# Inventory

The devices that there are, with their interfaces, the addresses of the interfaces, and the roles of
devices. An inventory answers six questions; a question for a single thing has an answer only if
exactly one thing meets it.

Intent and inventory are joined by the descriptions of interfaces: an interface described with the
name of a VPN carries this VPN on its device, and two names are reserved.

## Main definitions

* `Device`, `Interface`, `AssignedAddress`: the things in an inventory.
* `DeviceRef`: a device, named by its number or its name.
* `Inventory.Fault`: why a question has no answer.
* `Inventory`: the questions.
* `Inventory.single`: the single thing among those that meet a question.
-/

set_option autoImplicit false

namespace NetworkIntent

/-! ### The things in an inventory -/

/-- A device. -/
structure Device where
  id : Int64
  name : String
  serial : String
  role : String
  site : String
  deriving DecidableEq, Repr

namespace Device

/-- Reads a device from a document. -/
def decoder : Json.Decoder Device :=
  ((Json.Record.pure Device.mk)
    |>.more (.required "id" .int64)
    |>.more (.required "name" .text)
    |>.more (.required "serial" .text)
    |>.more (.required "role" .text)
    |>.more (.withDefault "site" .text "")).decoder "struct Device"

/-- The document of a device. -/
def toJson (device : Device) : Json :=
  .ofEntries [("id", .ofInt64 device.id), ("name", .str device.name),
    ("serial", .str device.serial), ("role", .str device.role), ("site", .str device.site)]

end Device

/-- An interface of a device. -/
structure Interface where
  id : Int64
  device : Int64
  name : String
  description : String
  deriving DecidableEq, Repr

namespace Interface

/-- Reads an interface from a document. -/
def decoder : Json.Decoder Interface :=
  ((Json.Record.pure Interface.mk)
    |>.more (.required "id" .int64)
    |>.more (.required "device_id" .int64)
    |>.more (.required "name" .text)
    |>.more (.withDefault "description" .text "")).decoder "struct Interface"

/-- The document of an interface. -/
def toJson (interface : Interface) : Json :=
  .ofEntries [("id", .ofInt64 interface.id), ("device_id", .ofInt64 interface.device),
    ("name", .str interface.name), ("description", .str interface.description)]

end Interface

/-- An address of an interface, as it is stored. -/
structure AssignedAddress where
  id : Int64
  interface : Int64
  address : String
  deriving DecidableEq, Repr

namespace AssignedAddress

/-- The address with its mask, if it is one. -/
def cidr (assigned : AssignedAddress) : Except Cidr.Fault Cidr :=
  Cidr.read assigned.address

/-- Reads an address from a document. -/
def decoder : Json.Decoder AssignedAddress :=
  ((Json.Record.pure AssignedAddress.mk)
    |>.more (.required "id" .int64)
    |>.more (.required "interface_id" .int64)
    |>.more (.required "address" .text)).decoder "struct InterfaceAddress"

/-- The document of an address. -/
def toJson (assigned : AssignedAddress) : Json :=
  .ofEntries [("id", .ofInt64 assigned.id), ("interface_id", .ofInt64 assigned.interface),
    ("address", .str assigned.address)]

end AssignedAddress

/-- A device, named by its number or its name. -/
inductive DeviceRef where
  | number (number : Int64)
  | named (name : String)
  deriving DecidableEq, Repr

/-- The filter that selects the interfaces of a device: a name and a value. -/
def DeviceRef.filter : DeviceRef → String × String
  | .number id => ("device_id", toString id.toInt)
  | .named name => ("device", name)

/-- A filter as it appears in the description of a question. -/
def showFilter (filter : String × String) : String :=
  s!"{filter.1}={filter.2}"

/-! ### Questions -/

namespace Inventory

/-- The kinds of things that are asked for. -/
inductive Kind where
  | device
  | interface
  | address
  | role
  | snapshot
  deriving DecidableEq, Repr

/-- The name of a kind. -/
def Kind.name : Kind → String
  | .device => "device"
  | .interface => "interface"
  | .address => "ip address"
  | .role => "device role"
  | .snapshot => "snapshot"

/-- Why a question has no answer. -/
inductive Fault where
  /-- Nothing meets the question. -/
  | notFound (kind : Kind) (query : String)
  /-- Several things meet a question for a single one. -/
  | ambiguous (kind : Kind) (query : String) (count : Nat)
  /-- The inventory could not be reached, or refused to answer. -/
  | unreachable (reason : String)
  /-- The answer cannot be read. -/
  | malformed (kind : Kind) (reason : String)
  deriving DecidableEq, Repr

/-- The description of a fault. -/
def Fault.message : Fault → String
  | .notFound kind query => s!"{kind.name} not found: {query}"
  | .ambiguous kind query count =>
    s!"{kind.name} query is ambiguous ({count} matches): {query}"
  | .unreachable reason => s!"Inventory transport error: {reason}"
  | .malformed kind reason => s!"Inventory returned malformed {kind.name}: {reason}"

/-- The single thing among those that meet a question. -/
def single {α : Type} (kind : Kind) (query : String) : List α → Except Fault α
  | [] => .error (.notFound kind query)
  | [a] => .ok a
  | several => .error (.ambiguous kind query several.length)

/-- The question for a serial. -/
def serialQuery (serial : String) : String :=
  showFilter ("serial", serial)

/-- The question for an interface of a device by another filter. -/
def interfaceQuery (filter : String × String) (device : DeviceRef) : String :=
  s!"{showFilter filter} {showFilter device.filter}"

/-- The question for the address of an interface. -/
def addressQuery (interface : Int64) : String :=
  showFilter ("interface_id", toString interface.toInt)

end Inventory

/-- The questions that an inventory answers. -/
structure Inventory (σ : Type) where
  /-- The device with a serial. -/
  deviceBySerial : (serial : String) → Action σ Inventory.Fault Device
  /-- The interface of a device with a name. -/
  interfaceByName : (name : String) → DeviceRef → Action σ Inventory.Fault Interface
  /-- The interface of a device with a description. -/
  interfaceByDescription : (description : String) → DeviceRef → Action σ Inventory.Fault Interface
  /-- All interfaces of a device with a description. -/
  interfacesByDescription :
    (description : String) → DeviceRef → Action σ Inventory.Fault (List Interface)
  /-- The address of an interface. -/
  addressOf : (interface : Int64) → Action σ Inventory.Fault AssignedAddress
  /-- The known roles that are among the given ones, in the order of the inventory. -/
  rolesAmong : (present : List String) → Action σ Inventory.Fault (List String)

end NetworkIntent
