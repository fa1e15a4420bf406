import NetworkIntent.Http.Message
import NetworkIntent.Inventory.Basic
import NetworkIntent.Settings

/-!
# An inventory on the web

The inventory that a service answers from its lists of devices, interfaces, addresses and roles.
Every question is a list with a filter; the service splits a list into pages, each of which names
the address of the next.

## Main definitions

* `NetBox`: the service, by its settings.
* `NetBox.connect`: the service, if its settings can be used.
* `NetBox.list`: all pages of a list.
* `NetBox.inventory`: the inventory of the service.
-/

set_option autoImplicit false

namespace NetworkIntent

/-- The service with the lists of an inventory. -/
structure NetBox where
  settings : NetBoxSettings
  deriving DecidableEq, Repr

namespace NetBox

open Json (Record Decoder)

/-! ### Entries of the lists -/

/-- A page of a list: the address of the next page, and the entries. -/
structure Page (α : Type) where
  next : Option String
  results : List α

/-- Reads a page of entries. -/
def pageDecoder {α : Type} (entry : Decoder α) : Decoder (Page α) :=
  ((Record.pure Page.mk)
    |>.more (.optional "next" .text)
    |>.more (.required "results" (.list entry))).decoder "struct NetBoxPage"

/-- What an entry refers to: a number and a name. -/
structure Reference where
  id : Int64
  name : String
  deriving DecidableEq, Repr

/-- Reads a reference. -/
def referenceDecoder : Decoder Reference :=
  ((Record.pure Reference.mk)
    |>.more (.required "id" .int64)
    |>.more (.withDefault "name" .text "")).decoder "struct NestedRef"

/-- Reads a device. The role has had another key before. -/
def deviceDecoder : Decoder Device :=
  ((Record.pure fun id name serial role site =>
      Device.mk id (Option.getD name "") serial (Reference.name role) (Reference.name site))
    |>.more (.required "id" .int64)
    |>.more (.optional "name" .text)
    |>.more (.withDefault "serial" .text "")
    |>.more (.field "role" referenceDecoder none ["device_role"])
    |>.more (.required "site" referenceDecoder)).decoder "struct NetBoxDevice"

/-- Reads an interface. -/
def interfaceDecoder : Decoder Interface :=
  ((Record.pure fun id device name description =>
      Interface.mk id (Reference.id device) name description)
    |>.more (.required "id" .int64)
    |>.more (.required "device" referenceDecoder)
    |>.more (.required "name" .text)
    |>.more (.withDefault "description" .text "")).decoder "struct NetBoxInterface"

/-- An address with the number of the interface that it is assigned to, if it is. -/
structure Assignment where
  id : Int64
  address : String
  interface : Option Int64
  deriving DecidableEq, Repr

/-- Reads an address. -/
def assignmentDecoder : Decoder Assignment :=
  ((Record.pure Assignment.mk)
    |>.more (.required "id" .int64)
    |>.more (.required "address" .text)
    |>.more (.optional "assigned_object_id" .int64)).decoder "struct NetBoxIpAddress"

/-- Reads the name of a role. -/
def roleDecoder : Decoder String :=
  (Record.required "name" .text).decoder "struct NetBoxRole"

/-! ### Requests -/

/-- The service, if its token can be sent. -/
def connect (settings : NetBoxSettings) : Except Inventory.Fault NetBox :=
  if Http.isHeaderValue s!"Token {settings.token}" then .ok ⟨settings⟩
  else .error (.unreachable s!"Invalid API token: {Http.noHeaderValue}")

/-- The headers of every request. -/
def headers (service : NetBox) : List (String × String) :=
  [("authorization", s!"Token {service.settings.token}"), ("accept", "application/json")]

/-- The request for an address of the service. -/
def request (service : NetBox) (address : String) (pairs : Option (List (String × String))) :
    Except Http.Fault Http.Request :=
  Http.request .get address pairs service.headers none

/-- The address of a part of the service. -/
def addressOf (service : NetBox) (endpoint : String) : String :=
  service.settings.baseUrl ++ endpoint

variable {σ : Type}

/-- Checks that the service answers. -/
def checkHealth (service : NetBox) (network : Http.Network σ) :
    Action σ Inventory.Fault Unit := do
  let tell (fault : Http.Fault) : Inventory.Fault :=
    .unreachable s!"NetBox health check failed: {fault.message}"
  let request := service.request (service.addressOf "/api/status/") none
  let reply ← (network.ask request).mapFailure tell
  if reply.isSuccess then return ()
  else throw (.unreachable s!"NetBox returned status: {Http.statusText reply.status}")

/-- The page that a request gets. -/
def page {α : Type} (network : Http.Network σ) (kind : Inventory.Kind) (entry : Decoder α)
    (endpoint : String) (request : Except Http.Fault Http.Request) :
    Action σ Inventory.Fault (Page α) := do
  let reply ← (network.ask request).mapFailure fun fault =>
    .unreachable s!"NetBox API error: {fault.message}"
  if !reply.isSuccess then
    throw (.unreachable
      s!"NetBox API returned {Http.statusText reply.status} for {endpoint}: {reply.text}")
  else
    Action.ofExcept ((reply.decode (pageDecoder entry)).mapError fun fault =>
      .malformed kind fault.message)

/-- The entries of the page that a request gets and of at most `more` pages after it. -/
def pagesFrom {α : Type} (service : NetBox) (network : Http.Network σ) (kind : Inventory.Kind)
    (entry : Decoder α) (endpoint : String) :
    (more : Nat) → Except Http.Fault Http.Request → Action σ Inventory.Fault (List α)
  | 0, request => Page.results <$> page network kind entry endpoint request
  | more + 1, request => do
    let first ← page network kind entry endpoint request
    match first.next with
    | none => return first.results
    | some address =>
      let rest ←
        pagesFrom service network kind entry endpoint more (service.request address none)
      return first.results ++ rest

/-- The entries of all pages of a list. -/
def list {α : Type} (service : NetBox) (network : Http.Network σ) (kind : Inventory.Kind)
    (entry : Decoder α) (endpoint : String) (filters : List (String × String)) :
    Action σ Inventory.Fault (List α) :=
  .step fun state =>
    (service.pagesFrom network kind entry endpoint (network.patience state)
      (service.request (service.addressOf endpoint) (some filters))).perform state

/-! ### Questions -/

/-- The interfaces of a device that meet a filter. -/
def interfaces (service : NetBox) (network : Http.Network σ) (filter : String × String)
    (device : DeviceRef) : Action σ Inventory.Fault (List Interface) :=
  service.list network .interface interfaceDecoder "/api/dcim/interfaces/"
    [filter, device.filter]

/-- The single interface of a device that meets a filter. -/
def singleInterface (service : NetBox) (network : Http.Network σ) (filter : String × String)
    (device : DeviceRef) : Action σ Inventory.Fault Interface := do
  let found ← service.interfaces network filter device
  Action.ofExcept (Inventory.single .interface (Inventory.interfaceQuery filter device) found)

/-- The inventory of the service. -/
def inventory (service : NetBox) (network : Http.Network σ) : Inventory σ where
  deviceBySerial serial := do
    let found ← service.list network .device deviceDecoder "/api/dcim/devices/"
      [("serial", serial)]
    Action.ofExcept (Inventory.single .device (Inventory.serialQuery serial) found)
  interfaceByName name device := service.singleInterface network ("name", name) device
  interfaceByDescription description device :=
    service.singleInterface network ("description", description) device
  interfacesByDescription description device :=
    service.interfaces network ("description", description) device
  addressOf interface := do
    let found ← service.list network .address assignmentDecoder "/api/ipam/ip-addresses/"
      [("interface_id", toString interface.toInt)]
    let assignment ← Action.ofExcept
      (Inventory.single .address (Inventory.addressQuery interface) found)
    return ⟨assignment.id, assignment.interface.getD interface, assignment.address⟩
  rolesAmong present := do
    let found ← service.list network .role roleDecoder "/api/dcim/device-roles/" []
    return found.filter present.contains

end NetBox

end NetworkIntent
