import NetworkIntent.Inventory.NetBox
import NetworkIntent.Proofs.Json.Scanned

/-!
# Entries of the lists of a service

How a service tells of the things in an inventory, and that they are read from what it tells. The
objects may give more than what is needed. A name, a serial or a description may be left out where
it is empty; the role of a device stands under one of two keys, as a reference; and an interface
refers to its device.

## Main definitions

* `NetBox.ShowsDevice`, `NetBox.ShowsInterface`, `NetBox.ShowsAddress`, `NetBox.ShowsRole`: the
  documents that tell of the things in an inventory.
* `NetBox.ShowsPage`, `NetBox.GivesPage`: the documents, and the replies, that tell of a page of
  them.

## Main results

* `NetBox.scans_device`, `NetBox.scans_interface`, `NetBox.scans_assignment`, `NetBox.scans_role`:
  the things are read from the documents that tell of them.
* `NetBox.scans_page`, `NetBox.GivesPage.decode_eq`: so are pages of them.
-/

set_option autoImplicit false

namespace NetworkIntent.NetBox

open Json (Record Decoder SpellsWhole given)

/-! ## What a service tells -/

/-- An object gives a text under a key, or nothing if the text is empty. -/
def GivesText (key : String) (fields : Fields) (s : String) : Prop :=
  given [key] fields = [.str s] ∨ given [key] fields = [] ∧ s = ""

/-- The fields of a reference. -/
structure ReferenceFields (fields : Fields) (reference : Reference) : Prop where
  id : given ["id"] fields = [.int reference.id.toInt]
  name : GivesText "name" fields reference.name

/-- The documents that are a reference. -/
def ShowsReference (document : Json) (reference : Reference) : Prop :=
  ∃ fields, document = .obj fields ∧ ReferenceFields fields reference

/-- An object gives a reference once, under one of some keys. -/
def GivesReference (keys : List String) (fields : Fields) (reference : Reference) : Prop :=
  ∃ document, given keys fields = [document] ∧ ShowsReference document reference

/-- The fields that tell of a device. A device without a name may give null for it. -/
structure DeviceFields (fields : Fields) (device : Device) : Prop where
  id : given ["id"] fields = [.int device.id.toInt]
  name : GivesText "name" fields device.name ∨
    given ["name"] fields = [.null] ∧ device.name = ""
  serial : GivesText "serial" fields device.serial
  role : ∃ id, GivesReference ["role", "device_role"] fields ⟨id, device.role⟩
  site : ∃ id, GivesReference ["site"] fields ⟨id, device.site⟩

/-- The documents that tell of a device. -/
def ShowsDevice (document : Json) (device : Device) : Prop :=
  ∃ fields, document = .obj fields ∧ DeviceFields fields device

/-- The fields that tell of an interface. -/
structure InterfaceFields (fields : Fields) (interface : Interface) : Prop where
  id : given ["id"] fields = [.int interface.id.toInt]
  device : ∃ name, GivesReference ["device"] fields ⟨interface.device, name⟩
  name : given ["name"] fields = [.str interface.name]
  description : GivesText "description" fields interface.description

/-- The documents that tell of an interface. -/
def ShowsInterface (document : Json) (interface : Interface) : Prop :=
  ∃ fields, document = .obj fields ∧ InterfaceFields fields interface

/-- The fields that tell of an address, which is assigned to an interface. -/
structure AddressFields (fields : Fields) (assigned : AssignedAddress) : Prop where
  id : given ["id"] fields = [.int assigned.id.toInt]
  address : given ["address"] fields = [.str assigned.address]
  interface : given ["assigned_object_id"] fields = [.int assigned.interface.toInt]

/-- The documents that tell of an address. -/
def ShowsAddress (document : Json) (assigned : AssignedAddress) : Prop :=
  ∃ fields, document = .obj fields ∧ AddressFields fields assigned

/-- The documents that tell of a role. -/
def ShowsRole (document : Json) (role : String) : Prop :=
  ∃ fields, document = .obj fields ∧ given ["name"] fields = [.str role]

variable {α β : Type}

/-- The fields of a page: its entries, and the address of the next page, if there is one. -/
structure PageFields (Shows : Json → α → Prop) (fields : Fields) (page : Page α) : Prop where
  next : (given ["next"] fields = [page.next.elim .null .str]) ∨
    given ["next"] fields = [] ∧ page.next = none
  results : ∃ items, given ["results"] fields = [.arr items] ∧
    List.Forall₂ Shows items page.results

/-- The documents that are a page. -/
def ShowsPage (Shows : Json → α → Prop) (document : Json) (page : Page α) : Prop :=
  ∃ fields, document = .obj fields ∧ PageFields Shows fields page

/-- The replies that tell of a page. -/
def GivesPage (Shows : Json → α → Prop) (reply : Http.Reply) (page : Page α) : Prop :=
  reply.isSuccess = true ∧
    ∃ document, ShowsPage Shows document page ∧ SpellsWhole document reply.body

/-! ## What is read -/

/-- A text with the empty one as its default is read from what may be given for it. -/
theorem GivesText.field {key : String} {fields : Fields} {s : String} (h : GivesText key fields s) :
    (∃ document, given [key] fields = [document] ∧ document = .str s) ∨
      given [key] fields = [] ∧ some "" = some s := by
  rcases h with h | ⟨h, rfl⟩
  · exact .inl ⟨_, h, rfl⟩
  · exact .inr ⟨h, rfl⟩

/-- A name that may be null or left out is read as the empty one where it is. -/
theorem DeviceFields.exists_name {fields : Fields} {device : Device} (h : DeviceFields fields device) :
    ∃ name : Option String, name.getD "" = device.name ∧
      ((∃ document, given ["name"] fields = [document] ∧
        name.elim (document = .null) (document = .str ·)) ∨
      given ["name"] fields = [] ∧ some none = some name) := by
  rcases h.name with (hname | ⟨hname, hempty⟩) | ⟨hname, hempty⟩
  · exact ⟨some device.name, rfl, .inl ⟨_, hname, rfl⟩⟩
  · exact ⟨none, hempty.symm, .inr ⟨hname, rfl⟩⟩
  · exact ⟨none, hempty.symm, .inl ⟨_, hname, rfl⟩⟩

/-- A reference is read. -/
theorem scans_reference : referenceDecoder.Scans 1 ShowsReference := by
  have hrecord := ((Record.Scans.pure 0 Reference.mk).more
    (.field Decoder.Scans.int64 "id" none [])).more (.field Decoder.Scans.text "name" (some "") [])
  refine (hrecord.imp (Q := ReferenceFields) ?_).decoder (by decide) _
  intro fields reference h
  exact ⟨_, _, ⟨_, _, rfl, .inl ⟨_, h.id, rfl⟩, rfl⟩, h.name.field, rfl⟩

/-- **A device is read.** -/
theorem scans_device : deviceDecoder.Scans 2 ShowsDevice := by
  have hrecord := (((((Record.Scans.pure 1 fun id name serial role site =>
      Device.mk id (Option.getD name "") serial (Reference.name role) (Reference.name site)).more
    (.field (Decoder.Scans.int64.mono (Nat.zero_le 1)) "id" none [])).more
    (.field (Decoder.Scans.nullableText.mono (Nat.zero_le 1)) "name" (some none) [])).more
    (.field (Decoder.Scans.text.mono (Nat.zero_le 1)) "serial" (some "") [])).more
    (.field scans_reference "role" none ["device_role"])).more
    (.field scans_reference "site" none [])
  refine (hrecord.imp (Q := DeviceFields) ?_).decoder (by decide) _
  intro fields device h
  obtain ⟨name, hempty, hname⟩ := h.exists_name
  obtain ⟨_, hrole⟩ := h.role
  obtain ⟨_, hsite⟩ := h.site
  refine ⟨_, _, ⟨_, _, ⟨_, _, ⟨_, _, ⟨_, _, rfl, .inl ⟨_, h.id, rfl⟩, rfl⟩, hname, rfl⟩,
    h.serial.field, rfl⟩, .inl hrole, rfl⟩, .inl hsite, ?_⟩
  simp only [hempty]

/-- **An interface is read.** -/
theorem scans_interface : interfaceDecoder.Scans 2 ShowsInterface := by
  have hrecord := ((((Record.Scans.pure 1 fun id device name description =>
      Interface.mk id (Reference.id device) name description).more
    (.field (Decoder.Scans.int64.mono (Nat.zero_le 1)) "id" none [])).more
    (.field scans_reference "device" none [])).more
    (.field (Decoder.Scans.text.mono (Nat.zero_le 1)) "name" none [])).more
    (.field (Decoder.Scans.text.mono (Nat.zero_le 1)) "description" (some "") [])
  refine (hrecord.imp (Q := InterfaceFields) ?_).decoder (by decide) _
  intro fields interface h
  obtain ⟨_, hdevice⟩ := h.device
  exact ⟨_, _, ⟨_, _, ⟨_, _, ⟨_, _, rfl, .inl ⟨_, h.id, rfl⟩, rfl⟩, .inl hdevice, rfl⟩,
    .inl ⟨_, h.name, rfl⟩, rfl⟩, h.description.field, rfl⟩

/-- An address as it is read: its assignment may be missing. -/
def assignmentOf (assigned : AssignedAddress) : Assignment :=
  ⟨assigned.id, assigned.address, some assigned.interface⟩

/-- **An address is read.** -/
theorem scans_assignment : assignmentDecoder.Scans 1 fun document assignment =>
    ∃ assigned, ShowsAddress document assigned ∧ assignment = assignmentOf assigned := by
  have hnumber : (Decoder.nullable .int64).Scans 0 fun document o =>
      o.elim (document = .null) (document = .int ·.toInt) :=
    Decoder.Scans.int64.nullable (by simp) fun n => by simp [Json.Decoder.int64_eq_ok_iff]
  have hrecord := (((Record.Scans.pure 0 Assignment.mk).more
    (.field Decoder.Scans.int64 "id" none [])).more
    (.field Decoder.Scans.text "address" none [])).more
    (.field hnumber "assigned_object_id" (some none) [])
  have hdecoder := hrecord.decoder (by decide) "struct NetBoxIpAddress"
  refine hdecoder.imp ?_
  rintro document _ ⟨assigned, ⟨fields, rfl, h⟩, rfl⟩
  exact ⟨fields, rfl, _, some assigned.interface, ⟨_, _, ⟨_, _, rfl, .inl ⟨_, h.id, rfl⟩, rfl⟩,
    .inl ⟨_, h.address, rfl⟩, rfl⟩, .inl ⟨_, h.interface, rfl⟩, rfl⟩

/-- **A role is read.** -/
theorem scans_role : roleDecoder.Scans 1 ShowsRole := by
  have hrecord := Record.Scans.field Decoder.Scans.text "name" none []
  refine (hrecord.decoder (by decide) "struct NetBoxRole").imp ?_
  rintro document role ⟨fields, rfl, h⟩
  exact ⟨fields, rfl, .inl ⟨_, h, rfl⟩⟩

/-- **A page is read**, if its entries are. -/
theorem scans_page {entry : Decoder α} {Shows : Json → α → Prop} {levels : Nat}
    (h : entry.Scans levels Shows) :
    (pageDecoder entry).Scans (levels + 2) (ShowsPage Shows) := by
  have hrecord := ((Record.Scans.pure (levels + 1) (Page.mk (α := α))).more
    (.field (Decoder.Scans.nullableText.mono (Nat.zero_le _)) "next" (some none) [])).more
    (.field h.list "results" none [])
  refine (hrecord.imp (Q := PageFields Shows) ?_).decoder ?_ _
  · rintro fields ⟨next, results⟩ ⟨hnext, items, hitems, hall⟩
    refine ⟨_, _, ⟨_, _, rfl, ?_, rfl⟩, .inl ⟨_, hitems, items, rfl, hall⟩, rfl⟩
    rcases hnext with hnext | ⟨hnext, rfl⟩
    · refine .inl ⟨_, hnext, ?_⟩
      cases next <;> rfl
    · exact .inr ⟨hnext, rfl⟩
  · exact (by decide : List.Nodup ["next", "results"])

/-- **A page is read from the replies that tell of it**: the address of the next page is the text
under `next`, if there is one, and the entries are those under `results`. -/
theorem GivesPage.decode_eq {entry : Decoder α} {Shows : Json → α → Prop} {levels : Nat}
    {reply : Http.Reply} {page : Page α} (h : GivesPage Shows reply page)
    (hentry : entry.Scans levels Shows) (hlevels : levels + 2 ≤ Json.maxDepth) :
    reply.decode (pageDecoder entry) = .ok page := by
  obtain ⟨-, document, hshows, hbody⟩ := h
  rw [Http.Reply.decode, (scans_page hentry).parse hlevels hshows hbody]
  rfl

end NetworkIntent.NetBox
