import NetworkIntent.FileTree.Path

/-!
# Artifacts

The documents that are stored, and their files below the root of a store: the service document, the
routing and switching variables, and for each device what was learned from it.

The name of a device becomes part of the name of a file, so it must not lead anywhere else.

## Main definitions

* `Artifact`: what is stored.
* `Artifact.place`: the directory and the name of the file of an artifact.
* `Artifact.Fault`: why there is no file for an artifact.
-/

set_option autoImplicit false

namespace NetworkIntent

/-- What is learned from a device: the VRFs of a router, or the VLANs of a switch. -/
inductive BaselineKind where
  | vrf
  | vlan
  deriving DecidableEq, Repr

/-- The name of a kind. -/
def BaselineKind.name : BaselineKind → String
  | .vrf => "vrf"
  | .vlan => "vlan"

/-- What is stored. -/
inductive Artifact where
  | service
  | routing
  | switching
  | baseline (kind : BaselineKind) (device : String)
  deriving DecidableEq, Repr

namespace Artifact

/-- How an artifact is called in messages. -/
def title : Artifact → String
  | .service => "service"
  | .routing => "routing"
  | .switching => "switching"
  | .baseline kind device => s!"{kind.name} baseline of {device}"

/-- What is wrong with the name of a device. -/
inductive NameFault where
  | empty
  | separator
  | notPlain
  deriving DecidableEq, Repr

/-- The description of what is wrong with a name. -/
def NameFault.message : NameFault → String
  | .empty => "empty device name"
  | .separator => "device name must not contain path separators or '..'"
  | .notPlain => "device name is not a plain file name"

/-- An artifact without a file, with the reason. -/
structure Fault where
  artifact : Artifact
  reason : NameFault
  deriving DecidableEq, Repr

/-- The description of why an artifact has no file. -/
def Fault.message (fault : Fault) : String :=
  s!"Invalid artifact target {fault.artifact.title}: {fault.reason.message}"

/-- Whether a name has two points in a row. -/
def hasTwoPoints : List Char → Bool
  | '.' :: '.' :: _ => true
  | _ :: rest => hasTwoPoints rest
  | [] => false

/-- What is wrong with the name of a device, if anything. -/
def nameFault? (device : String) : Option NameFault :=
  let cs := device.toList
  if cs.isEmpty then some .empty
  else if cs.contains '/' || cs.contains '\\' || hasTwoPoints cs then some .separator
  else if device = "." then some .notPlain
  else none

/-- Where a file is: a directory below the root of the store, and a name. -/
structure Place where
  directory : String
  file : String
  deriving DecidableEq, Repr

/-- The place of the file of an artifact. -/
def place : Artifact → Except Fault Place
  | .service => .ok ⟨"services/terraform/netbox", "terraform.tfvars.json"⟩
  | .routing => .ok ⟨"services/terraform/routing", "terraform.tfvars.json"⟩
  | .switching => .ok ⟨"services/terraform/switching", "terraform.tfvars.json"⟩
  | .baseline kind device =>
    match nameFault? device with
    | some reason => .error ⟨.baseline kind device, reason⟩
    | none => .ok ⟨"baseline", s!"base-{kind.name}_{device}.json"⟩

/-- The path of a place below the root. -/
def Place.path (place : Place) : String :=
  Path.join place.directory place.file

end Artifact

end NetworkIntent
