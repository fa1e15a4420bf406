import NetworkIntent.Json.Decoder
import NetworkIntent.Text.Digit

/-!
# Switch ports

Interfaces have free names. Those of a switch port start with the family of the port and its
position: slot, subslot and port, as in `GigabitEthernet1/0/5`. Whatever comes after the position
belongs to no port of its own, so a subinterface stands for the port it runs over.

## Main definitions

* `PortFamily`: the two families of ports.
* `Port`: a port with its position.
* `Port.ofInterface?`: the port that an interface belongs to.
-/

set_option autoImplicit false

namespace NetworkIntent

/-- The families of switch ports. -/
inductive PortFamily where
  | gigabit
  | tenGigabit
  deriving DecidableEq, Repr

/-- The name of a family. -/
def PortFamily.name : PortFamily → String
  | .gigabit => "GigabitEthernet"
  | .tenGigabit => "TenGigabitEthernet"

/-- A switch port: its family, and its position as it is written. -/
structure Port where
  family : PortFamily
  position : String
  deriving DecidableEq, Repr

namespace Port

/-- The text that tells ports apart, and by which they are ordered. -/
def key (port : Port) : String :=
  s!"{port.family.name}:{port.position}"

/-- Splits a run of decimal digits, of which there is at least one, off a text. -/
def spanNumber? (cs : List Char) : Option (List Char × List Char) :=
  let digits := cs.takeWhile isDecimalDigit
  if digits.isEmpty then none else some (digits, cs.dropWhile isDecimalDigit)

/-- Splits a position of `more + 1` numbers, joined by slashes, off a text. -/
def spanPosition? : (more : Nat) → List Char → Option (List Char × List Char)
  | 0, cs => spanNumber? cs
  | more + 1, cs =>
    match spanNumber? cs with
    | some (digits, '/' :: rest) =>
      (fun (position, rest) => (digits ++ '/' :: position, rest)) <$> spanPosition? more rest
    | _ => none

/-- The position at the start of a text, if the text starts with the name of a family. -/
def positionAfter? (family : PortFamily) (cs : List Char) : Option Port :=
  let name := family.name.toList
  if name.isPrefixOf cs then
    (fun (position, _) => ⟨family, String.ofList position⟩) <$>
      spanPosition? 2 (cs.drop name.length)
  else none

/-- The port that an interface belongs to. -/
def ofInterface? (interface : String) : Option Port :=
  (positionAfter? .gigabit interface.toList).or (positionAfter? .tenGigabit interface.toList)

/-- Reads a family from a document. -/
def familyDecoder : Json.Decoder PortFamily :=
  .ofNames [(PortFamily.gigabit.name, .gigabit), (PortFamily.tenGigabit.name, .tenGigabit)]

/-- The fields of a port. -/
def record : Json.Record Port :=
  (Json.Record.pure Port.mk)
    |>.more (.required "type" familyDecoder)
    |>.more (.required "name" .text)

/-- Reads a port from a document. -/
def decoder : Json.Decoder Port :=
  record.decoder "struct InterfaceBinding"

/-- The document of a port. -/
def toJson (port : Port) : Json :=
  .ofEntries [("type", .str port.family.name), ("name", .str port.position)]

end Port

end NetworkIntent
