import NetworkIntent.Json.Printer
import NetworkIntent.Text.Quoted

/-!
# Documents of the wrong form

Why a document cannot be read as a value of some type.

## Main definitions

* `Json.Mismatch`: the first difference between a document and the expected form.
* `Json.Mismatch.message`: its description.
-/

set_option autoImplicit false

namespace NetworkIntent.Json

/-- How a document appears in the description of a difference. -/
def outline : Json → String
  | .null => "null"
  | .bool value => s!"boolean `{value}`"
  | .int value => s!"integer `{String.ofList (writeInt value)}`"
  | .double value => s!"floating point `{String.ofList value.text}`"
  | .str text => s!"string {quoted text}"
  | .arr _ => "sequence"
  | .obj _ => "map"

/-- The first difference between a document and the expected form. -/
inductive Mismatch where
  /-- Something else was found where `expected` should be. -/
  | type (found expected : String)
  /-- What was found is of the right kind, but not within the bounds of `expected`. -/
  | value (found expected : String)
  /-- A list has too few or too many items. -/
  | length (count : Nat) (expected : String)
  /-- A record lacks a field. -/
  | missingField (name : String)
  /-- A record gives a field twice. -/
  | duplicateField (name : String)
  /-- A name that is none of the expected ones. -/
  | unknownVariant (name : String) (expected : List String)
  /-- A text that does not stand for a value, with the reason. -/
  | refused (reason : String)
  deriving DecidableEq, Repr

/-- The expected names as part of a sentence: each between back quotes, two joined by a
conjunction, and more of them listed. -/
def alternatives (names : List String) : String :=
  let ticked := names.map fun name => s!"`{name}`"
  match ticked with
  | [] => "there are no variants"
  | [one] => s!"expected {one}"
  | [one, other] => s!"expected {one} or {other}"
  | several => "expected one of " ++ ", ".intercalate several

/-- The description of a difference. -/
def Mismatch.message : Mismatch → String
  | .type found expected => s!"invalid type: {found}, expected {expected}"
  | .value found expected => s!"invalid value: {found}, expected {expected}"
  | .length count expected => s!"invalid length {count}, expected {expected}"
  | .missingField name => s!"missing field `{name}`"
  | .duplicateField name => s!"duplicate field `{name}`"
  | .unknownVariant name expected => s!"unknown variant `{name}`, {alternatives expected}"
  | .refused reason => reason

/-- The difference of a document that is not of the expected type. -/
def Mismatch.ofType (document : Json) (expected : String) : Mismatch :=
  .type document.outline expected

/-- The difference of a document that is not within the expected bounds. -/
def Mismatch.ofValue (document : Json) (expected : String) : Mismatch :=
  .value document.outline expected

end NetworkIntent.Json
