import NetworkIntent.Schema.Basic
import NetworkIntent.Text.Percent

/-!
# References between schemas

A reference names another document by its address, and after a number sign a place in it: a pointer,
which leads from the top of the document down by keys and positions after slashes.

## Main definitions

* `Schema.Defect`: why a document is no schema.
* `Schema.targetOf`: the place that a reference names.
* `Schema.resolve`: the part of a document that a place stands for.
-/

set_option autoImplicit false

namespace NetworkIntent.Schema

/-- Why a document is no schema. -/
inductive Defect where
  /-- It breaks a rule for schemas. -/
  | breach (breach : Breach)
  /-- The name of a kind is unknown. -/
  | unknownKind
  /-- A pattern cannot be read, which is shown by the given document. -/
  | pattern (shown : Json)
  /-- It is written in an unknown dialect. -/
  | dialect (name : String)
  /-- A reference cannot be read. -/
  | reference (text : String) (fault : UriFault)
  /-- A pointer leads nowhere. -/
  | pointer (pointer : String)
  /-- A pointer leads into a list by a step that is no position. -/
  | position (step pointer : String)
  /-- A pointer is no text once it is decoded. -/
  | undecodable (pointer : String)
  /-- A place is given by a name. -/
  | anchor (name : String)
  /-- Another document cannot be had, for the given reason. -/
  | resource (address : Uri) (reason : String)
  deriving DecidableEq

/-- The description of a defect. -/
def Defect.message : Defect → String
  | .breach found => found.message
  | .unknownKind => "Unexpected type"
  | .pattern document => s!"{shown document} is not a \"regex\""
  | .dialect name => s!"Unknown specification: {name}"
  | .reference text fault => s!"Invalid URI reference '{text}': {fault.message}"
  | .pointer path => s!"Pointer '{path}' does not exist"
  | .position step path => s!"Failed to parse array index '{step}' in pointer '{path}'"
  | .undecodable path =>
    s!"Invalid percent encoding in pointer '{path}': "
      ++ "the decoded bytes do not represent valid UTF-8"
  | .anchor name =>
    if name.toList.contains '/' then s!"Anchor '{name}' is invalid"
    else s!"Anchor '{name}' does not exist"
  | .resource address reason =>
    s!"Resource '{address.text}' is not present in a registry and retrieving it failed: {reason}"

/-- The place that a reference in a document names. Without an address it is in the same
document. -/
def targetOf (base : Uri) (reference : String) : Except Defect Target :=
  match reference.toList with
  | '#' :: fragment => .ok ⟨base, String.ofList fragment⟩
  | text =>
    match UriReference.parse text with
    | .error fault => .error (.reference reference fault)
    | .ok parsed => .ok ⟨base.resolve parsed, String.ofList (parsed.fragment.getD [])⟩

/-- A step of a pointer from its text, in which the delimiting characters are escaped. -/
def readStep : List Char → List Char
  | '~' :: '0' :: rest => '~' :: readStep rest
  | '~' :: '1' :: rest => '/' :: readStep rest
  | c :: rest => c :: readStep rest
  | [] => []

/-- The part of a document that the steps of a pointer lead to. -/
def followSteps (pointer : String) : List (List Char) → Json → Except Defect Json
  | [], document => .ok document
  | step :: rest, .arr items =>
    match readUnsigned? (UInt64.size - 1) step with
    | none => .error (.position (String.ofList step) pointer)
    | some index =>
      match items[index]? with
      | some item => followSteps pointer rest item
      | none => .error (.pointer pointer)
  | step :: rest, .obj fields =>
    match Table.get? (String.ofList (readStep step)) fields with
    | some value => followSteps pointer rest value
    | none => .error (.pointer pointer)
  | _ :: _, _ => .error (.pointer pointer)

/-- The part of a document that is named after a number sign: the whole of it, or what a pointer in
percent encoding leads to. -/
def resolve (fragment : String) (document : Json) : Except Defect Json :=
  match fragment.toList with
  | [] => .ok document
  | '/' :: steps =>
    match Utf8.toString? (Percent.decode steps) with
    | none => .error (.undecodable fragment)
    | some text => followSteps fragment (Path.splitSlashes text.toList) document
  | _ => .error (.anchor fragment)

end NetworkIntent.Schema
