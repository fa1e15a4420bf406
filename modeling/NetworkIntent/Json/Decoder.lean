import NetworkIntent.Json.Mismatch
import NetworkIntent.Json.Reader

/-!
# Reading values of a type

A decoder reads values of one type: from a document, or directly from a text. Both ways accept the
same forms; they differ in the order in which faults are found, in repeated keys (a document has
none, and a text must not give a field twice) and in how closely the values of unknown fields are
looked at.

A record is read from an object, whose unknown fields do not matter, or from a list of its fields
in their order.

## Main definitions

* `Json.Decoder`: how values of a type are read.
* `Decoder.int64`, `Decoder.uint64`, `Decoder.size`, `Decoder.text`, `Decoder.flag`,
  `Decoder.list`, `Decoder.nullable`: decoders of the common types.
* `Json.Record`: the fields of a record with what is made of them.
* `Record.decoder`: the decoder of a record.
* `Decoder.ofNames`: the decoder of a type whose values have names.
* `Decoder.parse`: a value from a text.
-/

set_option autoImplicit false

namespace NetworkIntent.Json

/-- How values of a type are read. -/
structure Decoder (α : Type) where
  /-- Reads a value from a document. -/
  ofJson : Json → Except Mismatch α
  /-- Reads from a text, with the given number of levels left, what `ofJson` makes a value of. -/
  scan : (depth : Nat) → Reader Json

/-! ### Unknown parts of a text -/

mutual

/-- Skips a value whose form does not matter: numbers may be of any size, and texts need not be
well formed. Each round of `fuel` consumes at least one byte. -/
def skipValue : (fuel : Nat) → Bytes → Except Stop Bytes
  | 0, text => stopOn .endInValue text
  | fuel + 1, text =>
    match skipGap text with
    | [] => stopOn .endInValue []
    | b :: rest =>
      if b = 0x6E then readWord [0x75, 0x6C, 0x6C] rest
      else if b = 0x74 then readWord [0x72, 0x75, 0x65] rest
      else if b = 0x66 then readWord [0x61, 0x6C, 0x73, 0x65] rest
      else if b = 0x2D then skipNumeral rest
      else if isDigit b then skipNumeral (b :: rest)
      else if b = 0x22 then skipText fuel rest
      else if b = 0x5B then
        match skipGap rest with
        | [] => stopOn .endInList []
        | c :: after => if c = 0x5D then .ok after else skipItems fuel (c :: after)
      else if b = 0x7B then
        match skipGap rest with
        | [] => stopOn .endInObject []
        | c :: after => if c = 0x7D then .ok after else skipFields fuel (c :: after)
      else stopOn .expectedValue (b :: rest)

/-- Skips the items of a list from one of them on, and the closing bracket. -/
def skipItems : (fuel : Nat) → Bytes → Except Stop Bytes
  | 0, text => stopOn .endInList text
  | fuel + 1, text =>
    match skipValue fuel text with
    | .error stop => .error stop
    | .ok text =>
      match skipGap text with
      | [] => stopOn .endInList []
      | b :: rest =>
        if b = 0x5D then .ok rest
        else if b = 0x2C then skipItems fuel rest
        else stopOn .expectedListEnd (b :: rest)

/-- Skips the entries of an object from one of them on, and the closing brace. -/
def skipFields : (fuel : Nat) → Bytes → Except Stop Bytes
  | 0, text => stopOn .endInObject text
  | fuel + 1, text =>
    match skipGap text with
    | [] => stopOn .endInObject []
    | b :: rest =>
      if b ≠ 0x22 then stopOn .keyNotText (b :: rest)
      else
        match skipText fuel rest with
        | .error stop => .error stop
        | .ok text =>
          match readColon text with
          | .error stop => .error stop
          | .ok text =>
            match skipValue fuel text with
            | .error stop => .error stop
            | .ok text =>
              match skipGap text with
              | [] => stopOn .endInObject []
              | b :: rest =>
                if b = 0x7D then .ok rest
                else if b = 0x2C then skipFields fuel rest
                else stopOn .expectedObjectEnd (b :: rest)

/-- Skips a text after its opening quote. -/
def skipText : (fuel : Nat) → Bytes → Except Stop Bytes
  | 0, text => stopAt .endInString text
  | _ + 1, [] => stopAt .endInString []
  | fuel + 1, b :: rest =>
    if b = 0x22 then .ok rest
    else if b = 0x5C then
      match rest with
      | [] => stopAt .endInString []
      | c :: rest =>
        if (escapedByte? c).isSome then skipText fuel rest
        else if c = 0x75 then
          match readUnit rest with
          | .error stop => .error stop
          | .ok (_, rest) => skipText fuel rest
        else stopAt .invalidEscape rest
    else if b < 0x20 then stopAt .controlCharacter (b :: rest)
    else skipText fuel rest

/-- Skips a number after its sign. -/
def skipNumeral (text : Bytes) : Except Stop Bytes :=
  let (digits, rest) := spanDigits text
  match digits with
  | [] => stopAt .invalidNumber (text.drop 1)
  | first :: more =>
    if first = 0 ∧ more ≠ [] then stopOn .invalidNumber (text.drop 1)
    else
      match rest with
      | [] => .ok []
      | b :: after =>
        if b = 0x2E then
          let (digits, rest) := spanDigits after
          if digits.isEmpty then stopOn .invalidNumber rest else skipExponent rest
        else skipExponent rest

/-- Skips an exponent, if there is one. -/
def skipExponent (text : Bytes) : Except Stop Bytes :=
  match text with
  | [] => .ok []
  | b :: rest =>
    if b = 0x65 || b = 0x45 then
      let rest := match rest with
        | sign :: after => if sign = 0x2B || sign = 0x2D then after else sign :: after
        | [] => []
      let (digits, after) := spanDigits rest
      if digits.isEmpty then stopAt .invalidNumber (rest.drop 1) else .ok after
    else .ok text

end

/-- Skips a value whose form does not matter. -/
def skip (text : Bytes) : Except Stop Bytes :=
  skipValue (2 * text.length + 1) text

/-! ### Single values -/

/-- Scans a value that is neither a list nor an object. A list or an object in its place is a
mismatch before its first byte, and any other value one after its last byte. -/
def scanSingle {α : Type} (ofJson : Json → Except Mismatch α) (depth : Nat) : Reader Json :=
  fun text =>
    let checked (document : Json) (rest : Bytes) : Except Stop (Json × Bytes) :=
      match ofJson document with
      | .ok _ => .ok (document, rest)
      | .error mismatch => stopAt (.mismatch mismatch.message) rest
    match skipGap text with
    | [] => stopOn .endInValue []
    | b :: rest =>
      if b = 0x5B ∨ b = 0x7B then
        match ofJson (if b = 0x5B then .arr [] else .obj []) with
        | .ok _ => readValue depth (b :: rest)
        | .error mismatch => stopAt (.mismatch mismatch.message) (b :: rest)
      else
        match readWith none (b :: rest) with
        | .error stop => .error stop
        | .ok (document, rest) => checked document rest

namespace Decoder

/-- The decoder of values that are read from single values. -/
def ofSingle {α : Type} (ofJson : Json → Except Mismatch α) : Decoder α :=
  ⟨ofJson, scanSingle ofJson⟩

/-- Reads a whole number of at least `least` and at most `greatest`. -/
def integer (least greatest : Int) (expected : String) : Json → Except Mismatch Int
  | .int value =>
    if least ≤ value ∧ value ≤ greatest then .ok value
    else .error (.ofValue (.int value) expected)
  | document => .error (.ofType document expected)

/-- The greatest number of 64 bits without a sign. -/
def maxUnsigned : Nat := UInt64.size - 1

/-- Whole numbers of 64 bits with a sign. -/
def int64 : Decoder Int64 :=
  ofSingle fun document =>
    Int64.ofInt <$> integer Int64.minValue.toInt Int64.maxValue.toInt "i64" document

/-- Whole numbers of 64 bits without a sign. -/
def uint64 : Decoder UInt64 :=
  ofSingle fun document =>
    (fun n => UInt64.ofNat n.toNat) <$> integer 0 maxUnsigned "u64" document

/-- Counts. -/
def size : Decoder Nat :=
  ofSingle fun document => Int.toNat <$> integer 0 maxUnsigned "usize" document

/-- Texts, which are called `expected` where there is none. -/
def textOf (expected : String) : Decoder String :=
  ofSingle fun
    | .str text => .ok text
    | document => .error (.ofType document expected)

/-- Texts. -/
def text : Decoder String := textOf "a string"

/-- Truth values. -/
def flag : Decoder Bool :=
  ofSingle fun
    | .bool value => .ok value
    | document => .error (.ofType document "a boolean")

/-- The decoder of values that are read from whole documents. -/
def ofDocument {α : Type} (ofJson : Json → Except Mismatch α) : Decoder α :=
  ⟨ofJson, readValue⟩

/-- Documents of any form. -/
def document : Decoder Json :=
  ofDocument .ok

/-! ### Lists and absent values -/

/-- Scans a list whose items are scanned by `item`. -/
def scanList {α : Type} (ofJson : Json → Except Mismatch α) (item : (depth : Nat) → Reader Json)
    (depth : Nat) : Reader Json := fun text =>
  match skipGap text with
  | b :: rest =>
    if b = 0x5B then
      match depth with
      | 0 => stopOn .tooDeep (b :: rest)
      | depth + 1 => (fun (items, rest) => (.arr items, rest)) <$> readList (item depth) rest
    else scanSingle ofJson depth (b :: rest)
  | [] => stopOn .endInValue []

/-- Reads the items of a list, the first mismatch among them first. -/
def items {α : Type} (item : Json → Except Mismatch α) : Json → Except Mismatch (List α)
  | .arr documents => documents.mapM item
  | document => .error (.ofType document "a sequence")

/-- Lists. -/
def list {α : Type} (item : Decoder α) : Decoder (List α) :=
  ⟨items item.ofJson, scanList (items item.ofJson) item.scan⟩

/-- Values that may be null. -/
def nullable {α : Type} (value : Decoder α) : Decoder (Option α) where
  ofJson
    | .null => .ok none
    | document => some <$> value.ofJson document
  scan depth text :=
    match skipGap text with
    | b :: rest =>
      if b = 0x6E then (fun rest => (.null, rest)) <$> readWord [0x75, 0x6C, 0x6C] rest
      else value.scan depth (b :: rest)
    | [] => value.scan depth []

end Decoder

/-! ### Records -/

/-- How one field of a record is read, whatever its type is. -/
structure Slot where
  /-- The key of the field. -/
  name : String
  /-- Other keys that stand for it. -/
  aliases : List String
  /-- Whether the field may be left out. -/
  optional : Bool
  /-- Tells whether a document is a value of the field. -/
  check : Json → Except Mismatch Unit
  /-- Scans a value of the field. -/
  scan : (depth : Nat) → Reader Json

/-- Whether a key stands for a field. -/
def Slot.hasKey (slot : Slot) (key : String) : Bool :=
  slot.name = key || slot.aliases.contains key

/-- Fields of a record, and what is made of their values. The values are given in the order of the
fields, and `absent` tells the mismatch of a field that must not be left out. -/
structure Record (α : Type) where
  slots : List Slot
  build : (absent : Slot → Mismatch) → List (Option Json) → Except Mismatch (α × List (Option Json))

namespace Record

/-- No field at all. -/
def pure {α : Type} (a : α) : Record α :=
  ⟨[], fun _ values => .ok (a, values)⟩

/-- Fields followed by one more, whose value completes what is made of them. -/
def more {α β : Type} (record : Record (α → β)) (field : Record α) : Record β where
  slots := record.slots ++ field.slots
  build absent values :=
    match record.build absent values with
    | .error mismatch => .error mismatch
    | .ok (f, values) => (fun (a, values) => (f a, values)) <$> field.build absent values

/-- A field of its own. Where it is left out, `default` takes its place, if there is one. -/
def field {α : Type} (name : String) (decoder : Decoder α) (default : Option α)
    (aliases : List String) : Record α :=
  let slot : Slot :=
    ⟨name, aliases, default.isSome, fun document => (fun _ => ()) <$> decoder.ofJson document,
      decoder.scan⟩
  { slots := [slot]
    build absent := fun
      | some document :: values => (fun a => (a, values)) <$> decoder.ofJson document
      | values =>
        match default with
        | some a => .ok (a, values.tail)
        | none => .error (absent slot) }

/-- A field that must not be left out. -/
def required {α : Type} (name : String) (decoder : Decoder α) : Record α :=
  field name decoder none []

/-- A field with a default. -/
def withDefault {α : Type} (name : String) (decoder : Decoder α) (default : α) : Record α :=
  field name decoder (some default) []

/-- A field that may be null or left out. -/
def optional {α : Type} (name : String) (decoder : Decoder α) : Record (Option α) :=
  withDefault name decoder.nullable none

variable {α : Type}

/-- The field for which a key stands. -/
def slotOf? (record : Record α) (key : String) : Option Slot :=
  record.slots.find? (·.hasKey key)

/-- The entries of an object that are fields of a record, under the names of the fields. Each is
checked in turn, and no field may come twice. -/
def select (record : Record α) : (before : List String) → Fields → Except Mismatch Fields
  | _, [] => .ok []
  | before, (key, document) :: rest =>
    match record.slotOf? key with
    | none => select record before rest
    | some slot =>
      if before.contains slot.name then .error (.duplicateField slot.name)
      else
        match slot.check document with
        | .error mismatch => .error mismatch
        | .ok () => ((slot.name, document) :: ·) <$> select record (slot.name :: before) rest

/-- Reads the fields of an object: first every present field is checked in the order of the keys,
and then the fields are put together. -/
def ofFields (record : Record α) (fields : Fields) : Except Mismatch α :=
  match record.select [] fields with
  | .error mismatch => .error mismatch
  | .ok selected =>
    let values := record.slots.map fun slot => Table.get? slot.name selected
    Prod.fst <$> record.build (fun slot => .missingField slot.name) values

/-- What a list of the fields of a record should be. -/
def listForm (record : Record α) (name : String) : String :=
  let count := record.slots.length
  let unit := if count = 1 then "element" else "elements"
  s!"{name} with {count} {unit}"

/-- Checks the items of a list as the fields of a record, in their order. -/
def checkItems : List Slot → List Json → Except Mismatch Unit
  | slot :: slots, document :: documents =>
    match slot.check document with
    | .error mismatch => .error mismatch
    | .ok () => checkItems slots documents
  | _, _ => .ok ()

/-- Reads the fields of a record from a list. -/
def ofItems (record : Record α) (name : String) (documents : List Json) : Except Mismatch α :=
  match checkItems record.slots documents with
  | .error mismatch => .error mismatch
  | .ok () =>
    let absent (_ : Slot) : Mismatch := .length documents.length (record.listForm name)
    match record.build absent (documents.map some) with
    | .error mismatch => .error mismatch
    | .ok (a, rest) =>
      if rest.isEmpty then .ok a
      else .error (.length documents.length "fewer elements in array")

/-- Reads a record from a document. -/
def ofJson (record : Record α) (name : String) : Json → Except Mismatch α
  | .obj fields => record.ofFields fields
  | .arr documents => record.ofItems name documents
  | document => .error (.ofType document name)

/-- Scans the fields of a record from a list, `count` of which come before the given ones. -/
def scanSlots (wanted : String) (depth : Nat) : (count : Nat) → List Slot → Reader Fields
  | _, [], text => .ok ([], text)
  | count, slot :: slots, text =>
    match nextItem (count = 0) text with
    | .error stop => .error stop
    | .ok none =>
      if (slot :: slots).all (·.optional) then .ok ([], text)
      else stopAt (.mismatch (Mismatch.length count wanted).message) ((skipGap text).drop 1)
    | .ok (some text) =>
      match slot.scan depth text with
      | .error stop => .error stop
      | .ok (document, text) =>
        (fun (fields, text) => ((slot.name, document) :: fields, text)) <$>
          scanSlots wanted depth (count + 1) slots text

/-- Scans one entry of an object from the end of its key on. -/
def scanEntry (record : Record α) (depth : Nat) (before : Fields) (key : String) :
    Reader (Option (String × Json)) := fun text =>
  match record.slotOf? key with
  | none =>
    match readColon text with
    | .error stop => .error stop
    | .ok text => (fun text => (none, text)) <$> skip text
  | some slot =>
    if Table.contains slot.name before then
      stopAt (.mismatch (Mismatch.duplicateField slot.name).message) (skipGap text)
    else
      match readColon text with
      | .error stop => .error stop
      | .ok text =>
        (fun (document, text) => (some (slot.name, document), text)) <$> slot.scan depth text

/-- Scans a record. -/
def scan (record : Record α) (name : String) (depth : Nat) : Reader Json := fun text =>
  match skipGap text with
  | [] => stopOn .endInValue []
  | b :: rest =>
    if b = 0x5B then
      match depth with
      | 0 => stopOn .tooDeep (b :: rest)
      | depth + 1 =>
        match scanSlots (record.listForm name) depth 0 record.slots rest with
        | .error stop => .error stop
        | .ok (fields, rest) => (fun rest => (.obj fields, rest)) <$> endList rest
    else if b = 0x7B then
      match depth with
      | 0 => stopOn .tooDeep (b :: rest)
      | depth + 1 =>
        match readEntries (record.scanEntry depth) rest with
        | .error stop => .error stop
        | .ok (fields, rest) =>
          let rest := rest.drop 1
          match record.slots.find? fun slot =>
              !slot.optional && !Table.contains slot.name fields with
          | some slot => stopAt (.mismatch (Mismatch.missingField slot.name).message) rest
          | none => .ok (.obj fields, rest)
    else scanSingle (record.ofJson name) depth (b :: rest)

/-- The decoder of a record, which is called `name` where there is none. -/
def decoder (record : Record α) (name : String) : Decoder α :=
  ⟨record.ofJson name, record.scan name⟩

end Record

/-! ### Named values and other types -/

namespace Decoder

/-- The name of a variant with its payload: a text names one without a payload, and an object with
a single key one with the value of the key. -/
def variant : Json → Except Mismatch (String × Option Json)
  | .str name => .ok (name, none)
  | .obj [(name, payload)] => .ok (name, some payload)
  | .obj fields => .error (.ofValue (.obj fields) "map with a single key")
  | document => .error (.ofType document "string or map")

/-- Values that have names. A name may also be the key of an object whose value is null. -/
def ofNames {α : Type} (names : List (String × α)) : Decoder α :=
  ofSingle fun document => do
    let (name, payload) ← variant document
    match names.lookup name with
    | none => throw (.unknownVariant name (names.map Prod.fst))
    | some value =>
      match payload.getD .null with
      | .null => return value
      | other => throw (.ofType other "unit")

/-- Values that are made of other values, where `make` may refuse one with a reason. -/
def refine {α β : Type} (decoder : Decoder α) (make : α → Except String β) : Decoder β :=
  ofSingle fun document => do
    let a ← decoder.ofJson document
    match make a with
    | .ok b => return b
    | .error reason => throw (.refused reason)

/-- Reads a value from a text that holds nothing else. -/
def parse {α : Type} (decoder : Decoder α) (text : Bytes) : Except Fault α :=
  let part : Reader α := fun text =>
    match decoder.scan maxDepth text with
    | .error stop => .error stop
    | .ok (document, rest) =>
      match decoder.ofJson document with
      | .ok a => .ok (a, rest)
      | .error mismatch => stopAt (.mismatch mismatch.message) rest
  readAll part text

end Decoder

end NetworkIntent.Json
