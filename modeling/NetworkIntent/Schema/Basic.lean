import NetworkIntent.Json.Printer
import NetworkIntent.Schema.Pattern.Basic
import NetworkIntent.Schema.Uri

/-!
# Schemas

A schema is a list of rules that a document has to obey. A rule speaks of documents of one kind and
lets all others pass; a reference stands for the rules of another schema.

Checking collects every breach with the place where it was found, in the order of the rules.

## Main definitions

* `Schema`, `Rule`: schemas and their rules.
* `Breach`, `Violation`: what is wrong with a document, and where.
* `Schema.check`: the violations of a document.
-/

set_option autoImplicit false

namespace NetworkIntent

namespace Schema

/-- The kinds of documents that a rule may ask for. -/
inductive Kind where
  | array
  | boolean
  | integer
  | null
  | number
  | object
  | string
  deriving DecidableEq, Repr

/-- The kinds in the order of their names. -/
def Kind.all : List Kind :=
  [.array, .boolean, .integer, .null, .number, .object, .string]

/-- The name of a kind. -/
def Kind.name : Kind → String
  | .null => "null"
  | .boolean => "boolean"
  | .integer => "integer"
  | .number => "number"
  | .string => "string"
  | .array => "array"
  | .object => "object"

/-- The kind with a name. -/
def Kind.ofName? (name : String) : Option Kind :=
  Kind.all.find? (·.name = name)

/-- Whether a document is of a kind. A double without a fraction is an integer. -/
def Kind.has : Kind → Json → Bool
  | .null, .null | .boolean, .bool _ | .integer, .int _ | .number, .int _ | .number, .double _
  | .string, .str _ | .array, .arr _ | .object, .obj _ => true
  | .integer, .double x => x.toInt?.isSome
  | _, _ => false

/-- A number: a whole one or a double. -/
inductive Number where
  | int (n : Int)
  | double (x : Double)
  deriving DecidableEq, Repr

namespace Number

/-- The number that a document is. -/
def ofJson? : Json → Option Number
  | .int n => some (int n)
  | .double x => some (double x)
  | _ => none

/-- The document that is a number. -/
def toJson : Number → Json
  | int n => .int n
  | double x => .double x

/-- The value of a number as a ratio with a positive denominator. -/
def ratio : Number → Int × Nat
  | int n => (n, 1)
  | double x => (if x.negative then -(x.ratio.1 : Int) else x.ratio.1, x.ratio.2)

/-- Whether a number is less than another. -/
def isLess (a b : Number) : Bool :=
  a.ratio.1 * b.ratio.2 < b.ratio.1 * a.ratio.2

/-- The whole number that a number is, if it is one. -/
def toInt? : Number → Option Int
  | int n => some n
  | double x => x.toInt?

end Number

/-- The place of a schema: the address of a document, and what a reference has after its number
sign. -/
structure Target where
  file : Uri
  fragment : String
  deriving DecidableEq, Repr

mutual

/-- A rule of a schema. -/
inductive Rule where
  /-- The rules of another schema. -/
  | reference (target : Target)
  /-- Every key is one of the given ones or matches a pattern, and its value obeys the schemas of
  the key and of all matching patterns. -/
  | closed (properties : List (String × Rules)) (patterns : List (Pattern × Rules))
  /-- The value of every key obeys the schemas of the key and of all matching patterns, or another
  schema if there are none. -/
  | entries (properties : List (String × Rules)) (patterns : List (Pattern × Rules))
      (others : Rules)
  /-- An object has no keys. -/
  | noEntries
  /-- The document obeys one of several schemas. -/
  | anyOf (options : List Rules)
  /-- The document is one of the given ones. -/
  | oneOf (options : List Json)
  /-- A number is greater than the given one. -/
  | above (bound : Number)
  /-- Every item of a list obeys a schema. -/
  | items (item : Rules)
  /-- A list has at least so many items. -/
  | minItems (count : Nat)
  /-- A text has at least so many characters. -/
  | minLength (count : Nat)
  /-- A number is at least as great as the given one. -/
  | minimum (bound : Number)
  /-- A text matches a pattern. -/
  | pattern (pattern : Pattern)
  /-- The values of all keys that match a pattern obey its schema. -/
  | patternProperties (patterns : List (Pattern × Rules))
  /-- The values of the given keys, as far as they are present, obey their schemas. -/
  | properties (properties : List (String × Rules))
  /-- An object has the given keys. -/
  | required (keys : List String)
  /-- The document is of one of several kinds. -/
  | kind (kinds : List Kind)
  /-- No two items of a list are the same. -/
  | uniqueItems

/-- The rules of a schema. -/
inductive Rules where
  /-- No document obeys. -/
  | nothing
  /-- The listed rules hold. -/
  | all (rules : List Rule)

end

/-- What is wrong with a document or with a part of it. -/
inductive Breach where
  | wrongKind (document : Json) (expected : List Kind)
  | missing (key : String)
  | notAmong (document : Json) (options : List Json)
  | noOption (document : Json)
  | belowMinimum (document : Json) (bound : Number)
  | notAbove (document : Json) (bound : Number)
  | tooFew (document : Json) (count : Nat)
  | tooShort (document : Json) (count : Nat)
  | noMatch (document : Json) (source : String)
  | searchAbandoned
  | repeated (document : Json)
  | unexpected (keys : List String)
  | forbidden (document : Json)
  deriving DecidableEq

/-- A document as it appears in the description of a breach. -/
def shown (document : Json) : String :=
  document.render .line

/-- A number of things. -/
def counted (count : Nat) (unit : String) : String :=
  if count = 1 then s!"{count} {unit}" else s!"{count} {unit}s"

/-- The description of a breach. -/
def Breach.message : Breach → String
  | .wrongKind document expected =>
    let names := ", ".intercalate (expected.map fun kind => s!"\"{kind.name}\"")
    let noun := if expected.length = 1 then "type" else "types"
    s!"{shown document} is not of {noun} {names}"
  | .missing key => s!"{shown (.str key)} is a required property"
  | .notAmong document options => s!"{shown document} is not one of {shown (.arr options)}"
  | .noOption document =>
    s!"{shown document} is not valid under any of the schemas listed in the 'anyOf' keyword"
  | .belowMinimum document bound =>
    s!"{shown document} is less than the minimum of {shown bound.toJson}"
  | .notAbove document bound =>
    s!"{shown document} is less than or equal to the minimum of {shown bound.toJson}"
  | .tooFew document count => s!"{shown document} has less than " ++ counted count "item"
  | .tooShort document count => s!"{shown document} is shorter than " ++ counted count "character"
  | .noMatch document source => s!"{shown document} does not match \"{source}\""
  | .searchAbandoned => "Error executing regex: Max limit for backtracking count exceeded"
  | .repeated document => s!"{shown document} has non-unique elements"
  | .unexpected keys =>
    let listed := ", ".intercalate (keys.map fun key => s!"'{key}'")
    let verb := if keys.length = 1 then "was" else "were"
    s!"Additional properties are not allowed ({listed} {verb} unexpected)"
  | .forbidden document => s!"False schema does not allow {shown document}"

/-- A breach with the keys and positions that lead to it. -/
structure Violation where
  path : List String
  breach : Breach
  deriving DecidableEq

/-- A step of a pointer: the characters that delimit steps are escaped. -/
def pointerStep (step : String) : String :=
  String.ofList (step.toList.flatMap fun c =>
    if c = '~' then ['~', '0'] else if c = '/' then ['~', '1'] else [c])

/-- The text of a pointer. -/
def pointerText (path : List String) : String :=
  String.join (path.map fun step => "/" ++ pointerStep step)

/-- The description of a violation. -/
def Violation.message (violation : Violation) : String :=
  s!"{pointerText violation.path}: {violation.breach.message}"

/-! ### Sameness -/

/-- Whether a number is the same as another. -/
def sameNumber (n : Int) (x : Double) : Bool :=
  x.toInt? = some n

mutual

/-- Whether two documents are the same, where numbers are compared by their value. -/
def same : Json → Json → Bool
  | .null, .null => true
  | .bool a, .bool b => a = b
  | .int a, .int b => a = b
  | .double x, .double y => x = y || (x.isZero && y.isZero)
  | .int n, .double x | .double x, .int n => sameNumber n x
  | .str a, .str b => a = b
  | .arr as, .arr bs => sameItems as bs
  | .obj as, .obj bs => sameFields as bs
  | _, _ => false

/-- Whether the items of two lists are the same, one by one. -/
def sameItems : List Json → List Json → Bool
  | [], [] => true
  | a :: as, b :: bs => same a b && sameItems as bs
  | _, _ => false

/-- Whether two objects have the same entries. -/
def sameFields : List (String × Json) → List (String × Json) → Bool
  | [], [] => true
  | (k, a) :: as, (l, b) :: bs => k = l && same a b && sameFields as bs
  | _, _ => false

end

/-- Whether an item of a list is the same as an earlier one. -/
def hasRepetition : List Json → Bool
  | [] => false
  | item :: rest => rest.any (same item) || hasRepetition rest

/-! ### Checking -/

/-- Whether a document is a number for which a comparison holds. -/
def comparesBy (compare : Number → Bool) (document : Json) : Bool :=
  (Number.ofJson? document).any compare

/-- How the schema of a reference is checked: the place of a document, the document, and its
violations. -/
abbrev Follow := Target → List String → Json → List Violation

/-- Checks one key of an object by `check`, if the object has it. -/
def checkKey (check : List String → Json → List Violation) (path : List String) (key : String)
    (fields : Fields) : List Violation :=
  match Table.get? key fields with
  | some value => check (path ++ [key]) value
  | none => []

/-- Whether a schema is given for a key, or for a pattern that matches it. -/
def isCovered (properties : List (String × Rules)) (patterns : List (Pattern × Rules))
    (key : String) : Bool :=
  (properties.map Prod.fst).contains key || (patterns.map Prod.fst).any (·.isMatch key)

/-- Checks the values of the keys that match a pattern by `check`. -/
def checkMatching (pattern : Pattern) (check : List String → Json → List Violation)
    (path : List String) (fields : Fields) : List Violation :=
  fields.flatMap fun (key, value) =>
    if pattern.isMatch key then check (path ++ [key]) value else []

mutual

/-- The violations of one rule. -/
def checkRule (follow : Follow) : Rule → (path : List String) → Json → List Violation
  | .reference target, path, document => follow target path document
  | .closed properties patterns, path, .obj fields =>
    let inner := fields.flatMap fun (key, value) =>
      checkNamed follow properties (path ++ [key]) key value
        ++ checkMatched follow patterns (path ++ [key]) key value
    let unexpected := (Table.keys fields).filter fun key => !isCovered properties patterns key
    inner ++ if unexpected.isEmpty then [] else [⟨path, .unexpected unexpected⟩]
  | .entries properties patterns others, path, .obj fields =>
    fields.flatMap fun (key, value) =>
      if isCovered properties patterns key then
        checkNamed follow properties (path ++ [key]) key value
          ++ checkMatched follow patterns (path ++ [key]) key value
      else checkRules follow others (path ++ [key]) value
  | .noEntries, path, .obj ((_, value) :: _) => [⟨path, .forbidden value⟩]
  | .anyOf options, path, document =>
    if obeysAny follow options path document then [] else [⟨path, .noOption document⟩]
  | .oneOf options, path, document =>
    if options.any (same document) then [] else [⟨path, .notAmong document options⟩]
  | .above bound, path, document =>
    if comparesBy (fun n => !bound.isLess n) document then [⟨path, .notAbove document bound⟩]
    else []
  | .items item, path, .arr documents =>
    documents.zipIdx.flatMap fun (document, index) =>
      checkRules follow item (path ++ [toString index]) document
  | .minItems count, path, .arr documents =>
    if documents.length < count then [⟨path, .tooFew (.arr documents) count⟩] else []
  | .minLength count, path, .str text =>
    if text.toList.length < count then [⟨path, .tooShort (.str text) count⟩] else []
  | .minimum bound, path, document =>
    if comparesBy (·.isLess bound) document then [⟨path, .belowMinimum document bound⟩] else []
  | .pattern pattern, path, .str text =>
    match pattern.find? text with
    | some true => []
    | some false => [⟨path, .noMatch (.str text) pattern.source⟩]
    | none => [⟨path, .searchAbandoned⟩]
  | .patternProperties patterns, path, .obj fields =>
    checkPatterns follow patterns path fields
  | .properties properties, path, .obj fields => checkProperties follow properties path fields
  | .required keys, path, .obj fields =>
    (keys.filter fun key => !Table.contains key fields).map fun key => ⟨path, .missing key⟩
  | .kind kinds, path, document =>
    if kinds.any (·.has document) then [] else [⟨path, .wrongKind document kinds⟩]
  | .uniqueItems, path, .arr documents =>
    if hasRepetition documents then [⟨path, .repeated (.arr documents)⟩] else []
  | _, _, _ => []

/-- The violations of a schema. -/
def checkRules (follow : Follow) : Rules → (path : List String) → Json → List Violation
  | .nothing, path, document => [⟨path, .forbidden document⟩]
  | .all rules, path, document => checkEach follow rules path document

/-- The violations of several rules, one after the other. -/
def checkEach (follow : Follow) : List Rule → (path : List String) → Json → List Violation
  | [], _, _ => []
  | rule :: rest, path, document =>
    checkRule follow rule path document ++ checkEach follow rest path document

/-- Whether a document obeys one of several schemas. -/
def obeysAny (follow : Follow) : List Rules → (path : List String) → Json → Bool
  | [], _, _ => false
  | rules :: rest, path, document =>
    (checkRules follow rules path document).isEmpty || obeysAny follow rest path document

/-- The violations of the value of a key against the schema that is given for the key. -/
def checkNamed (follow : Follow) :
    List (String × Rules) → (path : List String) → (key : String) → Json → List Violation
  | [], _, _, _ => []
  | (name, rules) :: rest, path, key, value =>
    if name = key then checkRules follow rules path value
    else checkNamed follow rest path key value

/-- The violations of the value of a key against the schemas of all patterns that match the key. -/
def checkMatched (follow : Follow) :
    List (Pattern × Rules) → (path : List String) → (key : String) → Json → List Violation
  | [], _, _, _ => []
  | (pattern, rules) :: rest, path, key, value =>
    (if pattern.isMatch key then checkRules follow rules path value else [])
      ++ checkMatched follow rest path key value

/-- The violations of the values of the given keys. -/
def checkProperties (follow : Follow) :
    List (String × Rules) → (path : List String) → Fields → List Violation
  | [], _, _ => []
  | (name, rules) :: rest, path, fields =>
    checkKey (checkRules follow rules) path name fields
      ++ checkProperties follow rest path fields

/-- The violations of the values of the keys that match the given patterns. -/
def checkPatterns (follow : Follow) :
    List (Pattern × Rules) → (path : List String) → Fields → List Violation
  | [], _, _ => []
  | (pattern, rules) :: rest, path, fields =>
    checkMatching pattern (checkRules follow rules) path fields
      ++ checkPatterns follow rest path fields

end

end Schema

/-- A schema: its rules, and the schemas that its references stand for. -/
structure Schema where
  rules : Schema.Rules
  targets : List (Schema.Target × Schema.Rules)

namespace Schema

/-- How references are followed, at most `fuel` of them in a row. -/
def follow (schema : Schema) : (fuel : Nat) → Follow
  | 0 => fun _ _ _ => []
  | fuel + 1 => fun target path document =>
    match schema.targets.lookup target with
    | some rules => checkRules (follow schema fuel) rules path document
    | none => []

mutual

/-- The number of levels of lists and objects of a document. -/
def depth : Json → Nat
  | .arr items => 1 + depthItems items
  | .obj fields => 1 + depthFields fields
  | _ => 0

/-- The greatest depth of the items of a list. -/
def depthItems : List Json → Nat
  | [] => 0
  | item :: rest => max (depth item) (depthItems rest)

/-- The greatest depth of the values of an object. -/
def depthFields : List (String × Json) → Nat
  | [] => 0
  | (_, value) :: rest => max (depth value) (depthFields rest)

end

/-- The violations of a document. At one level of the document no reference can be followed twice
without going round in a circle, so there is a bound on how many have to be followed. -/
def check (schema : Schema) (document : Json) : List Violation :=
  let bound := (depth document + 1) * (schema.targets.length + 1)
  checkRules (schema.follow bound) schema.rules [] document

end Schema

end NetworkIntent
