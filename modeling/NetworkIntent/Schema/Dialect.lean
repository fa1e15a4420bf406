import NetworkIntent.Schema.Reference

/-!
# Dialects of schemas

The language of schemas has changed over time. A schema names its dialect, and what a schema may
look like is itself a schema of the dialect. Where a schema says nothing it is in the modern
dialect.

In the classic dialect a reference stands alone: the other keywords beside it are no rules.

## Main definitions

* `Dialect`: the dialects.
* `Dialect.ofName?`: the dialect with a name.
* `Dialect.rules`: the schema of the schemas of a dialect.
* `Dialect.defect?`: what is wrong with a schema.
-/

set_option autoImplicit false

namespace NetworkIntent.Schema

/-- The dialects of schemas. -/
inductive Dialect where
  | classic
  | modern
  deriving DecidableEq, Repr

namespace Dialect

/-- The folders in which the schemas of dialects are, by their addresses. -/
def folders : List (String × Dialect) :=
  [("https://json-schema.org/draft/2020-12/", .modern),
   ("https://json-schema.org/draft/2019-09/", .modern),
   ("http://json-schema.org/draft-07/", .classic),
   ("http://json-schema.org/draft-06/", .classic),
   ("http://json-schema.org/draft-04/", .classic)]

/-- A name without the number signs at its end. -/
def plainName (name : String) : String :=
  String.ofList (name.toList.reverse.dropWhile (· = '#')).reverse

/-- The dialect with a name, which is the address of its schema. -/
def ofName? (name : String) : Option Dialect :=
  (folders.find? fun folder => folder.1 ++ "schema" = plainName name).map Prod.snd

/-- Whether a reference leads to the schemas of dialects, which are always at hand. -/
def isOwnReference (reference : String) : Bool :=
  folders.any fun folder => folder.1.toList.isPrefixOf reference.toList

/-- The place of the schema of a dialect. -/
def target : Dialect → Target
  | .classic =>
    ⟨⟨"http".toList, some "json-schema.org".toList, "/draft-07/schema".toList, none⟩, ""⟩
  | .modern =>
    ⟨⟨"https".toList, some "json-schema.org".toList, "/draft/2020-12/schema".toList, none⟩, ""⟩

/-! ### Forms of rules -/

/-- The documents of a kind. -/
def ofKind (kind : Kind) : Rules :=
  .all [.kind [kind]]

/-- Whole numbers from zero on. -/
def count : Rules :=
  .all [.minimum (.int 0), .kind [.integer]]

/-- Numbers greater than zero. -/
def positive : Rules :=
  .all [.above (.int 0), .kind [.number]]

/-- Lists of different texts. -/
def texts : Rules :=
  .all [.items (ofKind .string), .kind [.array], .uniqueItems]

/-- Texts that match a pattern. -/
def matching (source : String) : Rules :=
  match Pattern.parse? source with
  | some pattern => .all [.pattern pattern, .kind [.string]]
  | none => .nothing

/-- Names of places in a document. -/
def anchor : Rules :=
  matching "^[A-Za-z_][-A-Za-z0-9._]*$"

/-- Names of kinds. -/
def kindName : Rules :=
  .all [.oneOf (Kind.all.map fun kind => .str kind.name)]

/-- A kind, or a list of different ones. -/
def kinds : Rules :=
  .all [.anyOf [kindName, .all [.items kindName, .minItems 1, .kind [.array], .uniqueItems]]]

/-- Schemas of a dialect. -/
def schema (dialect : Dialect) : Rules :=
  .all [.reference dialect.target]

/-- Lists of schemas. -/
def schemas (dialect : Dialect) : Rules :=
  .all [.items dialect.schema, .minItems 1, .kind [.array]]

/-- Schemas by names. -/
def schemaTable (dialect : Dialect) : Rules :=
  .all [.entries [] [] dialect.schema, .kind [.object]]

/-- Schemas or lists of names, by names. -/
def dependencies (dialect : Dialect) : Rules :=
  .all [.entries [] [] (.all [.anyOf [dialect.schema, texts]]), .kind [.object]]

/-! ### Keywords -/

/-- The values of the keywords of the modern dialect, in the order in which they are checked. -/
def modernKeywords : List (String × Rules) :=
  let schema := schema .modern
  let schemas := schemas .modern
  let schemaTable := schemaTable .modern
  let text := ofKind .string
  let flag := ofKind .boolean
  let number := ofKind .number
  [("$anchor", anchor), ("$comment", text), ("$defs", schemaTable), ("$dynamicAnchor", anchor),
   ("$dynamicRef", text),
   ("$id", match Pattern.parse? "^[^#]*#?$" with
      | some pattern => .all [.kind [.string], .pattern pattern]
      | none => .nothing),
   ("$ref", text), ("$schema", text),
   ("$vocabulary", .all [.entries [] [] flag, .kind [.object]]),
   ("additionalProperties", schema), ("allOf", schemas), ("anyOf", schemas),
   ("contains", schema), ("dependentSchemas", schemaTable), ("else", schema), ("if", schema),
   ("items", schema), ("not", schema), ("oneOf", schemas), ("patternProperties", schemaTable),
   ("prefixItems", schemas), ("properties", schemaTable), ("propertyNames", schema),
   ("then", schema),
   ("unevaluatedItems", schema), ("unevaluatedProperties", schema),
   ("dependentRequired", .all [.entries [] [] texts, .kind [.object]]),
   ("enum", ofKind .array), ("exclusiveMaximum", number), ("exclusiveMinimum", number),
   ("maxContains", count), ("maxItems", count), ("maxLength", count), ("maxProperties", count),
   ("maximum", number), ("minContains", count), ("minItems", count), ("minLength", count),
   ("minProperties", count), ("minimum", number), ("multipleOf", positive), ("pattern", text),
   ("required", texts), ("type", kinds), ("uniqueItems", flag),
   ("deprecated", flag), ("description", text), ("examples", ofKind .array), ("readOnly", flag),
   ("title", text), ("writeOnly", flag),
   ("format", text),
   ("contentEncoding", text), ("contentMediaType", text), ("contentSchema", schema),
   ("$recursiveAnchor", anchor), ("$recursiveRef", text), ("definitions", schemaTable),
   ("dependencies", dependencies .modern)]

/-- The values of the keywords of the classic dialect, in the order in which they are checked. -/
def classicKeywords : List (String × Rules) :=
  let schema := schema .classic
  let schemas := schemas .classic
  let schemaTable := schemaTable .classic
  let text := ofKind .string
  let flag := ofKind .boolean
  let number := ofKind .number
  [("$comment", text), ("$id", text), ("$ref", text), ("$schema", text),
   ("additionalItems", schema), ("additionalProperties", schema), ("allOf", schemas),
   ("anyOf", schemas), ("contains", schema), ("contentEncoding", text),
   ("contentMediaType", text), ("definitions", schemaTable),
   ("dependencies", dependencies .classic), ("description", text), ("else", schema),
   ("enum", ofKind .array), ("examples", ofKind .array), ("exclusiveMaximum", number),
   ("exclusiveMinimum", number), ("format", text), ("if", schema),
   ("items", .all [.anyOf [schema, schemas]]), ("maxItems", count), ("maxLength", count),
   ("maxProperties", count), ("maximum", number), ("minItems", count), ("minLength", count),
   ("minProperties", count), ("minimum", number), ("multipleOf", positive), ("not", schema),
   ("oneOf", schemas), ("pattern", text), ("patternProperties", schemaTable),
   ("properties", schemaTable), ("propertyNames", schema), ("readOnly", flag),
   ("required", texts), ("then", schema), ("title", text), ("type", kinds),
   ("uniqueItems", flag), ("writeOnly", flag)]

/-- The schema of the schemas of a dialect: truth values, and objects with keywords. -/
def rules (dialect : Dialect) : Rules :=
  let keywords := match dialect with
    | .classic => classicKeywords
    | .modern => modernKeywords
  .all [.properties keywords, .kind [.boolean, .object]]

/-- What is wrong with a document as a schema of a dialect: the first thing that is found. -/
def defect? (dialect : Dialect) (document : Json) : Option Defect :=
  let ofSchemas : Schema := ⟨dialect.rules, [(dialect.target, dialect.rules)]⟩
  (ofSchemas.check document).head?.map fun violation => .breach violation.breach

end Dialect

end NetworkIntent.Schema
