import NetworkIntent.Schema.Dialect

/-!
# Reading schemas

A schema is written as a document: a truth value for the schema that accepts everything or nothing,
or an object whose keywords are the rules, in the order of the keywords. Keywords that are no rules,
such as titles and definitions, are skipped.

An object whose other keys have a schema of their own, or are not allowed, judges the values of all
keys itself, so the keywords for keys become part of this rule.

## Main definitions

* `Schema.rulesOf`: the rules of a document.
* `Schema.referencesOf`: the references in a document.
-/

set_option autoImplicit false

namespace NetworkIntent.Schema

/-! ### Values of keywords -/

/-- The defect of a document that is of none of the given kinds. -/
def misfit {α : Type} (document : Json) (kinds : List Kind) : Except Defect α :=
  .error (.breach (.wrongKind document kinds))

/-- The texts of a list. -/
def textsOf : List Json → Except Defect (List String)
  | [] => .ok []
  | .str text :: rest => (text :: ·) <$> textsOf rest
  | document :: _ => misfit document [.string]

/-- The kinds that a list of names stands for. -/
def kindsOfNames : List Json → Except Defect (List Kind)
  | [] => .ok []
  | .str name :: rest =>
    match Kind.ofName? name with
    | some kind => (kind :: ·) <$> kindsOfNames rest
    | none => .error (.breach (.notAmong (.str name) (Kind.all.map fun kind => .str kind.name)))
  | document :: _ => misfit document [.string]

/-- The kind with a name. -/
def kindOfName (name : String) : Except Defect Kind :=
  match Kind.ofName? name with
  | some kind => .ok kind
  | none => .error .unknownKind

/-- The kinds that a keyword names, in the order of their names. -/
def kindsOf : Json → Except Defect (List Kind)
  | .str name | .arr [.str name] => (fun kind => [kind]) <$> kindOfName name
  | .arr names =>
    (fun kinds => Kind.all.filter fun kind => kinds.contains kind) <$> kindsOfNames names
  | document => misfit document [.array, .string]

/-- The greatest length that a keyword can ask for. -/
def lengthLimit : Nat := UInt64.size - 1

/-- The length that a keyword asks for. -/
def lengthOf (document : Json) : Except Defect Nat :=
  match (Number.ofJson? document).bind Number.toInt? with
  | none => misfit document [.integer]
  | some n =>
    if n < 0 then .error (.breach (.belowMinimum document (.int 0)))
    else .ok (min n.toNat lengthLimit)

/-- A pattern, or the defect that is shown by the given document. -/
def patternOf (shown : Json) (source : String) : Except Defect Pattern :=
  match Pattern.parse? source with
  | some pattern => .ok pattern
  | none => .error (.pattern shown)

/-! ### Rules -/

/-- Makes the keywords for the keys of an object part of the rule for its other keys. Without such
keywords, an object without other keys has no keys at all. -/
def gatherKeys (rules : List Rule) : List Rule :=
  let properties := rules.flatMap fun
    | .properties properties => properties
    | _ => []
  let patterns := rules.flatMap fun
    | .patternProperties patterns => patterns
    | _ => []
  let isKeyRule : Rule → Bool := fun
    | .properties _ | .patternProperties _ => true
    | _ => false
  let gathers := rules.any fun
    | .closed _ _ | .entries _ _ _ => true
    | _ => false
  if !gathers then rules
  else rules.filterMap fun
    | .closed _ _ =>
      some (if rules.any isKeyRule then .closed properties patterns else .noEntries)
    | .entries _ _ others => some (.entries properties patterns others)
    | rule => if isKeyRule rule then none else some rule

/-- What the value of a keyword can be read as: the rules of a schema, or those of the schemas of
an object by names or by patterns. -/
structure Readings where
  schema : Unit → Except Defect Rules
  named : Unit → Except Defect (List (String × Rules))
  patterns : Unit → Except Defect (List (Pattern × Rules))

/-- How the schema of a document is read: its dialect and its address, and what is wrong with the
schemas that it refers to. -/
structure Setting where
  dialect : Dialect
  address : Uri
  visit : Target → Except Defect Unit

/-- The rule of a reference to a schema without defects. -/
def referenceOf (setting : Setting) (text : String) : Except Defect Rule :=
  match targetOf setting.address text with
  | .error defect => .error defect
  | .ok target => (fun _ => .reference target) <$> setting.visit target

/-- The rule of a keyword, if it is one. -/
def keywordOf (setting : Setting) (keyword : String) (value : Json) (readings : Readings) :
    Except Defect (Option Rule) :=
  match keyword with
  | "$ref" =>
    match value with
    | .str text => some <$> referenceOf setting text
    | _ => misfit value [.string]
  | "additionalProperties" =>
    match value with
    | .bool true => .ok none
    | .bool false => .ok (some (.closed [] []))
    | _ => (fun others => some (.entries [] [] others)) <$> readings.schema ()
  | "enum" =>
    match value with
    | .arr options => .ok (some (.oneOf options))
    | _ => misfit value [.array]
  | "items" => (fun item => some (.items item)) <$> readings.schema ()
  | "minLength" => (fun count => some (.minLength count)) <$> lengthOf value
  | "minimum" =>
    match Number.ofJson? value with
    | some bound => .ok (some (.minimum bound))
    | none => misfit value [.number]
  | "pattern" =>
    match value with
    | .str source => (fun pattern => some (.pattern pattern)) <$> patternOf value source
    | _ => misfit value [.string]
  | "patternProperties" =>
    (fun patterns => some (.patternProperties patterns)) <$> readings.patterns ()
  | "properties" => (fun properties => some (.properties properties)) <$> readings.named ()
  | "required" =>
    match value with
    | .arr items => (fun keys => some (.required keys)) <$> textsOf items
    | _ => misfit value [.array]
  | "type" => (fun kinds => some (.kind kinds)) <$> kindsOf value
  | "uniqueItems" =>
    match value with
    | .bool flag => .ok (if flag then some .uniqueItems else none)
    | _ => misfit value [.boolean]
  | _ => .ok none

/-- The keywords that are rules: in the classic dialect a reference stands alone. -/
def activeKeyword (dialect : Dialect) (fields : Fields) (keyword : String) : Bool :=
  match dialect with
  | .classic => !Table.contains "$ref" fields || keyword = "$ref"
  | .modern => true

mutual

/-- The rules of a document. -/
def rulesOf (setting : Setting) : Json → Except Defect Rules
  | .bool true => .ok (.all [])
  | .bool false => .ok .nothing
  | .obj fields =>
    (fun rules => .all (gatherKeys rules)) <$>
      keywordsOf setting (activeKeyword setting.dialect fields) fields
  | document => misfit document [.boolean, .object]

/-- The rules of the keywords of a schema that are active, one after the other. -/
def keywordsOf (setting : Setting) (active : String → Bool) :
    List (String × Json) → Except Defect (List Rule)
  | [] => .ok []
  | (keyword, value) :: rest =>
    if active keyword then
      match keywordOf setting keyword value
          ⟨fun _ => rulesOf setting value, fun _ => namedOf setting value,
            fun _ => patternsOf setting value⟩ with
      | .error defect => .error defect
      | .ok none => keywordsOf setting active rest
      | .ok (some rule) => (rule :: ·) <$> keywordsOf setting active rest
    else keywordsOf setting active rest

/-- The rules of the schemas of an object by their names. -/
def namedOf (setting : Setting) : Json → Except Defect (List (String × Rules))
  | .obj fields => eachNamedOf setting fields
  | document => misfit document [.object]

/-- The rules of several named schemas. -/
def eachNamedOf (setting : Setting) :
    List (String × Json) → Except Defect (List (String × Rules))
  | [] => .ok []
  | (name, schema) :: rest =>
    match rulesOf setting schema with
    | .error defect => .error defect
    | .ok rules => ((name, rules) :: ·) <$> eachNamedOf setting rest

/-- The rules of the schemas of an object by patterns. -/
def patternsOf (setting : Setting) :
    Json → Except Defect (List (Pattern × Rules))
  | .obj fields => eachPatternOf setting fields
  | document => misfit document [.object]

/-- The rules of several schemas for patterns. A pattern that cannot be read is shown by its
schema. -/
def eachPatternOf (setting : Setting) :
    List (String × Json) → Except Defect (List (Pattern × Rules))
  | [] => .ok []
  | (source, schema) :: rest =>
    match patternOf schema source, rulesOf setting schema with
    | .error defect, _ | _, .error defect => .error defect
    | .ok pattern, .ok rules => ((pattern, rules) :: ·) <$> eachPatternOf setting rest

end

/-! ### References -/

mutual

/-- The references in a schema, in its definitions too. -/
def referencesOf : Json → List String
  | .obj fields => referencesOfKeywords fields
  | _ => []

/-- The references in the keywords of a schema. -/
def referencesOfKeywords : List (String × Json) → List String
  | [] => []
  | (keyword, value) :: rest => referencesOfKeyword keyword value ++ referencesOfKeywords rest

/-- The references in the value of a keyword. -/
def referencesOfKeyword (keyword : String) : Json → List String
  | .str text => if keyword = "$ref" then [text] else []
  | .obj fields =>
    if keyword = "items" ∨ keyword = "additionalProperties" then referencesOfKeywords fields
    else if keyword = "properties" ∨ keyword = "patternProperties" ∨ keyword = "$defs" then
      referencesOfNamed fields
    else []
  | _ => []

/-- The references in named schemas. -/
def referencesOfNamed : List (String × Json) → List String
  | [] => []
  | (_, schema) :: rest => referencesOf schema ++ referencesOfNamed rest

end

mutual

/-- The targets of the references among rules, in their order. -/
def Rules.targets : Rules → List Target
  | .nothing => []
  | .all rules => Rule.targetsOfEach rules

/-- The targets of the references among listed rules. -/
def Rule.targetsOfEach : List Rule → List Target
  | [] => []
  | rule :: rest => Rule.targets rule ++ Rule.targetsOfEach rest

/-- The targets of the references of a rule. -/
def Rule.targets : Rule → List Target
  | .reference target => [target]
  | .closed properties patterns =>
    Rules.targetsOfNamed properties ++ Rules.targetsOfPatterns patterns
  | .entries properties patterns others =>
    Rules.targets others ++ Rules.targetsOfNamed properties ++ Rules.targetsOfPatterns patterns
  | .anyOf options => Rules.targetsOfEach options
  | .items item => Rules.targets item
  | .patternProperties patterns => Rules.targetsOfPatterns patterns
  | .properties properties => Rules.targetsOfNamed properties
  | _ => []

/-- The targets of the references among the rules of several schemas. -/
def Rules.targetsOfEach : List Rules → List Target
  | [] => []
  | rules :: rest => Rules.targets rules ++ Rules.targetsOfEach rest

/-- The targets of the references among the rules for keys. -/
def Rules.targetsOfNamed : List (String × Rules) → List Target
  | [] => []
  | (_, rules) :: rest => Rules.targets rules ++ Rules.targetsOfNamed rest

/-- The targets of the references among the rules for patterns. -/
def Rules.targetsOfPatterns : List (Pattern × Rules) → List Target
  | [] => []
  | (_, rules) :: rest => Rules.targets rules ++ Rules.targetsOfPatterns rest

end

end NetworkIntent.Schema
