import NetworkIntent.Proofs.Pointwise
import NetworkIntent.Proofs.Table
import NetworkIntent.Schema.Keyword
import NetworkIntent.Schema.Shipped

/-!
# Forms of schemas

The schemas of intents are written in a few forms: texts, numbers, one of several texts, lists,
sets, objects without other keys, and references. Each form is read as rules of a form of its own,
and these rules mean a property of documents.

What a form means depends on what its parts mean, so the meaning of a schema is put together from
the meanings of its parts, and the place of a document does not matter for it.

## Main definitions

* `Schema.Rules.Means`: the documents without violations are those with a property.
* `Schema.Rules.setOf`, `Schema.Rules.closed` and others: the rules of the forms.

## Main results

* `Schema.rulesOf_setOf`, `Schema.rulesOf_closed` and others: how the forms are read.
* `Schema.means_setOf`, `Schema.means_closed` and others: what the rules mean.
* `Schema.isClosedObject_iff`, `Schema.isSetOf_texts_iff`: closed objects and sets of texts by
  themselves.
-/

set_option autoImplicit false

namespace NetworkIntent.Schema

/-! ## Rules of the forms -/

namespace Rules

/-- The rules of another schema. -/
def referring (target : Target) : Rules :=
  .all [.reference target]

/-- Texts of at least one character. -/
def someText : Rules :=
  .all [.minLength 1, .kind [.string]]

/-- Whole numbers from zero on. -/
def identifier : Rules :=
  .all [.minimum (.int 0), .kind [.integer]]

/-- One of the given texts. -/
def oneOf (options : List String) : Rules :=
  .all [.oneOf (options.map .str)]

/-- Lists of items. -/
def listOf (item : Rules) : Rules :=
  .all [.items item, .kind [.array]]

/-- Lists of items that are all different. -/
def setOf (item : Rules) : Rules :=
  .all [.items item, .kind [.array], .uniqueItems]

/-- Objects with no other keys than the given ones. -/
def closed (properties : List (String × Rules)) (required : List String) : Rules :=
  .all [.closed properties [], .required required, .kind [.object]]

/-- Texts. -/
def text : Rules :=
  .all [.kind [.string]]

/-- Texts in which a pattern is found. -/
def textLike (pattern : Pattern) : Rules :=
  .all [.pattern pattern, .kind [.string]]

/-- Objects with no other keys than the given ones and those that match a pattern. -/
def closedWith (patterns : List (Pattern × Rules)) (properties : List (String × Rules))
    (required : List String) : Rules :=
  .all [.closed properties patterns, .required required, .kind [.object]]

/-- Objects with the given keys and perhaps others. -/
def withKeys (properties : List (String × Rules)) (required : List String) : Rules :=
  .all [.properties properties, .required required, .kind [.object]]

end Rules

/-! ## Reading the forms -/

section Reading

variable {address : Uri} {visit : Target → Except Defect Unit}

-- All proofs of this section compute with the readers, whose equations are found once and for all.
attribute [local simp] rulesOf keywordsOf keywordOf kindsOf

private theorem kindsOf_array : kindsOf (.str "array") = .ok [.array] := by cbv

private theorem kindsOf_string : kindsOf (.str "string") = .ok [.string] := by cbv

theorem kindsOf_object : kindsOf (.str "object") = .ok [.object] := by cbv

private theorem textsOf_map (texts : List String) : textsOf (texts.map .str) = .ok texts := by
  induction texts with
  | nil => rfl
  | cons text rest ih =>
    rw [List.map_cons, textsOf, ih]
    rfl

/-- A reference stands for the place that it names, if there is no defect. -/
theorem rulesOf_reference {text : String} {target : Target}
    (htarget : targetOf address text = .ok target) (hvisit : visit target = .ok ()) :
    rulesOf ⟨.modern, address, visit⟩ (Shipped.reference text) = .ok (.referring target) := by
  simp only [Shipped.reference, rulesOf, keywordsOf, activeKeyword, keywordOf, referenceOf, htarget,
    hvisit]
  rfl

theorem rulesOf_someText :
    rulesOf ⟨.modern, address, visit⟩ Shipped.someText = .ok .someText := by cbv

theorem rulesOf_oneOf (options : List String) :
    rulesOf ⟨.modern, address, visit⟩ (Shipped.oneOf options) = .ok (.oneOf options) := by
  simp only [Shipped.oneOf, rulesOf, keywordsOf, activeKeyword, keywordOf]
  rfl

theorem rulesOf_listOf {item : Json} {rules : Rules}
    (h : rulesOf ⟨.modern, address, visit⟩ item = .ok rules) :
    rulesOf ⟨.modern, address, visit⟩ (Shipped.listOf item) = .ok (.listOf rules) := by
  simp only [Shipped.listOf, rulesOf, keywordsOf, activeKeyword, keywordOf, h, kindsOf_array]
  rfl

theorem rulesOf_setOf {item : Json} {rules : Rules}
    (h : rulesOf ⟨.modern, address, visit⟩ item = .ok rules) :
    rulesOf ⟨.modern, address, visit⟩ (Shipped.setOf item) = .ok (.setOf rules) := by
  simp only [Shipped.setOf, rulesOf, keywordsOf, activeKeyword, keywordOf, h, kindsOf_array]
  rfl

/-- The keywords for the keys of an object are gathered in one rule. -/
theorem rulesOf_closed {properties : Fields} {rules : List (String × Rules)}
    (h : eachNamedOf ⟨.modern, address, visit⟩ properties = .ok rules) (required : List String) :
    rulesOf ⟨.modern, address, visit⟩ (Shipped.closed properties required) =
      .ok (.closed rules required) := by
  simp only [Shipped.closed, rulesOf, keywordsOf, activeKeyword, keywordOf, namedOf, h, textsOf_map,
    kindsOf_object]
  simp [Functor.map, Except.map, gatherKeys, Rules.closed]

theorem rulesOf_text :
    rulesOf ⟨.modern, address, visit⟩ (.obj [("type", .str "string")]) = .ok .text := by cbv

theorem rulesOf_textLike {source : String} {pattern : Pattern}
    (h : Pattern.parse? source = some pattern) :
    rulesOf ⟨.modern, address, visit⟩ (Shipped.textLike source) = .ok (.textLike pattern) := by
  simp only [Shipped.textLike, rulesOf, keywordsOf, activeKeyword, keywordOf, patternOf, h,
    kindsOf_string]
  rfl

theorem rulesOf_closedWith {patterns properties : Fields} {matching : List (Pattern × Rules)}
    {rules : List (String × Rules)}
    (hpatterns : eachPatternOf ⟨.modern, address, visit⟩ patterns = .ok matching)
    (h : eachNamedOf ⟨.modern, address, visit⟩ properties = .ok rules) (required : List String) :
    rulesOf ⟨.modern, address, visit⟩ (Shipped.closedWith patterns properties required) =
      .ok (.closedWith matching rules required) := by
  simp only [Shipped.closedWith, rulesOf, keywordsOf, activeKeyword, keywordOf, namedOf, patternsOf,
    h, hpatterns, textsOf_map, kindsOf_object]
  simp [Functor.map, Except.map, gatherKeys, Rules.closedWith]

/-- Schemas for patterns are read one after the other. -/
theorem eachPatternOf_cons {source : String} {pattern : Pattern} {schema : Json} {rules : Rules}
    {rest : Fields} {others : List (Pattern × Rules)} (hpattern : Pattern.parse? source = some pattern)
    (h : rulesOf ⟨.modern, address, visit⟩ schema = .ok rules)
    (hrest : eachPatternOf ⟨.modern, address, visit⟩ rest = .ok others) :
    eachPatternOf ⟨.modern, address, visit⟩ ((source, schema) :: rest) =
      .ok ((pattern, rules) :: others) := by
  rw [eachPatternOf, patternOf, hpattern, h, hrest]
  rfl

/-- Named schemas are read one after the other. -/
theorem eachNamedOf_cons {name : String} {schema : Json} {rules : Rules} {rest : Fields}
    {others : List (String × Rules)} (h : rulesOf ⟨.modern, address, visit⟩ schema = .ok rules)
    (hrest : eachNamedOf ⟨.modern, address, visit⟩ rest = .ok others) :
    eachNamedOf ⟨.modern, address, visit⟩ ((name, schema) :: rest) =
      .ok ((name, rules) :: others) := by
  rw [eachNamedOf, h, hrest]
  rfl

end Reading

/-! ## What the forms mean -/

/-- The documents that obey rules are those with a property, wherever they are. -/
def Rules.Means (follow : Follow) (rules : Rules) (P : Json → Prop) : Prop :=
  ∀ path document, checkRules follow rules path document = [] ↔ P document

/-- Texts that are not empty. -/
def IsText (document : Json) : Prop :=
  ∃ text, document = .str text ∧ text ≠ ""

/-- Numbers without a fraction, whole or double, that are not negative. -/
def IsCount (document : Json) : Prop :=
  Kind.integer.has document = true ∧ comparesBy (·.isLess (.int 0)) document = false

/-- Texts that are among given ones. -/
def IsOneOf (options : List String) (document : Json) : Prop :=
  ∃ option ∈ options, document = .str option

/-- Lists whose items have a property. -/
def IsListOf (P : Json → Prop) (document : Json) : Prop :=
  ∃ items, document = .arr items ∧ ∀ item ∈ items, P item

/-- Lists whose items have a property and are all different. -/
def IsSetOf (P : Json → Prop) (document : Json) : Prop :=
  ∃ items, document = .arr items ∧ (∀ item ∈ items, P item) ∧ hasRepetition items = false

/-- A key with its value has one of the given forms. -/
def Fits : List (String × (Json → Prop)) → String → Json → Prop
  | [], _, _ => False
  | (name, P) :: rest, key, value => if name = key then P value else Fits rest key value

/-- Objects with no other keys than those of the given forms, and with all required ones. -/
def IsClosedObject (forms : List (String × (Json → Prop))) (required : List String)
    (document : Json) : Prop :=
  ∃ fields, document = .obj fields ∧ (∀ entry ∈ fields, Fits forms entry.1 entry.2) ∧
    ∀ key ∈ required, key ∈ Table.keys fields

/-- Texts. -/
def IsAnyText (document : Json) : Prop :=
  ∃ text, document = .str text

/-- Texts in which a pattern is found. -/
def IsTextLike (pattern : Pattern) (document : Json) : Prop :=
  ∃ text, document = .str text ∧ pattern.find? text = some true

/-- A key with its value has one of the given forms, or matches a pattern, and the value has the
forms of the key and of all patterns that match the key. -/
structure FitsWith (patterns : List (Pattern × (Json → Prop)))
    (forms : List (String × (Json → Prop))) (key : String) (value : Json) : Prop where
  covered : key ∈ forms.map Prod.fst ∨ ∃ form ∈ patterns, form.1.isMatch key = true
  named : ∀ P, forms.lookup key = some P → P value
  matched : ∀ form ∈ patterns, form.1.isMatch key = true → form.2 value

/-- Objects with no other keys than those of the given forms and those that match a pattern, and
with all required ones. -/
def IsClosedObjectWith (patterns : List (Pattern × (Json → Prop)))
    (forms : List (String × (Json → Prop))) (required : List String) (document : Json) : Prop :=
  ∃ fields, document = .obj fields ∧
    (∀ entry ∈ fields, FitsWith patterns forms entry.1 entry.2) ∧
    ∀ key ∈ required, key ∈ Table.keys fields

/-- Objects with values of the given forms under their keys. -/
def IsObjectWith (forms : List (String × (Json → Prop))) (document : Json) : Prop :=
  ∃ fields, document = .obj fields ∧
    ∀ form ∈ forms, ∃ value, Table.get? form.1 fields = some value ∧ form.2 value

section Meaning

variable {follow : Follow}

attribute [local simp] checkRules checkEach checkRule

/-- A document obeys several rules exactly if it obeys each of them. -/
theorem checkEach_eq_nil_iff {rules : List Rule} {path : List String} {document : Json} :
    checkEach follow rules path document = [] ↔
      ∀ rule ∈ rules, checkRule follow rule path document = [] := by
  induction rules with
  | nil => simp [checkEach]
  | cons rule rest ih => rw [checkEach, List.append_eq_nil_iff, ih, List.forall_mem_cons]

/-- A whole number that is not negative. -/
theorem isCount_int_iff {n : Int} : IsCount (.int n) ↔ 0 ≤ n := by
  simp [IsCount, Kind.has, comparesBy, Number.ofJson?, Number.isLess, Number.ratio]

theorem means_referring {target : Target} {P : Json → Prop}
    (h : ∀ path document, follow target path document = [] ↔ P document) :
    (Rules.referring target).Means follow P := by
  intro path document
  simp [Rules.referring, h]

theorem means_someText : Rules.someText.Means follow IsText := by
  intro path document
  rw [Rules.someText, checkRules, checkEach_eq_nil_iff]
  cases document <;> simp [Kind.has, IsText]

theorem means_identifier : Rules.identifier.Means follow IsCount := by
  intro path document
  rw [Rules.identifier, checkRules, checkEach_eq_nil_iff]
  simp [IsCount, and_comm]

/-- Nothing but a text is the same as this text. -/
theorem same_str_iff {document : Json} {text : String} :
    same document (.str text) = true ↔ document = .str text := by
  cases document <;> simp [same]

theorem means_oneOf (options : List String) :
    (Rules.oneOf options).Means follow (IsOneOf options) := by
  intro path document
  rw [Rules.oneOf, checkRules, checkEach_eq_nil_iff]
  simp [IsOneOf, same_str_iff]

/-- The items of a list are checked one after the other. -/
theorem checkRule_items_eq_nil_iff {item : Rules} {P : Json → Prop} (h : item.Means follow P)
    {path : List String} {items : List Json} :
    checkRule follow (.items item) path (.arr items) = [] ↔ ∀ document ∈ items, P document := by
  rw [checkRule, List.flatMap_eq_nil_iff]
  constructor
  · intro hall document hdocument
    obtain ⟨index, hindex⟩ := List.getElem?_of_mem hdocument
    exact (h _ document).mp (hall (document, index) (List.mem_zipIdx_iff_getElem?.mpr hindex))
  · rintro hall ⟨document, index⟩ hmem
    exact (h _ document).mpr (hall document (List.fst_mem_of_mem_zipIdx hmem))

theorem means_listOf {item : Rules} {P : Json → Prop} (h : item.Means follow P) :
    (Rules.listOf item).Means follow (IsListOf P) := by
  intro path document
  rw [Rules.listOf, checkRules, checkEach_eq_nil_iff]
  cases document with
  | arr items =>
    rw [List.forall_mem_cons, checkRule_items_eq_nil_iff h]
    simp [Kind.has, IsListOf]
  | _ => simp [Kind.has, IsListOf]

theorem means_setOf {item : Rules} {P : Json → Prop} (h : item.Means follow P) :
    (Rules.setOf item).Means follow (IsSetOf P) := by
  intro path document
  rw [Rules.setOf, checkRules, checkEach_eq_nil_iff]
  cases document with
  | arr items =>
    rw [List.forall_mem_cons, checkRule_items_eq_nil_iff h]
    simp [Kind.has, IsSetOf]
  | _ => simp [Kind.has, IsSetOf]

/-- A key with its value fits the given forms exactly if the key is covered and its value obeys the
rules of the key. -/
theorem fits_iff {properties : List (String × Rules)} {forms : List (String × (Json → Prop))}
    (h : List.Forall₂ (fun property form => property.1 = form.1 ∧ property.2.Means follow form.2)
      properties forms) {key : String} {value : Json} {path : List String} :
    Fits forms key value ↔
      isCovered properties [] key = true ∧ checkNamed follow properties path key value = [] := by
  induction h with
  | nil => simp [Fits, isCovered]
  | @cons property form properties forms hfirst _ ih =>
    obtain ⟨name, rules⟩ := property
    obtain ⟨_, P⟩ := form
    obtain ⟨rfl, hmeans⟩ := hfirst
    rw [Fits, checkNamed]
    by_cases hkey : name = key
    · subst hkey
      simp [isCovered, hmeans path value]
    · rw [if_neg hkey, if_neg hkey, ih]
      simp [isCovered, Ne.symm hkey]

theorem means_closed {properties : List (String × Rules)} {forms : List (String × (Json → Prop))}
    (h : List.Forall₂ (fun property form => property.1 = form.1 ∧ property.2.Means follow form.2)
      properties forms) (required : List String) :
    (Rules.closed properties required).Means follow (IsClosedObject forms required) := by
  intro path document
  rw [Rules.closed, checkRules, checkEach_eq_nil_iff]
  cases document with
  | obj fields =>
    have hfits : checkRule follow (.closed properties []) path (.obj fields) = [] ↔
        ∀ entry ∈ fields, Fits forms entry.1 entry.2 := by
      simp only [checkRule, checkMatched, List.append_nil, List.append_eq_nil_iff,
        List.flatMap_eq_nil_iff, ite_eq_left_iff, List.isEmpty_iff, List.cons_ne_self, imp_false,
        not_not, List.filter_eq_nil_iff, Table.keys, List.forall_mem_map, Bool.not_eq_true']
      rw [← forall₂_and]
      simp only [Bool.not_eq_false]
      exact forall₂_congr fun entry _ => and_comm.trans (fits_iff h).symm
    rw [List.forall_mem_cons, hfits]
    simp [Kind.has, IsClosedObject, Table.contains, Table.get?_eq_none_iff]
  | _ => simp [Kind.has, IsClosedObject]

theorem means_text : Rules.text.Means follow IsAnyText := by
  intro path document
  rw [Rules.text, checkRules, checkEach_eq_nil_iff]
  cases document <;> simp [Kind.has, IsAnyText]

theorem means_textLike (pattern : Pattern) :
    (Rules.textLike pattern).Means follow (IsTextLike pattern) := by
  intro path document
  rw [Rules.textLike, checkRules, checkEach_eq_nil_iff]
  cases document with
  | str text =>
    rcases h : pattern.find? text with _ | _ | _ <;> simp [Kind.has, IsTextLike, h]
  | _ => simp [Kind.has, IsTextLike]

/-- The value of a key is checked by the first schema for the key. -/
theorem checkNamed_eq_nil_iff {properties : List (String × Rules)}
    {forms : List (String × (Json → Prop))}
    (h : List.Forall₂ (fun property form => property.1 = form.1 ∧ property.2.Means follow form.2)
      properties forms) {key : String} {value : Json} {path : List String} :
    checkNamed follow properties path key value = [] ↔
      ∀ P, forms.lookup key = some P → P value := by
  induction h with
  | nil => simp [checkNamed]
  | @cons property form properties forms hfirst _ ih =>
    obtain ⟨name, rules⟩ := property
    obtain ⟨_, P⟩ := form
    obtain ⟨rfl, hmeans⟩ := hfirst
    rw [checkNamed, List.lookup_cons]
    by_cases hkey : name = key
    · subst hkey
      simp [hmeans path value]
    · have hne : (key == name) = false := by simpa using Ne.symm hkey
      simp only [if_neg hkey, ih, hne]

/-- The value of a key is checked by the schemas of all patterns that match the key. -/
theorem checkMatched_eq_nil_iff {matching : List (Pattern × Rules)}
    {patterns : List (Pattern × (Json → Prop))}
    (h : List.Forall₂ (fun given form => given.1 = form.1 ∧ given.2.Means follow form.2)
      matching patterns) {key : String} {value : Json} {path : List String} :
    checkMatched follow matching path key value = [] ↔
      ∀ form ∈ patterns, form.1.isMatch key = true → form.2 value := by
  induction h with
  | nil => simp [checkMatched]
  | @cons given form matching patterns hfirst _ ih =>
    obtain ⟨pattern, rules⟩ := given
    obtain ⟨_, P⟩ := form
    obtain ⟨rfl, hmeans⟩ := hfirst
    rw [checkMatched, List.append_eq_nil_iff, ih, List.forall_mem_cons]
    by_cases hmatch : pattern.isMatch key = true <;> simp [hmatch, hmeans path value]

theorem means_closedWith {matching : List (Pattern × Rules)}
    {patterns : List (Pattern × (Json → Prop))}
    (hpatterns : List.Forall₂
      (fun given form => given.1 = form.1 ∧ given.2.Means follow form.2) matching patterns)
    {properties : List (String × Rules)} {forms : List (String × (Json → Prop))}
    (h : List.Forall₂ (fun property form => property.1 = form.1 ∧ property.2.Means follow form.2)
      properties forms) (required : List String) :
    (Rules.closedWith matching properties required).Means follow
      (IsClosedObjectWith patterns forms required) := by
  intro path document
  rw [Rules.closedWith, checkRules, checkEach_eq_nil_iff]
  cases document with
  | obj fields =>
    have hnames : properties.map Prod.fst = forms.map Prod.fst :=
      map_eq_map_iff_forall₂.mpr (h.imp fun _ _ h => h.1)
    have hmatching : matching.map Prod.fst = patterns.map Prod.fst :=
      map_eq_map_iff_forall₂.mpr (hpatterns.imp fun _ _ h => h.1)
    have hcovered (key : String) : isCovered properties matching key = true ↔
        key ∈ forms.map Prod.fst ∨ ∃ form ∈ patterns, form.1.isMatch key = true := by
      rw [isCovered, hnames, hmatching]
      simp [List.any_eq_true]
    have hfits : checkRule follow (.closed properties matching) path (.obj fields) = [] ↔
        ∀ entry ∈ fields, FitsWith patterns forms entry.1 entry.2 := by
      simp only [checkRule, List.append_eq_nil_iff, List.flatMap_eq_nil_iff, ite_eq_left_iff,
        List.isEmpty_iff, List.cons_ne_self, imp_false, not_not, List.filter_eq_nil_iff, Table.keys,
        List.forall_mem_map, Bool.not_eq_true']
      rw [← forall₂_and]
      simp only [Bool.not_eq_false]
      refine forall₂_congr fun entry _ => ?_
      rw [checkNamed_eq_nil_iff h, checkMatched_eq_nil_iff hpatterns, hcovered]
      constructor
      · rintro ⟨⟨hnamed, hmatched⟩, hcover⟩
        exact ⟨hcover, hnamed, hmatched⟩
      · rintro ⟨hcover, hnamed, hmatched⟩
        exact ⟨⟨hnamed, hmatched⟩, hcover⟩
    rw [List.forall_mem_cons, hfits]
    simp [Kind.has, IsClosedObjectWith, Table.contains, Table.get?_eq_none_iff]
  | _ => simp [Kind.has, IsClosedObjectWith]

/-- The values of keys are checked if they are there. -/
theorem checkProperties_eq_nil_iff {properties : List (String × Rules)}
    {forms : List (String × (Json → Prop))}
    (h : List.Forall₂ (fun property form => property.1 = form.1 ∧ property.2.Means follow form.2)
      properties forms) {path : List String} {fields : Fields} :
    checkProperties follow properties path fields = [] ↔
      ∀ form ∈ forms, ∀ value, Table.get? form.1 fields = some value → form.2 value := by
  induction h with
  | nil => simp [checkProperties]
  | @cons property form properties forms hfirst _ ih =>
    obtain ⟨name, rules⟩ := property
    obtain ⟨_, P⟩ := form
    obtain ⟨rfl, hmeans⟩ := hfirst
    rw [checkProperties, List.append_eq_nil_iff, ih, List.forall_mem_cons, checkKey]
    cases Table.get? name fields with
    | none => simp
    | some value => simp [hmeans _ value]

theorem means_withKeys {properties : List (String × Rules)} {forms : List (String × (Json → Prop))}
    (h : List.Forall₂ (fun property form => property.1 = form.1 ∧ property.2.Means follow form.2)
      properties forms) {required : List String}
    (hrequired : ∀ key, key ∈ required ↔ key ∈ forms.map Prod.fst) :
    (Rules.withKeys properties required).Means follow (IsObjectWith forms) := by
  intro path document
  rw [Rules.withKeys, checkRules, checkEach_eq_nil_iff]
  cases document with
  | obj fields =>
    have hkeys : checkRule follow (.required required) path (.obj fields) = [] ↔
        ∀ form ∈ forms, ∃ value, Table.get? form.1 fields = some value := by
      simp only [checkRule, List.map_eq_nil_iff, List.filter_eq_nil_iff, Bool.not_eq_true',
        Bool.not_eq_false, hrequired, Table.contains, List.forall_mem_map, Option.isSome_iff_exists]
    have hvalues : checkRule follow (.properties properties) path (.obj fields) = [] ↔
        ∀ form ∈ forms, ∀ value, Table.get? form.1 fields = some value → form.2 value :=
      checkProperties_eq_nil_iff h
    rw [List.forall_mem_cons, List.forall_mem_cons, hvalues, hkeys]
    constructor
    · rintro ⟨hvalues, hpresent, -⟩
      refine ⟨fields, rfl, fun form hform => ?_⟩
      obtain ⟨value, hvalue⟩ := hpresent form hform
      exact ⟨value, hvalue, hvalues form hform value hvalue⟩
    · rintro ⟨_, ⟨⟩, hall⟩
      refine ⟨fun form hform value hvalue => ?_, fun form hform => ?_, by simp [Kind.has]⟩
      · obtain ⟨other, hother, hmeets⟩ := hall form hform
        rwa [Option.some.inj (hvalue.symm.trans hother)]
      · obtain ⟨value, hvalue, -⟩ := hall form hform
        exact ⟨value, hvalue⟩
  | _ => simp [Kind.has, IsObjectWith]

end Meaning

/-! ## Closed objects and sets -/

/-- If no two forms have one key, a key with its value fits the forms exactly if there is a form
with the key, and the value has it. -/
theorem fits_iff_of_nodup {forms : List (String × (Json → Prop))}
    (hforms : (forms.map Prod.fst).Nodup) {key : String} {value : Json} :
    Fits forms key value ↔
      key ∈ forms.map Prod.fst ∧ ∀ form ∈ forms, form.1 = key → form.2 value := by
  induction forms with
  | nil => simp [Fits]
  | cons form rest ih =>
    obtain ⟨name, P⟩ := form
    obtain ⟨hname, hrest⟩ := List.nodup_cons.mp hforms
    rw [Fits, List.map_cons, List.mem_cons, List.forall_mem_cons]
    by_cases hkey : name = key
    · subst hkey
      have hothers : ∀ form ∈ rest, form.1 = name → form.2 value := fun form hform heq =>
        absurd (List.mem_map.mpr ⟨form, hform, heq⟩) hname
      rw [if_pos rfl]
      exact ⟨fun hP => ⟨.inl rfl, fun _ => hP, hothers⟩, fun h => h.2.1 rfl⟩
    · rw [if_neg hkey, ih hrest]
      simp [hkey, Ne.symm hkey]

/-- An object without repeated keys is closed exactly if it has no other keys than those of the
forms, its values have the forms of their keys, and the required keys are there. -/
theorem isClosedObject_iff {forms : List (String × (Json → Prop))}
    (hforms : (forms.map Prod.fst).Nodup) {required : List String} {fields : Fields}
    (hkeys : (Table.keys fields).Nodup) :
    IsClosedObject forms required (.obj fields) ↔
      (∀ key ∈ Table.keys fields, key ∈ forms.map Prod.fst) ∧
      (∀ form ∈ forms, ∀ value, Table.get? form.1 fields = some value → form.2 value) ∧
      ∀ key ∈ required, key ∈ Table.keys fields := by
  have hfits : (∀ entry ∈ fields, Fits forms entry.1 entry.2) ↔
      (∀ key ∈ Table.keys fields, key ∈ forms.map Prod.fst) ∧
      ∀ form ∈ forms, ∀ value, Table.get? form.1 fields = some value → form.2 value := by
    simp only [fits_iff_of_nodup hforms, forall₂_and, Table.get?_eq_some_iff hkeys, Table.keys,
      List.forall_mem_map]
    refine and_congr_right fun _ => ⟨fun h form hform value hmem => ?_, fun h entry hentry => ?_⟩
    · exact h (form.1, value) hmem form hform rfl
    · intro form hform hkey
      exact h form hform entry.2 (hkey ▸ hentry)
  rw [← and_assoc, ← hfits, IsClosedObject]
  constructor
  · rintro ⟨_, ⟨⟩, h⟩
    exact h
  · intro h
    exact ⟨fields, rfl, h⟩

/-- Different texts are different documents, so a list of texts repeats an item exactly if it
repeats a text. -/
theorem hasRepetition_map_str_iff {texts : List String} :
    hasRepetition (texts.map .str) = false ↔ texts.Nodup := by
  induction texts with
  | nil => simp [hasRepetition]
  | cons text rest ih =>
    have hsame : (rest.map Json.str).any (same (.str text)) = false ↔ text ∉ rest := by
      rw [List.any_eq_false, List.forall_mem_map]
      simp only [same_str_iff, Json.str.injEq]
      exact ⟨fun h hmem => h text hmem rfl, fun h other hmem heq => h (heq ▸ hmem)⟩
    rw [List.map_cons, hasRepetition, Bool.or_eq_false_iff, hsame, ih, List.nodup_cons]

/-- The lists of different texts with a property. -/
theorem isSetOf_texts_iff {P : String → Prop} {document : Json} :
    IsSetOf (fun item => ∃ text, item = .str text ∧ P text) document ↔
      ∃ texts : List String, document = .arr (texts.map .str) ∧ texts.Nodup ∧
        ∀ text ∈ texts, P text := by
  constructor
  · rintro ⟨items, rfl, hitems, hrepetition⟩
    obtain ⟨texts, htexts⟩ := exists_forall₂_iff.mpr hitems
    have hmap : items.map id = texts.map .str :=
      map_eq_map_iff_forall₂.mpr (htexts.imp fun _ _ h => h.1)
    rw [List.map_id] at hmap
    subst hmap
    refine ⟨texts, rfl, hasRepetition_map_str_iff.mp hrepetition, fun text htext => ?_⟩
    obtain ⟨_, ⟨⟩, hP⟩ := hitems (.str text) (List.mem_map_of_mem htext)
    exact hP
  · rintro ⟨texts, rfl, hnodup, hall⟩
    exact ⟨_, rfl, by simpa using hall, hasRepetition_map_str_iff.mpr hnodup⟩

end NetworkIntent.Schema
