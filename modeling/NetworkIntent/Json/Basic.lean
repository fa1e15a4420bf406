import NetworkIntent.Json.Double
import NetworkIntent.Table

/-!
# JSON documents

A document is a tree of nulls, truth values, numbers, texts, lists and objects. Numbers written
without a point or an exponent are whole; all others are doubles.

An object is a table of documents. Every object that this library reads or builds by `Table.insert`
holds its keys in ascending order and each of them once.

## Main definitions

* `Json`: the type of documents.
* `Json.get?`, `Json.ofEntries`: look-up in an object, and the object made of entries.
* `Json.Sorted`: every object of a document has strictly ascending keys.
-/

set_option autoImplicit false

namespace NetworkIntent

/-- A JSON document. -/
inductive Json where
  /-- The absent value. -/
  | null
  /-- A truth value. -/
  | bool (value : Bool)
  /-- A whole number. -/
  | int (value : Int)
  /-- Any other number. -/
  | double (value : Double)
  /-- A text. -/
  | str (text : String)
  /-- A list of documents. -/
  | arr (items : List Json)
  /-- An object: keys with their values. -/
  | obj (fields : List (String × Json))
  deriving Inhabited, Repr

/-- The keys of an object with their values. -/
abbrev Fields := Table Json

namespace Json

mutual

/-- Decides whether two documents are equal. -/
def decEq : (a b : Json) → Decidable (a = b)
  | .null, .null => isTrue rfl
  | .bool a, .bool b =>
    if h : a = b then isTrue (h ▸ rfl) else isFalse fun e => h (Json.bool.inj e)
  | .int a, .int b =>
    if h : a = b then isTrue (h ▸ rfl) else isFalse fun e => h (Json.int.inj e)
  | .double a, .double b =>
    if h : a = b then isTrue (h ▸ rfl) else isFalse fun e => h (Json.double.inj e)
  | .str a, .str b =>
    if h : a = b then isTrue (h ▸ rfl) else isFalse fun e => h (Json.str.inj e)
  | .arr as, .arr bs =>
    match decEqItems as bs with
    | isTrue h => isTrue (h ▸ rfl)
    | isFalse h => isFalse fun e => h (Json.arr.inj e)
  | .obj as, .obj bs =>
    match decEqFields as bs with
    | isTrue h => isTrue (h ▸ rfl)
    | isFalse h => isFalse fun e => h (Json.obj.inj e)
  | .null, .bool _ | .null, .int _ | .null, .double _ | .null, .str _ | .null, .arr _
  | .null, .obj _ | .bool _, .null | .bool _, .int _ | .bool _, .double _ | .bool _, .str _
  | .bool _, .arr _ | .bool _, .obj _ | .int _, .null | .int _, .bool _ | .int _, .double _
  | .int _, .str _ | .int _, .arr _ | .int _, .obj _ | .double _, .null | .double _, .bool _
  | .double _, .int _ | .double _, .str _ | .double _, .arr _ | .double _, .obj _
  | .str _, .null | .str _, .bool _ | .str _, .int _ | .str _, .double _ | .str _, .arr _
  | .str _, .obj _ | .arr _, .null | .arr _, .bool _ | .arr _, .int _ | .arr _, .double _
  | .arr _, .str _ | .arr _, .obj _ | .obj _, .null | .obj _, .bool _ | .obj _, .int _
  | .obj _, .double _ | .obj _, .str _ | .obj _, .arr _ => isFalse (by simp)

/-- Decides whether two lists of documents are equal. -/
def decEqItems : (as bs : List Json) → Decidable (as = bs)
  | [], [] => isTrue rfl
  | a :: as, b :: bs =>
    match decEq a b, decEqItems as bs with
    | isTrue h, isTrue t => isTrue (h ▸ t ▸ rfl)
    | isFalse h, _ => isFalse fun e => h (List.cons.inj e).1
    | _, isFalse t => isFalse fun e => t (List.cons.inj e).2
  | [], _ :: _ | _ :: _, [] => isFalse (by simp)

/-- Decides whether two objects are equal. -/
def decEqFields : (as bs : List (String × Json)) → Decidable (as = bs)
  | [], [] => isTrue rfl
  | (k, a) :: as, (l, b) :: bs =>
    match decEq a b, decEqFields as bs with
    | isTrue h, isTrue t =>
      if hk : k = l then isTrue (h ▸ t ▸ hk ▸ rfl)
      else isFalse fun e => hk (congrArg Prod.fst (List.cons.inj e).1)
    | isFalse h, _ => isFalse fun e => h (congrArg Prod.snd (List.cons.inj e).1)
    | _, isFalse t => isFalse fun e => t (List.cons.inj e).2
  | [], _ :: _ | _ :: _, [] => isFalse (by simp)

end

instance : DecidableEq Json := decEq

/-- The value of a key, of an object that has it. -/
def get? (key : String) : Json → Option Json
  | .obj fields => Table.get? key fields
  | _ => none

/-- The object made of entries in any order. -/
def ofEntries (entries : List (String × Json)) : Json :=
  .obj (Table.ofEntries entries)

mutual

/-- Every object of the document has strictly ascending keys. -/
def Sorted : Json → Prop
  | .arr items => SortedItems items
  | .obj fields => (Table.keys fields).Pairwise (· < ·) ∧ SortedFields fields
  | _ => True

/-- Every object of the listed documents has strictly ascending keys. -/
def SortedItems : List Json → Prop
  | [] => True
  | item :: rest => Sorted item ∧ SortedItems rest

/-- Every object of the listed values has strictly ascending keys. -/
def SortedFields : List (String × Json) → Prop
  | [] => True
  | (_, value) :: rest => Sorted value ∧ SortedFields rest

end

end Json

end NetworkIntent
