import NetworkIntent.FileTree.Path
import NetworkIntent.Text.Numeral

/-!
# Addresses of schemas

Schemas are known by addresses with a scheme, and refer to each other by references that are
resolved against the address of the schema they are in. An address is written in one way only: its
scheme and host in lower case, without dot segments, and with no character in percent encoding that
needs none.

## Main definitions

* `Uri`: addresses, with `Uri.text`.
* `UriReference`: references, with `UriReference.parse`.
* `Uri.resolve`: the address that a reference stands for.
-/

set_option autoImplicit false

namespace NetworkIntent.Schema

/-- The address of a schema. -/
structure Uri where
  scheme : List Char
  authority : Option (List Char)
  path : List Char
  query : Option (List Char)
  deriving DecidableEq, Repr

/-- A reference to a schema from another one. -/
structure UriReference where
  scheme : Option (List Char)
  authority : Option (List Char)
  path : List Char
  query : Option (List Char)
  fragment : Option (List Char)
  deriving DecidableEq, Repr

/-- Why a text is no reference. The index counts bytes. -/
inductive UriFault where
  /-- There is a character that has to be in percent encoding. -/
  | character (index : Nat)
  /-- After a percent sign there are no two hexadecimal digits. -/
  | octet (index : Nat)
  deriving DecidableEq, Repr

/-- The description of a fault. -/
def UriFault.message : UriFault → String
  | .character index => s!"unexpected character at index {index}"
  | .octet index => s!"invalid percent-encoded octet at index {index}"

/-! ### Characters -/

/-- Whether a character never needs percent encoding. -/
def isUnreserved (c : Char) : Bool :=
  c.isAlphanum || ['-', '.', '_', '~'].contains c

/-- Whether a character may be in the name of a scheme. -/
def isOfScheme (c : Char) : Bool :=
  c.isAlphanum || ['+', '-', '.'].contains c

/-- Whether a character may be in a segment of a path that has no colon. -/
def isOfPlainSegment (c : Char) : Bool :=
  isUnreserved c || ['!', '$', '&', '\x27', '(', ')', '*', '+', ',', ';', '=', '@'].contains c

/-- Whether a character may be in a path. -/
def isOfPath (c : Char) : Bool :=
  isOfPlainSegment c || c = ':' || c = '/'

/-- Whether a character may be in a query or a fragment. -/
def isOfQuery (c : Char) : Bool :=
  isOfPath c || c = '?'

/-- Whether a character may be in an authority. -/
def isOfAuthority (c : Char) : Bool :=
  isOfPlainSegment c || [':', '[', ']'].contains c

/-- Checks the characters of a part of a reference that starts at an index. -/
def checkPart (allowed : Char → Bool) (index : Nat) : List Char → Except UriFault Unit
  | [] => .ok ()
  | '%' :: a :: b :: rest =>
    if (hexValue? a).isSome && (hexValue? b).isSome then checkPart allowed (index + 3) rest
    else .error (.octet index)
  | c :: rest =>
    if c = '%' then .error (.octet index)
    else if allowed c then checkPart allowed (index + c.utf8Size) rest
    else .error (.character index)

/-! ### Reading references -/

/-- Splits a text at the first of some characters, which starts the second part. -/
def splitBefore (ends : List Char) (text : List Char) : List Char × List Char :=
  (text.takeWhile (!ends.contains ·), text.dropWhile (!ends.contains ·))

/-- What follows after the character that a part starts with, if there is such a part. -/
def partAfter (text : List Char) : Option (List Char) :=
  match text with
  | [] => none
  | _ :: rest => some rest

/-- The number of bytes of a text. -/
def sizeOfText (text : List Char) : Nat :=
  (String.ofList text).utf8ByteSize

/-- Splits a scheme off from a text. What comes before a colon that no slash, question mark or
number sign precedes has to be one, unless it has characters that no scheme has. -/
def splitScheme (text : List Char) : Except UriFault (Option (List Char) × List Char) :=
  let scheme := text.takeWhile isOfScheme
  match text.drop scheme.length with
  | ':' :: rest =>
    if scheme.head?.any Char.isAlpha then .ok (some scheme, rest) else .error (.character 0)
  | _ => .ok (none, text)

/-- Reads a reference. The parts are checked from left to right. -/
def UriReference.parse (text : List Char) : Except UriFault UriReference := do
  let (scheme, rest) ← splitScheme text
  let (authority, rest) := match rest with
    | '/' :: '/' :: rest =>
      let (authority, rest) := splitBefore ['/', '?', '#'] rest
      (some authority, rest)
    | _ => (none, rest)
  let (path, rest) := splitBefore ['?', '#'] rest
  let (query, fragment) := splitBefore ['#'] rest
  let authorityStart := (scheme.map (sizeOfText · + 1)).getD 0 + 2
  checkPart isOfAuthority authorityStart (authority.getD [])
  let pathStart := sizeOfText text - sizeOfText (path ++ query ++ fragment)
  if scheme.isNone && authority.isNone then
    let (first, others) := splitBefore ['/'] path
    checkPart isOfPlainSegment pathStart first
    checkPart isOfPath (pathStart + sizeOfText first) others
  else checkPart isOfPath pathStart path
  let queryStart := pathStart + sizeOfText path
  checkPart isOfQuery (queryStart + 1) (query.drop 1)
  checkPart isOfQuery (queryStart + sizeOfText query + 1) (fragment.drop 1)
  return ⟨scheme, authority, path, partAfter query, partAfter fragment⟩

/-! ### Resolving references -/

/-- Decodes what needs no percent encoding, and writes the digits of the rest in upper case. -/
def normalizeOctets : List Char → List Char
  | '%' :: a :: b :: rest =>
    let c := Char.ofNat ((hexValue? a).getD 0 * 16 + (hexValue? b).getD 0)
    if isUnreserved c then c :: normalizeOctets rest
    else '%' :: a.toUpper :: b.toUpper :: normalizeOctets rest
  | c :: rest => c :: normalizeOctets rest
  | [] => []

/-- The segments that are reached by following segments one after the other, which may stand for the
place itself or the one above it. A path that ends so has an empty segment at its end. -/
def followSegments : (reached : List (List Char)) → List (List Char) → List (List Char)
  | reached, [] => reached
  | reached, segment :: rest =>
    let atEnd (reached : List (List Char)) : List (List Char) :=
      if rest.isEmpty then reached ++ [[]] else reached
    if segment = ['.'] then followSegments (atEnd reached) rest
    else if segment = ['.', '.'] then followSegments (atEnd reached.dropLast) rest
    else followSegments (reached ++ [segment]) rest

/-- A path without dot segments. -/
def removeDots (path : List Char) : List Char :=
  let join (segments : List (List Char)) : List Char := ['/'].intercalate segments
  match path with
  | '/' :: rest => '/' :: join (followSegments [] (Path.splitSlashes rest))
  | _ => join (followSegments [] (Path.splitSlashes path))

/-- A host in lower case, after the user that may come before it. -/
def normalizeAuthority (authority : List Char) : List Char :=
  let host := (authority.reverse.takeWhile (· ≠ '@')).reverse
  let user := authority.take (authority.length - host.length)
  normalizeOctets (user ++ host.map Char.toLower)

namespace Uri

/-- The text of an address. -/
def text (uri : Uri) : String :=
  let authority := match uri.authority with
    | some authority => '/' :: '/' :: authority
    | none => []
  let query := match uri.query with
    | some query => '?' :: query
    | none => []
  String.ofList (uri.scheme ++ ':' :: authority ++ uri.path ++ query)

/-- The address with the given parts in their only form. -/
def normalized (scheme : List Char) (authority : Option (List Char)) (path : List Char)
    (query : Option (List Char)) : Uri :=
  ⟨scheme.map Char.toLower, authority.map normalizeAuthority, removeDots (normalizeOctets path),
    query.map normalizeOctets⟩

/-- The path of a reference within the directory of an address. -/
def mergePath (base : Uri) (path : List Char) : List Char :=
  if base.authority.isSome && base.path.isEmpty then '/' :: path
  else
    let file := Path.lastPart base.path
    base.path.take (base.path.length - file.length) ++ path

/-- The address that a reference within a schema stands for, without its fragment. -/
def resolve (base : Uri) (reference : UriReference) : Uri :=
  match reference.scheme, reference.authority with
  | some scheme, authority => normalized scheme authority reference.path reference.query
  | none, some authority =>
    normalized base.scheme (some authority) reference.path reference.query
  | none, none =>
    match reference.path with
    | [] =>
      normalized base.scheme base.authority base.path (reference.query.orElse fun _ => base.query)
    | '/' :: _ => normalized base.scheme base.authority reference.path reference.query
    | path => normalized base.scheme base.authority (base.mergePath path) reference.query

/-- The address of the schema that comes first. -/
def root : Uri :=
  ⟨"json-schema".toList, some [], ['/'], none⟩

/-- The name of the file that an address stands for: what follows after its last slash. -/
def fileName (uri : Uri) : String :=
  String.ofList (Path.lastPart uri.text.toList)

end Uri

end NetworkIntent.Schema
