import NetworkIntent.Http.Host

/-!
# Addresses of the web

An address is a scheme, mostly an authority that names a host, a path, and maybe a query and a
fragment. Reading an address brings it into its normal form: the scheme is in lower case, the usual
port of a scheme is left out, the path is free of the segments that stand for a directory itself or
the one above it, and characters that must not appear are encoded.

A few schemes are known: those of the web, whose addresses need a host, and the one of the files of
a computer, in whose paths a drive is named by a letter. The slashes of their addresses may lean
backward.

## Main definitions

* `Url`: an address in its normal form, with the `Authority` before its path.
* `Url.read?`: the address that a text stands for.
* `Url.text`, `Url.target`: its text, and the part of it that is sent to the host.
* `Url.withoutCredentials`: an address without the name and the password of a user.
* `Url.addQuery`: an address with more pairs in its query.
-/

set_option autoImplicit false

namespace NetworkIntent

/-- The name and the password of a user, as they are written in an address. -/
structure Credentials where
  user : String
  password : String
  deriving DecidableEq, Repr

/-- What comes before the path of an address: the name and the password of a user, a host, and a
port that is not the usual one. -/
structure Authority where
  credentials : Credentials
  host : Option Host
  port : Option Nat
  deriving DecidableEq, Repr

/-- An address in its normal form. -/
structure Url where
  scheme : String
  authority : Option Authority
  path : String
  query : Option String
  fragment : Option String
  deriving DecidableEq, Repr

/-- No name and no password. -/
def Credentials.none : Credentials := ⟨"", ""⟩

/-- The text of credentials before a host. -/
def Credentials.text (credentials : Credentials) : String :=
  let password := if credentials.password.isEmpty then "" else ":" ++ credentials.password
  let both := credentials.user ++ password
  if both.isEmpty then "" else both ++ "@"

/-- Whether there is a name or a password that can be read as a text. Without a readable name there
is none. -/
def Credentials.areReadable (credentials : Credentials) : Bool :=
  let read (text : String) : Option String := Utf8.toString? (Percent.decode text.toList)
  match read credentials.user with
  | Option.none => false
  | some user =>
    !user.isEmpty || (!credentials.password.isEmpty && (read credentials.password).isSome)

/-- The authority of an address without a host. -/
def Authority.empty : Authority := ⟨.none, Option.none, Option.none⟩

/-- The text of an authority. -/
def Authority.text (authority : Authority) : String :=
  let host := match authority.host with
    | none => ""
    | some host => host.text
  let port := match authority.port with
    | none => ""
    | some port => s!":{port}"
  authority.credentials.text ++ host ++ port

namespace Url

/-! ### Characters -/

/-- Whether a byte is a control or beyond ASCII, and so has to be encoded everywhere. -/
def isControl (b : UInt8) : Bool :=
  b < 0x20 || 0x7F ≤ b

/-- Whether a byte has to be encoded in a fragment. -/
def isUnsafeInFragment (b : UInt8) : Bool :=
  isControl b || b = 0x20 || b = 0x22 || b = 0x3C || b = 0x3E || b = 0x60

/-- Whether a byte has to be encoded in a path. -/
def isUnsafeInPath (b : UInt8) : Bool :=
  isUnsafeInFragment b || b = 0x23 || b = 0x3F || b = 0x7B || b = 0x7D

/-- Whether a byte has to be encoded in the name or the password of a user. -/
def isUnsafeInCredentials (b : UInt8) : Bool :=
  isUnsafeInPath b || b = 0x2F || b = 0x3A || b = 0x3B || b = 0x3D || b = 0x40
    || (0x5B ≤ b && b ≤ 0x5E) || b = 0x7C

/-- Whether a byte has to be encoded in a query. -/
def isUnsafeInQuery (b : UInt8) : Bool :=
  isControl b || b = 0x20 || b = 0x22 || b = 0x23 || b = 0x3C || b = 0x3E

/-- Whether a byte has to be encoded in the query of a known scheme, where apostrophes are, too. -/
def isUnsafeInKnownQuery (b : UInt8) : Bool :=
  isUnsafeInQuery b || b = 0x27

/-- Encodes the bytes that have to be encoded, and keeps what is encoded already. -/
def encode (isUnsafe : UInt8 → Bool) (cs : List Char) : List Char :=
  Percent.encodeBytes (fun b => !isUnsafe b) (Utf8.encode cs)

/-! ### Parts of a text -/

/-- Splits a text at the first character that meets a condition, and drops this character. -/
def cut (stops : Char → Bool) (cs : List Char) : List Char × Option (List Char) :=
  match cs.dropWhile (!stops ·) with
  | [] => (cs, none)
  | _ :: rest => (cs.takeWhile (!stops ·), some rest)

/-- The part of a text after the last character that meets a condition. -/
def afterLast (stops : Char → Bool) (cs : List Char) : List Char :=
  (cs.reverse.takeWhile (!stops ·)).reverse

/-- A text without blanks and controls at its ends, and without line breaks and tabs. -/
def trim (cs : List Char) : List Char :=
  let isEdge (c : Char) : Bool := c.toNat ≤ 0x20
  let inner := ((cs.dropWhile isEdge).reverse.dropWhile isEdge).reverse
  inner.filter fun c => c ≠ '\t' ∧ c ≠ '\n' ∧ c ≠ '\r'

/-- The letters in lower case, of ASCII letters. -/
def lower (cs : List Char) : List Char :=
  cs.map Char.toLower

/-! ### Schemes -/

/-- The scheme of an address and what comes after its colon. A scheme starts with a letter. -/
def splitScheme? (cs : List Char) : Option (List Char × List Char) :=
  match cut (· = ':') cs with
  | (c :: rest, some after) =>
    let isPart (c : Char) : Bool := c.isAlphanum || c = '+' || c = '-' || c = '.'
    if c.isAlpha && rest.all isPart then some (lower (c :: rest), after) else none
  | _ => none

/-- The usual port of a scheme of the web. -/
def usualPort? (scheme : String) : Option Nat :=
  if scheme = "http" ∨ scheme = "ws" then some 80
  else if scheme = "https" ∨ scheme = "wss" then some 443
  else if scheme = "ftp" then some 21
  else none

/-- The kinds of schemes. -/
inductive SchemeKind where
  /-- The schemes of the web, which need a host. -/
  | web
  /-- The scheme of the files of a computer. -/
  | file
  /-- All other schemes. -/
  | other
  deriving DecidableEq, Repr

/-- The kind of a scheme. -/
def SchemeKind.ofScheme (scheme : String) : SchemeKind :=
  if (usualPort? scheme).isSome then .web else if scheme = "file" then .file else .other

/-- Whether a character is a slash of an address with a scheme of some kind. -/
def SchemeKind.isSlash (kind : SchemeKind) (c : Char) : Bool :=
  c = '/' || (c = '\\' && kind ≠ .other)

/-- Whether a character ends the path of an address. -/
def endsPath (c : Char) : Bool :=
  c = '?' || c = '#'

/-! ### Authorities -/

/-- Splits the text of a host and a port at the first colon that is not between brackets. -/
def splitPort (isInside : Bool) : List Char → List Char × Option (List Char)
  | [] => ([], none)
  | c :: rest =>
    if c = ':' ∧ !isInside then ([], some rest)
    else
      let (host, port) := splitPort (c = '[' || (isInside && c ≠ ']')) rest
      (c :: host, port)

/-- Reads the port of a scheme: nothing, or a number of 16 bits. The usual port is left out. -/
def readPort? (scheme : String) (digits : List Char) : Option (Option Nat) :=
  if digits.isEmpty then some none
  else
    match readDigits? digits with
    | none => none
    | some port =>
      if 65535 < port then none
      else if usualPort? scheme = some port then some none
      else some (some port)

/-- The name and the password of a user, around the first colon. -/
def readCredentials (cs : List Char) : Credentials :=
  let (user, password) := cut (· = ':') cs
  let written (cs : List Char) : String := String.ofList (encode isUnsafeInCredentials cs)
  ⟨written user, written (password.getD [])⟩

/-- Reads the authority at the start of a text, and leaves the path. A backward slash ends the port
of any scheme. -/
def readAuthority? (scheme : String) (kind : SchemeKind) (cs : List Char) :
    Option (Authority × List Char) := do
  let ends (c : Char) : Bool := kind.isSlash c || endsPath c
  let block := cs.takeWhile (!ends ·)
  let rest := cs.dropWhile (!ends ·)
  let place := afterLast (· = '@') block
  let before := block.take (block.length - place.length - 1)
  if place.length < block.length ∧ before.isEmpty ∧ place.isEmpty ∧ !rest.isEmpty then none
  else
    let credentials := readCredentials before
    let (host, port) := splitPort false place
    let digits := (port.getD []).takeWhile Char.isDigit
    let left := (port.getD []).dropWhile Char.isDigit
    let port? ← readPort? scheme digits
    if host.isEmpty then
      if kind = .web ∨ port.isSome ∨ credentials ≠ .none then none
      else return (⟨credentials, none, none⟩, rest)
    else
      let host ← if kind = .web then Host.read? host else Host.readOpaque? host
      if left.isEmpty ∨ left.head? = some '\\' then
        return (⟨credentials, some host, port?⟩, left ++ rest)
      else none

/-! ### Paths -/

/-- Whether a segment stands for a directory itself. -/
def isHere (segment : List Char) : Bool :=
  let s := String.ofList (lower segment)
  s = "." || s = "%2e"

/-- Whether a segment stands for the directory above. -/
def isAbove (segment : List Char) : Bool :=
  let s := String.ofList (lower segment)
  s = ".." || s = ".%2e" || s = "%2e." || s = "%2e%2e"

/-- Whether a segment names a drive: a letter before a colon or a bar. -/
def isDrive (segment : List Char) : Bool :=
  match segment with
  | [letter, mark] => letter.isAlpha && (mark = ':' || mark = '|')
  | _ => false

/-- The segments of a path between the characters that delimit them. -/
def segments (delimits : Char → Bool) : List Char → List (List Char)
  | [] => [[]]
  | c :: rest =>
    if delimits c then [] :: segments delimits rest
    else
      match segments delimits rest with
      | segment :: more => (c :: segment) :: more
      | [] => [[c]]

/-- The directories above the last one, in reverse order. A drive has none above it. -/
def leave : List (List Char) → List (List Char)
  | [] => []
  | segment :: above => if isDrive segment then segment :: above else above

/-- Follows segments from the directory of the given segments, which are in reverse order. A segment
for a directory at the end of a path leaves an empty one. -/
def followSegments : (above : List (List Char)) → List (List Char) → List (List Char)
  | above, [] => above.reverse
  | above, segment :: rest =>
    let above := if isAbove segment then leave above
      else if isHere segment then above
      else segment :: above
    if rest.isEmpty && (isAbove segment || isHere segment) then ([] :: above).reverse
    else followSegments above rest

/-- The segments of a path, which may start with a slash, without those that stand for
directories. -/
def readSegments (kind : SchemeKind) (cs : List Char) : List (List Char) :=
  let cs := match cs with
    | [] => []
    | c :: rest => if kind.isSlash c then rest else c :: rest
  followSegments [] (segments kind.isSlash cs)

/-- The text of a path with the given segments. -/
def writeSegments (segments : List (List Char)) : List Char :=
  segments.flatMap fun segment => '/' :: encode isUnsafeInPath segment

/-- The segments of the path of a file, and whether it names a drive, in which case there is no
host. The mark of the drive is a colon. Empty segments at the start are left out. -/
def readFileSegments (cs : List Char) : List (List Char) × Bool :=
  let read := readSegments .file cs
  let normal := match read with
    | [letter, '|'] :: rest => if letter.isAlpha then [letter, ':'] :: rest else read
    | _ => read
  let names := normal.dropWhile List.isEmpty
  (if names.isEmpty then [[]] else names, (read.head?.any isDrive))

/-- The path of an address of unknown scheme. After an authority, a path is made of segments or
empty. Without an authority it is made of segments if it starts with a slash, and these must not
look like an authority. -/
def otherPath (hasAuthority : Bool) (cs : List Char) : List Char :=
  if cs.head? = some '/' ∨ (hasAuthority ∧ !cs.isEmpty) then
    let path := writeSegments (readSegments .other cs)
    if !hasAuthority && ['/', '/'].isPrefixOf path then '/' :: '.' :: path else path
  else encode isControl cs

/-! ### Addresses -/

/-- The query and the fragment that follow a path. -/
def readEnd (kind : SchemeKind) (cs : List Char) : Option String × Option String :=
  let (before, fragment) := cut (· = '#') cs
  let isUnsafe := if kind = .other then isUnsafeInQuery else isUnsafeInKnownQuery
  let query := match before with
    | '?' :: rest => some (String.ofList (encode isUnsafe rest))
    | _ => none
  (query, fragment.map fun rest => String.ofList (encode isUnsafeInFragment rest))

/-- The address with the given scheme, authority and path, and the end of a text. -/
def ofParts (scheme : String) (kind : SchemeKind) (authority : Option Authority)
    (path rest : List Char) : Url :=
  let (query, fragment) := readEnd kind rest
  ⟨scheme, authority, String.ofList path, query, fragment⟩

/-- The host of the address of a file, which follows two slashes, and the path after it. A drive is
no host, and neither is the computer itself. -/
def readFileHost? (cs : List Char) : Option (Option Host × List Char) :=
  let isSlash := SchemeKind.file.isSlash
  match cs with
  | a :: b :: after =>
    if isSlash a && isSlash b then
      let ends (c : Char) : Bool := isSlash c || endsPath c
      let name := after.takeWhile (!ends ·)
      if isDrive name then some (none, after)
      else if name.isEmpty then some (none, after)
      else
        match Host.read? name with
        | none => none
        | some host =>
          let isHere := host = .domain "localhost"
          some (if isHere then none else some host, after.dropWhile (!ends ·))
    else some (none, cs)
  | _ => some (none, cs)

/-- The address of a file, after its scheme. -/
def readFile? (scheme : String) (cs : List Char) : Option Url := do
  let (host, rest) ← readFileHost? cs
  let (names, hasDrive) := readFileSegments (rest.takeWhile (!endsPath ·))
  let authority : Authority := ⟨.none, if hasDrive then none else host, none⟩
  return ofParts scheme .file (some authority) (writeSegments names) (rest.dropWhile (!endsPath ·))

/-- The address of the web, after its scheme. -/
def readWeb? (scheme : String) (cs : List Char) : Option Url := do
  let (authority, rest) ← readAuthority? scheme .web (cs.dropWhile SchemeKind.web.isSlash)
  let path := writeSegments (readSegments .web (rest.takeWhile (!endsPath ·)))
  return ofParts scheme .web (some authority) path (rest.dropWhile (!endsPath ·))

/-- The address of unknown scheme, after its scheme. Two slashes start an authority. -/
def readOther? (scheme : String) (cs : List Char) : Option Url := do
  let (authority, rest) ← match cs with
    | '/' :: '/' :: after =>
      (fun (authority, rest) => (some authority, rest)) <$> readAuthority? scheme .other after
    | _ => some (none, cs)
  let path := otherPath authority.isSome (rest.takeWhile (!endsPath ·))
  return ofParts scheme .other authority path (rest.dropWhile (!endsPath ·))

/-- The address that a text stands for. -/
def read? (address : String) : Option Url := do
  let (scheme, rest) ← splitScheme? (trim address.toList)
  let scheme := String.ofList scheme
  match SchemeKind.ofScheme scheme with
  | .web => readWeb? scheme rest
  | .file => readFile? scheme rest
  | .other => readOther? scheme rest

/-- The host that an address names. -/
def host? (url : Url) : Option Host :=
  url.authority.bind Authority.host

/-- The part of an address that is sent to the host. -/
def target (url : Url) : String :=
  match url.query with
  | none => url.path
  | some query => s!"{url.path}?{query}"

/-- The text of an address. -/
def text (url : Url) : String :=
  let start := match url.authority with
    | none => s!"{url.scheme}:"
    | some authority => s!"{url.scheme}://{authority.text}"
  let stop := match url.fragment with
    | none => ""
    | some fragment => "#" ++ fragment
  start ++ url.target ++ stop

/-- The text of an address without the slashes at its end. -/
def trimSlashes (address : String) : String :=
  String.ofList ((address.toList.reverse.dropWhile (· = '/')).reverse)

/-- An address without the name and the password of a user, if these can be read. -/
def withoutCredentials (url : Url) : Url :=
  match url.authority with
  | none => url
  | some authority =>
    if authority.credentials.areReadable then
      { url with authority := some { authority with credentials := .none } }
    else url

/-- The greatest size of an address to which requests are sent. -/
def greatestSize : Nat := 65534

/-- Whether a character of the name of a host is in no request. -/
def isUnsendable (c : Char) : Bool :=
  c = '"' || c = '`' || c = '\x7b' || c = '\x7d'

/-- Whether requests can be sent to an address. -/
def isWeb (url : Url) : Bool :=
  (url.scheme = "http" || url.scheme = "https") && url.text.utf8ByteSize ≤ greatestSize
    && (url.host?.any fun host => !host.text.toList.any isUnsendable)

/-- An address with more pairs in its query. An empty query is left out. -/
def addQuery (pairs : List (String × String)) (url : Url) : Url :=
  let added := Percent.query pairs
  let query := match url.query with
    | none => added
    | some before => if before.isEmpty then added
      else if added.isEmpty then before
      else s!"{before}&{added}"
  { url with query := if query.isEmpty then none else some query }

end Url

end NetworkIntent
