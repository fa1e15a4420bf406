import NetworkIntent.Schema.Pattern.Escape

/-!
# Classes of characters in patterns

Classes are sets of characters in brackets: characters, ranges around a hyphen, escapes, named sets
between colons, and other classes. Two ampersands, hyphens or tildes between members stand for what
both sides have in common, for their difference, and for what only one of them has.

A closing bracket at the start of a class is a member, and so are hyphens at its start and at its
end.

## Main definitions

* `splitClass?`: the text of a class.
* `readClass`: the set that a class stands for.
-/

set_option autoImplicit false

namespace NetworkIntent.Schema

/-- The set that differs in case from no character of its own, if case does not matter. -/
def foldIf (anyCase : Bool) (set : CharSet) : CharSet :=
  if anyCase then .anyCase set else set

/-- A set, or its complement if `negated`. Case is disregarded first. -/
def negateIf (anyCase negated : Bool) (set : CharSet) : CharSet :=
  if negated then .complement (foldIf anyCase set) else foldIf anyCase set

/-- The sets of ASCII that have names of their own within classes. -/
def namedSets : List (String × CharSet) :=
  [("alnum", .ofList [digitSet, .range 'A' 'Z', .range 'a' 'z']),
   ("alpha", .ofList [.range 'A' 'Z', .range 'a' 'z']),
   ("ascii", .range '\x00' '\x7f'),
   ("blank", .ofChars ['\t', ' ']),
   ("cntrl", .ofList [.range '\x00' '\x1f', .single '\x7f']),
   ("digit", digitSet),
   ("graph", .range '!' '~'),
   ("lower", .range 'a' 'z'),
   ("print", .range ' ' '~'),
   ("punct", .ofList [.range '!' '/', .range ':' '@', .range '[' '\x60', .range '\x7b' '~']),
   ("space", .ofChars ['\t', '\n', '\x0b', '\x0c', '\r', ' ']),
   ("upper", .range 'A' 'Z'),
   ("word", wordSet),
   ("xdigit", .ofList [digitSet, .range 'A' 'F', .range 'a' 'f'])]

/-- Reads the name of a set after the opening bracket: between colons and before a closing bracket,
with a circumflex in front if all other characters are meant. -/
def readNamedSet? (anyCase : Bool) : List Char → Option (CharSet × List Char)
  | ':' :: rest =>
    let (negated, rest) := match rest with
      | '^' :: rest => (true, rest)
      | _ => (false, rest)
    let name := rest.takeWhile (· ≠ ':')
    match rest.drop name.length with
    | ':' :: ']' :: rest =>
      (namedSets.lookup (String.ofList name)).map fun set => (negateIf anyCase negated set, rest)
    | _ => none
  | _ => none

/-- Splits a text after an opening bracket behind the bracket that closes it. Brackets inside come
in pairs, unless one is escaped or closes at the very start. At most `fuel` characters are read. -/
def splitBrackets : (fuel depth : Nat) → List Char → Option (List Char × List Char)
  | 0, _, _ => none
  | fuel + 1, depth, text =>
    let more (front : List Char) (split : Option (List Char × List Char)) :=
      split.map fun (inner, rest) => (front ++ inner, rest)
    match text with
    | [] => none
    | '\\' :: c :: rest => more ['\\', c] (splitBrackets fuel depth rest)
    | '[' :: rest => more ['['] (splitBrackets fuel (depth + 1) rest)
    | ']' :: rest =>
      if depth = 0 then some ([']'], rest) else more [']'] (splitBrackets fuel (depth - 1) rest)
    | c :: rest => more [c] (splitBrackets fuel depth rest)

/-- Splits a text after an opening bracket behind the end of the class. -/
def splitClass? (text : List Char) : Option (List Char × List Char) :=
  let front := match text with
    | '^' :: ']' :: _ => ['^', ']']
    | '^' :: _ => ['^']
    | ']' :: _ => [']']
    | _ => []
  (splitBrackets (text.length + 1) 0 (text.drop front.length)).map fun (inner, rest) =>
    (front ++ inner, rest)

/-- The operations between the members of a class. -/
inductive ClassOperation where
  | common
  | difference
  | either
  deriving DecidableEq, Repr

/-- The result of an operation. -/
def ClassOperation.apply : ClassOperation → CharSet → CharSet → CharSet
  | .common => .inter
  | .difference => .diff
  | .either => .symmDiff

/-- What has been read of a class: the operand on the left and its operation, and the members since
then in reverse order. -/
structure ClassReading where
  left : Option (CharSet × ClassOperation)
  members : List CharSet
  deriving DecidableEq, Repr

namespace ClassReading

/-- The set of all that has been read. -/
def set (anyCase : Bool) (reading : ClassReading) : CharSet :=
  let members := CharSet.ofList reading.members.reverse
  match reading.left with
  | none => members
  | some (left, operation) => operation.apply (foldIf anyCase left) (foldIf anyCase members)

/-- Adds a member. -/
def add (reading : ClassReading) (member : CharSet) : ClassReading :=
  { reading with members := member :: reading.members }

/-- Goes on to the other operand of an operation. -/
def combine (anyCase : Bool) (reading : ClassReading) (operation : ClassOperation) :
    ClassReading :=
  ⟨some (reading.set anyCase, operation), []⟩

end ClassReading

/-- Reads a member of a class that is no class itself. -/
def readMember (manner : Manner) : List Char → Except Refusal (Escape × List Char)
  | '\\' :: rest => Escape.read manner true rest
  | c :: rest => .ok (.char c, rest)
  | [] => .error .malformed

/-- Reads a member of a class, or a range of characters. -/
def readRange (manner : Manner) (anyCase : Bool) (text : List Char) :
    Except Refusal (CharSet × List Char) :=
  match readMember manner text with
  | .error refusal => .error refusal
  | .ok (first, rest) =>
    let alone : CharSet := match first with
      | .char c => .single c
      | .set negated set => negateIf anyCase negated set
    match rest with
    | '-' :: ']' :: _ | '-' :: '-' :: _ => .ok (alone, rest)
    | '-' :: rest =>
      match first, readMember manner rest with
      | .char low, .ok (.char high, rest) =>
        if low ≤ high then .ok (.range low high, rest) else .error .malformed
      | _, .error refusal => .error refusal
      | _, _ => .error .malformed
    | _ => .ok (alone, rest)

mutual

/-- Reads a class after its opening bracket. At most `fuel` members and brackets are read. -/
def readClass (manner : Manner) (anyCase : Bool) :
    (fuel : Nat) → List Char → Except Refusal (CharSet × List Char)
  | 0, _ => .error .malformed
  | fuel + 1, text =>
    let (negated, text) := match text with
      | '^' :: rest => (true, rest)
      | _ => (false, text)
    let hyphens := text.takeWhile (· = '-')
    let text := text.drop hyphens.length
    let (front, text) := match hyphens, text with
      | [], ']' :: rest => ([']'], rest)
      | _, _ => (hyphens, text)
    match readMembers manner anyCase fuel ⟨none, front.map .single⟩ text with
    | .error refusal => .error refusal
    | .ok (set, rest) => .ok (negateIf anyCase negated set, rest)

/-- Reads the members of a class up to its closing bracket. -/
def readMembers (manner : Manner) (anyCase : Bool) :
    (fuel : Nat) → ClassReading → List Char → Except Refusal (CharSet × List Char)
  | 0, _, _ => .error .malformed
  | fuel + 1, reading, text =>
    match text with
    | [] => .error .malformed
    | ']' :: rest => .ok (reading.set anyCase, rest)
    | '&' :: '&' :: rest =>
      readMembers manner anyCase fuel (reading.combine anyCase .common) rest
    | '-' :: '-' :: rest =>
      readMembers manner anyCase fuel (reading.combine anyCase .difference) rest
    | '~' :: '~' :: rest =>
      readMembers manner anyCase fuel (reading.combine anyCase .either) rest
    | '[' :: rest =>
      match readNamedSet? anyCase rest with
      | some (set, rest) => readMembers manner anyCase fuel (reading.add set) rest
      | none =>
        match readClass manner anyCase fuel rest with
        | .error refusal => .error refusal
        | .ok (set, rest) => readMembers manner anyCase fuel (reading.add set) rest
    | _ =>
      match readRange manner anyCase text with
      | .error refusal => .error refusal
      | .ok (set, rest) => readMembers manner anyCase fuel (reading.add set) rest

end

end NetworkIntent.Schema
