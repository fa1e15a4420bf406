import NetworkIntent.Schema.Pattern.Class
import NetworkIntent.Schema.Pattern.Expr
import NetworkIntent.Text.Blank

/-!
# Reading patterns

A pattern is read from left to right: alternatives between bars, which are sequences of pieces,
which are characters, classes, escapes, places or groups with an optional repetition behind them.
Flags change how the text after them is read, up to the end of the pattern unless their group has a
colon.

The plain manner is a strict one. In the extended manner patterns may also look ahead and behind,
ask for the piece of a group again, commit to parts, and have comments; a brace that starts no
repetition is a character.

## Main definitions

* `Flags`: the settings that flags change.
* `readPattern`: the expression of a pattern.
-/

set_option autoImplicit false

namespace NetworkIntent.Schema

/-- The settings that flags change. -/
structure Flags where
  /-- Case does not matter. -/
  anyCase : Bool
  /-- Anchors stand for the ends of lines. -/
  multiLine : Bool
  /-- A dot stands for the end of a line too. -/
  dotAll : Bool
  /-- Repetitions are as short as possible unless a question mark follows. -/
  reluctant : Bool
  /-- Blanks and comments are skipped. -/
  spaced : Bool
  deriving DecidableEq, Repr

namespace Flags

/-- The settings at the start of a pattern. -/
def none : Flags := ⟨false, false, false, false, false⟩

/-- Switches the setting of a letter. -/
def switch? (flags : Flags) (on : Bool) : Char → Option Flags
  | 'i' => some { flags with anyCase := on }
  | 'm' => some { flags with multiLine := on }
  | 's' => some { flags with dotAll := on }
  | 'U' => some { flags with reluctant := on }
  | 'x' => some { flags with spaced := on }
  | 'u' => if on then some flags else .none
  | _ => .none

/-- Reads flags up to a closing parenthesis or a colon, which is the first character of the text
that is left. Those after a hyphen are switched off. The characters that have been read come along,
the latest first. -/
def read (manner : Manner) (negated : Bool) (seen : List Char) (flags : Flags) :
    List Char → Option (Flags × List Char)
  | [] => .none
  | c :: rest =>
    if c = ')' ∨ c = ':' then
      let isEmpty := c = ')' ∧ seen.isEmpty
      let isDangling := seen = ['-'] ∨ (manner = .plain ∧ seen.head? = some '-')
      if isEmpty ∨ isDangling then .none else some (flags, c :: rest)
    else if manner = .plain ∧ seen.contains c then .none
    else if c = '-' then
      if negated then .none else read manner true ('-' :: seen) flags rest
    else
      match flags.switch? (!negated) c with
      | .none => .none
      | some flags => read manner negated (c :: seen) flags rest

end Flags

/-- The state of reading: the text that follows, the settings, the number of groups so far and the
names of some of them, the latest first, and whether a group has been asked for by its number. -/
structure Progress where
  rest : List Char
  flags : Flags
  groups : Nat
  names : List (String × Nat)
  byNumber : Bool
  deriving DecidableEq, Repr

/-- Reading a part of a pattern. -/
abbrev Reading := StateT Progress (Except Refusal)

namespace Reading

/-- Refuses a pattern that is not well formed. -/
def refuse {α : Type} : Reading α :=
  throw .malformed

/-- The text that follows. -/
def rest : Reading (List Char) :=
  Progress.rest <$> get

/-- Goes on with a text. -/
def goTo (text : List Char) : Reading Unit :=
  modify fun progress => { progress with rest := text }

end Reading

open Reading

/-! ### Blanks and repetitions -/

/-- What follows after the parenthesis that closes a comment. -/
def afterComment? : List Char → Option (List Char)
  | [] | ['\\'] => none
  | ')' :: rest => some rest
  | '\\' :: _ :: rest => afterComment? rest
  | _ :: rest => afterComment? rest

/-- What follows after comments and blanks, as far as they are skipped. At most `fuel` of them are
skipped. -/
def afterBlanks (manner : Manner) (spaced : Bool) :
    (fuel : Nat) → List Char → Except Refusal (List Char)
  | 0, text => .ok text
  | fuel + 1, text =>
    match text with
    | '(' :: '?' :: '#' :: rest =>
      match manner, afterComment? rest with
      | .extended, some rest => afterBlanks manner spaced fuel rest
      | _, _ => .error .malformed
    | c :: rest =>
      if !spaced then .ok text
      else if c = '#' then
        afterBlanks manner spaced fuel ((rest.dropWhile (· ≠ '\n')).drop 1)
      else if [' ', '\t', '\r', '\n'].contains c then afterBlanks manner spaced fuel rest
      else .ok text
    | [] => .ok text

/-- Skips comments and blanks. -/
def skipBlanks (manner : Manner) : Reading Unit := do
  let text ← rest
  goTo (← afterBlanks manner (← get).flags.spaced (text.length + 1) text)

/-- The greatest number of repetitions that can be written. -/
def boundLimit : Nat := 4294967295

/-- The bounds of a repetition with their closing brace, where `skip` drops what may stand around
them. A missing lower bound is zero if a comma follows. -/
def readBounds? (skip : List Char → List Char) (text : List Char) :
    Option ((Nat × Option Nat) × List Char) :=
  let text := skip text
  let low := text.takeWhile Char.isDigit
  match skip (text.drop low.length) with
  | '\x7d' :: rest => (readDigits? low).map fun count => ((count, some count), rest)
  | ',' :: rest =>
    let rest := skip rest
    let high := rest.takeWhile Char.isDigit
    match skip (rest.drop high.length) with
    | '\x7d' :: rest => some (((readDigits? low).getD 0, readDigits? high), rest)
    | _ => none
  | _ => none

/-- Whether the text after a brace is a repetition of the plain manner: its lower bound may not be
missing, a blank may stand around a number, and the bounds are in order. -/
def isPlainBounds (text : List Char) : Bool :=
  match readBounds? (List.dropWhile isBlank) text with
  | none => false
  | some ((low, high), _) =>
    let text := text.dropWhile isBlank
    let afterComma := (text.dropWhile (· ≠ ',')).drop 1
    (text.head?.any Char.isDigit) && low ≤ boundLimit
      && match high with
        | some high => low ≤ high && high ≤ boundLimit
        | none => afterComma.head? = some '\x7d'

/-- Reads the bounds of a repetition, if there is one. -/
def readRepetition? (manner : Manner) : Reading (Option (Nat × Option Nat)) := do
  match ← rest with
  | '?' :: text => goTo text; return some (0, some 1)
  | '*' :: text => goTo text; return some (0, none)
  | '+' :: text => goTo text; return some (1, none)
  | '\x7b' :: text =>
    if manner = .plain && !isPlainBounds text then refuse
    let spaced := (← get).flags.spaced
    let skip (text : List Char) : List Char :=
      if spaced then text.dropWhile [' ', '\t', '\r', '\n'].contains else text
    match readBounds? skip text with
    | none => return none
    | some ((low, high), text) =>
      if high.any (· < low) || boundLimit < low || high.any (boundLimit < ·) then refuse
      goTo text
      return some (low, high)
  | _ => return none

/-- Whether an expression can be repeated: those that match nothing cannot. -/
def isRepeatable : Expr → Bool
  | .empty | .place _ | .look _ _ _ => false
  | _ => true

/-- Reads the repetition of an expression, if there is one. A question mark behind it changes how
many repetitions are preferred, and a plus sign commits to them. -/
def readRepeated (manner : Manner) (e : Expr) : Reading Expr := do
  skipBlanks manner
  match ← readRepetition? manner with
  | none => return e
  | some (low, high) =>
    if !isRepeatable e then refuse
    skipBlanks manner
    let mut greedy := !(← get).flags.reluctant
    match ← rest with
    | '?' :: text =>
      goTo text
      greedy := !greedy
    | _ => pure ()
    match ← rest with
    | '+' :: text =>
      goTo text
      return .commit (.repeated e low high greedy)
    | _ => return .repeated e low high greedy

/-! ### Escapes -/

/-- The expression that matches a character of a set. -/
def matchOne (flags : Flags) (negated : Bool) (set : CharSet) : Expr :=
  .one (negateIf flags.anyCase negated set)

/-- The place that a letter asks for. -/
def placeOf? : Char → Option Place
  | 'A' => some .textStart
  | 'z' => some .textEnd
  | 'b' => some .wordEdge
  | 'B' => some .noWordEdge
  | '<' => some .wordStart
  | '>' => some .wordEnd
  | _ => none

/-- The expression for the end of a text before its last ends of lines. -/
def beforeLastLines : Expr :=
  .look none false (.seq (.repeated (.one (.single '\n')) 0 none true) (.place .textEnd))

/-- Asks for a group by its number, which must have been started. -/
def askByNumber (number : Nat) : Reading Expr := do
  if (← get).groups < number then refuse
  return .again number

/-- Asks for a group by its name, its number, or its distance backwards after a hyphen. -/
def askFor (name : List Char) : Reading Expr := do
  let progress ← get
  match progress.names.lookup (String.ofList name), name with
  | some number, _ => return .again number
  | none, '-' :: distance =>
    match readDigits? distance with
    | some n =>
      if n = 0 || progress.groups < n then refuse
      return .again (progress.groups + 1 - n)
    | none => refuse
  | none, _ =>
    match readDigits? name with
    | some number => askByNumber number
    | none => refuse

/-- Reads an escape after its backslash. -/
def readEscaped (manner : Manner) : Reading Expr := do
  match manner, ← rest with
  | .extended, 'k' :: opening :: text =>
    let closing := if opening = '<' then '>' else opening
    let name := text.takeWhile (· ≠ closing)
    if !(opening = '<' || opening = '\x27') || name.length = text.length then refuse
    goTo (text.drop (name.length + 1))
    askFor name
  | .extended, 'Z' :: text =>
    goTo text
    return beforeLastLines
  | .extended, 'K' :: text =>
    goTo text
    return .empty
  | .extended, 'G' :: text =>
    goTo text
    return .place .textStart
  | _, c :: text =>
    if manner = .extended && c.isDigit then
      let digits := (c :: text).takeWhile Char.isDigit
      goTo ((c :: text).drop digits.length)
      modify fun progress => { progress with byNumber := true }
      askByNumber ((readDigits? digits).getD 0)
    else
      match placeOf? c with
      | some place =>
        if (c = 'b' || c = 'B') && text.head? = some '\x7b' then refuse
        goTo text
        return .place place
      | none =>
        let (escape, text) ← Escape.read manner false (c :: text)
        goTo text
        let flags := (← get).flags
        match escape with
        | .char c => return matchOne flags false (.single c)
        | .set negated set => return matchOne flags negated set
  | _, [] => refuse

/-! ### Groups -/

/-- Whether a character may be part of the name of a group. -/
def isOfName (c : Char) : Bool :=
  c = '_' || Property.alphanumeric.has c

/-- Reads the name of a group up to the sign that closes it, and numbers the group. -/
def readName (manner : Manner) : Reading Nat := do
  let text ← rest
  let name := text.takeWhile isOfName
  let text := text.drop name.length
  let progress ← get
  let isPlain := name.head?.any (fun c => c = '_' || Property.alphabetic.has c)
    && !(progress.names.map Prod.fst).contains (String.ofList name)
  if name.isEmpty || text.head? != some '>' || (manner = .plain && !isPlain) then refuse
  let number := progress.groups + 1
  set { progress with
    rest := text.drop 1, groups := number, names := (String.ofList name, number) :: progress.names }
  return number

/-- Looks whether an expression matches right before a place. Its width has to be known, or that of
its alternatives. -/
def lookBehind? (negated : Bool) : Expr → Option Expr
  | .alt e f =>
    match (Expr.alt e f).width? with
    | some width => some (.look (some width) negated (.alt e f))
    | none => do
      let e ← lookBehind? negated e
      let f ← lookBehind? negated f
      return if negated then .seq e f else .alt e f
  | e => e.width?.map fun width => .look (some width) negated e

/-- The start of a look at what comes before or after: its direction, whether it is negated, and the
text that follows. -/
def lookStart? : List Char → Option (Bool × Bool × List Char)
  | '?' :: '=' :: rest => some (false, false, rest)
  | '?' :: '!' :: rest => some (false, true, rest)
  | '?' :: '<' :: '=' :: rest => some (true, false, rest)
  | '?' :: '<' :: '!' :: rest => some (true, true, rest)
  | _ => none

/-- The depth that groups do not reach. -/
def depthLimit : Nat := 64

/-- Reads the parenthesis that closes a group. -/
def closeGroup : Reading Unit := do
  match ← rest with
  | ')' :: text => goTo text
  | _ => refuse

mutual

/-- Reads alternatives up to a closing parenthesis or the end. Groups that have names cannot be
asked for by number where there is only one alternative. -/
def readAlternatives (manner : Manner) : (fuel depth : Nat) → Reading Expr
  | 0, _ => refuse
  | fuel + 1, depth => do
    let e ← readSequence manner fuel depth false
    match ← readOthers manner fuel depth with
    | some f => return .alt e f
    | none =>
      let progress ← get
      if progress.byNumber && !progress.names.isEmpty then refuse
      return e

/-- Reads the alternatives that follow, if there are any. -/
def readOthers (manner : Manner) : (fuel depth : Nat) → Reading (Option Expr)
  | 0, _ => refuse
  | fuel + 1, depth => do
    skipBlanks manner
    match ← rest with
    | '|' :: text =>
      goTo text
      let e ← readSequence manner fuel depth false
      match ← readOthers manner fuel depth with
      | some f => return some (.alt e f)
      | none => return some e
    | _ => return none

/-- Reads pieces one after the other, until no more follow. -/
def readSequence (manner : Manner) : (fuel depth : Nat) → (hasPiece : Bool) → Reading Expr
  | 0, _, _ => refuse
  | fuel + 1, depth, hasPiece => do
    let text ← rest
    let e ← readAtom manner fuel depth hasPiece
    let e ← readRepeated manner e
    if (← rest).length = text.length then return e
    return e.andThen (← readSequence manner fuel depth true)

/-- Reads a piece without its repetition. It is empty where no piece follows. -/
def readAtom (manner : Manner) : (fuel depth : Nat) → (hasPiece : Bool) → Reading Expr
  | 0, _, _ => refuse
  | fuel + 1, depth, hasPiece => do
    skipBlanks manner
    let flags := (← get).flags
    match ← rest with
    | [] => return .empty
    | c :: text =>
      match c with
      | '+' | '*' | '?' | '|' | ')' => return .empty
      | '(' => readGroup manner fuel depth
      | '[' =>
        match splitClass? text with
        | none => refuse
        | some (inner, text) =>
          goTo text
          match readClass manner flags.anyCase (inner.length + 1) inner with
          | .ok (set, []) => return .one set
          | _ => refuse
      | '\\' =>
        goTo text
        readEscaped manner
      | '.' =>
        goTo text
        return .one (if flags.dotAll then .all else .complement (.single '\n'))
      | '^' =>
        goTo text
        return .place (if flags.multiLine then .lineStart else .textStart)
      | '$' =>
        goTo text
        return .place (if flags.multiLine then .lineEnd else .textEnd)
      | '\x7b' =>
        if manner = .plain && !(hasPiece && isPlainBounds text) then refuse
        goTo text
        return matchOne flags false (.single c)
      | _ =>
        goTo text
        return matchOne flags false (.single c)

/-- Reads a group from its opening parenthesis on. -/
def readGroup (manner : Manner) : (fuel depth : Nat) → Reading Expr
  | 0, _ => refuse
  | fuel + 1, depth => do
    let start ← rest
    goTo (start.drop 1)
    skipBlanks manner
    if depthLimit ≤ depth + 1 then refuse
    let body : Reading Expr := do
      let e ← readAlternatives manner fuel (depth + 1)
      closeGroup
      return e
    match lookStart? (← rest) with
    | some (back, negated, text) =>
      if manner = .plain then throw (.beyond start)
      goTo text
      let e ← body
      if !back then return .look none negated e
      match lookBehind? negated e with
      | some e => return e
      | none => refuse
    | none =>
      match manner, ← rest with
      | _, '?' :: 'P' :: '<' :: text | _, '?' :: '<' :: text =>
        goTo text
        let number ← readName manner
        return .group number (← body)
      | .extended, '?' :: 'P' :: '=' :: text =>
        let name := text.takeWhile (· ≠ ')')
        goTo (text.drop name.length)
        let e ← askFor name
        closeGroup
        return e
      | .extended, '?' :: '>' :: text =>
        goTo text
        return .commit (← body)
      | _, '?' :: text =>
        let flags := (← get).flags
        match flags.read manner false [] text with
        | some (changed, ':' :: text) =>
          modify fun progress => { progress with rest := text, flags := changed }
          let e ← body
          modify fun progress => { progress with flags := flags }
          return e
        | some (changed, _ :: text) =>
          modify fun progress => { progress with rest := text, flags := changed }
          return .empty
        | _ => refuse
      | _, _ =>
        let number := (← get).groups + 1
        modify fun progress => { progress with groups := number }
        return .group number (← body)

end

/-- The expression of a pattern. -/
def readPattern (manner : Manner) (text : List Char) : Except Refusal Expr :=
  match (readAlternatives manner (8 * text.length + 8) 0).run ⟨text, .none, 0, [], false⟩ with
  | .error refusal => .error refusal
  | .ok (e, progress) => if progress.rest.isEmpty then .ok e else .error .malformed

end NetworkIntent.Schema
