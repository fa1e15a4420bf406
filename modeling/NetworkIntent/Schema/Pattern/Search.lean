import NetworkIntent.Schema.Pattern.Expr

/-!
# Searching by trial

Expressions that are not regular are matched by trying one way after another, in the order of
preference. A way is given up when it leads no further; after too many of these retries the search
is given up as a whole.

## Main definitions

* `Branch`: a way through an expression, with `Branch.turn` for how it goes on.
* `Finding`: the end of a search.
* `search`: tries ways until one leads to the end.
-/

set_option autoImplicit false

namespace NetworkIntent.Schema

/-- What remains to be matched. -/
inductive Task where
  /-- An expression. -/
  | expr (e : Expr)
  /-- The end of a group that started after so many characters. -/
  | close (number start : Nat)
  /-- Another repetition, unless the one that started after so many characters matched nothing. -/
  | another (repetition : Expr) (start : Nat)
  deriving DecidableEq, Repr

/-- A way through an expression: what remains to be matched, the characters that have been passed in
reverse order, those that follow, and the pieces that have been kept, the latest first. -/
structure Branch where
  tasks : List Task
  passed : List Char
  rest : List Char
  kept : List (Nat × List Char)
  deriving DecidableEq, Repr

/-- The end of a search. -/
inductive Finding where
  /-- A way has led to its end. -/
  | found (branch : Branch)
  /-- No way leads to its end. -/
  | missing
  /-- The search has been given up. -/
  | abandoned
  deriving DecidableEq, Repr

/-- How a branch goes on. -/
inductive Turn where
  /-- By several ways. -/
  | ways (branches : List Branch)
  /-- By the ways that depend on a trial. -/
  | trial (start : Branch) (onFound : Branch → List Branch) (onMissing : List Branch)

namespace Branch

/-- Passes the characters of a piece, if they follow. -/
def pass (branch : Branch) : List Char → Option Branch
  | [] => some branch
  | c :: piece =>
    match branch.rest with
    | d :: rest =>
      if c = d then pass { branch with passed := d :: branch.passed, rest := rest } piece else none
    | [] => none

/-- Goes back by a number of characters, if there are so many. -/
def goBack (branch : Branch) : Nat → Option Branch
  | 0 => some branch
  | n + 1 =>
    match branch.passed with
    | c :: passed => goBack { branch with passed := passed, rest := c :: branch.rest } n
    | [] => none

/-- The ways that lead on from a branch by a task in front of its tasks. Looks and committed parts
need trials of their own and lead nowhere here. -/
def ways (branch : Branch) (task : Task) : List Branch :=
  let doing (tasks : List Task) : Branch := { branch with tasks := tasks ++ branch.tasks }
  match task with
  | .close number start =>
    let piece := (branch.passed.take (branch.passed.length - start)).reverse
    [{ branch with kept := (number, piece) :: branch.kept }]
  | .another repetition start =>
    if branch.passed.length = start then [] else [doing [.expr repetition]]
  | .expr .empty => [branch]
  | .expr (.one set) =>
    match branch.rest with
    | c :: rest =>
      if set.has c then [{ branch with passed := c :: branch.passed, rest := rest }] else []
    | [] => []
  | .expr (.place p) => if p.holds branch.passed.head? branch.rest.head? then [branch] else []
  | .expr (.seq e f) => [doing [.expr e, .expr f]]
  | .expr (.alt e f) => [doing [.expr e], doing [.expr f]]
  | .expr (.repeated e low high greedy) =>
    if high = some 0 then [branch]
    else
      let others := Expr.repeated e (low - 1) (high.map (· - 1)) greedy
      if 0 < low then [doing [.expr e, .expr others]]
      else
        let more := doing [.expr e, .another others branch.passed.length]
        if greedy then [more, branch] else [branch, more]
  | .expr (.group number e) => [doing [.expr e, .close number branch.passed.length]]
  | .expr (.again number) =>
    match branch.kept.lookup number with
    | some piece => (branch.pass piece).toList
    | none => []
  | .expr (.look _ _ _) | .expr (.commit _) => []

/-- How a branch goes on by a task in front of its tasks. If only the existence of a way matters, a
regular expression that comes last is decided at once, as is one that is looked for and keeps no
piece. -/
def turn (onlyExistence : Bool) (branch : Branch) (task : Task) : Turn :=
  match task with
  | .expr (.look back negated body) =>
    match branch.goBack (back.getD 0) with
    | none => .ways (if negated then [branch] else [])
    | some start =>
      let inside := { start with tasks := [.expr body] }
      if body.isRegular && body.isGroupless then
        let holds := Expr.runs [] start.passed.head? [body] start.rest
        .ways (if holds != negated then [branch] else [])
      else if negated then .trial inside (fun _ => []) [branch]
      else .trial inside (fun found => [{ branch with kept := found.kept }]) []
  | .expr (.commit body) =>
    let inside := { branch with tasks := [.expr body] }
    .trial inside (fun found => [{ found with tasks := branch.tasks }]) []
  | .expr e =>
    if onlyExistence && branch.tasks.isEmpty && e.isRegular then
      .ways (if Expr.runs [] branch.passed.head? [e] branch.rest then [branch] else [])
    else .ways (branch.ways task)
  | _ => .ways (branch.ways task)

end Branch

/-- Tries branches, the first one first, until one has nothing left to do. At most `fuel` tasks are
done and `retries` branches are given up; the retries that are left come with the finding. -/
def search (onlyExistence : Bool) : (fuel retries : Nat) → List Branch → Finding × Nat
  | _, retries, [] => (.missing, retries)
  | 0, _, _ => (.abandoned, 0)
  | fuel + 1, retries, branch :: others =>
    let goOn (retries : Nat) (ways : List Branch) : Finding × Nat :=
      if !ways.isEmpty then search onlyExistence fuel retries (ways ++ others)
      else if retries = 0 then (.abandoned, 0)
      else search onlyExistence fuel (retries - 1) others
    match branch.tasks with
    | [] => (.found branch, retries)
    | task :: tasks =>
      match Branch.turn onlyExistence { branch with tasks := tasks } task with
      | .ways ways => goOn retries ways
      | .trial start onFound onMissing =>
        match search false fuel retries [start] with
        | (.found inner, retries) => goOn retries (onFound inner)
        | (.missing, retries) => goOn retries onMissing
        | (.abandoned, _) => (.abandoned, 0)

/-- The branches that match an expression from each place of a text on. -/
def starts (e : Expr) (passed : List Char) : List Char → List Branch
  | [] => [⟨[.expr e], passed, [], []⟩]
  | c :: rest => ⟨[.expr e], passed, c :: rest, []⟩ :: starts e (c :: passed) rest

end NetworkIntent.Schema
