/-!
# Actions

Work that needs somebody else's answers, such as those of an inventory or of a version control
system. Whatever gives the answers has a state, which the action hands on from question to question;
an action fails with the first failure and keeps the state reached until then.

## Main definitions

* `Action`: actions over a state, with their failures and results.
* `Action.perform`: the result of an action and the state after it.
* `Action.mapFailure`: an action whose failure is told differently.
-/

set_option autoImplicit false

namespace NetworkIntent

/-- An action over a state of type `σ`, which fails with an `ε` or gives an `α`. -/
abbrev Action (σ ε α : Type) := ExceptT ε (StateM σ) α

namespace Action

variable {σ ε δ α : Type}

/-- The result of an action and the state after it. -/
def perform (action : Action σ ε α) (state : σ) : Except ε α × σ :=
  action.run.run state

/-- An action that has its result already. -/
def ofExcept (result : Except ε α) : Action σ ε α :=
  ExceptT.mk (pure result)

/-- An action whose failure is told differently. -/
def mapFailure (tell : ε → δ) (action : Action σ ε α) : Action σ δ α :=
  ExceptT.adapt tell action

/-- An action that looks at the state and replaces it. -/
def step (next : σ → Except ε α × σ) : Action σ ε α :=
  ExceptT.mk next

end Action

end NetworkIntent
