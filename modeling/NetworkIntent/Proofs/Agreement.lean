import NetworkIntent.Proofs.Action

/-!
# Actions that agree

Two actions that ask different parties agree if they fail alike and otherwise have related results.
The parties have states of their own, which may have to stay related, too. What follows two actions
that agree may rely on their results being related, so that agreement is proved of the steps of an
action and holds of the whole.

## Main definitions

* `Action.Agreement`: two results are the same failure, or values that are related.
* `Action.Agrees`: two actions over related states have results that agree.
* `Action.SameResult`: two actions have the same result from whatever states.

## Main results

* `Action.Agrees.bind`, `Action.Agrees.mapM`: agreement is kept by sequencing, and by going through
  lists that correspond item by item.
* `Action.Agrees.eq`: actions over one state that agree entirely are equal.
-/

set_option autoImplicit false

namespace NetworkIntent.Action

variable {σ τ ε δ α β γ ρ : Type} {S : σ → τ → Prop} {R : α → β → Prop} {Q : γ → ρ → Prop}

/-- Two results are the same failure, or values that are related. -/
inductive Agreement (R : α → β → Prop) : Except ε α → Except ε β → Prop where
  | error (e : ε) : Agreement R (.error e) (.error e)
  | ok {a : α} {b : β} (h : R a b) : Agreement R (.ok a) (.ok b)

/-- Results that agree entirely are equal. -/
theorem agreement_eq_iff {result other : Except ε α} : Agreement Eq result other ↔ result = other := by
  constructor
  · rintro (_ | h)
    · rfl
    · rw [h]
  · rintro rfl
    cases result with
    | error e => exact .error e
    | ok a => exact .ok rfl

/-- Results that agree on values that are related do so if these are related in another way. -/
theorem Agreement.imp {result : Except ε α} {other : Except ε β} {R' : α → β → Prop}
    (h : Agreement R result other) (hR : ∀ a b, R a b → R' a b) : Agreement R' result other := by
  cases h with
  | error e => exact .error e
  | ok h => exact .ok (hR _ _ h)

/-- How a failure is told does not matter for agreement. -/
theorem Agreement.mapError {result : Except ε α} {other : Except ε β} (h : Agreement R result other)
    (tell : ε → δ) : Agreement R (result.mapError tell) (other.mapError tell) := by
  cases h with
  | error e => exact .error _
  | ok h => exact .ok h

/-- From related states, two actions have results that agree, and leave related states. -/
def Agrees (S : σ → τ → Prop) (R : α → β → Prop) (action : Action σ ε α) (other : Action τ ε β) :
    Prop :=
  ∀ s t, S s t → Agreement R (action.perform s).1 (other.perform t).1 ∧
    S (action.perform s).2 (other.perform t).2

/-- Results that are there already agree as actions if they do as results. -/
theorem Agrees.ofExcept {result : Except ε α} {other : Except ε β} (h : Agreement R result other) :
    Agrees S R (Action.ofExcept result) (Action.ofExcept other) :=
  fun _ _ hs => ⟨h, hs⟩

/-- Doing nothing agrees with doing nothing if the results are related. -/
theorem Agrees.pure {a : α} {b : β} (h : R a b) :
    Agrees S R (Pure.pure a : Action σ ε α) (Pure.pure b) :=
  fun _ _ hs => ⟨.ok h, hs⟩

/-- A failure that is told differently is told differently on both sides. -/
theorem Agrees.mapFailure {action : Action σ ε α} {other : Action τ ε β}
    (h : Agrees S R action other) (tell : ε → δ) :
    Agrees S R (action.mapFailure tell) (other.mapFailure tell) := by
  intro s t hs
  obtain ⟨hresult, hstate⟩ := h s t hs
  exact ⟨hresult.mapError tell, hstate⟩

/-- Two sequences agree if their first actions do, and then the ones that follow related results. -/
theorem Agrees.bind {action : Action σ ε α} {other : Action τ ε β} {next : α → Action σ ε γ}
    {nextOther : β → Action τ ε ρ} (h : Agrees S R action other)
    (h' : ∀ a b, R a b → Agrees S Q (next a) (nextOther b)) :
    Agrees S Q (action >>= next) (other >>= nextOther) := by
  intro s t hs
  obtain ⟨hresult, hstate⟩ := h s t hs
  rcases haction : action.perform s with ⟨result, s'⟩
  rcases hother : other.perform t with ⟨result', t'⟩
  rw [haction, hother] at hresult hstate
  cases hresult with
  | error e =>
    rw [perform_bind_error haction, perform_bind_error hother]
    exact ⟨.error e, hstate⟩
  | ok hab =>
    rw [perform_bind_ok haction, perform_bind_ok hother]
    exact h' _ _ hab s' t' hstate

/-- Going through lists that correspond item by item, actions agree if they do for the items. -/
theorem Agrees.mapM {P : γ → ρ → Prop} {next : γ → Action σ ε α} {nextOther : ρ → Action τ ε β}
    (h : ∀ c d, P c d → Agrees S R (next c) (nextOther d)) {items : List γ} {others : List ρ}
    (hitems : List.Forall₂ P items others) :
    Agrees S (List.Forall₂ R) (items.mapM next) (others.mapM nextOther) := by
  induction hitems with
  | nil => exact Agrees.pure .nil
  | cons hitem _ ih =>
    rw [List.mapM_cons, List.mapM_cons]
    exact (h _ _ hitem).bind fun a b hab => ih.bind fun as bs hrest => Agrees.pure (.cons hab hrest)

/-- Going through one list, actions agree if they do for each of its items. -/
theorem Agrees.mapM_same {next : γ → Action σ ε α} {nextOther : γ → Action τ ε β} {items : List γ}
    (h : ∀ c ∈ items, Agrees S R (next c) (nextOther c)) :
    Agrees S (List.Forall₂ R) (items.mapM next) (items.mapM nextOther) := by
  have hitems : List.Forall₂ (fun c d => c = d ∧ c ∈ items) items items :=
    List.forall₂_same.mpr fun c hc => ⟨rfl, hc⟩
  refine Agrees.mapM (fun c d hcd => ?_) hitems
  obtain ⟨rfl, hc⟩ := hcd
  exact h c hc

/-- From whatever states, two actions have the same result. -/
def SameResult (action : Action σ ε α) (other : Action τ ε α) : Prop :=
  ∀ s t, (action.perform s).1 = (other.perform t).1

/-- Actions have the same result if they agree entirely from any states. -/
theorem sameResult_iff_agrees {action : Action σ ε α} {other : Action τ ε α} :
    SameResult action other ↔ Agrees (fun _ _ => True) Eq action other := by
  simp only [SameResult, Agrees, agreement_eq_iff, true_implies, and_true]

/-- An action that has the result of another one agrees with it in every way in which this result
agrees with itself. -/
theorem SameResult.agrees {action : Action σ ε α} {result : Except ε α} {R : α → α → Prop}
    (h : SameResult action (Action.ofExcept result : Action τ ε α))
    (hresult : Agreement R result result) :
    Agrees (fun _ _ => True) R action (Action.ofExcept result : Action τ ε α) := by
  intro s t _
  rw [h s t]
  exact ⟨hresult, trivial⟩

/-- Actions over one state that have the same results and leave the same states are equal. -/
theorem Agrees.eq {action other : Action σ ε α} (h : Agrees Eq Eq action other) :
    action = other := by
  refine ext fun s => ?_
  obtain ⟨hresult, hstate⟩ := h s s rfl
  exact Prod.ext (agreement_eq_iff.mp hresult) hstate

end NetworkIntent.Action
