import Mathlib.Data.List.Forall2
import NetworkIntent.Action

/-!
# Laws of actions

What the combinators of actions do when they are performed, and four relations that are proved of
an action part by part: that its results are the ones with a property, that its results have a
property, that it only appends to a log, and that it does the same as another action over a smaller
state.

## Main definitions

* `Action.Yields`: the action leaves its state alone and results in exactly what has a property.
* `Action.CanGive`, `Action.Ensures`: the action may result in a value, and it results in nothing
  but what has a property.
* `Action.Appends`: the action only appends entries with a property to a log.
* `Action.Mirrors`: the action does, in a part of its state, the same as another one.
* `Action.beside`: the action with a further state that it does not touch.

## Main results

* `Action.Yields.bind`, `Action.Ensures.bind`, `Action.Appends.bind`, `Action.Mirrors.bind`: the
  relations are kept by sequencing.
* `Action.Yields.mapM`, `Action.Ensures.mapM`: what an action yields or ensures for each item of a
  list.
-/

set_option autoImplicit false

namespace NetworkIntent.Action

variable {σ τ υ ε δ α β ρ : Type}

/-! ## Performing -/

/-- An action that does nothing has its result at once. -/
@[simp] theorem perform_pure (a : α) (s : σ) :
    (pure a : Action σ ε α).perform s = (.ok a, s) := rfl

/-- A step is performed by its function. -/
@[simp] theorem perform_step (next : σ → Except ε α × σ) (s : σ) :
    (step next).perform s = next s := rfl

/-- A result that is there already leaves the state alone. -/
@[simp] theorem perform_ofExcept (result : Except ε α) (s : σ) :
    (ofExcept result : Action σ ε α).perform s = (result, s) := rfl

/-- How a failure is told does not matter for the state. -/
theorem perform_mapFailure (tell : ε → δ) (action : Action σ ε α) (s : σ) :
    (action.mapFailure tell).perform s =
      ((action.perform s).1.mapError tell, (action.perform s).2) := rfl

/-- Actions are equal if they are performed alike. -/
theorem ext {action other : Action σ ε α} (h : ∀ s, action.perform s = other.perform s) :
    action = other :=
  funext h

/-- The second of two actions is performed after the first one has succeeded. -/
theorem perform_bind (action : Action σ ε α) (next : α → Action σ ε β) (s : σ) :
    (action >>= next).perform s =
      match action.perform s with
      | (.ok a, s) => (next a).perform s
      | (.error e, s) => (.error e, s) := by
  simp only [perform, bind, ExceptT.bind, ExceptT.run, ExceptT.mk, StateT.run, StateT.bind]
  change (match action s with | (a, s') => ExceptT.bindCont next a s') = _
  rcases action s with ⟨_ | a, s'⟩ <;> rfl

/-- Nothing follows an action that has failed. -/
theorem perform_bind_error {action : Action σ ε α} {s s' : σ} {e : ε}
    (h : action.perform s = (.error e, s')) (next : α → Action σ ε β) :
    (action >>= next).perform s = (.error e, s') := by
  rw [perform_bind, h]

/-- What follows an action that has succeeded goes on from its result and state. -/
theorem perform_bind_ok {action : Action σ ε α} {s s' : σ} {a : α}
    (h : action.perform s = (.ok a, s')) (next : α → Action σ ε β) :
    (action >>= next).perform s = (next a).perform s' := by
  rw [perform_bind, h]

/-- A result of two actions comes from results of both. -/
theorem exists_of_perform_bind_ok {action : Action σ ε α} {next : α → Action σ ε β} {s s' : σ}
    {b : β} (h : (action >>= next).perform s = (.ok b, s')) :
    ∃ a t, action.perform s = (.ok a, t) ∧ (next a).perform t = (.ok b, s') := by
  rw [perform_bind] at h
  rcases hp : action.perform s with ⟨_ | a, t⟩
  · simp [hp] at h
  · exact ⟨a, t, rfl, by simpa [hp] using h⟩

/-- Two actions have a result exactly if the second one has it after a result of the first one. -/
theorem perform_bind_eq_ok_iff {action : Action σ ε α} {next : α → Action σ ε β} {s s' : σ} {b : β} :
    (action >>= next).perform s = (.ok b, s') ↔
      ∃ a t, action.perform s = (.ok a, t) ∧ (next a).perform t = (.ok b, s') := by
  constructor
  · exact exists_of_perform_bind_ok
  · rintro ⟨a, t, haction, hnext⟩
    rw [perform_bind_ok haction, hnext]

/-- What follows a result that is there already goes on from it. -/
@[simp] theorem ofExcept_ok_bind (a : α) (next : α → Action σ ε β) :
    ofExcept (.ok a) >>= next = next a := rfl

/-- Nothing follows a failure that is there already. -/
@[simp] theorem ofExcept_error_bind (e : ε) (next : α → Action σ ε β) :
    ofExcept (.error e) >>= next = ofExcept (.error e) := rfl

/-- Results that are there already for all items of a list are gone through at once. -/
theorem mapM_ofExcept (read : β → Except ε α) (items : List β) :
    items.mapM (fun item => (ofExcept (read item) : Action σ ε α)) = ofExcept (items.mapM read) := by
  induction items with
  | nil => rfl
  | cons item rest ih =>
    rw [List.mapM_cons, List.mapM_cons, ih]
    rcases read item with e | a
    · rfl
    · rcases rest.mapM read with e | others <;> rfl

/-! ## Results with a property -/

/-- Whatever the state is, an action that succeeds leaves it alone, and it can result in exactly
what has a property. -/
def Yields (action : Action σ ε α) (P : α → Prop) : Prop :=
  ∀ s a t, action.perform s = (.ok a, t) ↔ t = s ∧ P a

/-- A result that is there already is yielded. -/
theorem Yields.ofExcept (result : Except ε α) :
    Yields (Action.ofExcept result : Action σ ε α) (result = .ok ·) := by
  intro s a t
  rw [perform_ofExcept, Prod.mk.injEq, and_comm, @eq_comm _ s]

/-- Doing nothing yields its result. -/
theorem Yields.pure (a : α) : Yields (Pure.pure a : Action σ ε α) (· = a) := by
  intro s b t
  rw [perform_pure, Prod.mk.injEq, Except.ok.injEq, and_comm, @eq_comm _ s, @eq_comm _ a]

/-- The same results have the same property in other words. -/
theorem Yields.congr {action : Action σ ε α} {P Q : α → Prop} (h : Yields action P)
    (hPQ : ∀ a, P a ↔ Q a) : Yields action Q :=
  fun s a t => by rw [h s a t, hPQ]

/-- The results of an action from one state tell all that it can result in. -/
theorem Yields.result_eq_ok_iff {action : Action σ ε α} {P : α → Prop} (h : Yields action P)
    (s : σ) {a : α} : (action.perform s).1 = .ok a ↔ P a := by
  constructor
  · intro ha
    exact ((h s a (action.perform s).2).mp (Prod.ext ha rfl)).2
  · intro ha
    rw [(h s a s).mpr ⟨rfl, ha⟩]

/-- What an action yields from one state it yields from every other one. -/
theorem Yields.perform_eq {action : Action σ ε α} {P : α → Prop} (h : Yields action P) {s t : σ}
    {a : α} (ha : action.perform s = (.ok a, t)) (s' : σ) : action.perform s' = (.ok a, s') :=
  (h s' a s').mpr ⟨rfl, ((h s a t).mp ha).2⟩

/-- How a failure is told does not matter for the results. -/
theorem Yields.mapFailure {action : Action σ ε α} {P : α → Prop} (h : Yields action P)
    (tell : ε → δ) : Yields (action.mapFailure tell) P := by
  intro s a t
  rw [← h s a t]
  rw [perform_mapFailure]
  rcases action.perform s with ⟨_ | b, s'⟩ <;> simp [Except.mapError]

/-- Two actions yield what the second one yields after some result of the first one. -/
theorem Yields.bind {action : Action σ ε α} {next : α → Action σ ε β} {P : α → Prop}
    {Q : α → β → Prop} (h : Yields action P) (h' : ∀ a, Yields (next a) (Q a)) :
    Yields (action >>= next) fun b => ∃ a, P a ∧ Q a b := by
  intro s b t
  constructor
  · intro hb
    obtain ⟨a, u, ha, hnext⟩ := exists_of_perform_bind_ok hb
    obtain ⟨rfl, hP⟩ := (h s a u).mp ha
    obtain ⟨rfl, hQ⟩ := (h' a u b t).mp hnext
    exact ⟨rfl, a, hP, hQ⟩
  · rintro ⟨rfl, a, hP, hQ⟩
    rw [perform_bind_ok ((h t a t).mpr ⟨rfl, hP⟩)]
    exact (h' a t b t).mpr ⟨rfl, hQ⟩

/-- An action for each item of a list yields one result for each of them, in their order. -/
theorem Yields.mapM {next : β → Action σ ε α} {P : β → α → Prop}
    (h : ∀ b, Yields (next b) (P b)) (items : List β) :
    Yields (items.mapM next) (List.Forall₂ P items) := by
  induction items with
  | nil =>
    rw [List.mapM_nil]
    exact (Yields.pure []).congr fun results => List.forall₂_nil_left_iff.symm
  | cons item rest ih =>
    rw [List.mapM_cons]
    refine ((h item).bind fun a => ih.bind fun as => Yields.pure (a :: as)).congr fun results => ?_
    rw [List.forall₂_cons_left_iff]
    exact ⟨fun ⟨a, ha, as, has, hr⟩ => ⟨a, as, ha, has, hr⟩,
      fun ⟨a, as, ha, has, hr⟩ => ⟨a, ha, as, has, hr⟩⟩

/-! ## Results that have a property -/

/-- An action may result in a value, from some state. -/
def CanGive (action : Action σ ε α) (a : α) : Prop :=
  ∃ s t, action.perform s = (.ok a, t)

/-- Whatever the state is, an action results in nothing but what has a property. -/
def Ensures (action : Action σ ε α) (P : α → Prop) : Prop :=
  ∀ a, action.CanGive a → P a

/-- The results of an action are among those that it may have. -/
theorem Ensures.canGive (action : Action σ ε α) : Ensures action action.CanGive :=
  fun _ h => h

/-- A result that is there already is ensured. -/
theorem Ensures.ofExcept (result : Except ε α) :
    Ensures (Action.ofExcept result : Action σ ε α) (result = .ok ·) := by
  rintro a ⟨s, t, h⟩
  exact congrArg Prod.fst h

/-- Doing nothing ensures what holds of its result. -/
theorem Ensures.pure {P : α → Prop} {a : α} (h : P a) :
    Ensures (Pure.pure a : Action σ ε α) P := by
  rintro b ⟨s, t, hb⟩
  cases hb
  exact h

/-- How a failure is told does not matter for the results. -/
theorem Ensures.mapFailure {action : Action σ ε α} {P : α → Prop} (h : Ensures action P)
    (tell : ε → δ) : Ensures (action.mapFailure tell) P := by
  rintro a ⟨s, t, ha⟩
  rw [perform_mapFailure] at ha
  rcases haction : action.perform s with ⟨_ | b, s'⟩
  · simp [haction, Except.mapError] at ha
  · obtain ⟨rfl, -⟩ : b = a ∧ s' = t := by simpa [haction, Except.mapError] using ha
    exact h b ⟨s, s', haction⟩

/-- Two actions ensure what the second one does after any result of the first one. -/
theorem Ensures.bind {action : Action σ ε α} {next : α → Action σ ε β} {P : α → Prop}
    {Q : β → Prop} (h : Ensures action P) (h' : ∀ a, P a → Ensures (next a) Q) :
    Ensures (action >>= next) Q := by
  rintro b ⟨s, t, hb⟩
  obtain ⟨a, u, ha, hnext⟩ := exists_of_perform_bind_ok hb
  exact h' a (h a ⟨s, u, ha⟩) b ⟨u, t, hnext⟩

/-- An action for each item of a list ensures something of one result for each of them, in their
order. -/
theorem Ensures.mapM {next : β → Action σ ε α} {P : β → α → Prop}
    (h : ∀ b, Ensures (next b) (P b)) (items : List β) :
    Ensures (items.mapM next) (List.Forall₂ P items) := by
  induction items with
  | nil => exact Ensures.pure .nil
  | cons item rest ih =>
    rw [List.mapM_cons]
    exact (h item).bind fun a ha => ih.bind fun as has => Ensures.pure (.cons ha has)

/-! ## Appending to a log -/

/-- Whatever the state is, the action appends entries to a log that is part of it, all of them with
a property. -/
def Appends (log : σ → List ρ) (P : ρ → Prop) (action : Action σ ε α) : Prop :=
  ∀ s, ∃ new, log (action.perform s).2 = log s ++ new ∧ ∀ entry ∈ new, P entry

/-- A result that is there already appends nothing. -/
theorem Appends.ofExcept (log : σ → List ρ) (P : ρ → Prop) (result : Except ε α) :
    Appends log P (Action.ofExcept result : Action σ ε α) :=
  fun _ => ⟨[], by simp, by simp⟩

/-- Doing nothing appends nothing. -/
theorem Appends.pure (log : σ → List ρ) (P : ρ → Prop) (a : α) :
    Appends log P (Pure.pure a : Action σ ε α) :=
  fun _ => ⟨[], by simp, by simp⟩

/-- Two actions append what the first one appends and then what the second one appends. -/
theorem Appends.bind {log : σ → List ρ} {P : ρ → Prop} {action : Action σ ε α}
    {next : α → Action σ ε β} (h : Appends log P action) (h' : ∀ a, Appends log P (next a)) :
    Appends log P (action >>= next) := by
  intro s
  obtain ⟨new, hnew, hP⟩ := h s
  rcases hp : action.perform s with ⟨_ | a, t⟩
  · rw [perform_bind_error hp]
    exact ⟨new, by simpa [hp] using hnew, hP⟩
  · rw [perform_bind_ok hp]
    obtain ⟨more, hmore, hP'⟩ := h' a t
    refine ⟨new ++ more, ?_, ?_⟩
    · rw [hmore, ← List.append_assoc, ← hnew, hp]
    · intro entry he
      rcases List.mem_append.mp he with he | he
      · exact hP entry he
      · exact hP' entry he

/-! ## Mirroring an action over a smaller state -/

/-- Seen through a view of its state, an action has the results and does the steps of another
one. -/
def Mirrors (view : τ → σ) (action : Action τ ε α) (image : Action σ ε α) : Prop :=
  ∀ t, image.perform (view t) = ((action.perform t).1, view (action.perform t).2)

/-- A result that is there already mirrors itself. -/
theorem Mirrors.ofExcept (view : τ → σ) (result : Except ε α) :
    Mirrors view (Action.ofExcept result : Action τ ε α) (Action.ofExcept result) :=
  fun _ => rfl

/-- Doing nothing mirrors itself. -/
theorem Mirrors.pure (view : τ → σ) (a : α) :
    Mirrors view (Pure.pure a : Action τ ε α) (Pure.pure a) :=
  fun _ => rfl

/-- Sequences of actions mirror each other if their parts do. -/
theorem Mirrors.bind {view : τ → σ} {action : Action τ ε α} {image : Action σ ε α}
    {next : α → Action τ ε β} {nextImage : α → Action σ ε β} (h : Mirrors view action image)
    (h' : ∀ a, Mirrors view (next a) (nextImage a)) :
    Mirrors view (action >>= next) (image >>= nextImage) := by
  intro t
  have ht := h t
  rcases hp : action.perform t with ⟨e | a, t'⟩
  · rw [hp] at ht
    rw [perform_bind_error ht, perform_bind_error hp]
  · rw [hp] at ht
    rw [perform_bind_ok ht, perform_bind_ok hp, h' a t']

/-- An action with a further state beside its own, which it does not touch. -/
def beside (action : Action σ ε α) : Action (τ × σ) ε α :=
  .step fun (t, s) =>
    let (result, s) := action.perform s
    (result, t, s)

/-- An action beside a further state leaves it alone. -/
@[simp] theorem perform_beside (action : Action σ ε α) (t : τ) (s : σ) :
    action.beside.perform (t, s) = ((action.perform s).1, t, (action.perform s).2) := rfl

/-- Two actions in sequence stand beside a further state as each of them does. -/
theorem beside_bind (action : Action σ ε α) (next : α → Action σ ε β) :
    (action >>= next).beside (τ := τ) = action.beside >>= fun a => (next a).beside := by
  refine ext fun ⟨t, s⟩ => ?_
  rw [perform_beside, perform_bind, perform_bind, perform_beside]
  rcases action.perform s with ⟨_ | a, s'⟩ <;> rfl

/-- With the further state left out, an action beside another state is the action itself. -/
theorem mirrors_beside (action : Action σ ε α) :
    Mirrors (Prod.snd : τ × σ → σ) action.beside action :=
  fun _ => rfl

end NetworkIntent.Action
