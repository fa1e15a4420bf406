import NetworkIntent.Publication.Lifecycle

/-!
# Runs of the life of a publication

Steps are taken one after the other, accepted or not. The history of a publication is the chain of
the accepted ones: it leads from the first stage to the present one, each link being a step that
the stage before it takes. Every accepted step brings a publication closer to its end, so a new
publication takes four of them at most, and is done by the four steps in their order only.

## Main definitions

* `Leads`: a list of transitions that lead from one stage to another one.
* `Lifecycle.advanceAll`: a publication after steps taken one after the other.
* `accepted`: the steps that were accepted.
* `Stage.remaining`, `Stage.Completes`: how many steps a stage may still take, and the steps that
  take it to the end.

## Main results

* `Stage.remaining_of_advance`: an accepted step leaves fewer of them.
* `Stage.completes_cons_iff`: an accepted step leaves the rest of the steps to the end.
* `Lifecycle.leads_advanceAll`: whatever steps are taken, the history leads to the present stage.
* `Lifecycle.advanceAll_recorded`: what the history, the stage and the results of a run are.
-/

set_option autoImplicit false

namespace NetworkIntent.Publication

/-! ## One step -/

namespace Stage

/-- How many steps a stage may still take at most. -/
def remaining : Stage → Nat
  | .idle => 4
  | .branchCreated => 3
  | .filesStaged => 2
  | .requestOpened => 1
  | .done => 0
  | .failed => 0

/-- The steps that take a stage to the end. -/
@[simp] def Completes : Stage → List Step → Prop
  | .idle, .createBranch _ :: steps => Completes .branchCreated steps
  | .branchCreated, .stageFiles _ _ :: steps => Completes .filesStaged steps
  | .filesStaged, .openRequest _ :: steps => Completes .requestOpened steps
  | .requestOpened, .finish :: steps => Completes .done steps
  | .done, [] => True
  | _, _ => False

/-- The steps that a stage takes, with the stages after them. -/
theorem advance_cases {stage next : Stage} {step : Step} {notice : Notice}
    (h : stage.advance step = .ok (next, notice)) :
    (∃ branch, stage = .idle ∧ step = .createBranch branch ∧ next = .branchCreated) ∨
      (∃ committed unchanged, stage = .branchCreated ∧ step = .stageFiles committed unchanged ∧
        next = .filesStaged) ∨
      (∃ state, stage = .filesStaged ∧ step = .openRequest state ∧ next = .requestOpened) ∨
      (stage = .requestOpened ∧ step = .finish ∧ next = .done) ∨
      ∃ reason, ¬stage.isFinal ∧ step = .abort reason ∧ next = .failed := by
  cases stage <;> cases step <;> simp_all [advance, isFinal]

/-- A publication that is done or has failed takes no step. -/
theorem advance_of_isFinal {stage : Stage} (h : stage.isFinal) (step : Step) :
    stage.advance step = .error (.final stage) := by
  unfold advance
  rw [if_pos h]

/-- An accepted step leaves fewer steps to take. -/
theorem remaining_of_advance {stage next : Stage} {step : Step} {notice : Notice}
    (h : stage.advance step = .ok (next, notice)) : next.remaining < stage.remaining := by
  obtain ⟨_, rfl, -, rfl⟩ | ⟨_, _, rfl, -, rfl⟩ | ⟨_, rfl, -, rfl⟩ | ⟨rfl, -, rfl⟩ |
    ⟨_, hfinal, -, rfl⟩ := advance_cases h
  case inr.inr.inr.inr => cases stage <;> simp_all [isFinal, remaining]
  all_goals decide

/-- Nothing is left to do exactly if the publication is done. -/
theorem completes_nil_iff {stage : Stage} : stage.Completes [] ↔ stage = .done := by
  cases stage <;> simp

/-- A failed publication does not get to the end. -/
theorem not_completes_failed (steps : List Step) : ¬Completes .failed steps := by
  cases steps <;> exact id

/-- An accepted step leaves the rest of the steps to the end. -/
theorem completes_cons_iff {stage next : Stage} {step : Step} {notice : Notice}
    {steps : List Step} (h : stage.advance step = .ok (next, notice)) :
    stage.Completes (step :: steps) ↔ next.Completes steps := by
  obtain ⟨_, rfl, rfl, rfl⟩ | ⟨_, _, rfl, rfl, rfl⟩ | ⟨_, rfl, rfl, rfl⟩ | ⟨rfl, rfl, rfl⟩ |
    ⟨_, -, rfl, rfl⟩ := advance_cases h
  case inr.inr.inr.inr =>
    -- A publication that is given up neither ends with this step nor with any later one.
    refine iff_of_false ?_ (not_completes_failed steps)
    cases stage <;> exact id
  all_goals exact Iff.rfl

/-- A publication that is done takes no step to the end. -/
theorem completes_done_iff {steps : List Step} : Completes .done steps ↔ steps = [] := by
  cases steps <;> simp

/-- With its merge request opened, a publication only has to finish. -/
theorem completes_requestOpened_iff {steps : List Step} :
    Completes .requestOpened steps ↔ steps = [.finish] := by
  obtain _ | ⟨_ | _ | _ | _ | _, steps⟩ := steps <;> simp [completes_done_iff]

/-- With its files staged, a publication opens its merge request. -/
theorem completes_filesStaged_iff {steps : List Step} :
    Completes .filesStaged steps ↔ ∃ state, steps = [.openRequest state, .finish] := by
  obtain _ | ⟨_ | _ | _ | _ | _, steps⟩ := steps <;> simp [completes_requestOpened_iff]

/-- With its branch created, a publication stages its files. -/
theorem completes_branchCreated_iff {steps : List Step} :
    Completes .branchCreated steps ↔ ∃ committed unchanged state,
      steps = [.stageFiles committed unchanged, .openRequest state, .finish] := by
  obtain _ | ⟨_ | _ | _ | _ | _, steps⟩ := steps <;> simp [completes_filesStaged_iff]

/-- A new publication is done by four steps in their order. -/
theorem completes_idle_iff {steps : List Step} :
    Completes .idle steps ↔ ∃ branch committed unchanged state,
      steps = [.createBranch branch, .stageFiles committed unchanged, .openRequest state,
        .finish] := by
  obtain _ | ⟨_ | _ | _ | _ | _, steps⟩ := steps <;> simp [completes_branchCreated_iff]

end Stage

/-! ## Chains of transitions -/

/-- A list of transitions leads from one stage to another one: each transition starts where the
one before it finishes, and its step is one that the stage before it takes. -/
inductive Leads : Stage → List Transition → Stage → Prop
  /-- No transition leads from a stage to itself. -/
  | nil (stage : Stage) : Leads stage [] stage
  /-- An accepted step comes before a chain from the stage after it. -/
  | cons {start next finish : Stage} {step : Step} {notice : Notice} {history : List Transition}
    (accepted : start.advance step = .ok (next, notice)) (rest : Leads next history finish) :
    Leads start (⟨start, next, step⟩ :: history) finish

namespace Leads

variable {start middle finish : Stage} {history : List Transition} {step : Step} {notice : Notice}

/-- A chain is continued by a step that its last stage takes. -/
theorem snoc (h : Leads start history middle) (hstep : middle.advance step = .ok (finish, notice)) :
    Leads start (history ++ [⟨middle, finish, step⟩]) finish := by
  induction h with
  | nil stage => exact .cons hstep (.nil finish)
  | cons haccepted _ ih => exact .cons haccepted (ih hstep)

/-- A chain has no more transitions than the steps its first stage may take. -/
theorem length_add_remaining_le (h : Leads start history finish) :
    history.length + finish.remaining ≤ start.remaining := by
  induction h with
  | nil stage => simp
  | cons haccepted _ ih =>
    have hlt := Stage.remaining_of_advance haccepted
    simp only [List.length_cons]
    omega

/-- A chain leads to the end exactly if its steps do. -/
theorem completes_iff (h : Leads start history finish) :
    start.Completes (history.map Transition.step) ↔ finish = .done := by
  induction h with
  | nil stage => exact Stage.completes_nil_iff
  | cons haccepted _ ih =>
    rw [List.map_cons, Stage.completes_cons_iff haccepted]
    exact ih

end Leads

/-! ## Runs -/

/-- The steps that were accepted, given what each of them resulted in. -/
def accepted (steps : List Step) (results : List (Except Refusal Notice)) : List Step :=
  ((steps.zip results).filter fun (_, result) => result.isOk).map Prod.fst

namespace Lifecycle

variable {lifecycle next : Lifecycle} {step : Step} {notice : Notice} {refusal : Refusal}

/-- What steps taken one after the other result in, and the publication after the last one. -/
def advanceAll : List Step → Lifecycle → List (Except Refusal Notice) × Lifecycle
  | [], lifecycle => ([], lifecycle)
  | step :: steps, lifecycle =>
    let (result, next) := lifecycle.advance step
    let (results, last) := next.advanceAll steps
    (result :: results, last)

/-- A step that is not accepted changes nothing, and it is one that the stage does not take. -/
theorem advance_eq_error_iff :
    lifecycle.advance step = (.error refusal, next) ↔
      lifecycle.stage.advance step = .error refusal ∧ next = lifecycle := by
  unfold advance
  rcases lifecycle.stage.advance step with cause | ⟨stage, notice⟩
  · simp [eq_comm]
  · simp

/-- An accepted step is one that the stage takes, and it is recorded with the stages before and
after it. -/
theorem advance_eq_ok_iff :
    lifecycle.advance step = (.ok notice, next) ↔
      lifecycle.stage.advance step = .ok (next.stage, notice) ∧
        next.history = lifecycle.history ++ [⟨lifecycle.stage, next.stage, step⟩] := by
  obtain ⟨stage, history⟩ := next
  unfold advance
  rcases lifecycle.stage.advance step with cause | ⟨stage', notice'⟩
  · simp
  · simp only [Prod.mk.injEq, Except.ok.injEq, Lifecycle.mk.injEq]
    constructor
    · rintro ⟨rfl, rfl, rfl⟩
      simp
    · rintro ⟨⟨rfl, rfl⟩, rfl⟩
      simp

/-- After a publication that is done or has failed, every step is rejected. -/
theorem advanceAll_of_isFinal (h : lifecycle.stage.isFinal) (steps : List Step) :
    lifecycle.advanceAll steps =
      (steps.map fun _ => .error (.final lifecycle.stage), lifecycle) := by
  induction steps with
  | nil => rfl
  | cons step steps ih =>
    have hstep : lifecycle.advance step = (.error (.final lifecycle.stage), lifecycle) :=
      advance_eq_error_iff.mpr ⟨Stage.advance_of_isFinal h step, rfl⟩
    simp only [advanceAll, hstep, ih, List.map_cons]

/-- Whatever steps are taken, each has a result, the history goes on leading to the present stage,
and it goes on with the accepted steps.

**Proof sketch.** By induction on the steps, for every publication whose history leads to its
stage. A rejected step leaves the publication as it is and is not listed. An accepted one adds the
one link by which its stage follows, so the chain is continued. -/
theorem leads_advanceAll (start : Stage) (steps : List Step) : ∀ lifecycle : Lifecycle,
    Leads start lifecycle.history lifecycle.stage →
    let (results, last) := lifecycle.advanceAll steps
    results.length = steps.length ∧ Leads start last.history last.stage ∧
      last.history.map Transition.step =
        lifecycle.history.map Transition.step ++ accepted steps results := by
  induction steps with
  | nil =>
    intro lifecycle hleads
    exact ⟨rfl, hleads, (List.append_nil _).symm⟩
  | cons step steps ih =>
    intro lifecycle hleads
    rcases hstep : lifecycle.advance step with ⟨refusal | notice, next⟩
    · obtain ⟨-, rfl⟩ := advance_eq_error_iff.mp hstep
      obtain ⟨hlength, hlast, hsteps⟩ := ih next hleads
      simp only [advanceAll, hstep, List.length_cons, hlength]
      exact ⟨trivial, hlast, hsteps⟩
    · obtain ⟨haccepted, hhistory⟩ := advance_eq_ok_iff.mp hstep
      have hnext : Leads start next.history next.stage := by
        rw [hhistory]
        exact hleads.snoc haccepted
      obtain ⟨hlength, hlast, hsteps⟩ := ih next hnext
      simp only [advanceAll, hstep, List.length_cons, hlength]
      refine ⟨trivial, hlast, ?_⟩
      rw [hsteps, hhistory, List.map_append, List.append_assoc]
      rfl

/-- **The history of a publication is the chain of its accepted steps.** Whatever the first stage
and whatever steps are taken, the history leads from the first stage to the present one by steps
that the stages take, and lists exactly the steps that were accepted. A further step is either
taken by the present stage and recorded with what it leads to, or it is rejected as the stage
rejects it and changes nothing. A publication that is done or has failed rejects every step from
then on. A new one takes four steps at most, and it is done exactly if these are the creation of a
branch, the staging of files, the opening of a merge request and the end, in this order.

**Proof sketch.** The chain is `leads_advanceAll` for a publication without history. A chain has
no more links than the steps its first stage may take, by `Leads.length_add_remaining_le`, and it
leads to the end if its steps do, by `Leads.completes_iff`. -/
theorem advanceAll_recorded (start : Stage) (steps : List Step) :
    ∃ results last, (new start).advanceAll steps = (results, last) ∧
      results.length = steps.length ∧
      Leads start last.history last.stage ∧
      last.history.map Transition.step = accepted steps results ∧
      (∀ step,
        (∃ notice next, last.advance step = (.ok notice, next) ∧
          last.stage.advance step = .ok (next.stage, notice) ∧
          next.history = last.history ++ [⟨last.stage, next.stage, step⟩]) ∨
        ∃ refusal, last.advance step = (.error refusal, last) ∧
          last.stage.advance step = .error refusal) ∧
      (last.stage = .done ∨ last.stage = .failed → ∀ more,
        last.advanceAll more = (more.map fun _ => .error (.final last.stage), last)) ∧
      (start = .idle →
        (accepted steps results).length ≤ 4 ∧
        (last.stage = .done ↔ ∃ branch committed unchanged state,
          accepted steps results = [.createBranch branch, .stageFiles committed unchanged,
            .openRequest state, .finish])) := by
  rcases hrun : (new start).advanceAll steps with ⟨results, last⟩
  obtain ⟨hlength, hchain, hsteps⟩ : results.length = steps.length ∧
      Leads start last.history last.stage ∧
      last.history.map Transition.step = accepted steps results := by
    have hleads := leads_advanceAll start steps (new start) (.nil start)
    rw [hrun] at hleads
    exact hleads
  refine ⟨results, last, rfl, hlength, hchain, hsteps, ?_, ?_, ?_⟩
  · intro step
    rcases hstep : last.advance step with ⟨refusal | notice, next⟩
    · obtain ⟨hrefused, rfl⟩ := advance_eq_error_iff.mp hstep
      exact .inr ⟨refusal, rfl, hrefused⟩
    · exact .inl ⟨notice, next, rfl, advance_eq_ok_iff.mp hstep⟩
  · intro hfinal more
    apply advanceAll_of_isFinal
    obtain hdone | hfailed := hfinal
    · rw [hdone]
      rfl
    · rw [hfailed]
      rfl
  · rintro rfl
    rw [← hsteps, ← Stage.completes_idle_iff, hchain.completes_iff, List.length_map]
    have hle : last.history.length + last.stage.remaining ≤ Stage.remaining .idle :=
      hchain.length_add_remaining_le
    have hidle : Stage.remaining .idle = 4 := rfl
    exact ⟨by omega, Iff.rfl⟩

/-- Rejected steps in between are neither recorded nor do they change what follows. -/
example :
    ((new .idle).advanceAll [.finish, .createBranch "b", .finish, .abort "late", .abort "again"]).2 =
      ⟨.failed, [⟨.idle, .branchCreated, .createBranch "b"⟩,
        ⟨.branchCreated, .failed, .abort "late"⟩]⟩ := by
  rfl

end Lifecycle

end NetworkIntent.Publication
