import Mathlib.Data.List.Induction

/-!
# Runs of a partial step function

A machine is a partial step function whose label carries every choice made by
the environment and by the scheduler. A run is a list of labels each of which
was enabled; quantifying over lists of labels therefore quantifies over every
interleaving.
-/

namespace Machine

universe uState uLabel

variable {State : Type uState} {Label : Type uLabel}

/-- Execute a schedule. A label that is not enabled blocks the run. -/
def run (step : State → Label → Option State) : State → List Label → Option State
  | state, [] => some state
  | state, label :: rest =>
      match step state label with
      | none => none
      | some next => run step next rest

variable {step : State → Label → Option State}

@[simp] theorem run_nil (state : State) : run step state [] = some state := rfl

theorem run_cons (state : State) (label : Label) (rest : List Label) (final : State) :
    run step state (label :: rest) = some final ↔
      ∃ next, step state label = some next ∧ run step next rest = some final := by
  simp only [run]
  cases hstep : step state label with
  | none => simp
  | some next => simp

/-- A run splits at every intermediate point. -/
theorem run_append (state : State) (first second : List Label) (final : State) :
    run step state (first ++ second) = some final ↔
      ∃ middle, run step state first = some middle ∧ run step middle second = some final := by
  induction first generalizing state with
  | nil => simp
  | cons label rest ih =>
      simp only [List.cons_append, run_cons, ih]
      constructor
      · rintro ⟨next, hstep, middle, hfirst, hsecond⟩
        exact ⟨middle, ⟨next, hstep, hfirst⟩, hsecond⟩
      · rintro ⟨middle, ⟨next, hstep, hfirst⟩, hsecond⟩
        exact ⟨next, hstep, middle, hfirst, hsecond⟩

/-- A predicate kept by every enabled step is kept by every run. -/
theorem run_invariant (invariant : State → Prop)
    (hstep : ∀ state label next, invariant state → step state label = some next → invariant next)
    {state final : State} {labels : List Label} (hstate : invariant state)
    (hrun : run step state labels = some final) : invariant final := by
  induction labels generalizing state with
  | nil =>
      simp only [run_nil, Option.some.injEq] at hrun
      exact hrun ▸ hstate
  | cons label rest ih =>
      obtain ⟨next, hnext, hrest⟩ := (run_cons state label rest final).mp hrun
      exact ih (hstep state label next hstate hnext) hrest

/-- What holds of the empty schedule and survives each further step holds of every run. -/
theorem run_snoc_induction (motive : List Label → State → Prop) {first : State}
    (hfirst : motive [] first)
    (hstep : ∀ labels state label next, run step first labels = some state →
      motive labels state → step state label = some next → motive (labels ++ [label]) next)
    {labels : List Label} {final : State} (hrun : run step first labels = some final) :
    motive labels final := by
  induction labels using List.reverseRecOn generalizing final with
  | nil =>
      simp only [run_nil, Option.some.injEq] at hrun
      exact hrun ▸ hfirst
  | append_singleton labels label ih =>
      obtain ⟨middle, hmiddle, hlast⟩ := (run_append first labels [label] final).mp hrun
      obtain ⟨next, hnext, hend⟩ := (run_cons middle label [] final).mp hlast
      rw [run_nil, Option.some.injEq] at hend
      subst hend
      exact hstep labels middle label next hmiddle (ih hmiddle) hnext

/-! ## Conditions on the steps of a schedule -/

/-- Each step of a schedule meets a condition in the state it is taken in. -/
def Throughout (step : State → Label → Option State) (start : State) (labels : List Label)
    (condition : State → Label → Prop) : Prop :=
  ∀ before label after state, labels = before ++ label :: after →
    run step start before = some state → condition state label

/-- A condition on all steps of a run holds of the steps of a prefix. -/
theorem Throughout.left {start : State} {before after : List Label}
    {condition : State → Label → Prop}
    (h : Throughout step start (before ++ after) condition) :
    Throughout step start before condition := by
  intro early label rest state hsplit hstate
  refine h early label (rest ++ after) state ?_ hstate
  rw [hsplit, List.append_assoc, List.cons_append]

/-- And of the last step, in the state before it. -/
theorem Throughout.last {start state : State} {labels : List Label} {label : Label}
    {condition : State → Label → Prop}
    (h : Throughout step start (labels ++ [label]) condition)
    (hrun : run step start labels = some state) : condition state label :=
  h labels label [] state rfl hrun

/-- What a schedule meets after one of its steps. -/
theorem Throughout.right {start middle next : State} {before after : List Label} {label : Label}
    {condition : State → Label → Prop}
    (h : Throughout step start (before ++ label :: after) condition)
    (hrun : run step start before = some middle) (hstep : step middle label = some next) :
    Throughout step next after condition := by
  intro early held rest state hsplit hstate
  refine h (before ++ label :: early) held rest state ?_ ?_
  · rw [hsplit, List.append_assoc, List.cons_append]
  · apply (run_append _ _ _ _).mpr
    exact ⟨middle, hrun, (run_cons _ _ _ _).mpr ⟨next, hstep, hstate⟩⟩

theorem Throughout.snoc {start state : State} {labels : List Label} {label : Label}
    {condition : State → Label → Prop} (h : Throughout step start labels condition)
    (hrun : run step start labels = some state) (hlast : condition state label) :
    Throughout step start (labels ++ [label]) condition := by
  intro before held after middle hsplit hmiddle
  rcases List.eq_nil_or_concat after with rfl | ⟨rest, last, rfl⟩
  · obtain ⟨rfl, hheld⟩ := List.append_inj' hsplit rfl
    obtain rfl := List.singleton_inj.mp hheld
    obtain rfl := Option.some.inj (hrun.symm.trans hmiddle)
    exact hlast
  · rw [List.concat_eq_append, ← List.cons_append, ← List.append_assoc] at hsplit
    exact h before held rest middle (List.append_inj' hsplit rfl).1 hmiddle

/-- What each step that meets a condition keeps is kept by a run whose steps all meet it. -/
theorem run_throughout_invariant (invariant : State → Prop)
    {condition : State → Label → Prop}
    (hstep : ∀ state label next, invariant state → condition state label →
      step state label = some next → invariant next)
    {start final : State} {labels : List Label} (hstart : invariant start)
    (hrun : run step start labels = some final) :
    Throughout step start labels condition → invariant final := by
  refine run_snoc_induction
    (fun labels final => Throughout step start labels condition → invariant final)
    (fun _ => hstart) ?_ hrun
  intro labels state label next hlabels hstate hnext hall
  exact hstep state label next (hstate hall.left) (hall.last hlabels) hnext

/-- Check a condition in every step of a schedule. -/
def checkThroughout (step : State → Label → Option State) (condition : State → Label → Bool) :
    State → List Label → Bool
  | _, [] => true
  | state, label :: rest =>
      condition state label &&
        match step state label with
        | none => true
        | some next => checkThroughout step condition next rest

/-- A concrete run is checked step by step. -/
theorem throughout_of_check {condition : State → Label → Bool} {start : State}
    {labels : List Label} (hcheck : checkThroughout step condition start labels = true) :
    Throughout step start labels fun state label => condition state label = true := by
  intro before label after state hsplit hstate
  induction before generalizing start labels with
  | nil =>
      obtain rfl := Option.some.inj hstate
      subst hsplit
      simp only [List.nil_append, checkThroughout, Bool.and_eq_true] at hcheck
      exact hcheck.1
  | cons first before ih =>
      obtain ⟨next, hstep, hrest⟩ := (run_cons _ _ _ _).mp hstate
      subst hsplit
      simp only [List.cons_append, checkThroughout, hstep, Bool.and_eq_true] at hcheck
      exact ih hcheck.2 rfl hrest

end Machine
