import Mathlib.Logic.Relation

/-!
# Steps matched with steps

Two relations of labelled steps, and states of one that stand for states of the other. If
every step is matched with one of the same label, so is every run.
-/

namespace Simulation

universe uState uShown uLabel

variable {State : Type uState} {Shown : Type uShown} {Label : Type uLabel}

/-- Steps one after another, and what they show. -/
inductive Runs (step : State → Label → State → Prop) : State → List Label → State → Prop
  | nil (state) : Runs step state [] state
  | cons {first label middle labels last} (hstep : step first label middle)
      (hrest : Runs step middle labels last) : Runs step first (label :: labels) last

/-- Whatever one does from a related state, the other can do, too. -/
def Matches (related : State → Shown → Prop) (step : State → Label → State → Prop)
    (matching : Shown → Label → Shown → Prop) : Prop :=
  ∀ {state label after shown}, related state shown → step state label after →
    ∃ next, matching shown label next ∧ related after next

variable {related : State → Shown → Prop} {step : State → Label → State → Prop}
variable {matching : Shown → Label → Shown → Prop}

/-- The same labels in the same order. -/
theorem Matches.runs (hmatches : Matches related step matching) {state after : State}
    {labels : List Label} {shown : Shown} (hrelated : related state shown)
    (hruns : Runs step state labels after) :
    ∃ next, Runs matching shown labels next ∧ related after next := by
  induction hruns generalizing shown with
  | nil state => exact ⟨shown, .nil shown, hrelated⟩
  | cons hstep _ ih =>
      obtain ⟨middle, hmatching, hmiddle⟩ := hmatches hrelated hstep
      obtain ⟨next, hnext, hlast⟩ := ih hmiddle
      exact ⟨next, .cons hmatching hnext, hlast⟩

end Simulation
