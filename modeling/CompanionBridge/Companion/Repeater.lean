import CompanionBridge.Bridge.Keymap
import Mathlib.Data.Rat.Defs

/-!
# Held-key auto-repeat

`HoldRepeater` drives the delayed repeats of a held key by one asynchronous
task per hold. A task is modelled by the point at which it is suspended; the
generation number of its hold identifies it. The source's two dictionaries
`_tasks` and `_generations` always change together and are one list here.
-/

namespace CompanionBridge

structure HoldRepeatConfig where
  initialDelay : ℚ := 7 / 20
  interval : ℚ := 9 / 50
  maxHold : ℚ := 10
  deriving DecidableEq

/-- Where a repeat task is suspended. -/
inductive RepeatPoint where
  | created
  | delaying
  | sending (completion : Nat)
  | pausing
  | finished
  deriving DecidableEq, Repr

structure RepeatTask where
  key : String
  point : RepeatPoint := .created
  cancelRequested : Bool := false
  deadline : ℚ := 0
  deriving DecidableEq

/-- `Task.cancel`: a finished task ignores it. -/
def RepeatTask.cancel (task : RepeatTask) : RepeatTask :=
  if task.point = .finished then task else { task with cancelRequested := true }

structure HoldRepeater where
  config : HoldRepeatConfig := {}
  held : List (String × Nat) := []
  tasks : Nat → Option RepeatTask := fun _ => none
  nextGeneration : Nat := 0

namespace HoldRepeater

def setTask (repeater : HoldRepeater) (generation : Nat) (task : RepeatTask) : HoldRepeater :=
  { repeater with
    tasks := fun other => if other = generation then some task else repeater.tasks other }

/-- Forget a held key and cancel its task. The generation returned is the one
whose delayed work is to be purged. -/
def cancel (repeater : HoldRepeater) (key : String) : HoldRepeater × Option Nat :=
  match repeater.held.lookup key with
  | none => (repeater, none)
  | some generation =>
      ({ repeater with
          held := repeater.held.filter fun entry => entry.1 ≠ key
          tasks := fun other =>
            if other = generation then (repeater.tasks other).map RepeatTask.cancel
            else repeater.tasks other },
        some generation)

/-- The last part of `start`, once every other key was cancelled. -/
def create (repeater : HoldRepeater) (key : String) : HoldRepeater × Nat :=
  let generation := repeater.nextGeneration + 1
  ({ repeater with
      held := repeater.held ++ [(key, generation)]
      nextGeneration := generation }.setTask generation { key := key }, generation)

/-- The slot of a task that ends by itself, unless a restart already owns it. -/
def release (repeater : HoldRepeater) (key : String) (generation : Nat) :
    HoldRepeater × Option Nat :=
  if repeater.held.lookup key = some generation then
    ({ repeater with held := repeater.held.filter fun entry => entry.1 ≠ key }, some generation)
  else (repeater, none)

end HoldRepeater

end CompanionBridge
