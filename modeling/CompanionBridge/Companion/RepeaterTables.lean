import CompanionBridge.Companion.Repeater
import CompanionBridge.Library.History
import CompanionBridge.Library.Brackets

/-!
# The repeater by itself

`HoldRepeater` with the two dictionaries `_tasks` and `_generations` apart, the
task objects it created, and a log of what the outside sees of them. A label is
one synchronous call or one resumption of a task by the event loop.
-/

namespace CompanionBridge

/-- What the outside sees of a generation, in order. `sent` is the beginning of
a send, at the clock reading that let it begin. -/
inductive RepeatEvent where
  | started (generation : Nat)
  | firstStep (generation : Nat) (now : ℚ)
  | sent (generation : Nat) (now : ℚ)
  | stopped (generation : Nat)
  deriving DecidableEq

/-- One coroutine `_run(key, generation)` and where it is suspended. -/
structure RepeatRun extends RepeatTask where
  generation : Nat
  deriving DecidableEq

def RepeatRun.cancel (run : RepeatRun) : RepeatRun :=
  { run with toRepeatTask := run.toRepeatTask.cancel }

/-- A task object is named by its position in `runs`. -/
structure RepeaterTables where
  config : HoldRepeatConfig := {}
  tasks : List (String × Nat) := []
  generations : List (String × Nat) := []
  nextGeneration : Nat := 0
  runs : List RepeatRun := []
  log : List RepeatEvent := []
  deriving DecidableEq

namespace RepeaterTables

/-- `dict.pop(key, None)`, without the value it returns. -/
def pop (key : String) (table : List (String × Nat)) : List (String × Nat) :=
  table.filter fun entry => entry.1 ≠ key

/-- `_notify_stop`. The callback does not raise out of it. -/
def notifyStop (repeater : RepeaterTables) : Option Nat → RepeaterTables
  | none => repeater
  | some generation => { repeater with log := repeater.log ++ [.stopped generation] }

def cancelTask (repeater : RepeaterTables) : Option Nat → RepeaterTables
  | none => repeater
  | some task => { repeater with runs := repeater.runs.modify task RepeatRun.cancel }

/-- `_cancel`: both entries of the key go, its task is cancelled and `on_stop` called. -/
def cancel (repeater : RepeaterTables) (key : String) : RepeaterTables × Option Nat :=
  let generation := repeater.generations.lookup key
  let task := repeater.tasks.lookup key
  let popped := { repeater with
    generations := pop key repeater.generations
    tasks := pop key repeater.tasks }
  ((popped.cancelTask task).notifyStop generation, generation)

def cancelAll (repeater : RepeaterTables) : List String → RepeaterTables
  | [] => repeater
  | key :: rest => (repeater.cancel key).1.cancelAll rest

/-- The last part of `start`, once every other key was cancelled. -/
def create (repeater : RepeaterTables) (key : String) : RepeaterTables × Nat :=
  let generation := repeater.nextGeneration + 1
  ({ repeater with
      nextGeneration := generation
      runs := repeater.runs ++ [{ key := key, generation := generation }]
      tasks := repeater.tasks ++ [(key, repeater.runs.length)]
      generations := repeater.generations ++ [(key, generation)]
      log := repeater.log ++ [.started generation] }, generation)

/-- `start`. A key that is held already keeps its generation; `none` would be
the `KeyError` of a task without a generation. -/
def start (repeater : RepeaterTables) (key : String) : RepeaterTables × Option Nat :=
  match repeater.tasks.lookup key with
  | some _ => (repeater, repeater.generations.lookup key)
  | none =>
      let created := (repeater.cancelAll (repeater.tasks.map Prod.fst)).create key
      (created.1, some created.2)

def stop (repeater : RepeaterTables) (key : String) : RepeaterTables × Option Nat :=
  repeater.cancel key

/-- `stop_all_now`, over the keys of either dictionary. -/
def stopAllNow (repeater : RepeaterTables) : RepeaterTables :=
  repeater.cancelAll (repeater.tasks.map Prod.fst ∪ repeater.generations.map Prod.fst)

/-! ## The steps of a task -/

def setRun (repeater : RepeaterTables) (task : Nat) (run : RepeatRun) : RepeaterTables :=
  { repeater with runs := repeater.runs.set task run }

/-- The `finally` of `_run`: the slot is given up only if this task still owns it. -/
def finish (repeater : RepeaterTables) (task : Nat) (run : RepeatRun) : RepeaterTables :=
  let finished := repeater.setRun task { run with point := .finished }
  if repeater.tasks.lookup run.key = some task then
    { finished with
      tasks := pop run.key repeater.tasks
      generations := pop run.key repeater.generations }.notifyStop
        (repeater.generations.lookup run.key)
  else finished

/-- The head of the repeat loop. A clock at the deadline is the safety cap, and
`alive` is what `_alive` answered. -/
def repeatOnce (repeater : RepeaterTables) (task : Nat) (run : RepeatRun) (now : ℚ)
    (alive : Bool) (completion : Nat) : RepeaterTables :=
  if now < run.deadline ∧ alive = true then
    { repeater.setRun task { run with point := .sending completion } with
      log := repeater.log ++ [.sent run.generation now] }
  else repeater.finish task run

/-- The event loop resumes a task at its first step or after a sleep. A task
cancelled before its first step never enters `_run`. -/
def resume (repeater : RepeaterTables) (task : Nat) (now : ℚ) (alive : Bool)
    (completion : Nat) : Option RepeaterTables :=
  match repeater.runs[task]? with
  | none => none
  | some run =>
      match run.point, run.cancelRequested with
      | .created, true => some (repeater.setRun task { run with point := .finished })
      | .created, false =>
          some { repeater.setRun task
              { run with point := .delaying, deadline := now + repeater.config.maxHold } with
            log := repeater.log ++ [.firstStep run.generation now] }
      | .delaying, false | .pausing, false =>
          some (repeater.repeatOnce task run now alive completion)
      | .delaying, true | .pausing, true => some (repeater.finish task run)
      | .sending _, _ | .finished, _ => none

/-- The send a task awaits returns. A request to cancel made while the send ran
without suspending is still pending then. -/
def sendReturned (repeater : RepeaterTables) (task : Nat) : Option RepeaterTables :=
  match repeater.runs[task]? with
  | none => none
  | some run =>
      match run.point with
      | .sending _ => some (repeater.setRun task { run with point := .pausing })
      | _ => none

/-- The await a task is suspended at raises: a failed send, or a cancellation. -/
def awaitRaised (repeater : RepeaterTables) (task : Nat) : Option RepeaterTables :=
  match repeater.runs[task]? with
  | none => none
  | some run =>
      match run.point with
      | .delaying | .sending _ | .pausing => some (repeater.finish task run)
      | .created | .finished => none

end RepeaterTables

/-- One synchronous call into the repeater or one resumption of a task. -/
inductive RepeatLabel where
  | start (key : String)
  | stop (key : String)
  | stopAllNow
  | resume (task : Nat) (now : ℚ) (alive : Bool) (completion : Nat)
  | sendReturned (task : Nat)
  | awaitRaised (task : Nat)
  deriving DecidableEq

def RepeaterTables.step (repeater : RepeaterTables) : RepeatLabel → Option RepeaterTables
  | .start key => some (repeater.start key).1
  | .stop key => some (repeater.stop key).1
  | .stopAllNow => some repeater.stopAllNow
  | .resume task now alive completion => repeater.resume task now alive completion
  | .sendReturned task => repeater.sendReturned task
  | .awaitRaised task => repeater.awaitRaised task

end CompanionBridge
