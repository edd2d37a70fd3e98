import CompanionBridge.Companion.Relay
import Mathlib.Logic.Function.Basic

/-!
# The bounded, ordered dispatch lane

One worker serves every Companion session. Owners are the identities of live
TV-remote sessions; each carries an authorization check and a callback to run
when the check fails. The lane below follows the source one operation at a
time. Two fields are bookkeeping the source does not have: `log`, which records
what the lane did in order, and `nextTicket`, which numbers acceptances.

The worker is an asynchronous task. It is modelled by the point at which it is
suspended and by whether a `cancel()` is still to be delivered to it; the code
between two suspension points is one operation.
-/

namespace CompanionBridge

/-- Fixed categories safe to expose outside the Samsung dispatch boundary. -/
inductive DispatchFailureCategory where
  | timeout | connection | os | value | runtime | other
  deriving DecidableEq, Repr

/-- State of the future returned by `submit_and_wait`. -/
inductive Completion where
  | pending
  | cancelled
  | result
  | failed (category : DispatchFailureCategory)
  deriving DecidableEq, Repr

/-- A queued command. `ticket` is the acceptance number of the submission it carries. -/
structure QueuedCommand (Owner : Type) where
  owner : Owner
  command : Command
  holdGeneration : Option Nat
  completion : Option Nat
  cancelled : Bool
  ticket : Nat
  deriving DecidableEq

/-- The registration of a live owner. -/
structure DispatchOwner (Check Handler : Type) where
  authorize : Option Check
  onUnauthorized : Option Handler

/-- Where the worker task is suspended. `scanning` is the head of its inner
loop; in `dispatching` a cancellation may already have been delivered. -/
inductive WorkerPhase where
  | created
  | waiting
  | scanning
  | dispatching (interrupted : Bool)
  | finished
  deriving DecidableEq, Repr

structure WorkerTask where
  phase : WorkerPhase
  cancelRequested : Bool
  deriving DecidableEq, Repr

/-- `Task.cancel`: a finished task ignores it. -/
def WorkerTask.cancel (task : WorkerTask) : WorkerTask :=
  if task.phase = .finished then task else { task with cancelRequested := true }

/-- Whether code runs inside the worker task: `_is_current_worker`. -/
inductive Caller where
  | worker
  | other
  deriving DecidableEq, Repr

/-- Why an owner stopped being served. -/
inductive OwnerEnd where
  | cancelled
  | unauthorized
  | revoked
  deriving DecidableEq, Repr

inductive LaneEvent (Owner : Type) where
  | accepted (item : QueuedCommand Owner)
  | superseded (old new : QueuedCommand Owner)
  | begun (item : QueuedCommand Owner)
  | skipped (item : QueuedCommand Owner)
  | ownerEnded (owner : Owner) (cause : OwnerEnd)
  | generationEnded (owner : Owner) (generation : Nat)
  | closed
  deriving DecidableEq

structure CommandDispatchLane (Owner Check Handler : Type) where
  maxQueueSize : Nat
  maxQueueSize_pos : 0 < maxQueueSize
  queue : List (QueuedCommand Owner)
  owners : Owner → Option (DispatchOwner Check Handler)
  wake : Bool
  workerTask : Option WorkerTask
  current : Option (QueuedCommand Owner)
  stopping : Bool
  completions : Nat → Completion
  nextCompletion : Nat
  nextTicket : Nat
  log : List (LaneEvent Owner)

/-- How one resumption of the dispatch coroutine ends. -/
inductive DispatchOutcome where
  | suspended
  | returned
  | failed (category : DispatchFailureCategory)
  | revoked
  | cancelled
  deriving DecidableEq, Repr

/-- Result of an operation that may leave an `on_unauthorized` callback to run last. -/
structure LaneReply (Owner Check Handler : Type) where
  accepted : Bool
  lane : CommandDispatchLane Owner Check Handler
  handler : Option Handler := none

/-- A call that runs to completion without suspending. -/
inductive LaneCall (Owner Check Handler : Type) where
  | activate (owner : Owner) (registration : DispatchOwner Check Handler)
  | submit (evaluate : Check → Option Bool) (owner : Owner) (command : Command)
  | submitAndWait (evaluate : Check → Option Bool) (owner : Owner) (command : Command)
      (holdGeneration : Nat)
  | cancelOwner (owner : Owner)
  | cancelGeneration (owner : Owner) (holdGeneration : Nat)

namespace CommandDispatchLane

variable {Owner Check Handler : Type}

/-- A new lane; a bound below one is rejected. -/
def new (maxQueueSize : Nat) : Option (CommandDispatchLane Owner Check Handler) :=
  if h : 0 < maxQueueSize then
    some
      { maxQueueSize := maxQueueSize
        maxQueueSize_pos := h
        queue := []
        owners := fun _ => none
        wake := false
        workerTask := none
        current := none
        stopping := false
        completions := fun _ => .pending
        nextCompletion := 0
        nextTicket := 0
        log := [] }
  else none

def record (lane : CommandDispatchLane Owner Check Handler) (event : LaneEvent Owner) :
    CommandDispatchLane Owner Check Handler :=
  { lane with log := lane.log ++ [event] }

/-- Resolve the completion of an item unless it is already done. -/
def resolveCompletion (completions : Nat → Completion) (state : Completion)
    (item : QueuedCommand Owner) : Nat → Completion :=
  match item.completion with
  | none => completions
  | some id =>
      if completions id = .pending then
        fun other => if other = id then state else completions other
      else completions

def cancelCompletion (lane : CommandDispatchLane Owner Check Handler)
    (item : QueuedCommand Owner) : CommandDispatchLane Owner Check Handler :=
  { lane with completions := resolveCompletion lane.completions .cancelled item }

def complete (lane : CommandDispatchLane Owner Check Handler)
    (item : QueuedCommand Owner) : CommandDispatchLane Owner Check Handler :=
  { lane with completions := resolveCompletion lane.completions .result item }

def failCompletion (lane : CommandDispatchLane Owner Check Handler)
    (item : QueuedCommand Owner) (category : DispatchFailureCategory) :
    CommandDispatchLane Owner Check Handler :=
  { lane with completions := resolveCompletion lane.completions (.failed category) item }

/-- Drop the queued items that satisfy a predicate, cancelling their completions. -/
def discardQueued (lane : CommandDispatchLane Owner Check Handler)
    (predicate : QueuedCommand Owner → Bool) : CommandDispatchLane Owner Check Handler :=
  { lane with
    completions := (lane.queue.filter predicate).foldl
      (fun completions => resolveCompletion completions .cancelled) lane.completions
    queue := lane.queue.filter fun item => !predicate item }

def markCancelled (predicate : QueuedCommand Owner → Bool) (item : QueuedCommand Owner) :
    QueuedCommand Owner :=
  if predicate item then { item with cancelled := true } else item

/-- Cancel the item in flight when it satisfies a predicate. The worker never cancels itself. -/
def cancelCurrent (lane : CommandDispatchLane Owner Check Handler) (caller : Caller)
    (predicate : QueuedCommand Owner → Bool) : CommandDispatchLane Owner Check Handler :=
  { lane with
    current := lane.current.map (markCancelled predicate)
    completions := (lane.current.filter predicate).elim lane.completions
      (resolveCompletion lane.completions .cancelled)
    workerTask :=
      if lane.current.any predicate && caller = .other then lane.workerTask.map WorkerTask.cancel
      else lane.workerTask }

/-- Start the sole worker; a closed lane raises. -/
def start (lane : CommandDispatchLane Owner Check Handler) :
    Option (CommandDispatchLane Owner Check Handler) :=
  if lane.stopping then none
  else
    match lane.workerTask with
    | none => some { lane with workerTask := some ⟨.created, false⟩ }
    | some task =>
        if task.phase = .finished then some { lane with workerTask := some ⟨.created, false⟩ }
        else some lane

variable [DecidableEq Owner]

/-- Forget an owner, its queued work and its item in flight. -/
def deactivateOwner (lane : CommandDispatchLane Owner Check Handler) (caller : Caller)
    (owner : Owner) (cause : OwnerEnd) : CommandDispatchLane Owner Check Handler :=
  let forgotten :=
    { lane with owners := fun other => if other = owner then none else lane.owners other }
  let purged := forgotten.discardQueued fun item => item.owner = owner
  let stopped := purged.cancelCurrent caller fun item => item.owner = owner
  { stopped with wake := true }.record (.ownerEnded owner cause)

/-- Synchronously invalidate a session. -/
def cancelOwner (lane : CommandDispatchLane Owner Check Handler) (caller : Caller)
    (owner : Owner) : CommandDispatchLane Owner Check Handler :=
  lane.deactivateOwner caller owner .cancelled

def taggedWith (owner : Owner) (generation : Nat) (item : QueuedCommand Owner) : Bool :=
  item.owner = owner && item.holdGeneration = some generation

/-- Drop one stopped hold's delayed work without touching its immediate first click. -/
def cancelGeneration (lane : CommandDispatchLane Owner Check Handler) (caller : Caller)
    (owner : Owner) (generation : Nat) : CommandDispatchLane Owner Check Handler :=
  let purged := lane.discardQueued (taggedWith owner generation)
  let stopped := purged.cancelCurrent caller (taggedWith owner generation)
  let dropped := lane.queue.any (taggedWith owner generation) ||
    lane.current.any (taggedWith owner generation)
  { stopped with wake := lane.wake || dropped }.record (.generationEnded owner generation)

/-- Evaluate an owner's check; a check that raises (`none`) denies. A denied
owner is deactivated and its callback is left to the caller. -/
def ownerIsAuthorized (lane : CommandDispatchLane Owner Check Handler)
    (evaluate : Check → Option Bool) (caller : Caller) (owner : Owner) :
    LaneReply Owner Check Handler :=
  match lane.owners owner with
  | none => { accepted := false, lane := lane }
  | some registration =>
      match registration.authorize with
      | none => { accepted := true, lane := lane }
      | some check =>
          if evaluate check = some true then { accepted := true, lane := lane }
          else
            { accepted := false
              lane := lane.deactivateOwner caller owner .unauthorized
              handler := registration.onUnauthorized }

/-- Allow a newly opened session to submit commands; a closed lane raises. -/
def activate (lane : CommandDispatchLane Owner Check Handler) (owner : Owner)
    (registration : DispatchOwner Check Handler) :
    Option (CommandDispatchLane Owner Check Handler) :=
  lane.start.map fun started =>
    { started with
      owners := fun other => if other = owner then some registration else started.owners other }

/-- The queued tail a new text of the same owner would replace. -/
def coalescingTail (lane : CommandDispatchLane Owner Check Handler) (owner : Owner)
    (command : Command) (completion : Option Nat) : Option (QueuedCommand Owner) :=
  if command.action = .sendText ∧ completion = none then
    lane.queue.getLast?.filter fun tail =>
      tail.owner = owner && tail.completion.isNone && tail.command.action = .sendText
  else none

/-- Enter the bounded queue, or replace the tail text of the same owner. -/
def place (lane : CommandDispatchLane Owner Check Handler) (owner : Owner) (command : Command)
    (holdGeneration completion : Option Nat) : LaneReply Owner Check Handler :=
  match lane.coalescingTail owner command completion with
  | some tail =>
      -- text replaces the text before it in place and keeps the tail's completion
      let replaced := { tail with command := command, ticket := lane.nextTicket }
      { accepted := true
        lane :=
          { lane with
            queue := lane.queue.dropLast ++ [replaced]
            nextTicket := lane.nextTicket + 1
            log := lane.log ++ [.superseded tail replaced, .accepted replaced] } }
  | none =>
      -- a full lane rejects, it never drops an accepted item
      if lane.maxQueueSize ≤ lane.queue.length then { accepted := false, lane := lane }
      else
        let item : QueuedCommand Owner :=
          { owner := owner, command := command, holdGeneration := holdGeneration
            completion := completion, cancelled := false, ticket := lane.nextTicket }
        { accepted := true
          lane :=
            { lane with
              queue := lane.queue ++ [item]
              wake := true
              nextTicket := lane.nextTicket + 1
              log := lane.log ++ [.accepted item] } }

def enqueue (lane : CommandDispatchLane Owner Check Handler) (evaluate : Check → Option Bool)
    (caller : Caller) (owner : Owner) (command : Command)
    (holdGeneration completion : Option Nat) : LaneReply Owner Check Handler :=
  if lane.stopping ∨ lane.owners owner = none then { accepted := false, lane := lane }
  else
    let checked := lane.ownerIsAuthorized evaluate caller owner
    if checked.accepted then checked.lane.place owner command holdGeneration completion
    else checked

/-- Queue a command of a live session. -/
def submit (lane : CommandDispatchLane Owner Check Handler) (evaluate : Check → Option Bool)
    (caller : Caller) (owner : Owner) (command : Command) : LaneReply Owner Check Handler :=
  lane.enqueue evaluate caller owner command none none

/-- Queue tagged hold work. The future created for it is `lane.nextCompletion`;
it is cancelled at once when the command is not accepted. -/
def submitAndWait (lane : CommandDispatchLane Owner Check Handler)
    (evaluate : Check → Option Bool) (caller : Caller) (owner : Owner) (command : Command)
    (holdGeneration : Nat) : LaneReply Owner Check Handler :=
  let id := lane.nextCompletion
  let created := { lane with nextCompletion := id + 1 }
  let reply := created.enqueue evaluate caller owner command (some holdGeneration) (some id)
  if reply.accepted then reply
  else
    { reply with
      lane :=
        { reply.lane with
          completions := fun other =>
            if other = id then .cancelled else reply.lane.completions other } }

/-- The part of `close` before it awaits the worker. -/
def close (lane : CommandDispatchLane Owner Check Handler) :
    CommandDispatchLane Owner Check Handler :=
  if lane.stopping then lane
  else
    let emptied :=
      { lane with stopping := true, owners := fun _ => none }.discardQueued fun _ => true
    let stopped := { emptied with wake := true }.cancelCurrent .worker fun _ => true
    { stopped with workerTask := stopped.workerTask.map WorkerTask.cancel }.record .closed

/-- The rest of `close`, once the worker task is done. -/
def closeFinished (lane : CommandDispatchLane Owner Check Handler) :
    Option (CommandDispatchLane Owner Check Handler) :=
  if lane.stopping ∧ lane.workerTask.all (·.phase = .finished) then
    some { lane with workerTask := none, current := none }
  else none

def setWorker (lane : CommandDispatchLane Owner Check Handler) (task : WorkerTask) :
    CommandDispatchLane Owner Check Handler :=
  { lane with workerTask := some task }

/-- First step of the worker, and its resumption from `_wake.wait()`. A
cancellation delivered here ends the task. -/
def workerWake (lane : CommandDispatchLane Owner Check Handler) :
    Option (CommandDispatchLane Owner Check Handler) :=
  match lane.workerTask with
  | some ⟨.created, cancelRequested⟩ =>
      if cancelRequested then some (lane.setWorker ⟨.finished, false⟩)
      else some (lane.setWorker ⟨if lane.wake then .scanning else .waiting, false⟩)
  | some ⟨.waiting, cancelRequested⟩ =>
      if cancelRequested then some { lane.setWorker ⟨.finished, false⟩ with current := none }
      else if lane.wake then some (lane.setWorker ⟨.scanning, false⟩)
      else none
  | _ => none

/-- One pass of the worker's inner loop: go back to waiting on an empty queue,
otherwise pop the head, check its owner again and begin it. -/
def workerScan (lane : CommandDispatchLane Owner Check Handler)
    (evaluate : Check → Option Bool) : Option (LaneReply Owner Check Handler) :=
  match lane.workerTask with
  | some ⟨.scanning, cancelRequested⟩ =>
      match lane.queue with
      | [] =>
          some
            { accepted := false
              lane := { lane.setWorker ⟨.waiting, cancelRequested⟩ with wake := false } }
      | item :: rest =>
          let checked := { lane with queue := rest }.ownerIsAuthorized evaluate .worker item.owner
          if !checked.accepted then
            let dropped := checked.lane.cancelCompletion item
            -- the check of an unregistered owner ends no owner, so the drop is recorded itself
            some
              { checked with
                lane := if lane.owners item.owner = none then dropped.record (.skipped item)
                  else dropped }
          else if item.cancelled then
            some
              { accepted := false
                lane := (checked.lane.cancelCompletion item).record (.skipped item) }
          else
            some
              { accepted := true
                lane :=
                  ({ checked.lane with current := some item }.setWorker
                    ⟨.dispatching false, cancelRequested⟩).record (.begun item) }
  | _ => none

/-- A cancellation can end a dispatch only after it was requested during it. -/
def canBeCancelled (task : WorkerTask) : Bool :=
  task.cancelRequested || task.phase = .dispatching true

/-- The `except` branches after a dispatch. `accepted` tells whether the worker goes on. -/
def settle (lane : CommandDispatchLane Owner Check Handler) (item : QueuedCommand Owner)
    (outcome : DispatchOutcome) : LaneReply Owner Check Handler :=
  match outcome with
  | .suspended => { accepted := true, lane := lane }
  | .returned => { accepted := true, lane := lane.complete item }
  | .failed category => { accepted := true, lane := lane.failCompletion item category }
  | .revoked =>
      { accepted := true
        lane := lane.deactivateOwner .worker item.owner .revoked
        handler := (lane.owners item.owner).bind DispatchOwner.onUnauthorized }
  | .cancelled =>
      { accepted := !lane.stopping && (item.cancelled || (lane.owners item.owner).isNone)
        lane := lane.cancelCompletion item }

/-- The `finally` after a dispatch, and the way out of the loop when it was left. -/
def finishItem (lane : CommandDispatchLane Owner Check Handler) (goesOn : Bool) :
    CommandDispatchLane Owner Check Handler :=
  { lane.setWorker ⟨if goesOn then .scanning else .finished, false⟩ with current := none }

/-- A dispatch that suspends again has taken delivery of a requested cancellation. -/
def suspendAgain (lane : CommandDispatchLane Owner Check Handler) (task : WorkerTask)
    (interrupted : Bool) : CommandDispatchLane Owner Check Handler :=
  lane.setWorker ⟨.dispatching (interrupted || task.cancelRequested), false⟩

/-- Whether the worker is blocked on its wake event. -/
def quiescent (lane : CommandDispatchLane Owner Check Handler) : Prop :=
  lane.workerTask = some ⟨.waiting, false⟩ ∧ lane.wake = false

/-! ## Synchronous calls

An `on_unauthorized` callback is a list of calls: the callbacks that its own
calls leave to run are part of the list.
-/

/-- Perform one call; an `activate` that raises leaves the lane as it is. -/
def perform (lane : CommandDispatchLane Owner Check Handler) (caller : Caller) :
    LaneCall Owner Check Handler → LaneReply Owner Check Handler
  | .activate owner registration =>
      { accepted := true, lane := (lane.activate owner registration).getD lane }
  | .submit evaluate owner command => lane.submit evaluate caller owner command
  | .submitAndWait evaluate owner command holdGeneration =>
      lane.submitAndWait evaluate caller owner command holdGeneration
  | .cancelOwner owner => { accepted := true, lane := lane.cancelOwner caller owner }
  | .cancelGeneration owner holdGeneration =>
      { accepted := true, lane := lane.cancelGeneration caller owner holdGeneration }

def performAll (lane : CommandDispatchLane Owner Check Handler) (caller : Caller)
    (calls : List (LaneCall Owner Check Handler)) : CommandDispatchLane Owner Check Handler :=
  calls.foldl (fun lane call => (lane.perform caller call).lane) lane

/-- Run the callback that an operation left, if it left one. -/
def runHandler (reply : LaneReply Owner Check Handler) (caller : Caller)
    (callback : List (LaneCall Owner Check Handler)) : CommandDispatchLane Owner Check Handler :=
  if reply.handler.isSome then reply.lane.performAll caller callback else reply.lane

/-- The task awaiting a completion is cancelled, which cancels the future it awaits. -/
def cancelAwaited (lane : CommandDispatchLane Owner Check Handler) (id : Nat) :
    CommandDispatchLane Owner Check Handler :=
  { lane with
    completions := fun other =>
      if other = id ∧ lane.completions id = .pending then .cancelled
      else lane.completions other }

/-- Resume the dispatch in flight until it suspends again or ends. -/
def workerResume (lane : CommandDispatchLane Owner Check Handler) (outcome : DispatchOutcome)
    (callback : List (LaneCall Owner Check Handler)) :
    Option (CommandDispatchLane Owner Check Handler) :=
  match lane.workerTask, lane.current with
  | some ⟨.dispatching interrupted, cancelRequested⟩, some item =>
      if outcome = .suspended then
        some (lane.suspendAgain ⟨.dispatching interrupted, cancelRequested⟩ interrupted)
      else if outcome = .cancelled ∧ !canBeCancelled ⟨.dispatching interrupted, cancelRequested⟩ then
        none
      else
        let settled := lane.settle item outcome
        some ((runHandler settled .worker callback).finishItem settled.accepted)
  | _, _ => none

/-! ## What each operation can do -/

/-- An owner whose check would let a command through. -/
def Admissible (lane : CommandDispatchLane Owner Check Handler)
    (evaluate : Check → Option Bool) (owner : Owner) : Prop :=
  ∃ registration, lane.owners owner = some registration ∧
    ∀ check, registration.authorize = some check → evaluate check = some true

/-- The three ways in which `_owner_is_authorized` ends: no registration, a check that does
not hold, or admission. -/
theorem ownerIsAuthorized_cases (lane : CommandDispatchLane Owner Check Handler)
    (evaluate : Check → Option Bool) (caller : Caller) (owner : Owner) :
    (lane.owners owner = none ∧
      lane.ownerIsAuthorized evaluate caller owner = { accepted := false, lane := lane }) ∨
    (∃ registration check, lane.owners owner = some registration ∧
      registration.authorize = some check ∧ evaluate check ≠ some true ∧
      lane.ownerIsAuthorized evaluate caller owner =
        { accepted := false
          lane := lane.deactivateOwner caller owner .unauthorized
          handler := registration.onUnauthorized }) ∨
    (lane.Admissible evaluate owner ∧
      lane.ownerIsAuthorized evaluate caller owner = { accepted := true, lane := lane }) := by
  cases howner : lane.owners owner with
  | none => exact Or.inl ⟨rfl, by simp only [ownerIsAuthorized, howner]⟩
  | some registration =>
      cases hcheck : registration.authorize with
      | none =>
          refine Or.inr (Or.inr ⟨⟨registration, howner, ?_⟩, ?_⟩)
          · simp [hcheck]
          · simp only [ownerIsAuthorized, howner, hcheck]
      | some check =>
          by_cases hvalue : evaluate check = some true
          · refine Or.inr (Or.inr ⟨⟨registration, howner, ?_⟩, ?_⟩)
            · intro other hother
              rw [hcheck, Option.some.injEq] at hother
              exact hother ▸ hvalue
            · simp only [ownerIsAuthorized, howner, hcheck, hvalue, if_true]
          · refine Or.inr (Or.inl ⟨registration, check, rfl, hcheck, hvalue, ?_⟩)
            simp only [ownerIsAuthorized, howner, hcheck, hvalue, if_false]

omit [DecidableEq Owner] in
/-- Starting puts a worker in place if there is none running. -/
theorem start_eq_some {lane next : CommandDispatchLane Owner Check Handler}
    (hstart : lane.start = some next) :
    lane.stopping = false ∧ ∃ task,
      (lane.workerTask = some task ∨
        (∀ other, lane.workerTask = some other → other.phase = .finished) ∧
          task = ⟨.created, false⟩) ∧
      next = { lane with workerTask := some task } := by
  unfold start at hstart
  split at hstart
  · exact absurd hstart (by simp)
  · rename_i hopen
    refine ⟨by simpa using hopen, ?_⟩
    split at hstart
    · rename_i hnone
      rw [Option.some.injEq] at hstart
      exact ⟨_, Or.inr ⟨by simp [hnone], rfl⟩, hstart.symm⟩
    · rename_i task htask
      split at hstart
      · rename_i hfinished
        rw [Option.some.injEq] at hstart
        refine ⟨_, Or.inr ⟨?_, rfl⟩, hstart.symm⟩
        intro other hother
        rw [htask, Option.some.injEq] at hother
        exact hother ▸ hfinished
      · rw [Option.some.injEq] at hstart
        exact ⟨task, Or.inl htask, by rw [← htask, hstart]⟩

/-- Activation starts the lane and registers the owner. -/
theorem activate_eq_some {lane next : CommandDispatchLane Owner Check Handler} {owner : Owner}
    {registration : DispatchOwner Check Handler}
    (hactivate : lane.activate owner registration = some next) :
    ∃ task, lane.start = some { lane with workerTask := some task } ∧
      next =
        { lane with
          workerTask := some task
          owners := fun other =>
            if other = owner then some registration else lane.owners other } := by
  obtain ⟨started, hstart, rfl⟩ := Option.map_eq_some_iff.mp hactivate
  obtain ⟨-, task, -, rfl⟩ := start_eq_some hstart
  exact ⟨task, hstart, rfl⟩

/-- Two texts of one owner, neither of them awaited. -/
def Coalesces (old new : QueuedCommand Owner) : Prop :=
  old.owner = new.owner ∧ old.command.action = .sendText ∧ new.command.action = .sendText ∧
    old.completion = none ∧ new.completion = none

/-- An accepted command is appended, unless it replaces the tail text of its owner. -/
theorem place_cases (lane : CommandDispatchLane Owner Check Handler) (owner : Owner)
    (command : Command) (holdGeneration completion : Option Nat) :
    (∃ front tail replaced, lane.queue = front ++ [tail] ∧ Coalesces tail replaced ∧
      replaced = { tail with command := command, ticket := lane.nextTicket } ∧
      tail.owner = owner ∧ completion = none ∧
      lane.place owner command holdGeneration completion =
        { accepted := true
          lane :=
            { lane with
              queue := front ++ [replaced]
              nextTicket := lane.nextTicket + 1
              log := lane.log ++ [.superseded tail replaced, .accepted replaced] } }) ∨
    (lane.maxQueueSize ≤ lane.queue.length ∧
      lane.place owner command holdGeneration completion = { accepted := false, lane := lane }) ∨
    (∃ item, lane.queue.length < lane.maxQueueSize ∧
      item = { owner := owner, command := command, holdGeneration := holdGeneration,
               completion := completion, cancelled := false, ticket := lane.nextTicket } ∧
      lane.place owner command holdGeneration completion =
        { accepted := true
          lane :=
            { lane with
              queue := lane.queue ++ [item]
              wake := true
              nextTicket := lane.nextTicket + 1
              log := lane.log ++ [.accepted item] } }) := by
  cases htail : lane.coalescingTail owner command completion with
  | some tail =>
      have hplace := htail
      -- The tail that is superseded is text of the same owner, and so is what replaces it.
      simp only [coalescingTail] at htail
      split at htail
      · rename_i htext
        rw [Option.filter_eq_some_iff] at htail
        obtain ⟨hlast, hmatch⟩ := htail
        simp only [Bool.and_eq_true, decide_eq_true_eq, Option.isNone_iff_eq_none] at hmatch
        obtain ⟨front, hqueue⟩ := List.getLast?_eq_some_iff.mp hlast
        refine Or.inl ⟨front, tail, _, hqueue, ?_, rfl, hmatch.1.1, htext.2, ?_⟩
        · exact ⟨rfl, hmatch.2, htext.1, hmatch.1.2, hmatch.1.2⟩
        · simp only [place, hplace, hqueue, List.dropLast_concat]
      · exact absurd htail (by simp)
  | none =>
      by_cases hfull : lane.maxQueueSize ≤ lane.queue.length
      · exact Or.inr (Or.inl ⟨hfull, by simp only [place, htail, hfull, if_true]⟩)
      · refine Or.inr (Or.inr ⟨_, by omega, rfl, ?_⟩)
        simp only [place, htail, hfull, if_false]

/-- An item is refused by a stopped lane or a missing owner, refused with its owner by the
check, or placed. -/
theorem enqueue_cases (lane : CommandDispatchLane Owner Check Handler)
    (evaluate : Check → Option Bool) (caller : Caller) (owner : Owner) (command : Command)
    (holdGeneration completion : Option Nat) :
    lane.enqueue evaluate caller owner command holdGeneration completion =
        { accepted := false, lane := lane } ∨
    (∃ registration check, lane.owners owner = some registration ∧
      registration.authorize = some check ∧ evaluate check ≠ some true ∧
      lane.enqueue evaluate caller owner command holdGeneration completion =
        { accepted := false
          lane := lane.deactivateOwner caller owner .unauthorized
          handler := registration.onUnauthorized }) ∨
    (lane.stopping = false ∧ lane.Admissible evaluate owner ∧
      lane.enqueue evaluate caller owner command holdGeneration completion =
        lane.place owner command holdGeneration completion) := by
  by_cases hclosed : lane.stopping = true ∨ lane.owners owner = none
  · exact Or.inl (by simp only [enqueue, hclosed, if_true])
  · rw [not_or, Bool.not_eq_true] at hclosed
    rcases lane.ownerIsAuthorized_cases evaluate caller owner with
      ⟨hnone, -⟩ | ⟨registration, check, howner, hcheck, hdenied, hreply⟩ | ⟨hadmissible, hreply⟩
    · exact absurd hnone hclosed.2
    · refine Or.inr (Or.inl ⟨registration, check, howner, hcheck, hdenied, ?_⟩)
      simp [enqueue, hclosed, hreply]
    · refine Or.inr (Or.inr ⟨hclosed.1, hadmissible, ?_⟩)
      simp [enqueue, hclosed, hreply]

/-- All that one scan can do, in the order of the source's tests. -/
theorem workerScan_cases {lane : CommandDispatchLane Owner Check Handler}
    {evaluate : Check → Option Bool} {reply : LaneReply Owner Check Handler}
    (hscan : lane.workerScan evaluate = some reply) :
    ∃ cancelRequested, lane.workerTask = some ⟨.scanning, cancelRequested⟩ ∧
      ((lane.queue = [] ∧
        reply =
          { accepted := false
            lane := { lane.setWorker ⟨.waiting, cancelRequested⟩ with wake := false } }) ∨
      ∃ item rest, lane.queue = item :: rest ∧
        ((lane.owners item.owner = none ∧
          reply =
            { accepted := false
              lane := ({ lane with queue := rest }.cancelCompletion item).record
                (.skipped item) }) ∨
        (∃ registration check, lane.owners item.owner = some registration ∧
          registration.authorize = some check ∧ evaluate check ≠ some true ∧
          reply =
            { accepted := false
              lane := ({ lane with queue := rest }.deactivateOwner .worker item.owner
                .unauthorized).cancelCompletion item
              handler := registration.onUnauthorized }) ∨
        (item.cancelled = true ∧
          reply =
            { accepted := false
              lane := ({ lane with queue := rest }.cancelCompletion item).record
                (.skipped item) }) ∨
        (lane.Admissible evaluate item.owner ∧ item.cancelled = false ∧
          reply =
            { accepted := true
              lane :=
                ({ lane with queue := rest, current := some item }.setWorker
                  ⟨.dispatching false, cancelRequested⟩).record (.begun item) }))) := by
  simp only [workerScan] at hscan
  split at hscan
  · rename_i cancelRequested htask
    refine ⟨cancelRequested, htask, ?_⟩
    cases hqueue : lane.queue with
    | nil =>
        simp only [hqueue, Option.some.injEq] at hscan
        exact Or.inl ⟨rfl, hscan.symm⟩
    | cons item rest =>
        refine Or.inr ⟨item, rest, rfl, ?_⟩
        simp only [hqueue] at hscan
        -- The head is taken from the queue before its owner is looked at.
        rcases { lane with queue := rest }.ownerIsAuthorized_cases evaluate .worker item.owner with
          ⟨hnone, hreply⟩ | ⟨registration, check, howner, hcheck, hdenied, hreply⟩ |
          ⟨hadmissible, hreply⟩
        · have hunregistered : lane.owners item.owner = none := hnone
          simp only [hreply, hunregistered, Bool.not_false, if_true, Option.some.injEq] at hscan
          exact Or.inl ⟨hnone, hscan.symm⟩
        · have hregistered : lane.owners item.owner = some registration := howner
          simp only [hreply, hregistered, Bool.not_false, if_true, reduceCtorEq, if_false,
            Option.some.injEq] at hscan
          exact Or.inr (Or.inl ⟨registration, check, howner, hcheck, hdenied, hscan.symm⟩)
        · by_cases hcancelled : item.cancelled = true
          · simp only [hreply, hcancelled, Bool.not_true, Bool.false_eq_true, if_false, if_true,
              Option.some.injEq] at hscan
            exact Or.inr (Or.inr (Or.inl ⟨hcancelled, hscan.symm⟩))
          · simp only [hreply, hcancelled, Bool.not_true, Bool.false_eq_true, if_false,
              Option.some.injEq] at hscan
            refine Or.inr (Or.inr (Or.inr ⟨hadmissible, by simpa using hcancelled, ?_⟩))
            exact hscan.symm
  · exact absurd hscan (by simp)

end CommandDispatchLane

end CompanionBridge
