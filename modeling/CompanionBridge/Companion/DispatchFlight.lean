import CompanionBridge.Companion.DispatchRefinement

/-!
# The dispatch in flight

Sessions end while their command is in flight. Every call that ends one also
cancels the worker, so a dispatch that was not interrupted still has its owner
registered.
-/

namespace CompanionBridge

/-- The worker begins or resumes a dispatch. -/
def LaneLabel.dispatches {Owner Check Handler : Type} :
    LaneLabel Owner Check Handler → Bool
  | .workerScan .. | .workerResume .. => true
  | _ => false

namespace CommandDispatchLane

variable {Owner Check Handler : Type} {lane : CommandDispatchLane Owner Check Handler}

/-- A dispatch that nobody interrupted belongs to a registered owner. -/
def Attended (lane : CommandDispatchLane Owner Check Handler) : Prop :=
  lane.workerTask = some ⟨.dispatching false, false⟩ →
    ∀ item, lane.current = some item → (lane.owners item.owner).isSome

/-- Only an uninterrupted dispatch needs its owner. -/
theorem Attended.of_phase (h : lane.workerTask ≠ some ⟨.dispatching false, false⟩) :
    lane.Attended :=
  fun htask => absurd htask h

/-- What a step that is not the worker's own leaves of the dispatch in flight:
unless it is being cancelled, it stays as it was and its owner stays registered. -/
def KeepsFlight (before after : CommandDispatchLane Owner Check Handler) : Prop :=
  ∀ interrupted cancelRequested item,
    after.workerTask = some ⟨.dispatching interrupted, cancelRequested⟩ →
    after.current = some item →
    ∃ requested flight, before.workerTask = some ⟨.dispatching interrupted, requested⟩ ∧
      before.current = some flight ∧ flight.owner = item.owner ∧
      (cancelRequested = false → requested = false ∧
        ((before.owners item.owner).isSome → (after.owners item.owner).isSome))

theorem KeepsFlight.refl (lane : CommandDispatchLane Owner Check Handler) :
    lane.KeepsFlight lane :=
  fun _ _ item htask hitem => ⟨_, item, htask, hitem, rfl, fun hclean => ⟨hclean, id⟩⟩

theorem KeepsFlight.trans {first second third : CommandDispatchLane Owner Check Handler}
    (hfirst : first.KeepsFlight second) (hsecond : second.KeepsFlight third) :
    first.KeepsFlight third := by
  intro interrupted cancelRequested item htask hitem
  obtain ⟨requested, middle, hmiddle, hcurrent, howner, hkept⟩ :=
    hsecond interrupted cancelRequested item htask hitem
  obtain ⟨earlier, flight, hbefore, hflight, howner', hkept'⟩ :=
    hfirst interrupted requested middle hmiddle hcurrent
  refine ⟨earlier, flight, hbefore, hflight, howner'.trans howner, ?_⟩
  intro hclean
  obtain ⟨hclean', hlater⟩ := hkept hclean
  obtain ⟨hclean'', hearlier⟩ := hkept' hclean'
  rw [howner] at hearlier
  exact ⟨hclean'', fun hregistered => hlater (hearlier hregistered)⟩

theorem KeepsFlight.of_same {after : CommandDispatchLane Owner Check Handler}
    (htask : after.workerTask = lane.workerTask) (hcurrent : after.current = lane.current)
    (howners : ∀ owner, (lane.owners owner).isSome → (after.owners owner).isSome) :
    lane.KeepsFlight after :=
  fun _ _ item hafter hitem => ⟨_, item, htask ▸ hafter, hcurrent ▸ hitem, rfl,
    fun hclean => ⟨hclean, howners item.owner⟩⟩

theorem KeepsFlight.attended {after : CommandDispatchLane Owner Check Handler}
    (hkept : lane.KeepsFlight after) (h : lane.Attended) : after.Attended := by
  intro htask item hitem
  obtain ⟨requested, flight, hbefore, hflight, howner, hclean⟩ :=
    hkept false false item htask hitem
  obtain ⟨rfl, hregistered⟩ := hclean rfl
  exact hregistered (howner ▸ h hbefore flight hflight)

/-- A task that was cancelled has the request pending or is finished. -/
theorem cancel_eq_dispatching {task : WorkerTask} {interrupted cancelRequested : Bool}
    (hcancel : task.cancel = ⟨.dispatching interrupted, cancelRequested⟩) :
    cancelRequested = true ∧ task = ⟨.dispatching interrupted, task.cancelRequested⟩ := by
  have hphase : task.phase = .dispatching interrupted := by rw [← cancel_phase, hcancel]
  rw [WorkerTask.cancel, hphase, if_neg (by simp), WorkerTask.mk.injEq] at hcancel
  exact ⟨hcancel.2.symm, by rw [← hphase]⟩

theorem markCancelled_owner (predicate : QueuedCommand Owner → Bool)
    (item : QueuedCommand Owner) : (markCancelled predicate item).owner = item.owner := by
  unfold markCancelled
  split <;> rfl

/-- Interrupting the item in flight when a predicate holds of it. -/
theorem KeepsFlight.of_cancelCurrent {after : CommandDispatchLane Owner Check Handler}
    (predicate : QueuedCommand Owner → Bool)
    (htask : after.workerTask = (lane.cancelCurrent .other predicate).workerTask)
    (hcurrent : after.current = lane.current.map (markCancelled predicate))
    (howners : ∀ item, predicate item = false → (lane.owners item.owner).isSome →
      (after.owners item.owner).isSome) : lane.KeepsFlight after := by
  intro interrupted cancelRequested item hafter hitem
  rw [htask] at hafter
  rw [hcurrent] at hitem
  obtain ⟨flight, hflight, rfl⟩ := Option.map_eq_some_iff.mp hitem
  rw [markCancelled_owner]
  by_cases hhit : predicate flight = true
  · simp only [cancelCurrent, hflight, Option.any_some, hhit, Bool.true_and, decide_true,
      if_true] at hafter
    obtain ⟨task, hbefore, hcancel⟩ := Option.map_eq_some_iff.mp hafter
    obtain ⟨rfl, htask⟩ := cancel_eq_dispatching hcancel
    exact ⟨task.cancelRequested, flight, by rw [hbefore, ← htask], hflight, rfl,
      fun hclean => absurd hclean (by simp)⟩
  · rw [Bool.not_eq_true] at hhit
    refine ⟨cancelRequested, flight, by simpa [cancelCurrent, hflight, hhit] using hafter, hflight,
      rfl, fun hclean => ⟨hclean, howners flight hhit⟩⟩

theorem close_keepsFlight : lane.KeepsFlight lane.close := by
  unfold close
  split
  · exact .refl lane
  · intro interrupted cancelRequested item htask hitem
    obtain ⟨task, hbefore, hcancel⟩ := Option.map_eq_some_iff.mp htask
    obtain ⟨flight, hflight, rfl⟩ := Option.map_eq_some_iff.mp hitem
    obtain ⟨rfl, hdispatching⟩ := cancel_eq_dispatching hcancel
    have hworker : lane.workerTask = some task := by
      simpa [cancelCurrent, discardQueued] using hbefore
    exact ⟨task.cancelRequested, flight, by rw [hworker, ← hdispatching], hflight,
      (markCancelled_owner _ flight).symm, fun hclean => absurd hclean (by simp)⟩

/-- A worker that has just woken up dispatches nothing. -/
theorem workerWake_phase {next : CommandDispatchLane Owner Check Handler}
    (hwake : lane.workerWake = some next) (interrupted cancelRequested : Bool) :
    next.workerTask ≠ some ⟨.dispatching interrupted, cancelRequested⟩ := by
  unfold workerWake at hwake
  split at hwake
  · split at hwake
    · rw [← Option.some.inj hwake]
      simp [setWorker]
    · rw [← Option.some.inj hwake]
      simp only [setWorker]
      split <;> simp
  · split at hwake
    · rw [← Option.some.inj hwake]
      simp [setWorker]
    · split at hwake
      · rw [← Option.some.inj hwake]
        simp [setWorker]
      · exact absurd hwake (by simp)
  · exact absurd hwake (by simp)

variable [DecidableEq Owner]

/-- Deactivating from outside interrupts the dispatch of that owner and no other. -/
theorem deactivateOwner_keepsFlight (owner : Owner) (cause : OwnerEnd) :
    lane.KeepsFlight (lane.deactivateOwner .other owner cause) := by
  refine .of_cancelCurrent (fun item => item.owner = owner) rfl rfl ?_
  intro item hother hregistered
  have hne : item.owner ≠ owner := by simpa using hother
  simpa [deactivateOwner, record, cancelCurrent, discardQueued, hne] using hregistered

theorem cancelGeneration_keepsFlight (owner : Owner) (generation : Nat) :
    lane.KeepsFlight (lane.cancelGeneration .other owner generation) :=
  .of_cancelCurrent (taggedWith owner generation) rfl rfl fun _ _ hregistered => hregistered

theorem place_keeps (owner : Owner) (command : Command)
    (holdGeneration completion : Option Nat) :
    let placed := (lane.place owner command holdGeneration completion).lane
    placed.owners = lane.owners ∧ placed.workerTask = lane.workerTask ∧
      placed.current = lane.current := by
  rcases lane.place_cases owner command holdGeneration completion with
    ⟨front, tail, replaced, -, -, -, -, -, hreply⟩ | ⟨-, hreply⟩ | ⟨item, -, -, hreply⟩ <;>
  rw [hreply] <;> exact ⟨rfl, rfl, rfl⟩

/-- A refused check deactivates its owner, which interrupts the flight. -/
theorem enqueue_keepsFlight (evaluate : Check → Option Bool) (owner : Owner)
    (command : Command) (holdGeneration completion : Option Nat) :
    lane.KeepsFlight
      (lane.enqueue evaluate .other owner command holdGeneration completion).lane := by
  rcases lane.enqueue_cases evaluate .other owner command holdGeneration completion with
    hreply | ⟨_, _, -, -, -, hreply⟩ | ⟨-, -, hreply⟩
  · rw [hreply]
    exact .refl lane
  · rw [hreply]
    exact lane.deactivateOwner_keepsFlight owner .unauthorized
  · obtain ⟨howners, htask, hcurrent⟩ :=
      lane.place_keeps owner command holdGeneration completion
    rw [hreply]
    exact .of_same htask hcurrent fun other => by rw [howners]; exact id

theorem activate_keepsFlight {owner : Owner} {registration : DispatchOwner Check Handler}
    {next : CommandDispatchLane Owner Check Handler}
    (hactivate : lane.activate owner registration = some next) : lane.KeepsFlight next := by
  obtain ⟨task, hstart, rfl⟩ := activate_eq_some hactivate
  obtain ⟨-, started, hworker, hsame⟩ := start_eq_some hstart
  have hstarted : some task = some started := congrArg CommandDispatchLane.workerTask hsame
  rcases hworker with hrunning | ⟨-, rfl⟩
  · refine .of_same (hstarted.trans hrunning.symm) rfl ?_
    intro other hregistered
    dsimp only
    split
    · rfl
    · exact hregistered
  · intro interrupted cancelRequested item htask
    rw [hstarted] at htask
    exact absurd htask (by simp)

/-- A call of another task than the worker. -/
theorem perform_keepsFlight (call : LaneCall Owner Check Handler) :
    lane.KeepsFlight (lane.perform .other call).lane := by
  cases call with
  | activate owner registration =>
      simp only [perform]
      cases hactivate : lane.activate owner registration with
      | none => exact .refl lane
      | some next => exact activate_keepsFlight hactivate
  | submit evaluate owner command => exact enqueue_keepsFlight evaluate owner command none none
  | submitAndWait evaluate owner command holdGeneration =>
      have hqueued := @enqueue_keepsFlight _ _ _
        { lane with nextCompletion := lane.nextCompletion + 1 } _ evaluate owner command
        (some holdGeneration) (some lane.nextCompletion)
      simp only [perform, submitAndWait]
      split <;> exact hqueued
  | cancelOwner owner => exact lane.deactivateOwner_keepsFlight owner .cancelled
  | cancelGeneration owner generation => exact lane.cancelGeneration_keepsFlight owner generation

theorem performAll_keepsFlight (calls : List (LaneCall Owner Check Handler)) :
    lane.KeepsFlight (lane.performAll .other calls) := by
  induction calls generalizing lane with
  | nil => exact .refl lane
  | cons call rest ih => exact (perform_keepsFlight call).trans ih

/-- Only a pass of the worker's loop begins or resumes a dispatch. -/
theorem step_keepsFlight {label : LaneLabel Owner Check Handler}
    {next : CommandDispatchLane Owner Check Handler} (hstep : lane.step label = some next)
    (hquiet : label.dispatches = false) : lane.KeepsFlight next := by
  cases label with
  | call request callback =>
      obtain rfl := Option.some.inj hstep
      unfold runHandler
      split
      · exact (perform_keepsFlight request).trans (performAll_keepsFlight callback)
      · exact perform_keepsFlight request
  | close =>
      obtain rfl := Option.some.inj hstep
      exact close_keepsFlight
  | closeFinished =>
      simp only [step, closeFinished] at hstep
      split at hstep
      · obtain rfl := Option.some.inj hstep
        intro interrupted cancelRequested item htask
        exact absurd htask (by simp)
      · exact absurd hstep (by simp)
  | cancelAwaited awaited =>
      obtain rfl := Option.some.inj hstep
      exact .of_same rfl rfl fun _ => id
  | workerWake =>
      intro interrupted cancelRequested item htask
      exact absurd htask (workerWake_phase hstep interrupted cancelRequested)
  | workerScan evaluate callback => exact absurd hquiet (by simp [LaneLabel.dispatches])
  | workerResume outcome callback => exact absurd hquiet (by simp [LaneLabel.dispatches])

/-- The worker's own calls never cancel it. -/
theorem perform_worker_workerTask {task : WorkerTask} (htask : lane.workerTask = some task)
    (hrunning : task.phase ≠ .finished) (call : LaneCall Owner Check Handler) :
    (lane.perform .worker call).lane.workerTask = some task := by
  have hdeactivate : ∀ (other : CommandDispatchLane Owner Check Handler) owner cause,
      (other.deactivateOwner .worker owner cause).workerTask = other.workerTask := by
    intro other owner cause
    simp [deactivateOwner, record, cancelCurrent, discardQueued]
  -- A callback of the worker runs inside its own task, which it does not cancel.
  have henqueue : ∀ (other : CommandDispatchLane Owner Check Handler) evaluate owner command
      holdGeneration completion, (other.enqueue evaluate .worker owner command holdGeneration
        completion).lane.workerTask = other.workerTask := by
    intro other evaluate owner command holdGeneration completion
    rcases other.enqueue_cases evaluate .worker owner command holdGeneration completion with
      hreply | ⟨_, _, -, -, -, hreply⟩ | ⟨-, -, hreply⟩
    · rw [hreply]
    · rw [hreply, hdeactivate]
    · rw [hreply, (other.place_keeps owner command holdGeneration completion).2.1]
  cases call with
  | activate owner registration =>
      simp only [perform]
      cases hactivate : lane.activate owner registration with
      | none => exact htask
      | some next =>
          obtain ⟨started, hstart, rfl⟩ := activate_eq_some hactivate
          obtain ⟨-, other, hworker, hsame⟩ := start_eq_some hstart
          have hstarted : some started = some other :=
            congrArg CommandDispatchLane.workerTask hsame
          rcases hworker with hkept | ⟨hfinished, -⟩
          · rw [Option.getD_some, ← htask, hkept, ← hstarted]
          · exact absurd (hfinished task htask) hrunning
  | submit evaluate owner command =>
      rw [← htask]
      exact henqueue lane evaluate owner command none none
  | submitAndWait evaluate owner command holdGeneration =>
      rw [← htask]
      simp only [perform, submitAndWait]
      split <;> exact henqueue _ evaluate owner command _ _
  | cancelOwner owner => rw [← htask]; exact hdeactivate lane owner .cancelled
  | cancelGeneration owner generation =>
      simp [perform, cancelGeneration, record, cancelCurrent, discardQueued, htask]

theorem performAll_worker_workerTask {task : WorkerTask} (htask : lane.workerTask = some task)
    (hrunning : task.phase ≠ .finished) (calls : List (LaneCall Owner Check Handler)) :
    (lane.performAll .worker calls).workerTask = some task := by
  induction calls generalizing lane with
  | nil => exact htask
  | cons call rest ih => exact ih (perform_worker_workerTask htask hrunning call)

/-- A scan begins a dispatch for a registered owner, or none at all. -/
theorem workerScan_flight {evaluate : Check → Option Bool}
    {reply : LaneReply Owner Check Handler} (hscan : lane.workerScan evaluate = some reply)
    (callback : List (LaneCall Owner Check Handler)) {interrupted cancelRequested : Bool}
    (htask : (runHandler reply .worker callback).workerTask =
      some ⟨.dispatching interrupted, cancelRequested⟩) :
    interrupted = false ∧ ∀ item, (runHandler reply .worker callback).current = some item →
      ((runHandler reply .worker callback).owners item.owner).isSome := by
  obtain ⟨requested, hscanning, ⟨-, rfl⟩ | ⟨item, rest, -, hcases⟩⟩ := workerScan_cases hscan
  · exact absurd htask (by simp [runHandler, setWorker])
  · rcases hcases with ⟨-, rfl⟩ | ⟨registration, check, -, -, -, rfl⟩ | ⟨-, rfl⟩ |
      ⟨⟨registration, howner, -⟩, -, rfl⟩
    · exact absurd htask (by simp [runHandler, record, cancelCompletion, hscanning])
    · have hworker : (({ lane with queue := rest }.deactivateOwner .worker item.owner
          .unauthorized).cancelCompletion item).workerTask = some ⟨.scanning, requested⟩ := by
        simpa [cancelCompletion, deactivateOwner, record, cancelCurrent, discardQueued]
          using hscanning
      unfold runHandler at htask
      split at htask
      · rw [performAll_worker_workerTask hworker (by simp)] at htask
        exact absurd htask (by simp)
      · rw [hworker] at htask
        exact absurd htask (by simp)
    · exact absurd htask (by simp [runHandler, record, cancelCompletion, hscanning])
    · have hregistered : lane.owners item.owner = some registration := howner
      refine ⟨?_, ?_⟩
      · have hclean : interrupted = false ∧ requested = cancelRequested := by
          simpa [runHandler, record, setWorker] using htask
        exact hclean.1
      · intro current hcurrent
        obtain rfl : item = current := Option.some.inj hcurrent
        simp [runHandler, record, setWorker, hregistered]

/-- A dispatch that ends leaves nothing in flight. -/
theorem Attended.workerResume (h : lane.Attended) {outcome : DispatchOutcome}
    {callback : List (LaneCall Owner Check Handler)}
    {next : CommandDispatchLane Owner Check Handler}
    (hresume : lane.workerResume outcome callback = some next) : next.Attended := by
  unfold CommandDispatchLane.workerResume at hresume
  split at hresume
  · rename_i interrupted cancelRequested item htask hitem
    split at hresume
    · obtain rfl := Option.some.inj hresume
      intro hdispatching
      have hclean : interrupted = false ∧ cancelRequested = false := by
        simpa [suspendAgain, setWorker] using hdispatching
      exact h (by rw [htask, hclean.1, hclean.2])
    · split at hresume
      · exact absurd hresume (by simp)
      · obtain rfl := Option.some.inj hresume
        refine .of_phase ?_
        simp only [finishItem, setWorker]
        split <;> simp
  · exact absurd hresume (by simp)

/-- No step leaves an uninterrupted dispatch without its owner. -/
theorem Attended.step (h : lane.Attended) {label : LaneLabel Owner Check Handler}
    {next : CommandDispatchLane Owner Check Handler} (hstep : lane.step label = some next) :
    next.Attended := by
  cases hquiet : label.dispatches with
  | false => exact (step_keepsFlight hstep hquiet).attended h
  | true =>
      cases label with
      | workerScan evaluate callback =>
          obtain ⟨reply, hscan, rfl⟩ := Option.map_eq_some_iff.mp hstep
          exact fun htask => (workerScan_flight hscan callback htask).2
      | workerResume outcome callback => exact h.workerResume hstep
      | call | close | closeFinished | cancelAwaited | workerWake =>
          exact absurd hquiet (by simp [LaneLabel.dispatches])

/-- While no label dispatches, the item in flight is either kept or interrupted. -/
theorem run_keepsFlight {labels : List (LaneLabel Owner Check Handler)}
    {final : CommandDispatchLane Owner Check Handler}
    (hrun : Machine.run CommandDispatchLane.step lane labels = some final)
    (hquiet : ∀ label ∈ labels, label.dispatches = false) : lane.KeepsFlight final := by
  induction labels generalizing lane with
  | nil => exact Option.some.inj hrun ▸ .refl lane
  | cons label rest ih =>
      obtain ⟨next, hnext, hrest⟩ := (Machine.run_cons _ _ _ _).mp hrun
      simp only [List.mem_cons, forall_eq_or_imp] at hquiet
      exact (step_keepsFlight hnext hquiet.1).trans (ih hrest hquiet.2)

end CommandDispatchLane

end CompanionBridge
