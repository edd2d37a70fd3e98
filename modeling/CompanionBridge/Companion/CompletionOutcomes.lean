import CompanionBridge.Companion.LaneCompletions

/-!
# How the completions of the lane end

The worker resolves the completion of the command it dispatched, with a result
or with a category, unless it was cancelled before. A run therefore resolves a
completion at most once, by the dispatch of its own command or by a withdrawal.
-/

namespace CompanionBridge

variable {Owner Check Handler : Type}

/-- What the end of a dispatch makes of its completion. -/
def DispatchOutcome.completion : DispatchOutcome → Option Completion
  | .returned => some .result
  | .failed category => some (.failed category)
  | _ => none

namespace CommandDispatchLane

variable {lane before after : CommandDispatchLane Owner Check Handler}

/-- Resolve one completion unless it is already done. -/
def resolveAt (lane : CommandDispatchLane Owner Check Handler) (id : Nat) (state : Completion) :
    CommandDispatchLane Owner Check Handler :=
  { lane with
    completions := fun other =>
      if other = id ∧ lane.completions id = .pending then state else lane.completions other }

/-- Resolving the completion of an item is a pointwise update that only a pending one
notices. -/
theorem resolveCompletion_eq {completions : Nat → Completion} {state : Completion}
    {item : QueuedCommand Owner} {id : Nat} (hid : item.completion = some id) :
    resolveCompletion completions state item =
      fun other => if other = id ∧ completions id = .pending then state else completions other := by
  funext other
  by_cases hpending : completions id = .pending
  · simp [resolveCompletion, hid, hpending]
  · simp [resolveCompletion, hid, hpending]

/-- A pending completion takes the state it is given. -/
theorem resolveAt_own {id : Nat} (hpending : lane.completions id = .pending) (state : Completion) :
    (lane.resolveAt id state).completions id = state :=
  if_pos ⟨rfl, hpending⟩

/-- No other completion is touched. -/
theorem resolveAt_other {id other : Nat} (hne : id ≠ other) (state : Completion) :
    (lane.resolveAt other state).completions id = lane.completions id :=
  if_neg fun hboth => hne hboth.1

theorem resolveAt_pending {id other : Nat} {state : Completion} (hstate : state ≠ .pending)
    (hpending : (lane.resolveAt id state).completions other = .pending) :
    lane.completions other = .pending ∧ other ≠ id := by
  simp only [resolveAt] at hpending
  split at hpending
  · exact absurd hpending hstate
  · rename_i hnot
    refine ⟨hpending, ?_⟩
    rintro rfl
    exact hnot ⟨rfl, hpending⟩

/-- An item in flight that is not cancelled was so before. -/
def KeepsCurrent (before after : CommandDispatchLane Owner Check Handler) : Prop :=
  ∀ item, after.current = some item → item.cancelled = false → before.current = some item

/-- Marking the item in flight does not change which completion it carries. -/
theorem KeepsCurrent.of_map {predicate : QueuedCommand Owner → Bool}
    (hcurrent : after.current = before.current.map (markCancelled predicate)) :
    before.KeepsCurrent after := by
  intro item hitem hfresh
  rw [hcurrent] at hitem
  obtain ⟨flown, hflown, rfl⟩ := Option.map_eq_some_iff.mp hitem
  rcases markCancelled_eq_or predicate flown with ⟨-, hcancelled⟩ | ⟨-, hsame⟩
  · rw [hcancelled] at hfresh
    exact absurd hfresh (by simp)
  · rw [hsame, hflown]

theorem mem_held {item : QueuedCommand Owner} :
    item ∈ lane.held ↔ item ∈ lane.queue ∨ lane.current = some item := by
  rw [held, List.mem_append, Option.mem_toList, or_comm]

variable [DecidableEq Owner]

/-- Outside a dispatch nothing is in flight. -/
theorem LaneInvariant.current_none (h : lane.LaneInvariant) {task : WorkerTask}
    (htask : lane.workerTask = some task)
    (hidle : ∀ interrupted, task.phase ≠ .dispatching interrupted) : lane.current = none := by
  cases hitem : lane.current with
  | none => rfl
  | some item =>
      obtain ⟨interrupted, cancelRequested, hsame⟩ := h.working.inflight.mp (by simp [hitem])
      rw [htask, Option.some.injEq] at hsame
      exact absurd (by rw [hsame]) (hidle interrupted)

theorem CompletionInvariant.workerWake (h : lane.CompletionInvariant) (hlane : lane.LaneInvariant)
    (hwake : lane.workerWake = some after) : lane.Advances [] after := by
  have hmoved : ∀ task wake current, current = lane.current →
      lane.Advances [] { lane.setWorker task with wake := wake, current := current } := by
    rintro task wake current rfl
    exact h.moved (by simp [setWorker]) rfl (by simp) rfl (fun _ hheld _ _ => hheld) rfl rfl rfl
      fun _ hcurrent _ => hcurrent
  unfold CommandDispatchLane.workerWake at hwake
  split at hwake
  · split at hwake
    · exact Option.some.inj hwake ▸ hmoved _ lane.wake lane.current rfl
    · exact Option.some.inj hwake ▸ hmoved _ lane.wake lane.current rfl
  · rename_i cancelRequested htask
    split at hwake
    · have hidle := hlane.current_none htask (by simp)
      exact Option.some.inj hwake ▸ hmoved _ lane.wake none hidle.symm
    · split at hwake
      · exact Option.some.inj hwake ▸ hmoved _ lane.wake lane.current rfl
      · exact absurd hwake (by simp)
  · exact absurd hwake (by simp)

/-- Scanning resolves the completions of the items it drops, each as cancelled. -/
theorem CompletionInvariant.workerScan (h : lane.CompletionInvariant)
    (hlane : lane.LaneInvariant) {evaluate : Check → Option Bool}
    {reply : LaneReply Owner Check Handler} (hscan : lane.workerScan evaluate = some reply) :
    ∃ events, lane.Advances events reply.lane := by
  obtain ⟨cancelRequested, htask, hcases⟩ := workerScan_cases hscan
  have hidle := hlane.current_none htask (by simp)
  rcases hcases with ⟨-, rfl⟩ | ⟨item, rest, hqueue, hcases⟩
  · exact ⟨[], h.moved (by simp [setWorker]) rfl (by simp) rfl (fun _ hheld _ _ => hheld) rfl rfl
      rfl fun _ hcurrent _ => hcurrent⟩
  · have hlive := hlane.queueing.live item (by simp [hqueue])
    rcases hcases with ⟨hnone, -⟩ | ⟨registration, check, -, -, -, rfl⟩ | ⟨hcancelled, -⟩ |
      ⟨-, hfresh, rfl⟩
    · rw [hnone] at hlive
      exact absurd hlive.2 (by simp)
    · -- the head is cancelled after the rest of its owner's queue
      let ofOwner : QueuedCommand Owner → Bool := fun other => other.owner = item.owner
      have hitems : ∀ other, other ∈ rest.filter ofOwner ++ [item] ↔
          other ∈ lane.held ∧ ofOwner other = true := by
        intro other
        rw [held, hidle, hqueue, Option.toList_none, List.nil_append, List.mem_append,
          List.mem_filter, List.mem_singleton, List.mem_cons]
        constructor
        · rintro (⟨hmem, hmatch⟩ | rfl)
          · exact ⟨Or.inr hmem, hmatch⟩
          · exact ⟨Or.inl rfl, by simp [ofOwner]⟩
        · rintro ⟨rfl | hmem, hmatch⟩
          · exact Or.inr rfl
          · exact Or.inl ⟨hmem, hmatch⟩
      have hrest : rest.filter (fun other => !ofOwner other) =
          lane.queue.filter fun other => !ofOwner other := by
        rw [hqueue, List.filter_cons_of_neg (by simp [ofOwner])]
      refine ⟨[.ownerEnded item.owner .unauthorized], h.purged rfl (fun _ => rfl) hitems rfl hrest
        rfl ?_ rfl Or.inl⟩
      let popped : CommandDispatchLane Owner Check Handler :=
        { lane with
          queue := rest
          owners := fun other => if other = item.owner then none else lane.owners other }
      have hflight : (popped.current.filter ofOwner).toList = [] := by simp [popped, hidle]
      have hpurge := popped.purge_completions .worker ofOwner
      rw [hflight, List.append_nil] at hpurge
      rw [cancelAll_append]
      exact congrArg (fun completions => resolveCompletion completions .cancelled item) hpurge
    -- queued items are never marked, so the skip of a cancelled head does not happen
    · rw [hcancelled] at hlive
      exact absurd hlive.1 (by simp)
    -- the head only moves from the queue into flight
    · have hheld : (({ lane with queue := rest, current := some item }.setWorker
          ⟨.dispatching false, cancelRequested⟩).record (.begun item)).held = lane.held := by
        simp [held, record, setWorker, hqueue, hidle]
      refine ⟨[.begun item], h.moved rfl rfl ?_ ?_ ?_ rfl rfl rfl ?_⟩
      · simp [LaneEvent.withdraws]
      · rw [CommandDispatchLane.awaited, hheld, CommandDispatchLane.awaited]
      · exact fun other hother _ _ => hheld ▸ hother
      · intro other hother hcancelled
        rw [← Option.some.inj hother, hfresh] at hcancelled
        exact absurd hcancelled Bool.false_ne_true

theorem CompletionInvariant.closeFinished (h : lane.CompletionInvariant)
    (hclose : lane.closeFinished = some after) : lane.Advances [] after := by
  unfold CommandDispatchLane.closeFinished at hclose
  split at hclose
  · rename_i hfinished
    rw [Option.some.injEq] at hclose
    subst hclose
    refine h.landed (fun item id _ _ hissued => ?_) rfl rfl rfl rfl rfl rfl
    exact h.closed hfinished.1 id hissued
  · exact absurd hclose (by simp)

theorem enqueue_keepsCurrent (lane : CommandDispatchLane Owner Check Handler)
    (evaluate : Check → Option Bool) (caller : Caller) (owner : Owner) (command : Command)
    (holdGeneration completion : Option Nat) :
    lane.KeepsCurrent
      (lane.enqueue evaluate caller owner command holdGeneration completion).lane := by
  rcases lane.enqueue_cases evaluate caller owner command holdGeneration completion with
    hreply | ⟨registration, check, -, -, -, hreply⟩ | ⟨-, -, hreply⟩
  · rw [hreply]
    exact fun _ hitem _ => hitem
  · rw [hreply]
    exact .of_map rfl
  · rw [hreply]
    rcases lane.place_cases owner command holdGeneration completion with
      ⟨_, _, _, -, -, -, -, -, hplace⟩ | ⟨-, hplace⟩ | ⟨_, -, -, hplace⟩
    · exact hplace ▸ fun _ hitem _ => hitem
    · exact hplace ▸ fun _ hitem _ => hitem
    · exact hplace ▸ fun _ hitem _ => hitem

/-- No call takes the item in flight away from the worker. -/
theorem perform_keepsCurrent (lane : CommandDispatchLane Owner Check Handler) (caller : Caller)
    (call : LaneCall Owner Check Handler) :
    lane.KeepsCurrent (lane.perform caller call).lane := by
  cases call with
  | activate owner registration =>
      cases hactivate : lane.activate owner registration with
      | none =>
          simp only [CommandDispatchLane.perform, hactivate, Option.getD_none]
          exact fun _ hitem _ => hitem
      | some next =>
          obtain ⟨task, -, rfl⟩ := activate_eq_some hactivate
          simp only [CommandDispatchLane.perform, hactivate, Option.getD_some]
          exact fun _ hitem _ => hitem
  | submit evaluate owner command =>
      exact lane.enqueue_keepsCurrent evaluate caller owner command none none
  | submitAndWait evaluate owner command holdGeneration =>
      have hplaced := enqueue_keepsCurrent
        { lane with nextCompletion := lane.nextCompletion + 1 } evaluate caller owner command
        (some holdGeneration) (some lane.nextCompletion)
      simp only [CommandDispatchLane.perform, CommandDispatchLane.submitAndWait]
      split
      · exact hplaced
      · exact hplaced
  | cancelOwner owner => exact .of_map rfl
  | cancelGeneration owner holdGeneration => exact .of_map rfl

/-- Nor does a handler that an unauthorized owner registered. -/
theorem runHandler_keepsCurrent (reply : LaneReply Owner Check Handler) (caller : Caller)
    (callback : List (LaneCall Owner Check Handler)) :
    reply.lane.KeepsCurrent (runHandler reply caller callback) := by
  unfold CommandDispatchLane.runHandler
  split
  · generalize reply.lane = lane
    unfold performAll
    induction callback generalizing lane with
    | nil => exact fun _ hitem _ => hitem
    | cons call rest ih =>
        intro item hitem hfresh
        exact perform_keepsCurrent lane caller call item (ih _ item hitem hfresh) hfresh
  · exact fun _ hitem _ => hitem

/-- Resolving one completion keeps the invariant, unless it invents a result for one that no
item carries. -/
theorem CompletionInvariant.resolveAt (h : lane.CompletionInvariant) {id : Nat}
    {state : Completion} (hstate : state ≠ .pending)
    (hissued : lane.nextCompletion ≤ id → state = .cancelled) :
    (lane.resolveAt id state).CompletionInvariant where
  awaited := h.awaited
  increasing := h.increasing
  issued := h.issued
  unissued := by
    intro other hother
    simp only [CommandDispatchLane.resolveAt]
    split
    · rename_i hsame
      exact Or.inr (hissued (hsame.1 ▸ hother))
    · exact h.unissued other hother
  owned := fun other hother hpending => h.owned other hother (resolveAt_pending hstate hpending).1
  closed := fun hclosed other hother hpending =>
    h.closed hclosed other hother (resolveAt_pending hstate hpending).1
  interrupted := fun item other hitem hcancelled hid hpending =>
    h.interrupted item other hitem hcancelled hid (resolveAt_pending hstate hpending).1

/-- A dispatch that returned or failed resolves the completion of its command. -/
theorem CompletionInvariant.ended (h : lane.CompletionInvariant) {item : QueuedCommand Owner}
    (hitem : lane.current = some item) {state : Completion} (hstate : state ≠ .pending) :
    let settled := { lane with completions := resolveCompletion lane.completions state item }
    (∃ events, lane.Advances events (settled.finishItem true)) ∨
      ∃ id, item.completion = some id ∧
        (lane.resolveAt id state).Advances [] (settled.finishItem true) := by
  intro settled
  cases hid : item.completion with
  | none =>
      have hsame : settled.completions = lane.completions := by
        simp [settled, resolveCompletion, hid]
      refine Or.inl ⟨[], h.landed ?_ rfl rfl rfl hsame rfl rfl⟩
      intro other id hother hid'
      rw [hitem, Option.some.injEq] at hother
      rw [← hother, hid] at hid'
      exact absurd hid' (by simp)
  | some id =>
      have hissued : id < lane.nextCompletion :=
        h.lt_next (List.mem_append_left _ (Option.mem_toList.mpr hitem)) hid
      have hresolved := h.resolveAt hstate fun hunissued =>
        absurd hissued (Nat.not_lt.mpr hunissued)
      refine Or.inr ⟨id, rfl, hresolved.landed ?_ rfl rfl rfl (resolveCompletion_eq hid) rfl rfl⟩
      intro other id' hother hid' _ hpending
      have hcurrent : lane.current = some other := hother
      rw [hitem, Option.some.injEq] at hcurrent
      rw [← hcurrent, hid, Option.some.injEq] at hid'
      exact (resolveAt_pending hstate hpending).2 hid'.symm

/-- A dispatch ends by a cancellation only after its completion was cancelled. -/
theorem CompletionInvariant.current_resolved (h : lane.CompletionInvariant)
    (hlane : lane.LaneInvariant) {task : WorkerTask} (htask : lane.workerTask = some task)
    (hinterrupted : canBeCancelled task = true) {item : QueuedCommand Owner} {id : Nat}
    (hitem : lane.current = some item) (hid : item.completion = some id) :
    lane.completions id ≠ .pending := by
  cases hstopping : lane.stopping with
  | true =>
      apply h.closed hstopping id
      exact h.lt_next (List.mem_append_left _ (Option.mem_toList.mpr hitem)) hid
  | false =>
      obtain ⟨other, hother, hcancelled⟩ :=
        hlane.working.interrupted hstopping task htask hinterrupted
      rw [hitem, Option.some.injEq] at hother
      exact h.interrupted item id hitem (hother ▸ hcancelled) hid

/-- The end of a dispatch resolves the completion of its own item, and a revocation those of
its owner's queue. -/
theorem CompletionInvariant.workerResume (h : lane.CompletionInvariant)
    (hlane : lane.LaneInvariant) {outcome : DispatchOutcome}
    {callback : List (LaneCall Owner Check Handler)}
    (hresume : lane.workerResume outcome callback = some after) :
    (∃ events, lane.Advances events after) ∨
      ∃ item id state, outcome.completion = some state ∧ lane.current = some item ∧
        item.completion = some id ∧ (lane.resolveAt id state).Advances [] after := by
  unfold CommandDispatchLane.workerResume at hresume
  split at hresume
  · rename_i interrupted cancelRequested item htask hitem
    split at hresume
    · rw [Option.some.injEq] at hresume
      subst hresume
      exact Or.inl ⟨[], h.moved (by simp [suspendAgain, setWorker]) rfl (by simp) rfl
        (fun _ hheld _ _ => hheld) rfl rfl rfl fun _ hcurrent _ => hcurrent⟩
    · rename_i hended
      split at hresume
      · exact absurd hresume (by simp)
      · rename_i hallowed
        rw [Option.some.injEq] at hresume
        subst hresume
        cases outcome with
        | suspended => exact absurd rfl hended
        | returned =>
            refine (h.ended hitem (show Completion.result ≠ .pending by simp)).imp_right ?_
            rintro ⟨id, hid, hadvances⟩
            exact ⟨item, id, .result, rfl, hitem, hid, hadvances⟩
        | failed category =>
            refine (h.ended hitem (show Completion.failed category ≠ .pending by simp)).imp_right ?_
            rintro ⟨id, hid, hadvances⟩
            exact ⟨item, id, .failed category, rfl, hitem, hid, hadvances⟩
        | revoked =>
            left
            have hended : lane.Advances [.ownerEnded item.owner .revoked]
                (lane.settle item .revoked).lane :=
              h.deactivateOwner .worker item.owner .revoked
            obtain ⟨events, hrun⟩ := hended.runHandler .worker callback
            have hflight :=
              runHandler_keepsCurrent (lane.settle item .revoked) .worker callback
            refine ⟨events ++ [], hrun.trans ?_⟩
            refine hrun.invariant.landed ?_ rfl rfl rfl rfl rfl rfl
            intro flown id hflown hid _
            cases hcancelled : flown.cancelled with
            | true => exact hrun.invariant.interrupted flown id hflown hcancelled hid
            | false =>
                -- the revocation cancelled the item before the callback ran
                have hbefore := hflight flown hflown hcancelled
                have hmarked : some (markCancelled (fun other => other.owner = item.owner) item) =
                    some flown := by
                  rw [← hbefore]
                  exact (congrArg (Option.map _) hitem).symm
                rw [Option.some.injEq] at hmarked
                rw [← hmarked] at hcancelled
                simp [markCancelled] at hcancelled
        | cancelled =>
            left
            have hinterrupted : canBeCancelled ⟨.dispatching interrupted, cancelRequested⟩ = true := by
              simpa using hallowed
            have hresolved : ∀ id, item.completion = some id → lane.completions id ≠ .pending :=
              fun _ hid => h.current_resolved hlane htask hinterrupted hitem hid
            refine ⟨[], h.landed ?_ rfl rfl rfl ?_ rfl rfl⟩
            · intro other id hother hid _
              rw [hitem, Option.some.injEq] at hother
              exact hresolved id (hother ▸ hid)
            · funext id
              by_cases hid : item.completion = some id
              · exact resolveCompletion_resolved (hresolved id hid) .cancelled item
              · exact resolveCompletion_other lane.completions .cancelled hid
  · exact absurd hresume (by simp)

theorem new_completionInvariant {maxQueueSize : Nat}
    (hnew : (new maxQueueSize : Option (CommandDispatchLane Owner Check Handler)) = some lane) :
    lane.CompletionInvariant ∧ ∀ id, lane.completions id = .pending := by
  unfold new at hnew
  split at hnew
  · rw [Option.some.injEq] at hnew
    subst hnew
    refine ⟨⟨?_, ?_, ?_, ?_, ?_, ?_, ?_⟩, fun _ => rfl⟩ <;>
      simp [CommandDispatchLane.awaited, held, promised, acceptedItems, queueHistory,
        OrderedQueue.accepted]
  · exact absurd hnew (by simp)

/-- The three ways a step treats the completions. -/
inductive CompletionStep (lane : CommandDispatchLane Owner Check Handler)
    (label : LaneLabel Owner Check Handler) (next : CommandDispatchLane Owner Check Handler) :
    Prop where
  | advanced (events : List (LaneEvent Owner)) (h : lane.Advances events next)
      (hlabel : ∀ id, label ≠ .cancelAwaited id)
  | abandoned (id : Nat) (hlabel : label = .cancelAwaited id)
      (hnext : next = lane.resolveAt id .cancelled)
  | ended (outcome : DispatchOutcome) (callback : List (LaneCall Owner Check Handler))
      (item : QueuedCommand Owner) (id : Nat) (state : Completion)
      (hlabel : label = .workerResume outcome callback) (hstate : outcome.completion = some state)
      (hitem : lane.current = some item) (hid : item.completion = some id)
      (h : (lane.resolveAt id state).Advances [] next)

/-- What each label resolves, one case for each label. -/
theorem CompletionInvariant.step (h : lane.CompletionInvariant) (hlane : lane.LaneInvariant)
    {label : LaneLabel Owner Check Handler} (hstep : lane.step label = some after) :
    lane.CompletionStep label after := by
  cases label with
  | call request callback =>
      simp only [CommandDispatchLane.step, Option.some.injEq] at hstep
      obtain ⟨events, hperform⟩ := h.perform .other request
      obtain ⟨events, hcallback⟩ := hperform.runHandler .other callback
      exact .advanced events (hstep ▸ hcallback) (by simp)
  | close =>
      simp only [CommandDispatchLane.step, Option.some.injEq] at hstep
      obtain ⟨events, hclose⟩ := h.close
      exact .advanced events (hstep ▸ hclose) (by simp)
  | closeFinished => exact .advanced [] (h.closeFinished hstep) (by simp)
  | cancelAwaited id =>
      simp only [CommandDispatchLane.step, Option.some.injEq] at hstep
      exact .abandoned id rfl hstep.symm
  | workerWake => exact .advanced [] (h.workerWake hlane hstep) (by simp)
  | workerScan evaluate callback =>
      obtain ⟨reply, hscan, rfl⟩ := Option.map_eq_some_iff.mp hstep
      obtain ⟨events, hreply⟩ := h.workerScan hlane hscan
      obtain ⟨events, hcallback⟩ := hreply.runHandler .worker callback
      exact .advanced events hcallback (by simp)
  | workerResume outcome callback =>
      rcases h.workerResume hlane hstep with
        ⟨events, hadvances⟩ | ⟨item, id, state, hstate, hitem, hid, hadvances⟩
      · exact .advanced events hadvances (by simp)
      · exact .ended outcome callback item id state rfl hstate hitem hid hadvances

/-- The outcome of a dispatch is neither pending nor cancelled. -/
theorem completion_ne_pending {outcome : DispatchOutcome} {state : Completion}
    (hstate : outcome.completion = some state) : state ≠ .pending ∧ state ≠ .cancelled := by
  cases outcome <;> simp [DispatchOutcome.completion] at hstate <;> simp [← hstate]

theorem completion_injective {first second : DispatchOutcome} {state : Completion}
    (hfirst : first.completion = some state) (hsecond : second.completion = some state) :
    first = second := by
  cases first <;> cases hfirst <;> cases second <;> cases hsecond <;> rfl

namespace CompletionStep

variable {label : LaneLabel Owner Check Handler}

theorem invariant (h : lane.CompletionStep label after) (hlane : lane.CompletionInvariant) :
    after.CompletionInvariant := by
  cases h with
  | advanced events h hlabel => exact h.invariant
  | abandoned id hlabel hnext => exact hnext ▸ hlane.resolveAt (by simp) fun _ => rfl
  | ended outcome callback item id state hlabel hstate hitem hid h => exact h.invariant

/-- A resolved completion stays as it is. -/
theorem once (h : lane.CompletionStep label after) {id : Nat}
    (hresolved : lane.completions id ≠ .pending) : after.completions id = lane.completions id := by
  have hkept : ∀ other state, (lane.resolveAt other state).completions id =
      lane.completions id := by
    intro other state
    refine if_neg ?_
    rintro ⟨rfl, hpending⟩
    exact hresolved hpending
  cases h with
  | advanced events h hlabel => exact h.once id hresolved
  | abandoned other hlabel hnext => exact hnext ▸ hkept other .cancelled
  | ended outcome callback item other state hlabel hstate hitem hid h =>
      rw [← hkept other state]
      exact h.once id (by rwa [hkept other state])

/-- A completion gets an outcome only from the dispatch of its own command. -/
theorem outcome (h : lane.CompletionStep label after) {id : Nat}
    (hpending : lane.completions id = .pending) (hended : after.completions id ≠ .pending)
    (hspared : after.completions id ≠ .cancelled) :
    ∃ outcome callback item, label = .workerResume outcome callback ∧
      outcome.completion = some (after.completions id) ∧ lane.current = some item ∧
      item.completion = some id := by
  cases h with
  | advanced events h hlabel =>
      rcases h.unresolved id hpending with hsame | hcancelled
      · exact absurd hsame hended
      · exact absurd hcancelled hspared
  | abandoned other hlabel hnext =>
      subst hnext
      simp only [CommandDispatchLane.resolveAt] at hended hspared
      split at hspared
      · exact absurd rfl hspared
      · rename_i hother
        rw [if_neg hother] at hended
        exact absurd hpending hended
  | ended outcome callback item other state hlabel hstate hitem hid h =>
      obtain ⟨hstate', -⟩ := completion_ne_pending hstate
      by_cases hsame : id = other
      · subst hsame
        have hresolved := resolveAt_own hpending state
        have hafter := h.once id (by rw [hresolved]; exact hstate')
        rw [hafter, hresolved]
        exact ⟨outcome, callback, item, hlabel, hstate, hitem, hid⟩
      · have hstill := (resolveAt_other hsame state).trans hpending
        rcases h.unresolved id hstill with hkept | hcancelled
        · exact absurd hkept hended
        · exact absurd hcancelled hspared

/-- The completion of a held command is cancelled when the task that awaits it
is, or when the command is withdrawn. -/
theorem cancelled_iff (h : lane.CompletionStep label after) {item : QueuedCommand Owner}
    {id : Nat} (hitem : item ∈ lane.held) (hid : item.completion = some id)
    (hpending : lane.completions id = .pending) :
    after.completions id = .cancelled ↔
      label = .cancelAwaited id ∨
        ∃ event ∈ after.log.drop lane.log.length, event.withdraws item = true := by
  cases h with
  | advanced events h hlabel =>
      rw [h.log, List.drop_left]
      rcases h.carried item hitem id hid hpending with
        ⟨hsame, -, hspared⟩ | ⟨hcancelled, hwithdrawn⟩
      · refine ⟨fun hcancelled => ?_, ?_⟩
        · rw [hsame] at hcancelled
          exact absurd hcancelled (by simp)
        · rintro (hlabel' | ⟨event, hevent, hwithdrawn⟩)
          · exact absurd hlabel' (hlabel id)
          · rw [hspared event hevent] at hwithdrawn
            exact absurd hwithdrawn Bool.false_ne_true
      · exact ⟨fun _ => Or.inr hwithdrawn, fun _ => hcancelled⟩
  -- the caller gave up waiting: its own completion and no other
  | abandoned other hlabel hnext =>
      subst hnext
      have hlog : (lane.resolveAt other .cancelled).log = lane.log := rfl
      rw [hlog, hlabel, List.drop_length]
      by_cases hsame : id = other
      · subst hsame
        simp [resolveAt_own hpending]
      · simp [resolveAt_other hsame, hpending, Ne.symm hsame]
  -- the dispatch that ended resolves the completion of the item in flight
  | ended outcome callback flown other state hlabel hstate hflown hid' h =>
      obtain ⟨hstate', hstate''⟩ := completion_ne_pending hstate
      have hlog : after.log = lane.log := by
        rw [h.log, List.append_nil]
        rfl
      rw [hlog, hlabel, List.drop_length]
      by_cases hsame : id = other
      · subst hsame
        have hresolved := resolveAt_own hpending state
        have hafter := h.once id (by rw [hresolved]; exact hstate')
        simp [hafter, hresolved, hstate'']
      · have hstill := (resolveAt_other hsame state).trans hpending
        rcases h.carried item hitem id hid hstill with ⟨hkept, -⟩ | ⟨-, event, hevent, -⟩
        · simp [hkept]
        · exact absurd hevent (by simp)

end CompletionStep

/-- A step withdraws a command with a completion exactly when it ends it. -/
theorem withdraws_iff_stepEnds (hlane : lane.LaneInvariant)
    {label : LaneLabel Owner Check Handler} (hstep : lane.step label = some after)
    {item : QueuedCommand Owner} {id : Nat} (hid : item.completion = some id) :
    (∃ event ∈ after.log.drop lane.log.length, event.withdraws item = true) ↔
      lane.StepEnds item label := by
  rcases step_records hlane hstep with ⟨events, hrecords⟩ | ⟨begun, hlog, -, -, hnone⟩
  · rw [← hrecords.ended item, hrecords.log, List.drop_left]
    apply exists_congr
    intro event
    apply and_congr_right
    intro hevent
    have hrecorded : event ∈ after.log := by
      rw [hrecords.log]
      exact List.mem_append_right _ hevent
    have hqueueing := (hlane.step hstep).queueing
    cases event with
    | superseded old new =>
        -- only commands that nobody awaits are replaced
        have hplain := (hqueueing.supersession old new hrecorded).2.2.2.1
        have hne : item ≠ old := by
          rintro rfl
          rw [hplain] at hid
          cases hid
        simp [LaneEvent.withdraws, ends, hne]
    | skipped other => exact absurd hrecorded (hqueueing.noSkips other)
    | accepted other => rfl
    | begun other => rfl
    | ownerEnded owner cause => rfl
    | generationEnded owner generation => rfl
    | closed => rfl
  · refine iff_of_false ?_ (hnone item)
    rw [hlog, List.drop_left]
    rintro ⟨event, hevent, hwithdraws⟩
    obtain rfl := List.mem_singleton.mp hevent
    cases hwithdraws

/-! ## Runs -/

section Runs

variable {first final : CommandDispatchLane Owner Check Handler}
  {labels : List (LaneLabel Owner Check Handler)}

/-- During a run, the dispatch of the command with a completion ended in some way. -/
def DispatchEnded (first : CommandDispatchLane Owner Check Handler)
    (labels : List (LaneLabel Owner Check Handler)) (outcome : DispatchOutcome) (id : Nat) :
    Prop :=
  ∃ earlier callback later lane item, labels = earlier ++ .workerResume outcome callback :: later ∧
    Machine.run CommandDispatchLane.step first earlier = some lane ∧ lane.current = some item ∧
    item.completion = some id

/-- What a lane reached by a run has done with its completions, and will do with
them in the next step. -/
structure CompletionsTruthful (first : CommandDispatchLane Owner Check Handler)
    (labels : List (LaneLabel Owner Check Handler))
    (lane : CommandDispatchLane Owner Check Handler) : Prop where
  unique : ∀ item ∈ acceptedItems lane.log, ∀ other ∈ acceptedItems lane.log, ∀ id,
    item.completion = some id → other.completion = some id → item = other
  owned : ∀ id, id < lane.nextCompletion → lane.completions id = .pending →
    ∃ item, (item ∈ lane.queue ∨ lane.current = some item) ∧ item.completion = some id
  once : ∀ later after id, Machine.run CommandDispatchLane.step lane later = some after →
    lane.completions id ≠ .pending → after.completions id = lane.completions id
  result : ∀ id, lane.completions id = .result → DispatchEnded first labels .returned id
  failed : ∀ id category, lane.completions id = .failed category →
    DispatchEnded first labels (.failed category) id
  cancelled : ∀ label next, lane.step label = some next →
    ∀ item id, item ∈ lane.queue ∨ lane.current = some item → item.completion = some id →
      lane.completions id = .pending →
      (next.completions id = .cancelled ↔
        label = .cancelAwaited id ∨ lane.StepEnds item label)
  quiet : lane.quiescent ∨ lane.stopping = true →
    ∀ id, id < lane.nextCompletion → lane.completions id ≠ .pending

theorem run_completionInvariant {maxQueueSize : Nat} (hnew : new maxQueueSize = some first)
    (hrun : Machine.run step first labels = some final) :
    final.LaneInvariant ∧ final.CompletionInvariant := by
  refine Machine.run_invariant
    (fun lane => lane.LaneInvariant ∧ lane.CompletionInvariant) ?_
    ⟨new_invariant hnew, (new_completionInvariant hnew).1⟩ hrun
  rintro lane label next ⟨hlane, hcompletions⟩ hstep
  exact ⟨hlane.step hstep, (hcompletions.step hlane hstep).invariant hcompletions⟩

/-- Every outcome a completion has was the outcome of its command's dispatch. -/
theorem run_outcome {maxQueueSize : Nat} (hnew : new maxQueueSize = some first)
    (hrun : Machine.run step first labels = some final) :
    ∀ outcome id, outcome.completion = some (final.completions id) →
      DispatchEnded first labels outcome id := by
  refine Machine.run_snoc_induction
    (fun labels lane => ∀ outcome id, outcome.completion = some (lane.completions id) →
      DispatchEnded first labels outcome id) ?_ ?_ hrun
  · intro outcome id houtcome
    have hpending := (new_completionInvariant hnew).2 id
    exact absurd hpending (completion_ne_pending houtcome).1
  · intro labels lane label next hlabels ih hstep outcome id houtcome
    obtain ⟨hlane, hcompletions⟩ := run_completionInvariant hnew hlabels
    have hnext := hcompletions.step hlane hstep
    by_cases hpending : lane.completions id = .pending
    · obtain ⟨hended, hspared⟩ := completion_ne_pending houtcome
      obtain ⟨outcome', callback, item, rfl, hsame, hitem, hid⟩ :=
        hnext.outcome hpending hended hspared
      obtain rfl := completion_injective hsame houtcome
      exact ⟨labels, callback, [], lane, item, rfl, hlabels, hitem, hid⟩
    · rw [hnext.once hpending] at houtcome
      obtain ⟨earlier, callback, later, middle, item, rfl, hmiddle, hitem, hid⟩ :=
        ih outcome id houtcome
      exact ⟨earlier, callback, later ++ [label], middle, item, by simp, hmiddle, hitem, hid⟩

/-- In every run, each completion is resolved at most once and by what its
command came to, and none is left unresolved when the lane is quiet or closed. -/
theorem completions_resolved_once {maxQueueSize : Nat} (hnew : new maxQueueSize = some first)
    (hrun : Machine.run step first labels = some final) :
    CompletionsTruthful first labels final := by
  obtain ⟨hlane, hcompletions⟩ := run_completionInvariant hnew hrun
  have howned : ∀ id, id < final.nextCompletion → final.completions id = .pending →
      ∃ item, (item ∈ final.queue ∨ final.current = some item) ∧ item.completion = some id := by
    intro id hissued hpending
    obtain ⟨item, hitem, hid⟩ := mem_awaited.mp (hcompletions.owned id hissued hpending)
    exact ⟨item, mem_held.mp hitem, hid⟩
  refine ⟨?_, howned, ?_, ?_, ?_, ?_, ?_⟩
  · intro item hitem other hother id hid hid'
    exact eq_of_completion hcompletions.increasing hitem hother hid hid'
  · intro later after id hlater hresolved
    refine (Machine.run_invariant
      (fun lane => (lane.LaneInvariant ∧ lane.CompletionInvariant) ∧
        lane.completions id = final.completions id) ?_ ⟨⟨hlane, hcompletions⟩, rfl⟩ hlater).2
    rintro lane label next ⟨⟨hlane, hcompletions⟩, hsame⟩ hstep
    have hnext := hcompletions.step hlane hstep
    refine ⟨⟨hlane.step hstep, hnext.invariant hcompletions⟩, ?_⟩
    rw [hnext.once (hsame ▸ hresolved), hsame]
  · intro id hresult
    exact run_outcome hnew hrun .returned id (by rw [hresult]; rfl)
  · intro id category hfailed
    exact run_outcome hnew hrun (.failed category) id (by rw [hfailed]; rfl)
  · intro label next hstep item id hitem hid hpending
    have hcancelled := (hcompletions.step hlane hstep).cancelled_iff (mem_held.mpr hitem) hid
      hpending
    exact hcancelled.trans (or_congr_right (withdraws_iff_stepEnds hlane hstep hid))
  · rintro (hquiescent | hclosed) id hissued hpending
    · obtain ⟨item, hitem, -⟩ := howned id hissued hpending
      obtain ⟨hempty, hidle⟩ := hlane.idle hquiescent
      rw [hempty, hidle] at hitem
      exact absurd hitem (by simp)
    · exact hcompletions.closed hclosed id hissued hpending

/-- Three awaited commands: one is sent, one fails and one is withdrawn. -/
def awaitedLabels : List (LaneLabel Nat Unit Unit) :=
  let key : Command := { action := .sendKey, samsungKey := some "KEY_UP" }
  let allow : Unit → Option Bool := fun _ => some true
  [.call (.activate 1 ⟨some (), none⟩) [], .call (.submitAndWait allow 1 key 7) [],
    .call (.submitAndWait allow 1 key 7) [], .call (.submitAndWait allow 1 key 7) [],
    .workerWake, .workerScan allow [], .workerResume .suspended [], .workerResume .returned [],
    .workerScan allow [], .workerResume (.failed .timeout) [],
    .call (.cancelGeneration 1 7) [], .workerScan allow []]

theorem completions_resolved_once_awaited :
    ∃ first final, new 3 = some first ∧
      Machine.run CommandDispatchLane.step first awaitedLabels = some final ∧
      [0, 1, 2].map final.completions = [.result, .failed .timeout, .cancelled] ∧
      CompletionsTruthful first awaitedLabels final := by
  let awaited : Option (CommandDispatchLane Nat Unit Unit) :=
    (new 3).bind fun first => Machine.run CommandDispatchLane.step first awaitedLabels
  obtain ⟨final, hfinal⟩ :=
    Option.isSome_iff_exists.mp (show awaited.isSome = true by decide +kernel)
  have hresolved : awaited.map (fun final => [0, 1, 2].map final.completions) =
      some [.result, .failed .timeout, .cancelled] := by decide +kernel
  rw [hfinal] at hresolved
  obtain ⟨first, hnew, hrun⟩ := Option.bind_eq_some_iff.mp hfinal
  exact ⟨first, final, hnew, hrun, Option.some.inj hresolved,
    completions_resolved_once hnew hrun⟩

end Runs

end CommandDispatchLane

end CompanionBridge
