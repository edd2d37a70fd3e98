import CompanionBridge.Library.OrderedQueue
import CompanionBridge.Companion.Dispatch

/-!
# Invariant of the dispatch lane

Every operation of the lane is a sequence of accept, begin and withdraw events
of an ordered queue. The invariant below ties the pending queue to that history
and the worker task to the item it is dispatching: while the lane is open, the
shared worker is only ever cancelled together with its item.
-/

namespace CompanionBridge

variable {Owner Check Handler : Type}

namespace CommandDispatchLane

/-- Facts about the worker task and the item it is dispatching. -/
structure WorkerInvariant (lane : CommandDispatchLane Owner Check Handler) : Prop where
  /-- An item is in flight exactly while the worker is inside a dispatch. -/
  inflight : lane.current.isSome ↔
    ∃ interrupted cancelRequested, lane.workerTask = some ⟨.dispatching interrupted, cancelRequested⟩
  /-- The worker of an open lane has not ended. -/
  alive : lane.stopping = false → ∀ task, lane.workerTask = some task → task.phase ≠ .finished
  /-- While the lane is open, the worker is only ever cancelled with its item. -/
  interrupted : lane.stopping = false → ∀ task, lane.workerTask = some task →
    canBeCancelled task = true → ∃ item, lane.current = some item ∧ item.cancelled = true

variable {lane : CommandDispatchLane Owner Check Handler}

/-! ## Cancelling the item in flight -/

@[simp] theorem cancel_phase (task : WorkerTask) : task.cancel.phase = task.phase := by
  unfold WorkerTask.cancel
  split <;> rfl

/-- Marking changes an item exactly where the predicate holds of it. -/
theorem markCancelled_eq_or (predicate : QueuedCommand Owner → Bool)
    (item : QueuedCommand Owner) :
    (predicate item = true ∧ (markCancelled predicate item).cancelled = true) ∨
      (predicate item = false ∧ markCancelled predicate item = item) := by
  unfold markCancelled
  cases hitem : predicate item with
  | true => exact Or.inl ⟨rfl, by simp⟩
  | false => exact Or.inr ⟨rfl, by simp⟩

@[simp] theorem markCancelled_ticket (predicate : QueuedCommand Owner → Bool)
    (item : QueuedCommand Owner) : (markCancelled predicate item).ticket = item.ticket := by
  unfold markCancelled
  split <;> rfl

theorem markCancelled_keeps (predicate : QueuedCommand Owner → Bool)
    {item : QueuedCommand Owner} (hitem : item.cancelled = true) :
    (markCancelled predicate item).cancelled = true := by
  rcases markCancelled_eq_or predicate item with ⟨-, h⟩ | ⟨-, h⟩
  · exact h
  · rw [h, hitem]

/-- A phase is unaffected by cancelling the item in flight. -/
theorem cancelCurrent_phase (caller : Caller) (predicate : QueuedCommand Owner → Bool)
    (task : WorkerTask) (htask : (lane.cancelCurrent caller predicate).workerTask = some task) :
    ∃ before, lane.workerTask = some before ∧ before.phase = task.phase ∧
      (before = task ∨ lane.current.any predicate = true) := by
  simp only [cancelCurrent] at htask
  split at htask
  · rename_i hhit
    simp only [Bool.and_eq_true] at hhit
    rw [Option.map_eq_some_iff] at htask
    obtain ⟨before, hbefore, rfl⟩ := htask
    exact ⟨before, hbefore, (cancel_phase before).symm, Or.inr hhit.1⟩
  · exact ⟨task, htask, rfl, Or.inl rfl⟩

theorem map_cancel_dispatching (worker : Option WorkerTask) :
    (∃ interrupted cancelRequested,
        worker.map WorkerTask.cancel = some ⟨.dispatching interrupted, cancelRequested⟩) ↔
      ∃ interrupted cancelRequested, worker = some ⟨.dispatching interrupted, cancelRequested⟩ := by
  constructor
  · rintro ⟨interrupted, cancelRequested, htask⟩
    rw [Option.map_eq_some_iff] at htask
    obtain ⟨before, hbefore, hcancel⟩ := htask
    have hphase : before.phase = .dispatching interrupted := by
      rw [← cancel_phase before, hcancel]
    exact ⟨interrupted, before.cancelRequested, by rw [hbefore, ← hphase]⟩
  · rintro ⟨interrupted, cancelRequested, htask⟩
    exact ⟨interrupted, true, by rw [htask]; rfl⟩

/-- Whether a dispatch is under way does not depend on a request to cancel it. -/
theorem cancelCurrent_dispatching (caller : Caller) (predicate : QueuedCommand Owner → Bool) :
    (∃ interrupted cancelRequested, (lane.cancelCurrent caller predicate).workerTask =
        some ⟨.dispatching interrupted, cancelRequested⟩) ↔
      ∃ interrupted cancelRequested, lane.workerTask =
        some ⟨.dispatching interrupted, cancelRequested⟩ := by
  by_cases hhit : (lane.current.any predicate && caller = .other) = true
  · simp only [cancelCurrent, hhit, if_true, map_cancel_dispatching]
  · simp [cancelCurrent, hhit]

@[simp] theorem cancelCurrent_workerTask_isSome (caller : Caller)
    (predicate : QueuedCommand Owner → Bool) :
    (lane.cancelCurrent caller predicate).workerTask.isSome = lane.workerTask.isSome := by
  by_cases hhit : (lane.current.any predicate && caller = .other) = true
  · simp only [cancelCurrent, hhit, if_true, Option.isSome_map]
  · simp [cancelCurrent, hhit]

/-- Cancelling the item in flight keeps the worker's part of the invariant. -/
theorem WorkerInvariant.cancelCurrent (h : lane.WorkerInvariant) (caller : Caller)
    (predicate : QueuedCommand Owner → Bool) :
    (lane.cancelCurrent caller predicate).WorkerInvariant where
  inflight := by
    rw [cancelCurrent_dispatching, ← h.inflight]
    simp [CommandDispatchLane.cancelCurrent]
  alive := by
    intro hopen task htask
    obtain ⟨before, hbefore, hphase, -⟩ := cancelCurrent_phase caller predicate task htask
    rw [← hphase]
    exact h.alive hopen before hbefore
  interrupted := by
    intro hopen task htask hcancel
    obtain ⟨before, hbefore, hphase, rfl | hhit⟩ :=
      cancelCurrent_phase caller predicate task htask
    · obtain ⟨item, hitem, hcancelled⟩ := h.interrupted hopen before hbefore hcancel
      exact ⟨markCancelled predicate item, by simp [CommandDispatchLane.cancelCurrent, hitem],
        markCancelled_keeps predicate hcancelled⟩
    · rw [Option.any_eq_true] at hhit
      obtain ⟨item, hitem, hmatch⟩ := hhit
      refine ⟨markCancelled predicate item, ?_, ?_⟩
      · simp [CommandDispatchLane.cancelCurrent, hitem]
      · simp [markCancelled, hmatch]

end CommandDispatchLane

variable [DecidableEq Owner]

/-- The items an event takes out of the pending queue. -/
def LaneEvent.withdraws (event : LaneEvent Owner) (item : QueuedCommand Owner) : Bool :=
  match event with
  | .accepted _ => false
  | .begun _ => false
  | .superseded old _ => item = old
  | .skipped other => item = other
  | .ownerEnded owner _ => item.owner = owner
  | .generationEnded owner generation => CommandDispatchLane.taggedWith owner generation item
  | .closed => true

def LaneEvent.queueEvent : LaneEvent Owner → OrderedQueue.Event (QueuedCommand Owner)
  | .accepted item => .accept item
  | .begun item => .begin item
  | event => .withdraw event.withdraws

/-- The lane's record, read as the history of an ordered queue. -/
def queueHistory (log : List (LaneEvent Owner)) : List (OrderedQueue.Event (QueuedCommand Owner)) :=
  log.map LaneEvent.queueEvent

/-- Accepted submissions, in acceptance order. -/
def acceptedItems (log : List (LaneEvent Owner)) : List (QueuedCommand Owner) :=
  OrderedQueue.accepted (queueHistory log)

/-- Dispatches begun by the worker, in order. -/
def begunItems (log : List (LaneEvent Owner)) : List (QueuedCommand Owner) :=
  OrderedQueue.begun (queueHistory log)

@[simp] theorem queueHistory_append (first second : List (LaneEvent Owner)) :
    queueHistory (first ++ second) = queueHistory first ++ queueHistory second :=
  List.map_append

@[simp] theorem acceptedItems_append (first second : List (LaneEvent Owner)) :
    acceptedItems (first ++ second) = acceptedItems first ++ acceptedItems second := by
  simp only [acceptedItems, queueHistory_append, OrderedQueue.accepted_append]

@[simp] theorem begunItems_append (first second : List (LaneEvent Owner)) :
    begunItems (first ++ second) = begunItems first ++ begunItems second := by
  simp only [begunItems, queueHistory_append, OrderedQueue.begun_append]

theorem mem_acceptedItems {log : List (LaneEvent Owner)} {item : QueuedCommand Owner} :
    item ∈ acceptedItems log ↔ .accepted item ∈ log := by
  simp only [acceptedItems, OrderedQueue.mem_accepted, queueHistory, List.mem_map]
  constructor
  · rintro ⟨event, hevent, hitem⟩
    cases event <;> simp_all [LaneEvent.queueEvent]
  · intro hmem
    exact ⟨_, hmem, rfl⟩

theorem mem_begunItems {log : List (LaneEvent Owner)} {item : QueuedCommand Owner} :
    item ∈ begunItems log ↔ .begun item ∈ log := by
  simp only [begunItems, OrderedQueue.mem_begun, queueHistory, List.mem_map]
  constructor
  · rintro ⟨event, hevent, hitem⟩
    cases event <;> simp_all [LaneEvent.queueEvent]
  · intro hmem
    exact ⟨_, hmem, rfl⟩

namespace CommandDispatchLane

/-- Facts about the pending queue and the record. -/
structure QueueInvariant (lane : CommandDispatchLane Owner Check Handler) : Prop where
  history : OrderedQueue.Valid (queueHistory lane.log) lane.queue
  increasing : (acceptedItems lane.log).Pairwise fun first second => first.ticket < second.ticket
  fresh : ∀ item ∈ acceptedItems lane.log, item.ticket < lane.nextTicket
  bounded : lane.queue.length ≤ lane.maxQueueSize
  live : ∀ item ∈ lane.queue, item.cancelled = false ∧ (lane.owners item.owner).isSome
  awake : lane.queue ≠ [] → lane.wake = true
  noSkips : ∀ item, LaneEvent.skipped item ∉ lane.log
  supersession : ∀ old new, LaneEvent.superseded old new ∈ lane.log → Coalesces old new
  manned : ∀ owner, (lane.owners owner).isSome → lane.workerTask.isSome
  closed : lane.stopping = true → ∀ owner, lane.owners owner = none

structure LaneInvariant (lane : CommandDispatchLane Owner Check Handler) : Prop where
  queueing : lane.QueueInvariant
  working : lane.WorkerInvariant

variable {lane : CommandDispatchLane Owner Check Handler}

/-! ## Each operation keeps the invariant -/

theorem LaneInvariant.withCompletions (h : lane.LaneInvariant) (completions : Nat → Completion)
    (nextCompletion : Nat) :
    { lane with completions := completions, nextCompletion := nextCompletion }.LaneInvariant :=
  ⟨⟨h.queueing.history, h.queueing.increasing, h.queueing.fresh, h.queueing.bounded,
    h.queueing.live, h.queueing.awake, h.queueing.noSkips, h.queueing.supersession,
    h.queueing.manned, h.queueing.closed⟩,
   ⟨h.working.inflight, h.working.alive, h.working.interrupted⟩⟩

theorem new_invariant {maxQueueSize : Nat}
    (hnew : (new maxQueueSize : Option (CommandDispatchLane Owner Check Handler)) = some lane) :
    lane.LaneInvariant := by
  unfold new at hnew
  split at hnew
  · rw [Option.some.injEq] at hnew
    subst hnew
    refine ⟨⟨.nil, ?_, ?_, ?_, ?_, ?_, ?_, ?_, ?_, ?_⟩, ⟨?_, ?_, ?_⟩⟩ <;>
      simp [acceptedItems, queueHistory, OrderedQueue.accepted]
  · exact absurd hnew (by simp)

/-- What one withdrawal leaves of the queue keeps the queue facts. -/
theorem QueueInvariant.withdraw (h : lane.QueueInvariant) (event : LaneEvent Owner)
    (hevent : LaneEvent.queueEvent event = .withdraw event.withdraws)
    (hskip : ∀ item, event ≠ .skipped item) (hsuperseded : ∀ old new, event ≠ .superseded old new)
    {next : CommandDispatchLane Owner Check Handler}
    (hlog : next.log = lane.log ++ [event])
    (hqueue : next.queue = lane.queue.filter fun item => !event.withdraws item)
    (hticket : next.nextTicket = lane.nextTicket) (hsize : next.maxQueueSize = lane.maxQueueSize)
    (howners : ∀ item ∈ next.queue, (lane.owners item.owner).isSome →
      (next.owners item.owner).isSome)
    (hforget : ∀ owner, (next.owners owner).isSome → (lane.owners owner).isSome)
    (hwake : lane.wake = true → next.wake = true)
    (hworker : lane.workerTask.isSome → next.workerTask.isSome)
    (hstopping : next.stopping = true → ∀ owner, next.owners owner = none) :
    next.QueueInvariant where
  history := by
    rw [hlog, hqueue, queueHistory_append]
    have hvalid := h.history.withdraw event.withdraws
    rwa [← hevent] at hvalid
  increasing := by
    -- a withdrawal accepts nothing, so the tickets stay as they are
    have haccepted : acceptedItems [event] = [] := by
      simp [acceptedItems, queueHistory, hevent]
    rw [hlog, acceptedItems_append, haccepted, List.append_nil]
    exact h.increasing
  fresh := by
    have haccepted : acceptedItems [event] = [] := by
      simp [acceptedItems, queueHistory, hevent]
    rw [hlog, hticket, acceptedItems_append, haccepted, List.append_nil]
    exact h.fresh
  bounded := by
    rw [hqueue, hsize]
    exact (List.length_filter_le _ _).trans h.bounded
  live := by
    intro item hitem
    have hmem : item ∈ lane.queue := by
      rw [hqueue] at hitem
      exact List.mem_of_mem_filter hitem
    exact ⟨(h.live item hmem).1, howners item hitem (h.live item hmem).2⟩
  awake := by
    intro hne
    apply hwake
    apply h.awake
    intro hempty
    rw [hqueue, hempty] at hne
    exact hne rfl
  noSkips := by
    intro item hmem
    rw [hlog, List.mem_append, List.mem_singleton] at hmem
    rcases hmem with hmem | hmem
    · exact h.noSkips item hmem
    · exact hskip item hmem.symm
  supersession := by
    intro old new hmem
    rw [hlog, List.mem_append, List.mem_singleton] at hmem
    rcases hmem with hmem | hmem
    · exact h.supersession old new hmem
    · exact absurd hmem.symm (hsuperseded old new)
  manned := fun owner howner => hworker (h.manned owner (hforget owner howner))
  closed := hstopping

/-- Deactivating an owner withdraws its queue and marks its item in flight. -/
theorem LaneInvariant.deactivateOwner (h : lane.LaneInvariant) (caller : Caller) (owner : Owner)
    (cause : OwnerEnd) : (lane.deactivateOwner caller owner cause).LaneInvariant := by
  refine ⟨h.queueing.withdraw (.ownerEnded owner cause) rfl ?_ ?_ rfl rfl rfl rfl ?_ ?_ ?_ ?_ ?_,
    ?_⟩
  · simp
  · simp
  · intro item hitem hlive
    have hother : item.owner ≠ owner := by
      simpa [LaneEvent.withdraws] using (List.mem_filter.mp hitem).2
    simpa [CommandDispatchLane.deactivateOwner, discardQueued, cancelCurrent, record, hother]
      using hlive
  · intro other hother
    simp only [CommandDispatchLane.deactivateOwner, discardQueued, cancelCurrent, record] at hother
    split at hother
    · exact absurd hother (by simp)
    · exact hother
  · intro _
    rfl
  · exact fun hworker => (cancelCurrent_workerTask_isSome caller _).trans hworker
  · intro hstopping other
    have hnone := h.queueing.closed hstopping other
    simp [CommandDispatchLane.deactivateOwner, discardQueued, cancelCurrent, record, hnone]
  · have hcancel := h.working.cancelCurrent caller fun item => item.owner = owner
    exact ⟨hcancel.inflight, hcancel.alive, hcancel.interrupted⟩

/-- Cancelling a generation withdraws the queued items of that generation alone. -/
theorem LaneInvariant.cancelGeneration (h : lane.LaneInvariant) (caller : Caller) (owner : Owner)
    (generation : Nat) : (lane.cancelGeneration caller owner generation).LaneInvariant := by
  refine ⟨h.queueing.withdraw (.generationEnded owner generation) rfl ?_ ?_ rfl rfl rfl rfl
    ?_ ?_ ?_ ?_ ?_, ?_⟩
  · simp
  · simp
  · exact fun _ _ hlive => hlive
  · exact fun _ howner => howner
  · intro hwake
    simp [CommandDispatchLane.cancelGeneration, record, hwake]
  · exact fun hworker => (cancelCurrent_workerTask_isSome caller _).trans hworker
  · exact h.queueing.closed
  · have hcancel := h.working.cancelCurrent caller (taggedWith owner generation)
    exact ⟨hcancel.inflight, hcancel.alive, hcancel.interrupted⟩

theorem LaneInvariant.start (h : lane.LaneInvariant)
    {next : CommandDispatchLane Owner Check Handler} (hstart : lane.start = some next) :
    next.LaneInvariant := by
  obtain ⟨hopen, task, htask, rfl⟩ := start_eq_some hstart
  refine ⟨⟨h.queueing.history, h.queueing.increasing, h.queueing.fresh, h.queueing.bounded,
    h.queueing.live, h.queueing.awake, h.queueing.noSkips, h.queueing.supersession,
    fun _ _ => rfl, h.queueing.closed⟩, ?_⟩
  rcases htask with hsame | ⟨hfinished, rfl⟩
  · exact ⟨by simpa only [hsame] using h.working.inflight,
      by simpa only [hsame] using h.working.alive,
      by simpa only [hsame] using h.working.interrupted⟩
  · have hidle : lane.workerTask = none := by
      cases hworker : lane.workerTask with
      | none => rfl
      | some other => exact absurd (hfinished other hworker) (h.working.alive hopen other hworker)
    refine ⟨?_, by simp, by simp [canBeCancelled]⟩
    have hcurrent := h.working.inflight
    simp only [hidle, reduceCtorEq, exists_false, iff_false] at hcurrent
    simpa using hcurrent

/-- Registering an owner, with a worker at hand, keeps the invariant. -/
theorem LaneInvariant.activate (h : lane.LaneInvariant) {owner : Owner}
    {registration : DispatchOwner Check Handler} {next : CommandDispatchLane Owner Check Handler}
    (hactivate : lane.activate owner registration = some next) : next.LaneInvariant := by
  obtain ⟨task, hstart, rfl⟩ := activate_eq_some hactivate
  have hopen := (start_eq_some hstart).1
  have hstarted := h.start hstart
  refine ⟨⟨h.queueing.history, h.queueing.increasing, h.queueing.fresh, h.queueing.bounded, ?_,
    h.queueing.awake, h.queueing.noSkips, h.queueing.supersession, fun _ _ => rfl, ?_⟩,
    ⟨hstarted.working.inflight, hstarted.working.alive, hstarted.working.interrupted⟩⟩
  · intro item hitem
    refine ⟨(h.queueing.live item hitem).1, ?_⟩
    by_cases hsame : item.owner = owner
    · simp [hsame]
    · simpa [hsame] using (h.queueing.live item hitem).2
  · intro hstopping
    have hclosed : lane.stopping = true := hstopping
    rw [hopen] at hclosed
    exact absurd hclosed (by decide)

/-- Placing a command of a registered owner keeps the queue facts. -/
theorem QueueInvariant.place (h : lane.QueueInvariant) {owner : Owner}
    (howner : (lane.owners owner).isSome) (command : Command)
    (holdGeneration completion : Option Nat) :
    (lane.place owner command holdGeneration completion).lane.QueueInvariant := by
  rcases lane.place_cases owner command holdGeneration completion with
    ⟨front, tail, replaced, hqueue, hcoalesces, hreplaced, htail, -, hreply⟩ | ⟨-, hreply⟩ |
    ⟨item, hroom, hitem, hreply⟩
  · rw [hreply]
    have htailMem : tail ∈ lane.queue := by simp [hqueue]
    -- a text replaces the tail: what is withdrawn is the tail alone
    have hnodup : (front ++ [tail]).Nodup := by
      have haccepted : (acceptedItems lane.log).Nodup :=
        h.increasing.imp fun hlt heq => by rw [heq] at hlt; exact lt_irrefl _ hlt
      exact hqueue ▸ (List.nodup_append.mp (h.history.nodup haccepted)).2.1
    have hfront : ∀ other ∈ front, other ≠ tail := by
      intro other hother heq
      exact (List.nodup_append.mp hnodup).2.2 other hother tail (by simp) heq
    have hremaining : lane.queue.filter (fun item => !decide (item = tail)) = front := by
      rw [hqueue, List.filter_append, List.filter_eq_self.mpr, List.filter_cons_of_neg,
        List.filter_nil, List.append_nil]
      · simp
      · intro other hother
        simpa using hfront other hother
    have haccepted : acceptedItems [LaneEvent.superseded tail replaced, .accepted replaced] =
        [replaced] := rfl
    refine ⟨?_, ?_, ?_, ?_, ?_, ?_, ?_, ?_, h.manned, h.closed⟩
    · have hwithdrawn := h.history.withdraw (LaneEvent.superseded tail replaced).withdraws
      have hvalid := hwithdrawn.accept replaced
      simp only [LaneEvent.withdraws] at hvalid
      rw [hremaining] at hvalid
      rw [List.append_assoc] at hvalid
      rw [queueHistory_append]
      exact hvalid
    · rw [acceptedItems_append, haccepted, List.pairwise_append]
      refine ⟨h.increasing, List.pairwise_singleton _ _, ?_⟩
      intro other hother new hnew
      rw [List.mem_singleton] at hnew
      rw [hnew, hreplaced]
      exact h.fresh other hother
    · rw [acceptedItems_append, haccepted]
      intro other hother
      rw [List.mem_append, List.mem_singleton] at hother
      rcases hother with hother | rfl
      · exact Nat.lt_succ_of_lt (h.fresh other hother)
      · rw [hreplaced]
        exact Nat.lt_succ_self _
    · have hbounded := h.bounded
      rw [hqueue] at hbounded
      simpa using hbounded
    · intro other hother
      rw [List.mem_append, List.mem_singleton] at hother
      rcases hother with hother | rfl
      · exact h.live other (by simp [hqueue, hother])
      · have htailLive := h.live tail htailMem
        rw [hreplaced]
        exact htailLive
    · intro _
      exact h.awake (List.ne_nil_of_mem htailMem)
    · intro other hmem
      exact h.noSkips other (by simpa using hmem)
    · intro old new hmem
      rw [List.mem_append, List.mem_cons, List.mem_singleton] at hmem
      rcases hmem with hmem | hmem | hmem
      · exact h.supersession old new hmem
      · rw [LaneEvent.superseded.injEq] at hmem
        exact hmem.1 ▸ hmem.2 ▸ hcoalesces
      · exact absurd hmem (by simp)
  · rw [hreply]
    exact h
  · rw [hreply]
    -- a new item goes to the end with the next ticket
    have haccepted : acceptedItems [LaneEvent.accepted item] = [item] := rfl
    refine ⟨?_, ?_, ?_, ?_, ?_, fun _ => rfl, ?_, ?_, h.manned, h.closed⟩
    · rw [queueHistory_append]
      exact h.history.accept item
    · rw [acceptedItems_append, haccepted, List.pairwise_append]
      refine ⟨h.increasing, List.pairwise_singleton _ _, ?_⟩
      intro other hother new hnew
      rw [List.mem_singleton] at hnew
      rw [hnew, hitem]
      exact h.fresh other hother
    · rw [acceptedItems_append, haccepted]
      intro other hother
      rw [List.mem_append, List.mem_singleton] at hother
      rcases hother with hother | rfl
      · exact Nat.lt_succ_of_lt (h.fresh other hother)
      · rw [hitem]
        exact Nat.lt_succ_self _
    · rw [List.length_append, List.length_singleton]
      exact hroom
    · intro other hother
      rw [List.mem_append, List.mem_singleton] at hother
      rcases hother with hother | rfl
      · exact h.live other hother
      · rw [hitem]
        exact ⟨rfl, howner⟩
    · intro other hmem
      exact h.noSkips other (by simpa using hmem)
    · intro old new hmem
      exact h.supersession old new (by simpa using hmem)

/-- Placing an item wakes the worker, if it is there to be woken. -/
theorem WorkerInvariant.place (h : lane.WorkerInvariant) (owner : Owner) (command : Command)
    (holdGeneration completion : Option Nat) :
    (lane.place owner command holdGeneration completion).lane.WorkerInvariant := by
  rcases lane.place_cases owner command holdGeneration completion with
    ⟨front, tail, replaced, -, -, -, -, -, hreply⟩ | ⟨-, hreply⟩ | ⟨item, -, -, hreply⟩
  · rw [hreply]
    exact ⟨h.inflight, h.alive, h.interrupted⟩
  · rw [hreply]
    exact h
  · rw [hreply]
    exact ⟨h.inflight, h.alive, h.interrupted⟩

/-- A submitted item is placed, refused or refused with its owner. -/
theorem LaneInvariant.enqueue (h : lane.LaneInvariant) (evaluate : Check → Option Bool)
    (caller : Caller) (owner : Owner) (command : Command) (holdGeneration completion : Option Nat) :
    (lane.enqueue evaluate caller owner command holdGeneration completion).lane.LaneInvariant := by
  rcases lane.enqueue_cases evaluate caller owner command holdGeneration completion with
    hreply | ⟨registration, check, -, -, -, hreply⟩ | ⟨-, ⟨registration, howner, -⟩, hreply⟩
  · rw [hreply]
    exact h
  · rw [hreply]
    exact h.deactivateOwner caller owner .unauthorized
  · rw [hreply]
    exact ⟨h.queueing.place (by simp [howner]) command holdGeneration completion,
      h.working.place owner command holdGeneration completion⟩

/-- Every call of a user of the lane keeps the invariant. -/
theorem LaneInvariant.perform (h : lane.LaneInvariant) (caller : Caller)
    (call : LaneCall Owner Check Handler) : (lane.perform caller call).lane.LaneInvariant := by
  cases call with
  | activate owner registration =>
      cases hactivate : lane.activate owner registration with
      | none =>
          simp only [CommandDispatchLane.perform, hactivate, Option.getD_none]
          exact h
      | some next =>
          simp only [CommandDispatchLane.perform, hactivate, Option.getD_some]
          exact h.activate hactivate
  | submit evaluate owner command => exact h.enqueue evaluate caller owner command none none
  | submitAndWait evaluate owner command holdGeneration =>
      have hplaced := (h.withCompletions lane.completions (lane.nextCompletion + 1)).enqueue
        evaluate caller owner command (some holdGeneration) (some lane.nextCompletion)
      simp only [CommandDispatchLane.perform, submitAndWait]
      split
      · exact hplaced
      · exact hplaced.withCompletions _ _
  | cancelOwner owner => exact h.deactivateOwner caller owner .cancelled
  | cancelGeneration owner holdGeneration => exact h.cancelGeneration caller owner holdGeneration

theorem LaneInvariant.performAll (h : lane.LaneInvariant) (caller : Caller)
    (calls : List (LaneCall Owner Check Handler)) :
    (lane.performAll caller calls).LaneInvariant := by
  induction calls generalizing lane with
  | nil => exact h
  | cons call rest ih => exact ih (h.perform caller call)

theorem LaneInvariant.runHandler {reply : LaneReply Owner Check Handler}
    (h : reply.lane.LaneInvariant) (caller : Caller)
    (callback : List (LaneCall Owner Check Handler)) :
    (runHandler reply caller callback).LaneInvariant := by
  unfold CommandDispatchLane.runHandler
  split
  · exact h.performAll caller callback
  · exact h

theorem LaneInvariant.close (h : lane.LaneInvariant) : lane.close.LaneInvariant := by
  unfold CommandDispatchLane.close
  split
  · exact h
  · refine ⟨h.queueing.withdraw .closed rfl ?_ ?_ rfl rfl rfl rfl ?_ ?_ ?_ ?_ ?_, ⟨?_, ?_, ?_⟩⟩
    · simp
    · simp
    · intro item hitem
      exact absurd (List.mem_filter.mp hitem).2 (by simp)
    · exact fun _ howner => absurd howner (by simp [record, discardQueued, cancelCurrent])
    · exact fun _ => rfl
    · intro hworker
      simpa [record, discardQueued, cancelCurrent] using hworker
    · exact fun _ _ => rfl
    · simp only [record, discardQueued, cancelCurrent, reduceCtorEq, decide_false, Bool.and_false,
        Bool.false_eq_true, if_false, map_cancel_dispatching, Option.isSome_map]
      exact h.working.inflight
    · exact fun hopen => absurd hopen (by simp [record, discardQueued, cancelCurrent])
    · exact fun hopen => absurd hopen (by simp [record, discardQueued, cancelCurrent])

theorem LaneInvariant.closeFinished (h : lane.LaneInvariant)
    {next : CommandDispatchLane Owner Check Handler} (hclose : lane.closeFinished = some next) :
    next.LaneInvariant := by
  unfold CommandDispatchLane.closeFinished at hclose
  split at hclose
  · rename_i hfinished
    rw [Option.some.injEq] at hclose
    subst hclose
    refine ⟨⟨h.queueing.history, h.queueing.increasing, h.queueing.fresh, h.queueing.bounded,
      h.queueing.live, h.queueing.awake, h.queueing.noSkips, h.queueing.supersession, ?_,
      h.queueing.closed⟩, ⟨by simp, by simp, by simp⟩⟩
    intro owner howner
    rw [show lane.owners owner = none from h.queueing.closed hfinished.1 owner] at howner
    exact absurd howner (by simp)
  · exact absurd hclose (by simp)

/-- Moving the idle worker between two points outside a dispatch. -/
theorem LaneInvariant.moveWorker (h : lane.LaneInvariant) {task : WorkerTask} (after : WorkerTask)
    (wake : Bool)
    (htask : lane.workerTask = some task) (hidle : ∀ interrupted, task.phase ≠ .dispatching interrupted)
    (hafter : ∀ interrupted, after.phase ≠ .dispatching interrupted)
    (hcancel : after.cancelRequested = true → task.cancelRequested = true)
    (hfinished : after.phase = .finished → task.cancelRequested = true)
    (hwake : lane.queue ≠ [] → wake = true) :
    { lane with workerTask := some after, wake := wake, current := none }.LaneInvariant := by
  have hcurrent : lane.current = none := by
    have hinflight := h.working.inflight
    cases hitem : lane.current with
    | none => rfl
    | some item =>
        simp only [hitem, Option.isSome_some, true_iff, htask, Option.some.injEq] at hinflight
        obtain ⟨interrupted, cancelRequested, hsame⟩ := hinflight
        exact absurd (by rw [hsame]) (hidle interrupted)
  -- an idle worker has no cancellation outstanding unless the lane closes
  have hquiet : lane.stopping = false → task.cancelRequested = false := by
    intro hopen
    by_contra hrequested
    rw [Bool.not_eq_false] at hrequested
    obtain ⟨item, hitem, -⟩ := h.working.interrupted hopen task htask
      (by simp [canBeCancelled, hrequested])
    rw [hcurrent] at hitem
    exact absurd hitem (by simp)
  refine ⟨⟨h.queueing.history, h.queueing.increasing, h.queueing.fresh, h.queueing.bounded,
    h.queueing.live, hwake, h.queueing.noSkips, h.queueing.supersession, fun _ _ => rfl,
    h.queueing.closed⟩, ⟨?_, ?_, ?_⟩⟩
  · simp only [Option.isSome_none, Bool.false_eq_true, Option.some.injEq, false_iff, not_exists]
    intro interrupted cancelRequested hsame
    exact hafter interrupted (by rw [hsame])
  · intro hopen other hother
    simp only [Option.some.injEq] at hother
    subst hother
    intro hphase
    rw [hquiet hopen] at hfinished
    exact absurd (hfinished hphase) (by decide)
  · intro hopen other hother hinterrupted
    simp only [Option.some.injEq] at hother
    subst hother
    simp only [canBeCancelled, Bool.or_eq_true, decide_eq_true_eq] at hinterrupted
    rcases hinterrupted with hrequested | hphase
    · rw [hquiet hopen] at hcancel
      exact absurd (hcancel hrequested) (by decide)
    · exact absurd hphase (hafter true)

/-- Waking only changes what the worker is about to do. -/
theorem LaneInvariant.workerWake (h : lane.LaneInvariant)
    {next : CommandDispatchLane Owner Check Handler} (hwake : lane.workerWake = some next) :
    next.LaneInvariant := by
  have hcurrent : ∀ task, lane.workerTask = some task →
      (∀ interrupted, task.phase ≠ .dispatching interrupted) → lane.current = none := by
    intro task htask hidle
    cases hitem : lane.current with
    | none => rfl
    | some item =>
        obtain ⟨interrupted, cancelRequested, hsame⟩ := h.working.inflight.mp (by simp [hitem])
        rw [htask, Option.some.injEq] at hsame
        exact absurd (by rw [hsame]) (hidle interrupted)
  -- the worker wakes from its first step or from waiting for the event
  unfold CommandDispatchLane.workerWake at hwake
  split at hwake
  · rename_i cancelRequested htask
    have hmoved := fun after => h.moveWorker after lane.wake htask (by simp)
    rw [← hcurrent _ htask (by simp)] at hmoved
    split at hwake
    · rename_i hrequested
      rw [Option.some.injEq] at hwake
      subst hwake
      exact hmoved _ (by simp) (by simp) (fun _ => hrequested) h.queueing.awake
    · rw [Option.some.injEq] at hwake
      subst hwake
      refine hmoved _ ?_ (by simp) ?_ h.queueing.awake
      · intro interrupted
        split <;> simp
      · intro hphase
        split at hphase <;> exact absurd hphase (by simp)
  · rename_i cancelRequested htask
    have hmoved := fun after => h.moveWorker after lane.wake htask (by simp)
    split at hwake
    · rename_i hrequested
      rw [Option.some.injEq] at hwake
      subst hwake
      exact hmoved _ (by simp) (by simp) (fun _ => hrequested) h.queueing.awake
    · split at hwake
      · rw [Option.some.injEq] at hwake
        subst hwake
        rw [← hcurrent _ htask (by simp)] at hmoved
        exact hmoved _ (by simp) (by simp) (by simp) h.queueing.awake
      · exact absurd hwake (by simp)
  · exact absurd hwake (by simp)

/-- Popping the head of a lane whose other fields are untouched. -/
theorem QueueInvariant.begin (h : lane.QueueInvariant) {item : QueuedCommand Owner}
    {rest : List (QueuedCommand Owner)} (hqueue : lane.queue = item :: rest)
    (worker : WorkerTask) :
    (({ lane with queue := rest, current := some item }.setWorker worker).record
      (.begun item)).QueueInvariant := by
  have haccepted : acceptedItems [LaneEvent.begun item] = [] := rfl
  refine ⟨?_, ?_, ?_, ?_, ?_, ?_, ?_, ?_, fun _ _ => rfl, h.closed⟩
  · have hhistory := h.history
    rw [hqueue] at hhistory
    simp only [record, setWorker, queueHistory_append]
    exact hhistory.begin item
  · simp only [record, setWorker, acceptedItems_append, haccepted, List.append_nil]
    exact h.increasing
  · simp only [record, setWorker, acceptedItems_append, haccepted, List.append_nil]
    exact h.fresh
  · have hbounded := h.bounded
    rw [hqueue, List.length_cons] at hbounded
    exact Nat.le_of_succ_le hbounded
  · intro other hother
    exact h.live other (by simp [hqueue, show other ∈ rest from hother])
  · intro _
    exact h.awake (by simp [hqueue])
  · intro other hmem
    exact h.noSkips other (by simpa [record, setWorker] using hmem)
  · intro old new hmem
    exact h.supersession old new (by simpa [record, setWorker] using hmem)

/-- Popping an item before its owner is deactivated only affects completions. -/
theorem deactivateOwner_popped {item : QueuedCommand Owner} {rest : List (QueuedCommand Owner)}
    (caller : Caller) (cause : OwnerEnd) (hqueue : lane.queue = item :: rest) :
    ∃ completions,
      ({ lane with queue := rest }.deactivateOwner caller item.owner cause).cancelCompletion item =
        { lane.deactivateOwner caller item.owner cause with completions := completions } := by
  refine ⟨(({ lane with queue := rest }.deactivateOwner caller item.owner
    cause).cancelCompletion item).completions, ?_⟩
  simp [CommandDispatchLane.deactivateOwner, discardQueued, cancelCurrent, record,
    cancelCompletion, hqueue]

/-- A scan takes at most the head of the queue, into flight or out of the lane. -/
theorem LaneInvariant.workerScan (h : lane.LaneInvariant) {evaluate : Check → Option Bool}
    {reply : LaneReply Owner Check Handler} (hscan : lane.workerScan evaluate = some reply) :
    reply.lane.LaneInvariant := by
  obtain ⟨cancelRequested, htask, hcases⟩ := workerScan_cases hscan
  have hcurrent : lane.current = none := by
    cases hitem : lane.current with
    | none => rfl
    | some item =>
        obtain ⟨_, _, hsame⟩ := h.working.inflight.mp (by simp [hitem])
        rw [htask] at hsame
        exact absurd hsame (by simp)
  rcases hcases with ⟨hqueue, rfl⟩ | ⟨item, rest, hqueue, hcases⟩
  · have hmoved := h.moveWorker ⟨.waiting, cancelRequested⟩ false htask
      (by simp) (by simp) (fun hrequested => hrequested) (by simp) (by simp [hqueue])
    rw [← hcurrent] at hmoved
    exact hmoved
  · have hlive := h.queueing.live item (by simp [hqueue])
    rcases hcases with ⟨hnone, -⟩ | ⟨registration, check, howner, hcheck, -, rfl⟩ |
      ⟨hcancelled, -⟩ | ⟨-, -, rfl⟩
    · rw [hnone] at hlive
      exact absurd hlive.2 (by simp)
    · obtain ⟨completions, hsame⟩ := deactivateOwner_popped .worker .unauthorized hqueue
      rw [hsame]
      exact (h.deactivateOwner .worker item.owner .unauthorized).withCompletions _ _
    · rw [hcancelled] at hlive
      exact absurd hlive.1 (by simp)
    · refine ⟨h.queueing.begin hqueue _, ?_, ?_, ?_⟩
      · simp [record, setWorker]
      · simp [record, setWorker]
      · intro hopen task hbegun hinterrupted
        simp only [record, setWorker, Option.some.injEq] at hbegun
        subst hbegun
        have hrequested : cancelRequested = true := by simpa [canBeCancelled] using hinterrupted
        obtain ⟨other, hother, -⟩ := h.working.interrupted hopen _ htask
          (by simp [canBeCancelled, hrequested])
        rw [hcurrent] at hother
        exact absurd hother (by simp)

/-- The way out of a dispatch; the worker stops only when the lane is closing. -/
theorem LaneInvariant.finishItem (h : lane.LaneInvariant) {goesOn : Bool}
    (hstops : goesOn = false → lane.stopping = true) : (lane.finishItem goesOn).LaneInvariant := by
  refine ⟨⟨h.queueing.history, h.queueing.increasing, h.queueing.fresh, h.queueing.bounded,
    h.queueing.live, h.queueing.awake, h.queueing.noSkips, h.queueing.supersession,
    fun _ _ => rfl, h.queueing.closed⟩, ⟨?_, ?_, ?_⟩⟩
  · cases goesOn <;> simp [CommandDispatchLane.finishItem, setWorker]
  · intro hopen task htask
    cases goesOn with
    | false =>
        have hopen' : lane.stopping = false := hopen
        rw [hstops rfl] at hopen'
        exact absurd hopen' (by decide)
    | true =>
        simp only [CommandDispatchLane.finishItem, setWorker, Option.some.injEq] at htask
        subst htask
        simp
  · intro hopen task htask hinterrupted
    simp only [CommandDispatchLane.finishItem, setWorker, Option.some.injEq] at htask
    subst htask
    cases goesOn <;> simp [canBeCancelled] at hinterrupted

/-- A dispatch that suspends again is still in flight. -/
theorem LaneInvariant.suspendAgain (h : lane.LaneInvariant) {interrupted cancelRequested : Bool}
    (htask : lane.workerTask = some ⟨.dispatching interrupted, cancelRequested⟩) :
    (lane.suspendAgain ⟨.dispatching interrupted, cancelRequested⟩ interrupted).LaneInvariant := by
  refine ⟨⟨h.queueing.history, h.queueing.increasing, h.queueing.fresh, h.queueing.bounded,
    h.queueing.live, h.queueing.awake, h.queueing.noSkips, h.queueing.supersession,
    fun _ _ => rfl, h.queueing.closed⟩, ⟨?_, ?_, ?_⟩⟩
  · have hinflight := h.working.inflight.mpr ⟨interrupted, cancelRequested, htask⟩
    simpa [CommandDispatchLane.suspendAgain, setWorker] using hinflight
  · simp [CommandDispatchLane.suspendAgain, setWorker]
  · intro hopen task hsuspended hinterrupted
    simp only [CommandDispatchLane.suspendAgain, setWorker, Option.some.injEq] at hsuspended
    subst hsuspended
    apply h.working.interrupted hopen _ htask
    simpa [canBeCancelled, or_comm] using hinterrupted

theorem LaneInvariant.settle (h : lane.LaneInvariant) (item : QueuedCommand Owner)
    (outcome : DispatchOutcome) : (lane.settle item outcome).lane.LaneInvariant := by
  cases outcome with
  | suspended => exact h
  | returned => exact h.withCompletions _ _
  | failed category => exact h.withCompletions _ _
  | revoked => exact h.deactivateOwner .worker item.owner .revoked
  | cancelled => exact h.withCompletions _ _

/-- Only a cancellation during shutdown makes the worker leave its loop. -/
theorem LaneInvariant.settle_stops (h : lane.LaneInvariant) {task : WorkerTask}
    {item : QueuedCommand Owner} {outcome : DispatchOutcome}
    (htask : lane.workerTask = some task) (hitem : lane.current = some item)
    (hallowed : ¬(outcome = .cancelled ∧ (!canBeCancelled task) = true))
    (hstops : (lane.settle item outcome).accepted = false) :
    lane.stopping = true ∧ outcome = .cancelled := by
  cases outcome with
  | suspended => exact absurd hstops (by simp [CommandDispatchLane.settle])
  | returned => exact absurd hstops (by simp [CommandDispatchLane.settle])
  | failed category => exact absurd hstops (by simp [CommandDispatchLane.settle])
  | revoked => exact absurd hstops (by simp [CommandDispatchLane.settle])
  | cancelled =>
      refine ⟨?_, rfl⟩
      by_contra hopen
      rw [Bool.not_eq_true] at hopen
      obtain ⟨other, hother, hcancelled⟩ := h.working.interrupted hopen _ htask
        (by simpa using hallowed)
      rw [hitem, Option.some.injEq] at hother
      subst hother
      simp [CommandDispatchLane.settle, hopen, hcancelled] at hstops

/-- One step of a dispatch: it suspends again, ends, or ends with its owner revoked. -/
theorem LaneInvariant.workerResume (h : lane.LaneInvariant) {outcome : DispatchOutcome}
    {callback : List (LaneCall Owner Check Handler)} {next : CommandDispatchLane Owner Check Handler}
    (hresume : lane.workerResume outcome callback = some next) : next.LaneInvariant := by
  unfold CommandDispatchLane.workerResume at hresume
  split at hresume
  · rename_i interrupted cancelRequested item htask hitem
    split at hresume
    · rw [Option.some.injEq] at hresume
      exact hresume ▸ h.suspendAgain htask
    · split at hresume
      · exact absurd hresume (by simp)
      · rename_i hallowed
        rw [Option.some.injEq] at hresume
        subst hresume
        refine LaneInvariant.finishItem
          (LaneInvariant.runHandler (h.settle item outcome) .worker callback) ?_
        intro hstops
        obtain ⟨hstopping, rfl⟩ := h.settle_stops htask hitem hallowed hstops
        exact hstopping
  · exact absurd hresume (by simp)

open Classical in
/-- An accepted item was begun, is still queued, or was withdrawn while it was pending. -/
theorem LaneInvariant.fate (h : lane.LaneInvariant) {item : QueuedCommand Owner}
    (hitem : LaneEvent.accepted item ∈ lane.log) :
    LaneEvent.begun item ∈ lane.log ∨ item ∈ lane.queue ∨
      ∃ before event after, lane.log = before ++ event :: after ∧
        LaneEvent.accepted item ∈ before ∧ event.withdraws item = true := by
  have hnodup : (acceptedItems lane.log).Nodup := by
    refine h.queueing.increasing.imp ?_
    intro earlier later hlt hsame
    rw [hsame] at hlt
    exact lt_irrefl _ hlt
  by_cases hwithdrawn : OrderedQueue.Withdrawn (queueHistory lane.log) item
  · obtain ⟨before, gone, after, hsplit, haccepted, -, hgone⟩ := hwithdrawn
    obtain ⟨early, rest, hlog, hearly, hrest⟩ := List.map_eq_append_iff.mp hsplit
    obtain ⟨event, late, rfl, hevent, -⟩ := List.map_eq_cons_iff.mp hrest
    refine Or.inr (Or.inr ⟨early, event, late, hlog, ?_, ?_⟩)
    · rw [← hearly] at haccepted
      exact mem_acceptedItems.mp haccepted
    · cases event <;> simp_all [LaneEvent.queueEvent]
  · have hkept : item ∈ OrderedQueue.begun (queueHistory lane.log) ++ lane.queue := by
      rw [h.queueing.history.exact hnodup, List.mem_filter]
      exact ⟨mem_acceptedItems.mpr hitem, by simpa using hwithdrawn⟩
    rcases List.mem_append.mp hkept with hbegun | hqueued
    · exact Or.inl (mem_begunItems.mp hbegun)
    · exact Or.inr (Or.inl hqueued)

/-- A lane whose worker waits has nothing queued and nothing in flight. -/
theorem LaneInvariant.idle (h : lane.LaneInvariant) (hquiescent : lane.quiescent) :
    lane.queue = [] ∧ lane.current = none := by
  obtain ⟨hwaiting, hasleep⟩ := hquiescent
  refine ⟨?_, ?_⟩
  · by_contra hne
    have hawake := h.queueing.awake hne
    rw [hasleep] at hawake
    exact absurd hawake (by decide)
  · have hinflight := h.working.inflight
    rw [hwaiting] at hinflight
    simpa using hinflight

end CommandDispatchLane

end CompanionBridge
