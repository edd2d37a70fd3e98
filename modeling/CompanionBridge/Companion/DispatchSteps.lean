import CompanionBridge.Companion.DispatchInvariant

/-!
# Steps of the dispatch lane

A step is a call of a session, a part of `close`, or a resumption of the worker. Which
commands it ends is said here by what the step is told and by the lane it finds. The
record of the lane says the same.
-/

namespace CompanionBridge

variable {Owner Check Handler : Type} [DecidableEq Owner]

/-- One scheduling choice. A step that reads authorization carries the checks'
values at that moment, and the callback it may run carries its calls. -/
inductive LaneLabel (Owner Check Handler : Type) where
  | call (request : LaneCall Owner Check Handler) (callback : List (LaneCall Owner Check Handler))
  | close
  | closeFinished
  | cancelAwaited (id : Nat)
  | workerWake
  | workerScan (evaluate : Check → Option Bool) (callback : List (LaneCall Owner Check Handler))
  | workerResume (outcome : DispatchOutcome) (callback : List (LaneCall Owner Check Handler))

/-- What a call asks to be sent, and for whom. -/
def LaneCall.submission : LaneCall Owner Check Handler → Option (Owner × Command)
  | .submit _ owner command => some (owner, command)
  | .submitAndWait _ owner command _ => some (owner, command)
  | _ => none

namespace CommandDispatchLane

variable {lane : CommandDispatchLane Owner Check Handler}

def step (lane : CommandDispatchLane Owner Check Handler) :
    LaneLabel Owner Check Handler → Option (CommandDispatchLane Owner Check Handler)
  | .call request callback => some (runHandler (lane.perform .other request) .other callback)
  | .close => some lane.close
  | .closeFinished => lane.closeFinished
  | .cancelAwaited id => some (lane.cancelAwaited id)
  | .workerWake => lane.workerWake
  | .workerScan evaluate callback =>
      (lane.workerScan evaluate).map fun reply => runHandler reply .worker callback
  | .workerResume outcome callback => lane.workerResume outcome callback

theorem LaneInvariant.step (h : lane.LaneInvariant) {label : LaneLabel Owner Check Handler}
    {next : CommandDispatchLane Owner Check Handler} (hstep : lane.step label = some next) :
    next.LaneInvariant := by
  cases label with
  | call request callback =>
      simp only [CommandDispatchLane.step, Option.some.injEq] at hstep
      exact hstep ▸ LaneInvariant.runHandler (h.perform .other request) .other callback
  | close =>
      simp only [CommandDispatchLane.step, Option.some.injEq] at hstep
      exact hstep ▸ h.close
  | closeFinished => exact h.closeFinished hstep
  | cancelAwaited id =>
      simp only [CommandDispatchLane.step, Option.some.injEq] at hstep
      exact hstep ▸ h.withCompletions _ _
  | workerWake => exact h.workerWake hstep
  | workerScan evaluate callback =>
      obtain ⟨reply, hscan, rfl⟩ := Option.map_eq_some_iff.mp hstep
      exact LaneInvariant.runHandler (h.workerScan hscan) .worker callback
  | workerResume outcome callback => exact h.workerResume hstep

/-! ## What a step ends -/

/-- The owner's check, as it answers now, denies. -/
def Denies (lane : CommandDispatchLane Owner Check Handler) (evaluate : Check → Option Bool)
    (owner : Owner) : Prop :=
  ∃ registration check, lane.owners owner = some registration ∧
    registration.authorize = some check ∧ evaluate check ≠ some true

/-- A call that ends what the item's owner, or its hold generation, has in the lane. A
submission does so when the check of its owner denies. -/
def CallEnds (lane : CommandDispatchLane Owner Check Handler) (item : QueuedCommand Owner) :
    LaneCall Owner Check Handler → Prop
  | .activate _ _ => False
  | .submit evaluate owner _ =>
      lane.stopping = false ∧ item.owner = owner ∧ lane.Denies evaluate owner
  | .submitAndWait evaluate owner _ _ =>
      lane.stopping = false ∧ item.owner = owner ∧ lane.Denies evaluate owner
  | .cancelOwner owner => item.owner = owner
  | .cancelGeneration owner generation =>
      item.owner = owner ∧ item.holdGeneration = some generation

/-- One of the calls, each made of the lane that the earlier ones leave. -/
def CallsEnd (caller : Caller) (item : QueuedCommand Owner) :
    CommandDispatchLane Owner Check Handler → List (LaneCall Owner Check Handler) → Prop
  | _, [] => False
  | lane, call :: rest =>
      lane.CallEnds item call ∨ CallsEnd caller item (lane.perform caller call).lane rest

/-- The callback that an operation leaves to run. -/
def HandlerEnds (reply : LaneReply Owner Check Handler) (caller : Caller)
    (callback : List (LaneCall Owner Check Handler)) (item : QueuedCommand Owner) : Prop :=
  reply.handler.isSome = true ∧ CallsEnd caller item reply.lane callback

/-- A step that ends an item: its owner or its hold generation is cancelled, the check of
its owner denies, a dispatch of its owner is revoked, or the lane closes. -/
def StepEnds (lane : CommandDispatchLane Owner Check Handler) (item : QueuedCommand Owner) :
    LaneLabel Owner Check Handler → Prop
  | .call request callback =>
      lane.CallEnds item request ∨ HandlerEnds (lane.perform .other request) .other callback item
  | .close => lane.stopping = false
  | .workerScan evaluate callback => ∃ reply, lane.workerScan evaluate = some reply ∧
      ((∃ head, lane.queue.head? = some head ∧ item.owner = head.owner ∧
        lane.Denies evaluate head.owner) ∨ HandlerEnds reply .worker callback item)
  | .workerResume .revoked callback => ∃ current, lane.current = some current ∧
      (item.owner = current.owner ∨
        HandlerEnds (lane.settle current .revoked) .worker callback item)
  | _ => False

/-- The events that end an item wherever it is. -/
def ends : LaneEvent Owner → QueuedCommand Owner → Bool
  | .ownerEnded owner _, item => item.owner = owner
  | .generationEnded owner generation, item => taggedWith owner generation item
  | .closed, _ => true
  | _, _ => false

/-- What an operation that begins nothing records, and which items it ends. -/
structure Records (before : CommandDispatchLane Owner Check Handler)
    (events : List (LaneEvent Owner)) (after : CommandDispatchLane Owner Check Handler)
    (ending : QueuedCommand Owner → Prop) : Prop where
  log : after.log = before.log ++ events
  ended : ∀ item, (∃ event ∈ events, ends event item = true) ↔ ending item
  begun : begunItems events = []
  idle : before.current = none → after.current = none

variable {before middle after : CommandDispatchLane Owner Check Handler}
variable {events later : List (LaneEvent Owner)}
variable {ending ending' : QueuedCommand Owner → Prop}

namespace Records

/-- An operation whose events end nothing. -/
theorem plain (hlog : after.log = before.log ++ events)
    (hplain : ∀ event ∈ events, ∀ item, ends event item = false)
    (hbegun : begunItems events = []) (hidle : before.current = none → after.current = none)
    (hending : ∀ item, ¬ending item) : Records before events after ending where
  log := hlog
  ended := by
    intro item
    refine ⟨?_, fun h => absurd h (hending item)⟩
    rintro ⟨event, hevent, hends⟩
    rw [hplain event hevent item] at hends
    cases hends
  begun := hbegun
  idle := hidle

/-- An operation that leaves the record and the item in flight as they are. -/
theorem quiet (hlog : after.log = before.log)
    (hidle : before.current = none → after.current = none) (hending : ∀ item, ¬ending item) :
    Records before [] after ending :=
  .plain (by rw [hlog, List.append_nil]) (fun _ hevent => absurd hevent List.not_mem_nil) rfl hidle
    hending

/-- An operation that records the end of what it ends. -/
theorem single {event : LaneEvent Owner} (hlog : after.log = before.log ++ [event])
    (hending : ∀ item, ends event item = true ↔ ending item) (hbegun : begunItems [event] = [])
    (hidle : before.current = none → after.current = none) :
    Records before [event] after ending where
  log := hlog
  ended := by
    intro item
    rw [← hending item]
    simp
  begun := hbegun
  idle := hidle

/-- Two parts of a step one after the other: their events follow each other, and what either
ends is ended. -/
theorem trans (hfirst : Records before events middle ending)
    (hsecond : Records middle later after ending') :
    Records before (events ++ later) after fun item => ending item ∨ ending' item where
  log := by rw [hsecond.log, hfirst.log, List.append_assoc]
  ended := by
    intro item
    rw [← hfirst.ended item, ← hsecond.ended item, ← exists_or]
    apply exists_congr
    intro event
    rw [List.mem_append, or_and_right]
  begun := by rw [begunItems_append, hfirst.begun, hsecond.begun, List.append_nil]
  idle := fun hidle => hsecond.idle (hfirst.idle hidle)

theorem congr (h : Records before events after ending) (hsame : ∀ item, ending item ↔ ending' item) :
    Records before events after ending' where
  log := h.log
  ended := fun item => (h.ended item).trans (hsame item)
  begun := h.begun
  idle := h.idle

end Records

omit [DecidableEq Owner] in
theorem Admissible.not_denies {evaluate : Check → Option Bool} {owner : Owner}
    (h : lane.Admissible evaluate owner) : ¬lane.Denies evaluate owner := by
  rintro ⟨other, check, howner, hcheck, hdenied⟩
  obtain ⟨registration, hregistered, hall⟩ := h
  obtain rfl := Option.some.inj (hregistered.symm.trans howner)
  exact hdenied (hall check hcheck)

/-- The only event is the end of the owner, and it ends the items of that owner. -/
theorem deactivateOwner_records (lane : CommandDispatchLane Owner Check Handler)
    (caller : Caller) (owner : Owner) (cause : OwnerEnd) :
    Records lane [.ownerEnded owner cause] (lane.deactivateOwner caller owner cause)
      fun item => item.owner = owner :=
  .single rfl (fun _ => decide_eq_true_iff) rfl fun hidle => by
    simp [CommandDispatchLane.deactivateOwner, CommandDispatchLane.record,
      CommandDispatchLane.cancelCurrent, CommandDispatchLane.discardQueued, hidle]

/-- A submission ends items only where the check of its owner fails. -/
theorem enqueue_records (lane : CommandDispatchLane Owner Check Handler)
    (evaluate : Check → Option Bool) (caller : Caller) (owner : Owner) (command : Command)
    (holdGeneration completion : Option Nat) :
    ∃ events, Records lane events
      (lane.enqueue evaluate caller owner command holdGeneration completion).lane fun item =>
        lane.stopping = false ∧ item.owner = owner ∧ lane.Denies evaluate owner := by
  -- a closed lane or an unknown owner is refused without an event
  by_cases hclosed : lane.stopping = true ∨ lane.owners owner = none
  · refine ⟨[], ?_⟩
    rw [enqueue, if_pos hclosed]
    apply Records.quiet rfl id
    rintro item ⟨hopen, -, registration, check, howner, -⟩
    rcases hclosed with hstopping | hnone
    · rw [hstopping] at hopen
      cases hopen
    · rw [hnone] at howner
      cases howner
  · rw [enqueue, if_neg hclosed]
    rw [not_or, Bool.not_eq_true] at hclosed
    rcases lane.ownerIsAuthorized_cases evaluate caller owner with
      ⟨hnone, -⟩ | ⟨registration, check, howner, hcheck, hdenied, hreply⟩ | ⟨hadmissible, hreply⟩
    · exact absurd hnone hclosed.2
    · rw [hreply]
      refine ⟨_, (lane.deactivateOwner_records caller owner .unauthorized).congr fun item => ?_⟩
      refine ⟨fun hitem => ⟨hclosed.1, hitem, registration, check, howner, hcheck, hdenied⟩, ?_⟩
      exact fun h => h.2.1
    · rw [hreply]
      -- an admissible owner is denied nothing, so nothing is withdrawn
      have hnever : ∀ item : QueuedCommand Owner, ¬(lane.stopping = false ∧ item.owner = owner ∧
          lane.Denies evaluate owner) := fun _ h => hadmissible.not_denies h.2.2
      rcases lane.place_cases owner command holdGeneration completion with
        ⟨front, tail, replaced, -, -, -, -, -, hplace⟩ | ⟨-, hplace⟩ | ⟨item, -, -, hplace⟩
      · rw [if_pos rfl, hplace]
        refine ⟨_, .plain rfl ?_ rfl id hnever⟩
        intro event hevent item
        rcases List.mem_pair.mp hevent with rfl | rfl
        · rfl
        · rfl
      · rw [if_pos rfl, hplace]
        exact ⟨[], .quiet rfl id hnever⟩
      · rw [if_pos rfl, hplace]
        refine ⟨_, .plain rfl ?_ rfl id hnever⟩
        intro event hevent item
        rw [List.mem_singleton.mp hevent]
        rfl

/-- What a call ends is known from the call and the lane before it. -/
theorem perform_records (lane : CommandDispatchLane Owner Check Handler) (caller : Caller)
    (call : LaneCall Owner Check Handler) :
    ∃ events, Records lane events (lane.perform caller call).lane (lane.CallEnds · call) := by
  cases call with
  | activate owner registration =>
      refine ⟨[], .quiet ?_ ?_ fun _ => id⟩
      · cases hactivate : lane.activate owner registration with
        | none => simp only [perform, hactivate, Option.getD_none]
        | some next =>
            obtain ⟨task, -, rfl⟩ := activate_eq_some hactivate
            simp only [perform, hactivate, Option.getD_some]
      · intro hidle
        cases hactivate : lane.activate owner registration with
        | none => simpa only [perform, hactivate, Option.getD_none] using hidle
        | some next =>
            obtain ⟨task, -, rfl⟩ := activate_eq_some hactivate
            simpa only [perform, hactivate, Option.getD_some] using hidle
  | submit evaluate owner command =>
      exact lane.enqueue_records evaluate caller owner command none none
  | submitAndWait evaluate owner command holdGeneration =>
      -- the completion that is created is neither recorded nor seen by the checks
      obtain ⟨events, hplaced⟩ := enqueue_records
        { lane with nextCompletion := lane.nextCompletion + 1 } evaluate caller owner command
        (some holdGeneration) (some lane.nextCompletion)
      refine ⟨events, ?_⟩
      simp only [perform, submitAndWait]
      split
      · exact ⟨hplaced.log, hplaced.ended, hplaced.begun, hplaced.idle⟩
      · exact ⟨hplaced.log, hplaced.ended, hplaced.begun, hplaced.idle⟩
  | cancelOwner owner => exact ⟨_, lane.deactivateOwner_records caller owner .cancelled⟩
  | cancelGeneration owner generation =>
      refine ⟨[.generationEnded owner generation], .single rfl ?_ rfl ?_⟩
      · intro item
        simp [ends, taggedWith, CallEnds]
      · intro hidle
        simp [perform, CommandDispatchLane.cancelGeneration, CommandDispatchLane.record,
          CommandDispatchLane.cancelCurrent, CommandDispatchLane.discardQueued, hidle]

/-- Calls one after the other, each read in the lane that the ones before it left. -/
theorem performAll_records (lane : CommandDispatchLane Owner Check Handler) (caller : Caller)
    (calls : List (LaneCall Owner Check Handler)) :
    ∃ events, Records lane events (lane.performAll caller calls)
      (CallsEnd caller · lane calls) := by
  induction calls generalizing lane with
  | nil => exact ⟨[], .quiet rfl id fun _ => id⟩
  | cons call rest ih =>
      obtain ⟨events, hfirst⟩ := lane.perform_records caller call
      obtain ⟨later, hrest⟩ := ih (lane.perform caller call).lane
      exact ⟨events ++ later, hfirst.trans hrest⟩

theorem Records.runHandler {reply : LaneReply Owner Check Handler}
    (h : Records before events reply.lane ending) (caller : Caller)
    (callback : List (LaneCall Owner Check Handler)) :
    ∃ events, Records before events (runHandler reply caller callback)
      fun item => ending item ∨ HandlerEnds reply caller callback item := by
  by_cases hhandler : reply.handler.isSome = true
  · obtain ⟨later, hcallback⟩ := reply.lane.performAll_records caller callback
    refine ⟨events ++ later, ?_⟩
    rw [CommandDispatchLane.runHandler, if_pos hhandler]
    refine (h.trans hcallback).congr fun item => or_congr_right ?_
    exact ⟨fun hends => ⟨hhandler, hends⟩, And.right⟩
  · refine ⟨events, ?_⟩
    rw [CommandDispatchLane.runHandler, if_neg hhandler]
    refine h.congr fun item => ⟨Or.inl, fun hends => hends.resolve_right ?_⟩
    exact fun hleft => hhandler hleft.1

/-- A callback only adds to the record. -/
theorem runHandler_log (reply : LaneReply Owner Check Handler) (caller : Caller)
    (callback : List (LaneCall Owner Check Handler)) :
    ∃ events, (runHandler reply caller callback).log = reply.lane.log ++ events := by
  have hnothing : Records reply.lane [] reply.lane fun _ => False := .quiet rfl id fun _ => id
  obtain ⟨events, hrecords⟩ := hnothing.runHandler caller callback
  exact ⟨events, hrecords.log⟩

/-- Closing ends whatever the lane holds, unless it was closed before. -/
theorem close_records (lane : CommandDispatchLane Owner Check Handler) :
    ∃ events, Records lane events lane.close fun _ => lane.stopping = false := by
  cases hstopping : lane.stopping with
  | true =>
      refine ⟨[], ?_⟩
      rw [CommandDispatchLane.close, if_pos hstopping]
      exact .quiet rfl id fun _ => Bool.noConfusion
  | false =>
      refine ⟨[.closed], .single ?_ (fun _ => iff_of_true rfl rfl) rfl fun hidle => ?_⟩
      · rw [CommandDispatchLane.close, if_neg (by simp [hstopping])]
        rfl
      · rw [CommandDispatchLane.close, if_neg (by simp [hstopping])]
        simp [CommandDispatchLane.record, cancelCurrent, discardQueued, hidle]

theorem workerWake_records (hwake : lane.workerWake = some after) :
    Records lane [] after fun _ => False := by
  unfold CommandDispatchLane.workerWake at hwake
  split at hwake
  · split at hwake <;>
      exact Option.some.inj hwake ▸ .quiet rfl id fun _ => id
  · split at hwake
    · exact Option.some.inj hwake ▸ .quiet rfl (fun _ => rfl) fun _ => id
    · split at hwake
      · exact Option.some.inj hwake ▸ .quiet rfl id fun _ => id
      · cases hwake
  · cases hwake

/-- A scan ends nothing unless the check of the head's owner denies. -/
theorem workerScan_records (h : lane.LaneInvariant) {evaluate : Check → Option Bool}
    {reply : LaneReply Owner Check Handler} (hscan : lane.workerScan evaluate = some reply) :
    (∃ events, Records lane events reply.lane fun item => ∃ head, lane.queue.head? = some head ∧
      item.owner = head.owner ∧ lane.Denies evaluate head.owner) ∨
    reply.handler = none ∧ ∃ item, lane.queue.head? = some item ∧
      ¬lane.Denies evaluate item.owner ∧ reply.lane.log = lane.log ++ [.begun item] ∧
      lane.current = none ∧ reply.lane.current = some item := by
  obtain ⟨cancelRequested, htask, hcases⟩ := workerScan_cases hscan
  rcases hcases with ⟨hqueue, rfl⟩ | ⟨item, rest, hqueue, hcases⟩
  · refine Or.inl ⟨[], .quiet rfl id ?_⟩
    rintro other ⟨head, hhead, -⟩
    rw [hqueue] at hhead
    cases hhead
  · have hlive := h.queueing.live item (by simp [hqueue])
    have hhead : lane.queue.head? = some item := by rw [hqueue, List.head?_cons]
    rcases hcases with ⟨hnone, -⟩ | ⟨registration, check, howner, hcheck, hdenied, rfl⟩ |
      ⟨hcancelled, -⟩ | ⟨hadmissible, -, rfl⟩
    · rw [hnone] at hlive
      cases hlive.2
    · have hended := deactivateOwner_records { lane with queue := rest } .worker item.owner
        .unauthorized
      refine Or.inl ⟨_, ⟨hended.log, fun other => (hended.ended other).trans ?_, hended.begun,
        hended.idle⟩⟩
      constructor
      · exact fun hother => ⟨item, hhead, hother, registration, check, howner, hcheck, hdenied⟩
      · rintro ⟨head, hsame, hother, -⟩
        obtain rfl := Option.some.inj (hhead.symm.trans hsame)
        exact hother
    · rw [hcancelled] at hlive
      cases hlive.1
    · refine Or.inr ⟨rfl, item, hhead, hadmissible.not_denies, rfl, ?_, rfl⟩
      have hinflight := h.working.inflight
      rw [htask] at hinflight
      simpa using hinflight

/-- A dispatch that goes on or ends only ends items when it is revoked. -/
theorem workerResume_records {outcome : DispatchOutcome}
    {callback : List (LaneCall Owner Check Handler)}
    (hresume : lane.workerResume outcome callback = some after) :
    ∃ events, Records lane events after (lane.StepEnds · (.workerResume outcome callback)) := by
  unfold CommandDispatchLane.workerResume at hresume
  split at hresume
  · rename_i interrupted cancelRequested item htask hitem
    split at hresume
    · rename_i hsuspended
      subst hsuspended
      exact ⟨[], Option.some.inj hresume ▸ .quiet rfl id fun _ => id⟩
    · split at hresume
      · cases hresume
      · obtain rfl := Option.some.inj hresume
        cases outcome with
        | revoked =>
            have hended : Records lane [.ownerEnded item.owner .revoked]
                (lane.settle item .revoked).lane fun other => other.owner = item.owner :=
              lane.deactivateOwner_records .worker item.owner .revoked
            obtain ⟨events, hrevoked⟩ := hended.runHandler .worker callback
            refine ⟨events, hrevoked.log, fun other => (hrevoked.ended other).trans ?_,
              hrevoked.begun, fun _ => rfl⟩
            constructor
            · exact fun hends => ⟨item, hitem, hends⟩
            · rintro ⟨current, hcurrent, hends⟩
              obtain rfl := Option.some.inj (hitem.symm.trans hcurrent)
              exact hends
        | _ => exact ⟨[], .quiet rfl (fun _ => rfl) fun _ => id⟩
  · cases hresume

/-- A step either begins one item and ends none, or records exactly what it ends. -/
theorem step_records (h : lane.LaneInvariant) {label : LaneLabel Owner Check Handler}
    (hstep : lane.step label = some after) :
    (∃ events, Records lane events after (lane.StepEnds · label)) ∨
    ∃ item, after.log = lane.log ++ [.begun item] ∧ lane.current = none ∧
      after.current = some item ∧ ∀ other, ¬lane.StepEnds other label := by
  cases label with
  | call request callback =>
      obtain rfl := Option.some.inj hstep
      obtain ⟨events, hperform⟩ := lane.perform_records .other request
      exact Or.inl (hperform.runHandler .other callback)
  | close =>
      obtain rfl := Option.some.inj hstep
      exact Or.inl lane.close_records
  | closeFinished =>
      refine Or.inl ⟨[], ?_⟩
      simp only [CommandDispatchLane.step, CommandDispatchLane.closeFinished] at hstep
      split at hstep
      · exact Option.some.inj hstep ▸ .quiet rfl (fun _ => rfl) fun _ => id
      · cases hstep
  | cancelAwaited id =>
      obtain rfl := Option.some.inj hstep
      exact Or.inl ⟨[], .quiet rfl (fun hidle => hidle) fun _ hends => hends⟩
  | workerWake => exact Or.inl ⟨[], workerWake_records hstep⟩
  | workerScan evaluate callback =>
      obtain ⟨reply, hscan, rfl⟩ := Option.map_eq_some_iff.mp hstep
      -- a scan either withdraws or takes the head into flight
      rcases workerScan_records h hscan with
        ⟨events, hrecords⟩ | ⟨hhandler, item, hhead, hpassed, hlog, hidle, hflight⟩
      · obtain ⟨events, hcallback⟩ := hrecords.runHandler .worker callback
        refine Or.inl ⟨events, hcallback.congr fun other => ?_⟩
        constructor
        · exact fun hends => ⟨reply, hscan, hends⟩
        · rintro ⟨same, hsame, hends⟩
          obtain rfl := Option.some.inj (hscan.symm.trans hsame)
          exact hends
      · have hplain : runHandler reply .worker callback = reply.lane := by
          rw [runHandler, hhandler]
          rfl
        rw [hplain]
        refine Or.inr ⟨item, hlog, hidle, hflight, ?_⟩
        rintro other ⟨same, hsame, ⟨head, hsame', -, hdenied⟩ | ⟨hleft, -⟩⟩
        · obtain rfl := Option.some.inj (hhead.symm.trans hsame')
          exact hpassed hdenied
        · obtain rfl := Option.some.inj (hscan.symm.trans hsame)
          rw [hhandler] at hleft
          cases hleft
  | workerResume outcome callback => exact Or.inl (workerResume_records hstep)

/-! ## What a step makes of the history -/

/-- An item that a step ends while it is queued is withdrawn: it was accepted, and is not
begun before the event that ends it. -/
theorem withdrawn_of_stepEnds (h : lane.LaneInvariant) {label : LaneLabel Owner Check Handler}
    (hstep : lane.step label = some after) {item : QueuedCommand Owner} (hitem : item ∈ lane.queue)
    (hends : lane.StepEnds item label) : OrderedQueue.Withdrawn (queueHistory after.log) item := by
  have hnodup : (acceptedItems lane.log).Nodup := by
    refine h.queueing.increasing.imp ?_
    intro earlier later hlt hsame
    rw [hsame] at hlt
    exact lt_irrefl _ hlt
  have haccepted : item ∈ acceptedItems lane.log :=
    h.queueing.history.order.mem (List.mem_append_right _ hitem)
  have hwaiting : item ∉ begunItems lane.log := fun hbegun =>
    (List.nodup_append.mp (h.queueing.history.nodup hnodup)).2.2 item hbegun item hitem rfl
  rcases step_records h hstep with ⟨events, hrecords⟩ | ⟨_, -, -, -, hnone⟩
  · obtain ⟨event, hevent, hended⟩ := (hrecords.ended item).mpr hends
    obtain ⟨earlier, later, rfl⟩ := List.append_of_mem hevent
    have hbegun := hrecords.begun
    rw [begunItems_append, List.append_eq_nil_iff] at hbegun
    have hwithdraws : event.queueEvent = .withdraw event.withdraws ∧
        event.withdraws item = true := by
      cases event with
      | ownerEnded owner cause => exact ⟨rfl, hended⟩
      | generationEnded owner generation => exact ⟨rfl, hended⟩
      | closed => exact ⟨rfl, rfl⟩
      | _ => cases hended
    refine ⟨queueHistory (lane.log ++ earlier), event.withdraws, queueHistory later, ?_, ?_, ?_,
      hwithdraws.2⟩
    · rw [hrecords.log, ← List.append_assoc, queueHistory_append, ← hwithdraws.1]
      rfl
    · rw [queueHistory_append, OrderedQueue.accepted_append]
      exact List.mem_append_left _ haccepted
    · rw [queueHistory_append, OrderedQueue.begun_append]
      intro hmem
      rcases List.mem_append.mp hmem with hmem | hmem
      · exact hwaiting hmem
      · rw [show OrderedQueue.begun (queueHistory earlier) = [] from hbegun.1] at hmem
        cases hmem
  · exact absurd hends (hnone item)

/-- What is begun is what comes to be in flight. -/
theorem begunItems_step (h : lane.LaneInvariant) {label : LaneLabel Owner Check Handler}
    (hstep : lane.step label = some after) : begunItems after.log =
      begunItems lane.log ++ if lane.current.isNone then after.current.toList else [] := by
  rcases step_records h hstep with ⟨events, hrecords⟩ | ⟨item, hlog, hidle, hflight, -⟩
  · rw [hrecords.log, begunItems_append, hrecords.begun]
    cases hcurrent : lane.current with
    | none => rw [hrecords.idle hcurrent]; rfl
    | some item => rfl
  · rw [hlog, begunItems_append, hidle, hflight]
    rfl

theorem log_extends {label : LaneLabel Owner Check Handler} (h : lane.LaneInvariant)
    (hstep : lane.step label = some after) : ∃ events, after.log = lane.log ++ events := by
  rcases step_records h hstep with ⟨events, hrecords⟩ | ⟨item, hlog, -⟩
  · exact ⟨events, hrecords.log⟩
  · exact ⟨_, hlog⟩

/-- A submission that is answered with success was accepted. -/
theorem accepted_of_perform {caller : Caller} {call : LaneCall Owner Check Handler}
    {owner : Owner} {command : Command} (hcall : call.submission = some (owner, command))
    (haccepted : (lane.perform caller call).accepted = true) :
    ∃ item ∈ acceptedItems (lane.perform caller call).lane.log,
      item.owner = owner ∧ item.command = command ∧ item.ticket = lane.nextTicket := by
  -- both kinds of submission go through the same enqueue
  have henqueue (lane : CommandDispatchLane Owner Check Handler) (evaluate : Check → Option Bool)
      (holdGeneration completion : Option Nat)
      (hreply : (lane.enqueue evaluate caller owner command holdGeneration
        completion).accepted = true) :
      ∃ item ∈ acceptedItems
          (lane.enqueue evaluate caller owner command holdGeneration completion).lane.log,
        item.owner = owner ∧ item.command = command ∧ item.ticket = lane.nextTicket := by
    rcases lane.enqueue_cases evaluate caller owner command holdGeneration completion with
      hrefused | ⟨_, _, -, -, -, hrefused⟩ | ⟨-, -, hplaced⟩
    · rw [hrefused] at hreply
      cases hreply
    · rw [hrefused] at hreply
      cases hreply
    · rw [hplaced] at hreply ⊢
      rcases lane.place_cases owner command holdGeneration completion with
        ⟨_, tail, replaced, -, -, hreplaced, howner, -, hplace⟩ | ⟨-, hplace⟩ |
        ⟨item, -, hitem, hplace⟩
      · rw [hplace]
        refine ⟨replaced, mem_acceptedItems.mpr (by simp), ?_⟩
        rw [hreplaced]
        exact ⟨howner, rfl, rfl⟩
      · rw [hplace] at hreply
        cases hreply
      · rw [hplace]
        refine ⟨item, mem_acceptedItems.mpr (by simp), ?_⟩
        rw [hitem]
        exact ⟨rfl, rfl, rfl⟩
  cases call with
  | submit evaluate other sent =>
      obtain ⟨rfl, rfl⟩ := Prod.mk.inj (Option.some.inj hcall)
      exact henqueue lane evaluate none none haccepted
  | submitAndWait evaluate other sent holdGeneration =>
      obtain ⟨rfl, rfl⟩ := Prod.mk.inj (Option.some.inj hcall)
      simp only [perform, submitAndWait] at haccepted ⊢
      split at haccepted
      · rename_i hreply
        rw [if_pos hreply]
        exact henqueue _ evaluate _ _ hreply
      · rename_i hreply
        exact absurd haccepted hreply
  | _ => cases hcall

end CommandDispatchLane

end CompanionBridge
