import CompanionBridge.Library.Machine
import CompanionBridge.Companion.DispatchSteps

/-!
# The dispatch lane refines an ordered queue

A run interleaves the calls of the sessions with the worker's resumptions. Its
record is the history of an ordered queue, and every withdrawal in it goes back
to something the environment did during the run.
-/

namespace CompanionBridge

variable {Owner Check Handler : Type} [DecidableEq Owner]

/-! ## What the environment did during a run -/

def LaneCall.evaluations : LaneCall Owner Check Handler → List (Check → Option Bool)
  | .submit evaluate _ _ => [evaluate]
  | .submitAndWait evaluate _ _ _ => [evaluate]
  | _ => []

namespace LaneLabel

def calls : LaneLabel Owner Check Handler → List (LaneCall Owner Check Handler)
  | .call request callback => request :: callback
  | .workerScan _ callback => callback
  | .workerResume _ callback => callback
  | _ => []

/-- The authorization states a step can read. -/
def evaluations : LaneLabel Owner Check Handler → List (Check → Option Bool)
  | .workerScan evaluate callback => evaluate :: callback.flatMap LaneCall.evaluations
  | label => label.calls.flatMap LaneCall.evaluations

end LaneLabel

/-- The environment's part in a run of the lane. -/
structure LaneEvidence (Owner Check Handler : Type) where
  maxQueueSize : Nat
  called : LaneCall Owner Check Handler → Prop
  evaluated : (Check → Option Bool) → Prop
  /-- A dispatch of the owner raised `AuthorizationRevoked`. -/
  revoked : Owner → Prop
  closing : Prop

def laneEvidence (first : CommandDispatchLane Owner Check Handler)
    (labels : List (LaneLabel Owner Check Handler)) : LaneEvidence Owner Check Handler where
  maxQueueSize := first.maxQueueSize
  called call := ∃ label ∈ labels, call ∈ label.calls
  evaluated evaluate := ∃ label ∈ labels, evaluate ∈ label.evaluations
  revoked owner := ∃ before callback after middle item,
    labels = before ++ .workerResume .revoked callback :: after ∧
      Machine.run CommandDispatchLane.step first before = some middle ∧
      middle.current = some item ∧ item.owner = owner
  closing := LaneLabel.close ∈ labels

namespace LaneEvidence

/-- Why an event of the record happened. -/
def Explains (evidence : LaneEvidence Owner Check Handler) : LaneEvent Owner → Prop
  | .accepted item =>
      (∃ evaluate, evidence.called (.submit evaluate item.owner item.command)) ∨
        ∃ evaluate generation, item.holdGeneration = some generation ∧
          evidence.called (.submitAndWait evaluate item.owner item.command generation)
  -- what the lane does of its own accord needs no call
  | .superseded _ _ => True
  | .begun _ => True
  | .skipped _ => True
  | .ownerEnded owner .cancelled => evidence.called (.cancelOwner owner)
  | .ownerEnded owner .unauthorized =>
      ∃ registration check evaluate, evidence.called (.activate owner registration) ∧
        registration.authorize = some check ∧ evidence.evaluated evaluate ∧
        evaluate check ≠ some true
  | .ownerEnded owner .revoked => evidence.revoked owner
  | .generationEnded owner generation => evidence.called (.cancelGeneration owner generation)
  | .closed => evidence.closing

/-- Every registration and every event of the lane is accounted for. -/
structure Accounts (evidence : LaneEvidence Owner Check Handler)
    (lane : CommandDispatchLane Owner Check Handler) : Prop where
  size : lane.maxQueueSize = evidence.maxQueueSize
  registered : ∀ owner registration, lane.owners owner = some registration →
    evidence.called (.activate owner registration)
  stopped : lane.stopping = true → evidence.closing
  explained : ∀ event ∈ lane.log, evidence.Explains event

/-- The owner of an item was cancelled, unauthorized or revoked, its generation
was cancelled, or the lane was closed. -/
inductive Disturbs (evidence : LaneEvidence Owner Check Handler) (item : QueuedCommand Owner) :
    Prop where
  | ownerCancelled (h : evidence.called (.cancelOwner item.owner))
  | unauthorized (registration : DispatchOwner Check Handler) (check : Check)
      (evaluate : Check → Option Bool) (hcalled : evidence.called (.activate item.owner registration))
      (hcheck : registration.authorize = some check) (hevaluated : evidence.evaluated evaluate)
      (hdenied : evaluate check ≠ some true)
  | revoked (h : evidence.revoked item.owner)
  | generationCancelled (generation : Nat) (htagged : item.holdGeneration = some generation)
      (h : evidence.called (.cancelGeneration item.owner generation))
  | closing (h : evidence.closing)

variable {evidence : LaneEvidence Owner Check Handler}
  {lane : CommandDispatchLane Owner Check Handler}

namespace Accounts

omit [DecidableEq Owner] in
/-- A change of the lane that logs one explained event. -/
theorem record (h : evidence.Accounts lane) (event : LaneEvent Owner)
    (hevent : evidence.Explains event) {next : CommandDispatchLane Owner Check Handler}
    (hsize : next.maxQueueSize = lane.maxQueueSize)
    (howners : ∀ owner registration, next.owners owner = some registration →
      lane.owners owner = some registration)
    (hstopping : next.stopping = true → evidence.closing)
    (hlog : next.log = lane.log ++ [event]) : evidence.Accounts next where
  size := hsize.trans h.size
  registered owner registration howner := h.registered owner registration (howners _ _ howner)
  stopped := hstopping
  explained := by
    intro other hother
    rw [hlog, List.mem_append, List.mem_singleton] at hother
    rcases hother with hother | rfl
    · exact h.explained other hother
    · exact hevent

/-- The items withdrawn are those of the owner that ended. -/
theorem deactivateOwner (h : evidence.Accounts lane) (caller : Caller) (owner : Owner)
    (cause : OwnerEnd) (hevent : evidence.Explains (.ownerEnded owner cause)) :
    evidence.Accounts (lane.deactivateOwner caller owner cause) := by
  refine h.record _ hevent rfl ?_ h.stopped rfl
  intro other registration hother
  simp only [CommandDispatchLane.deactivateOwner, CommandDispatchLane.discardQueued,
    CommandDispatchLane.cancelCurrent, CommandDispatchLane.record] at hother
  split at hother
  · exact absurd hother (by simp)
  · exact hother

/-- An accepted item is new to the log; a refused check is evidence for the end of its
owner. -/
theorem enqueue (h : evidence.Accounts lane) {evaluate : Check → Option Bool}
    (hevaluated : evidence.evaluated evaluate) (caller : Caller) (owner : Owner)
    (command : Command) (holdGeneration completion : Option Nat)
    (haccepted : ∀ item : QueuedCommand Owner, item.owner = owner → item.command = command →
      (completion ≠ none → item.holdGeneration = holdGeneration) →
      evidence.Explains (.accepted item)) :
    evidence.Accounts
      (lane.enqueue evaluate caller owner command holdGeneration completion).lane := by
  rcases lane.enqueue_cases evaluate caller owner command holdGeneration completion with
    hreply | ⟨registration, check, howner, hcheck, hdenied, hreply⟩ | ⟨-, -, hreply⟩
  · rw [hreply]
    exact h
  · rw [hreply]
    exact h.deactivateOwner caller owner .unauthorized
      ⟨registration, check, evaluate, h.registered _ _ howner, hcheck, hevaluated, hdenied⟩
  · rw [hreply]
    rcases lane.place_cases owner command holdGeneration completion with
      ⟨front, tail, replaced, -, -, hreplaced, htail, hplain, hplace⟩ | ⟨-, hplace⟩ |
      ⟨item, -, hitem, hplace⟩
    · rw [hplace]
      refine ⟨h.size, h.registered, h.stopped, ?_⟩
      intro event hevent
      rw [List.mem_append, List.mem_cons, List.mem_singleton] at hevent
      rcases hevent with hevent | rfl | rfl
      · exact h.explained event hevent
      · trivial
      · apply haccepted replaced
        · rw [hreplaced]
          exact htail
        · rw [hreplaced]
        · exact fun hawaited => absurd hplain hawaited
    · rw [hplace]
      exact h
    · rw [hplace]
      refine h.record _ (haccepted item ?_ ?_ ?_) rfl (fun _ _ howner => howner) h.stopped rfl
      · rw [hitem]
      · rw [hitem]
      · intro _
        rw [hitem]

/-- Each call is evidence for what it withdraws. -/
theorem perform (h : evidence.Accounts lane) (caller : Caller)
    {call : LaneCall Owner Check Handler} (hcalled : evidence.called call)
    (hevaluated : ∀ evaluate ∈ call.evaluations, evidence.evaluated evaluate) :
    evidence.Accounts (lane.perform caller call).lane := by
  cases call with
  | activate owner registration =>
      cases hactivate : lane.activate owner registration with
      | none =>
          simp only [CommandDispatchLane.perform, hactivate, Option.getD_none]
          exact h
      | some next =>
          simp only [CommandDispatchLane.perform, hactivate, Option.getD_some]
          obtain ⟨task, -, rfl⟩ := CommandDispatchLane.activate_eq_some hactivate
          refine ⟨h.size, ?_, h.stopped, h.explained⟩
          intro other registered hother
          by_cases hsame : other = owner
          · simp only [hsame, if_true, Option.some.injEq] at hother
            rw [hsame, ← hother]
            exact hcalled
          · simp only [hsame, if_false] at hother
            exact h.registered other registered hother
  | submit evaluate owner command =>
      apply h.enqueue (hevaluated evaluate (by simp [LaneCall.evaluations])) caller owner command
      rintro item rfl rfl -
      exact Or.inl ⟨evaluate, hcalled⟩
  | submitAndWait evaluate owner command holdGeneration =>
      -- the completion is made before the item is offered to the queue
      have hcreated : evidence.Accounts { lane with nextCompletion := lane.nextCompletion + 1 } :=
        ⟨h.size, h.registered, h.stopped, h.explained⟩
      have hplaced := hcreated.enqueue (hevaluated evaluate (by simp [LaneCall.evaluations])) caller
        owner command (some holdGeneration) (some lane.nextCompletion) (by
          intro item howner hcommand htagged
          subst howner hcommand
          exact Or.inr ⟨evaluate, holdGeneration, htagged (by simp), hcalled⟩)
      simp only [CommandDispatchLane.perform, CommandDispatchLane.submitAndWait]
      split
      · exact hplaced
      · exact ⟨hplaced.size, hplaced.registered, hplaced.stopped, hplaced.explained⟩
  | cancelOwner owner => exact h.deactivateOwner caller owner .cancelled hcalled
  | cancelGeneration owner holdGeneration =>
      exact h.record (.generationEnded owner holdGeneration) hcalled rfl
        (fun _ _ howner => howner) h.stopped rfl

theorem performAll (h : evidence.Accounts lane) (caller : Caller)
    {calls : List (LaneCall Owner Check Handler)} (hcalled : ∀ call ∈ calls, evidence.called call)
    (hevaluated : ∀ evaluate ∈ calls.flatMap LaneCall.evaluations, evidence.evaluated evaluate) :
    evidence.Accounts (lane.performAll caller calls) := by
  induction calls generalizing lane with
  | nil => exact h
  | cons call rest ih =>
      simp only [List.mem_cons, forall_eq_or_imp] at hcalled
      simp only [List.flatMap_cons, List.mem_append] at hevaluated
      exact ih (h.perform caller hcalled.1 fun evaluate hmem => hevaluated evaluate (Or.inl hmem))
        hcalled.2 fun evaluate hmem => hevaluated evaluate (Or.inr hmem)

theorem runHandler {reply : LaneReply Owner Check Handler} (h : evidence.Accounts reply.lane)
    (caller : Caller) {callback : List (LaneCall Owner Check Handler)}
    (hcalled : ∀ call ∈ callback, evidence.called call)
    (hevaluated : ∀ evaluate ∈ callback.flatMap LaneCall.evaluations,
      evidence.evaluated evaluate) :
    evidence.Accounts (CommandDispatchLane.runHandler reply caller callback) := by
  unfold CommandDispatchLane.runHandler
  split
  · exact h.performAll caller hcalled hevaluated
  · exact h

/-- A scan begins the head or withdraws it with its reason. -/
theorem workerScan (h : evidence.Accounts lane) {evaluate : Check → Option Bool}
    (hevaluated : evidence.evaluated evaluate) {reply : LaneReply Owner Check Handler}
    (hscan : lane.workerScan evaluate = some reply) : evidence.Accounts reply.lane := by
  obtain ⟨cancelRequested, -, hcases⟩ := CommandDispatchLane.workerScan_cases hscan
  rcases hcases with ⟨-, rfl⟩ | ⟨item, rest, -, hcases⟩
  · exact ⟨h.size, h.registered, h.stopped, h.explained⟩
  · have hpopped : evidence.Accounts { lane with queue := rest } :=
      ⟨h.size, h.registered, h.stopped, h.explained⟩
    rcases hcases with ⟨-, rfl⟩ | ⟨registration, check, howner, hcheck, hdenied, rfl⟩ |
      ⟨-, rfl⟩ | ⟨-, -, rfl⟩
    · exact hpopped.record (.skipped item) trivial rfl (fun _ _ howner => howner)
        h.stopped rfl
    · have hdropped := hpopped.deactivateOwner .worker item.owner .unauthorized
        ⟨registration, check, evaluate, h.registered _ _ howner, hcheck, hevaluated, hdenied⟩
      exact ⟨hdropped.size, hdropped.registered, hdropped.stopped, hdropped.explained⟩
    · exact hpopped.record (.skipped item) trivial rfl (fun _ _ howner => howner)
        h.stopped rfl
    · exact hpopped.record (.begun item) trivial rfl (fun _ _ howner => howner)
        h.stopped rfl

/-- A revoked dispatch is evidence for the end of its owner. -/
theorem workerResume (h : evidence.Accounts lane) {outcome : DispatchOutcome}
    {callback : List (LaneCall Owner Check Handler)}
    (hrevoked : outcome = .revoked → ∀ item, lane.current = some item →
      evidence.revoked item.owner)
    (hcalled : ∀ call ∈ callback, evidence.called call)
    (hevaluated : ∀ evaluate ∈ callback.flatMap LaneCall.evaluations,
      evidence.evaluated evaluate)
    {next : CommandDispatchLane Owner Check Handler}
    (hresume : lane.workerResume outcome callback = some next) : evidence.Accounts next := by
  unfold CommandDispatchLane.workerResume at hresume
  split at hresume
  · rename_i interrupted cancelRequested item htask hitem
    split at hresume
    · rw [Option.some.injEq] at hresume
      subst hresume
      exact ⟨h.size, h.registered, h.stopped, h.explained⟩
    · split at hresume
      · exact absurd hresume (by simp)
      · rw [Option.some.injEq] at hresume
        subst hresume
        have hsettled : evidence.Accounts (lane.settle item outcome).lane := by
          cases outcome with
          | suspended => exact h
          | returned => exact ⟨h.size, h.registered, h.stopped, h.explained⟩
          | failed category => exact ⟨h.size, h.registered, h.stopped, h.explained⟩
          | revoked => exact h.deactivateOwner .worker item.owner .revoked (hrevoked rfl item hitem)
          | cancelled => exact ⟨h.size, h.registered, h.stopped, h.explained⟩
        have hhandled := hsettled.runHandler .worker hcalled hevaluated
        exact ⟨hhandled.size, hhandled.registered, hhandled.stopped, hhandled.explained⟩
  · exact absurd hresume (by simp)

end Accounts

variable {first : CommandDispatchLane Owner Check Handler}
  {labels : List (LaneLabel Owner Check Handler)}

/-- What is accounted for stays so when the run goes on. -/
theorem Explains.extend (label : LaneLabel Owner Check Handler) {event : LaneEvent Owner}
    (h : (laneEvidence first labels).Explains event) :
    (laneEvidence first (labels ++ [label])).Explains event := by
  have hcalled : ∀ call, (laneEvidence first labels).called call →
      (laneEvidence first (labels ++ [label])).called call := by
    rintro call ⟨source, hsource, hcall⟩
    exact ⟨source, List.mem_append_left _ hsource, hcall⟩
  cases event with
  | accepted item =>
      rcases h with ⟨evaluate, h⟩ | ⟨evaluate, generation, htagged, h⟩
      · exact Or.inl ⟨evaluate, hcalled _ h⟩
      · exact Or.inr ⟨evaluate, generation, htagged, hcalled _ h⟩
  | superseded old new => trivial
  | begun item => trivial
  | skipped item => trivial
  | ownerEnded owner cause =>
      cases cause with
      | cancelled => exact hcalled _ h
      | unauthorized =>
          obtain ⟨registration, check, evaluate, h, hcheck, ⟨source, hsource, hmem⟩, hdenied⟩ := h
          exact ⟨registration, check, evaluate, hcalled _ h, hcheck,
            ⟨source, List.mem_append_left _ hsource, hmem⟩, hdenied⟩
      | revoked =>
          obtain ⟨before, callback, after, middle, item, hsplit, hrest⟩ := h
          exact ⟨before, callback, after ++ [label], middle, item, by simp [hsplit], hrest⟩
  | generationEnded owner generation => exact hcalled _ h
  | closed => exact List.mem_append_left _ h

theorem Accounts.extend (h : (laneEvidence first labels).Accounts lane)
    (label : LaneLabel Owner Check Handler) :
    (laneEvidence first (labels ++ [label])).Accounts lane where
  size := h.size
  registered owner registration howner := by
    obtain ⟨source, hsource, hcall⟩ := h.registered owner registration howner
    exact ⟨source, List.mem_append_left _ hsource, hcall⟩
  stopped hstopping := List.mem_append_left _ (h.stopped hstopping)
  explained event hevent := Explains.extend label (h.explained event hevent)

/-- The step that extends a run is accounted for by the extended run. -/
theorem Accounts.step (h : (laneEvidence first labels).Accounts lane)
    (hrun : Machine.run CommandDispatchLane.step first labels = some lane)
    {label : LaneLabel Owner Check Handler} {next : CommandDispatchLane Owner Check Handler}
    (hstep : lane.step label = some next) :
    (laneEvidence first (labels ++ [label])).Accounts next := by
  have hbefore := h.extend label
  have hcalled : ∀ call ∈ label.calls, (laneEvidence first (labels ++ [label])).called call :=
    fun call hmem => ⟨label, by simp, hmem⟩
  have hevaluated : ∀ evaluate ∈ label.evaluations,
      (laneEvidence first (labels ++ [label])).evaluated evaluate :=
    fun evaluate hmem => ⟨label, by simp, hmem⟩
  -- every label adds itself to the evidence before its events are explained
  cases label with
  | call request callback =>
      simp only [LaneLabel.calls, List.mem_cons, forall_eq_or_imp] at hcalled
      simp only [LaneLabel.evaluations, LaneLabel.calls, List.flatMap_cons, List.mem_append]
        at hevaluated
      simp only [CommandDispatchLane.step, Option.some.injEq] at hstep
      subst hstep
      exact (hbefore.perform .other hcalled.1
        fun evaluate hmem => hevaluated evaluate (Or.inl hmem)).runHandler .other hcalled.2
          fun evaluate hmem => hevaluated evaluate (Or.inr hmem)
  | close =>
      simp only [CommandDispatchLane.step, Option.some.injEq] at hstep
      subst hstep
      have hclosing : (laneEvidence first (labels ++ [LaneLabel.close])).closing := by
        simp [laneEvidence]
      unfold CommandDispatchLane.close
      split
      · exact hbefore
      · exact hbefore.record .closed hclosing rfl
          (fun _ _ howner => absurd howner (by simp [CommandDispatchLane.record,
            CommandDispatchLane.discardQueued, CommandDispatchLane.cancelCurrent]))
          (fun _ => hclosing) rfl
  | closeFinished =>
      simp only [CommandDispatchLane.step, CommandDispatchLane.closeFinished] at hstep
      split at hstep
      · rw [Option.some.injEq] at hstep
        subst hstep
        exact ⟨hbefore.size, hbefore.registered, hbefore.stopped, hbefore.explained⟩
      · exact absurd hstep (by simp)
  | cancelAwaited id =>
      simp only [CommandDispatchLane.step, Option.some.injEq] at hstep
      subst hstep
      exact ⟨hbefore.size, hbefore.registered, hbefore.stopped, hbefore.explained⟩
  | workerWake =>
      simp only [CommandDispatchLane.step, CommandDispatchLane.workerWake] at hstep
      split at hstep
      · split at hstep <;>
          (rw [Option.some.injEq] at hstep
           subst hstep
           exact ⟨hbefore.size, hbefore.registered, hbefore.stopped, hbefore.explained⟩)
      · split at hstep
        · rw [Option.some.injEq] at hstep
          subst hstep
          exact ⟨hbefore.size, hbefore.registered, hbefore.stopped, hbefore.explained⟩
        · split at hstep
          · rw [Option.some.injEq] at hstep
            subst hstep
            exact ⟨hbefore.size, hbefore.registered, hbefore.stopped, hbefore.explained⟩
          · exact absurd hstep (by simp)
      · exact absurd hstep (by simp)
  | workerScan evaluate callback =>
      obtain ⟨reply, hscan, rfl⟩ := Option.map_eq_some_iff.mp hstep
      simp only [LaneLabel.evaluations, List.mem_cons, forall_eq_or_imp] at hevaluated
      exact (hbefore.workerScan hevaluated.1 hscan).runHandler .worker hcalled hevaluated.2
  | workerResume outcome callback =>
      refine hbefore.workerResume ?_ hcalled hevaluated hstep
      intro houtcome item hitem
      subst houtcome
      exact ⟨labels, callback, [], lane, item, rfl, hrun, hitem, rfl⟩

end LaneEvidence

/-! ## Refinement -/

/-- The item left the queue without being begun. -/
def WithdrawnFrom (log : List (LaneEvent Owner)) (item : QueuedCommand Owner) : Prop :=
  OrderedQueue.Withdrawn (queueHistory log) item

/-- The item is a text that a later text of its owner replaced. -/
def Superseded (log : List (LaneEvent Owner)) (item : QueuedCommand Owner) : Prop :=
  ∃ new, LaneEvent.superseded item new ∈ log ∧ CommandDispatchLane.Coalesces item new

open Classical in
/-- The lane as an ordered queue: what it begins is what it accepted, in
acceptance order, less what was withdrawn, and nothing else is ever lost. -/
structure RefinesOrderedQueue (first : CommandDispatchLane Owner Check Handler)
    (labels : List (LaneLabel Owner Check Handler))
    (final : CommandDispatchLane Owner Check Handler) : Prop where
  acceptanceOrder : (acceptedItems final.log).Pairwise
    fun earlier later => earlier.ticket < later.ticket
  order : begunItems final.log ++ final.queue =
    (acceptedItems final.log).filter fun item => decide (¬ WithdrawnFrom final.log item)
  once : (begunItems final.log).Nodup
  bounded : final.queue.length ≤ first.maxQueueSize
  submitted : ∀ item ∈ acceptedItems final.log,
    (laneEvidence first labels).Explains (.accepted item)
  withdrawn : ∀ item, WithdrawnFrom final.log item →
    Superseded final.log item ∨ (laneEvidence first labels).Disturbs item
  /-- A queued item that a step of the run ends is never begun. -/
  ended : Machine.Throughout CommandDispatchLane.step first labels fun lane label =>
    ∀ item ∈ lane.queue, lane.StepEnds item label → item ∉ begunItems final.log
  /-- What the calls are told, and what comes to be in flight, is what is recorded. -/
  acknowledged : Machine.Throughout CommandDispatchLane.step first labels fun lane label =>
    ∀ request callback owner command, label = .call request callback →
      request.submission = some (owner, command) →
      (lane.perform .other request).accepted = true →
      ∃ item ∈ acceptedItems final.log,
        item.owner = owner ∧ item.command = command ∧ item.ticket = lane.nextTicket
  dispatched : Machine.Throughout CommandDispatchLane.step first labels fun lane label =>
    ∀ next, lane.step label = some next → begunItems next.log =
      begunItems lane.log ++ if lane.current.isNone then next.current.toList else []
  survives : LaneLabel.close ∉ labels →
    (∀ task, final.workerTask = some task → task.phase ≠ .finished) ∧
      ∀ owner, (final.owners owner).isSome → final.workerTask.isSome
  delivered : final.quiescent → final.current = none ∧ ∀ item ∈ acceptedItems final.log,
    ¬ Superseded final.log item → ¬ (laneEvidence first labels).Disturbs item →
      (begunItems final.log).count item = 1

section Runs

variable {first final : CommandDispatchLane Owner Check Handler}
  {labels : List (LaneLabel Owner Check Handler)}

theorem run_laneInvariant (hfirst : first.LaneInvariant)
    (hrun : Machine.run CommandDispatchLane.step first labels = some final) :
    final.LaneInvariant :=
  Machine.run_invariant CommandDispatchLane.LaneInvariant
    (fun _ _ _ hlane hstep => hlane.step hstep) hfirst hrun

/-- Every withdrawal of a run is explained by one of its labels, by induction from the last
label. -/
theorem run_accounts {maxQueueSize : Nat}
    (hnew : CommandDispatchLane.new maxQueueSize = some first)
    (hrun : Machine.run CommandDispatchLane.step first labels = some final) :
    (laneEvidence first labels).Accounts final := by
  refine Machine.run_snoc_induction
    (fun labels lane => (laneEvidence first labels).Accounts lane) ?_
    (fun _ _ _ _ hprefix hlane hstep => hlane.step hprefix hstep) hrun
  unfold CommandDispatchLane.new at hnew
  split at hnew
  · rw [Option.some.injEq] at hnew
    subst hnew
    refine ⟨rfl, ?_, ?_, ?_⟩ <;> simp
  · exact absurd hnew (by simp)

/-- A withdrawal names its cause. -/
theorem withdrawnFrom_cause (hlane : final.LaneInvariant)
    (haccounts : (laneEvidence first labels).Accounts final) {item : QueuedCommand Owner}
    (hitem : WithdrawnFrom final.log item) :
    Superseded final.log item ∨ (laneEvidence first labels).Disturbs item := by
  obtain ⟨before, gone, after, hsplit, -, -, hgone⟩ := hitem
  obtain ⟨event, hevent, hsame⟩ : ∃ event ∈ final.log, event.queueEvent = .withdraw gone := by
    have hmem : OrderedQueue.Event.withdraw gone ∈ queueHistory final.log := by
      rw [hsplit]
      simp
    simpa [queueHistory] using hmem
  have hcause := haccounts.explained event hevent
  cases event with
  | accepted other => exact absurd hsame (by simp [LaneEvent.queueEvent])
  | begun other => exact absurd hsame (by simp [LaneEvent.queueEvent])
  | superseded old new =>
      simp only [LaneEvent.queueEvent, OrderedQueue.Event.withdraw.injEq] at hsame
      have hold : item = old := by simpa [← hsame, LaneEvent.withdraws] using hgone
      subst hold
      exact Or.inl ⟨new, hevent, hlane.queueing.supersession _ new hevent⟩
  | skipped other => exact absurd hevent (hlane.queueing.noSkips other)
  | ownerEnded owner cause =>
      simp only [LaneEvent.queueEvent, OrderedQueue.Event.withdraw.injEq] at hsame
      have howner : item.owner = owner := by simpa [← hsame, LaneEvent.withdraws] using hgone
      subst howner
      cases cause with
      | cancelled => exact Or.inr (.ownerCancelled hcause)
      | unauthorized =>
          obtain ⟨registration, check, evaluate, hcalled, hcheck, hevaluated, hdenied⟩ := hcause
          exact Or.inr (.unauthorized registration check evaluate hcalled hcheck hevaluated hdenied)
      | revoked => exact Or.inr (.revoked hcause)
  | generationEnded owner generation =>
      simp only [LaneEvent.queueEvent, OrderedQueue.Event.withdraw.injEq] at hsame
      have htagged : item.owner = owner ∧ item.holdGeneration = some generation := by
        simpa [← hsame, LaneEvent.withdraws, CommandDispatchLane.taggedWith] using hgone
      obtain ⟨howner, hgeneration⟩ := htagged
      subst howner
      exact Or.inr (.generationCancelled generation hgeneration hcause)
  | closed => exact Or.inr (.closing hcause)

/-- The record of a lane only grows. -/
theorem run_log_extends (hfirst : first.LaneInvariant)
    (hrun : Machine.run CommandDispatchLane.step first labels = some final) :
    ∃ events, final.log = first.log ++ events := by
  refine (Machine.run_invariant
    (fun lane => lane.LaneInvariant ∧ ∃ events, lane.log = first.log ++ events) ?_
    ⟨hfirst, [], (List.append_nil _).symm⟩ hrun).2
  rintro lane label next ⟨hlane, events, hevents⟩ hstep
  obtain ⟨later, hlater⟩ := CommandDispatchLane.log_extends hlane hstep
  exact ⟨hlane.step hstep, events ++ later, by rw [hlater, hevents, List.append_assoc]⟩

theorem WithdrawnFrom.append {log : List (LaneEvent Owner)} {item : QueuedCommand Owner}
    (h : WithdrawnFrom log item) (later : List (LaneEvent Owner)) :
    WithdrawnFrom (log ++ later) item := by
  obtain ⟨before, gone, after, hsplit, hrest⟩ := h
  refine ⟨before, gone, after ++ queueHistory later, ?_, hrest⟩
  rw [queueHistory_append, hsplit, List.append_assoc, List.cons_append]

/-- What every step of a run is, together with what the rest of the run records. -/
theorem run_throughout (hfirst : first.LaneInvariant)
    (hrun : Machine.run CommandDispatchLane.step first labels = some final)
    {condition : CommandDispatchLane Owner Check Handler → LaneLabel Owner Check Handler → Prop}
    (hcondition : ∀ lane label next, lane.LaneInvariant → lane.step label = some next →
      (∃ events, final.log = next.log ++ events) → condition lane label) :
    Machine.Throughout CommandDispatchLane.step first labels condition := by
  intro before label after lane hsplit hlane
  rw [hsplit, Machine.run_append] at hrun
  obtain ⟨middle, hmiddle, hrest⟩ := hrun
  obtain rfl := Option.some.inj (hlane.symm.trans hmiddle)
  obtain ⟨next, hstep, hlater⟩ := (Machine.run_cons _ _ _ _).mp hrest
  have hinvariant := run_laneInvariant hfirst hlane
  exact hcondition lane label next hinvariant hstep
    (run_log_extends (hinvariant.step hstep) hlater)

/-- Every run of a new lane refines the ordered queue it records. -/
theorem lane_refines_ordered_queue (maxQueueSize : Nat)
    (hnew : CommandDispatchLane.new maxQueueSize = some first)
    (hrun : Machine.run CommandDispatchLane.step first labels = some final) :
    RefinesOrderedQueue first labels final := by
  classical
  have hfirst := CommandDispatchLane.new_invariant hnew
  have hlane := run_laneInvariant hfirst hrun
  have haccounts := run_accounts hnew hrun
  have hnodup : (acceptedItems final.log).Nodup := by
    refine hlane.queueing.increasing.imp ?_
    intro earlier later hlt hsame
    rw [hsame] at hlt
    exact lt_irrefl _ hlt
  -- tickets tell the items apart, so the queue's history is exact
  have horder := hlane.queueing.history.exact hnodup
  have honce := (List.nodup_append.mp (hlane.queueing.history.nodup hnodup)).1
  refine
    { acceptanceOrder := hlane.queueing.increasing
      order := ?_
      once := honce
      bounded := hlane.queueing.bounded.trans (le_of_eq haccounts.size)
      submitted := fun item hitem => haccounts.explained _ (mem_acceptedItems.mp hitem)
      withdrawn := fun item => withdrawnFrom_cause hlane haccounts
      ended := ?_
      acknowledged := ?_
      dispatched := ?_
      survives := ?_
      delivered := ?_ }
  · exact horder.trans (List.filter_congr fun item _ => decide_eq_decide.mpr Iff.rfl)
  · refine run_throughout hfirst hrun fun lane label next hinvariant hstep hlater => ?_
    obtain ⟨later, hlater⟩ := hlater
    intro item hitem hends hbegun
    have hwithdrawn : WithdrawnFrom final.log item := by
      rw [hlater]
      apply WithdrawnFrom.append
      exact CommandDispatchLane.withdrawn_of_stepEnds hinvariant hstep hitem hends
    have hkept : item ∈ OrderedQueue.begun (queueHistory final.log) ++ final.queue :=
      List.mem_append_left _ hbegun
    rw [horder, List.mem_filter] at hkept
    simpa using absurd hwithdrawn (of_decide_eq_true hkept.2)
  · refine run_throughout hfirst hrun fun lane label next hinvariant hstep hlater => ?_
    obtain ⟨later, hlater⟩ := hlater
    rintro request callback owner command rfl hsubmission haccepted
    obtain ⟨item, hitem, hsame⟩ :=
      CommandDispatchLane.accepted_of_perform hsubmission haccepted
    obtain rfl := Option.some.inj hstep
    obtain ⟨events, hrecorded⟩ := CommandDispatchLane.runHandler_log
      (lane.perform .other request) .other callback
    refine ⟨item, ?_, hsame⟩
    rw [hlater, hrecorded, acceptedItems_append, acceptedItems_append]
    exact List.mem_append_left _ (List.mem_append_left _ hitem)
  · refine run_throughout hfirst hrun fun lane label next hinvariant hstep hlater other hother => ?_
    exact CommandDispatchLane.begunItems_step hinvariant hother
  · intro hnotClosing
    have hopen : final.stopping = false := by
      by_contra hstopping
      rw [Bool.not_eq_false] at hstopping
      exact hnotClosing (haccounts.stopped hstopping)
    exact ⟨hlane.working.alive hopen, hlane.queueing.manned⟩
  · intro hquiescent
    obtain ⟨hempty, hidle⟩ := hlane.idle hquiescent
    refine ⟨hidle, ?_⟩
    intro item hitem hkept hundisturbed
    apply List.count_eq_one_of_mem honce
    have hnot : ¬ OrderedQueue.Withdrawn (queueHistory final.log) item := fun hwithdrawn =>
      (withdrawnFrom_cause hlane haccounts hwithdrawn).elim hkept hundisturbed
    have hmem : item ∈ begunItems final.log ++ final.queue := by
      unfold begunItems
      rw [horder, List.mem_filter]
      exact ⟨hitem, by simpa using hnot⟩
    rwa [hempty, List.append_nil] at hmem

/-- Two owners share the lane; the first is cancelled while its command is in flight. -/
theorem lane_refines_ordered_queue_shared :
    let command : Command := { action := .sendKey, samsungKey := some "KEY_UP" }
    let allow : Unit → Option Bool := fun _ => some true
    let labels : List (LaneLabel Nat Unit Unit) :=
      [.call (.activate 1 ⟨some (), none⟩) [], .call (.activate 2 ⟨some (), none⟩) [],
        .workerWake, .call (.submit allow 1 command) [], .call (.submit allow 2 command) [],
        .workerWake, .workerScan allow [], .call (.cancelOwner 1) [],
        .workerResume .cancelled [], .workerScan allow [], .workerResume .returned [],
        .workerScan allow []]
    ∃ first final, CommandDispatchLane.new 2 = some first ∧
      Machine.run CommandDispatchLane.step first labels = some final ∧
      (begunItems final.log).map QueuedCommand.owner = [1, 2] ∧
      RefinesOrderedQueue first labels final :=
  ⟨_, _, rfl, rfl, rfl, lane_refines_ordered_queue 2 rfl rfl⟩

end Runs

end CompanionBridge
