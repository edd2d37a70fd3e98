import CompanionBridge.Library.Coalescing
import CompanionBridge.Companion.DispatchRefinement

/-!
# Coalescing texts

A lane that replaces its queued tail text begins what a lane without coalescing
begins, less texts that the next accepted command of the same owner replaces.
Such a lane is an ordered queue from which nothing is withdrawn.
-/

namespace CompanionBridge

variable {Owner Check Handler : Type}

/-- Whether an event ends an owner, a generation or the lane. -/
def LaneEvent.ends : LaneEvent Owner → Bool
  | .ownerEnded _ _ | .generationEnded _ _ | .closed => true
  | _ => false

/-- Nothing was cancelled. -/
def Undisturbed (log : List (LaneEvent Owner)) : Prop :=
  ∀ event ∈ log, event.ends = false

/-- A log is undisturbed if a longer one is. -/
theorem Undisturbed.left {earlier later : List (LaneEvent Owner)}
    (h : Undisturbed (earlier ++ later)) : Undisturbed earlier :=
  fun event hevent => h event (List.mem_append_left _ hevent)

/-- Whether an item is a text of an owner. -/
def isTextOf [DecidableEq Owner] (owner : Owner) (item : QueuedCommand Owner) : Bool :=
  item.owner = owner && item.command.action = .sendText

/-- The last text of an owner among some items. -/
def lastText [DecidableEq Owner] (owner : Owner) (items : List (QueuedCommand Owner)) :
    Option (QueuedCommand Owner) :=
  (items.filter (isTextOf owner)).getLast?

namespace CommandDispatchLane

/-- A text that replaces a text has its owner. -/
theorem Coalesces.isTextOf [DecidableEq Owner] {old new : QueuedCommand Owner}
    (h : Coalesces old new) (owner : Owner) (hold : isTextOf owner old = true) :
    isTextOf owner new = true := by
  obtain ⟨howner, -, hnew, -, -⟩ := h
  simp only [CompanionBridge.isTextOf, Bool.and_eq_true, decide_eq_true_eq] at hold ⊢
  exact ⟨howner.symm.trans hold.1, hnew⟩

variable [DecidableEq Owner] {lane : CommandDispatchLane Owner Check Handler}

/-- What was begun and what is queued are what was accepted, coalesced; the item
in flight is the one begun last. -/
structure CoalescingInvariant (lane : CommandDispatchLane Owner Check Handler) : Prop where
  coalesced : Undisturbed lane.log →
    Coalesced Coalesces (acceptedItems lane.log) (begunItems lane.log ++ lane.queue)
  flight : ∀ item, lane.current = some item →
    ∃ flown, (begunItems lane.log).getLast? = some flown ∧
      item = { flown with cancelled := item.cancelled }

/-- An operation that ends something, and cancels at most the item in flight. -/
theorem CoalescingInvariant.ended (h : lane.CoalescingInvariant)
    {next : CommandDispatchLane Owner Check Handler} (event : LaneEvent Owner)
    (hends : event.ends = true) (hlog : next.log = lane.log ++ [event])
    {predicate : QueuedCommand Owner → Bool}
    (hcurrent : next.current = lane.current.map (markCancelled predicate)) :
    next.CoalescingInvariant where
  coalesced := by
    intro hundisturbed
    rw [hlog] at hundisturbed
    have hquiet := hundisturbed event (by simp)
    exact absurd (hends.symm.trans hquiet) (by simp)
  flight := by
    intro item hitem
    rw [hcurrent] at hitem
    obtain ⟨flown, hflown, rfl⟩ := Option.map_eq_some_iff.mp hitem
    obtain ⟨begun, hbegun, hheld⟩ := h.flight flown hflown
    have hnone : begunItems [event] = [] := by
      cases event <;> first | rfl | exact absurd hends Bool.false_ne_true
    refine ⟨begun, by rw [hlog, begunItems_append, hnone, List.append_nil]; exact hbegun, ?_⟩
    unfold markCancelled
    split
    · rw [hheld]
    · exact hheld

/-- Where an owner ends, the log is disturbed and nothing is claimed. -/
theorem CoalescingInvariant.deactivateOwner (h : lane.CoalescingInvariant) (caller : Caller)
    (owner : Owner) (cause : OwnerEnd) :
    (lane.deactivateOwner caller owner cause).CoalescingInvariant :=
  h.ended (.ownerEnded owner cause) rfl rfl rfl

theorem CoalescingInvariant.cancelGeneration (h : lane.CoalescingInvariant) (caller : Caller)
    (owner : Owner) (generation : Nat) :
    (lane.cancelGeneration caller owner generation).CoalescingInvariant :=
  h.ended (.generationEnded owner generation) rfl rfl rfl

theorem CoalescingInvariant.close (h : lane.CoalescingInvariant) :
    lane.close.CoalescingInvariant := by
  unfold CommandDispatchLane.close
  split
  · exact h
  · exact h.ended .closed rfl rfl rfl

/-- An accepted command is kept, or replaces the text accepted just before it. -/
theorem CoalescingInvariant.place (h : lane.CoalescingInvariant) (owner : Owner)
    (command : Command) (holdGeneration completion : Option Nat) :
    (lane.place owner command holdGeneration completion).lane.CoalescingInvariant := by
  rcases lane.place_cases owner command holdGeneration completion with
    ⟨front, tail, replaced, hqueue, hcoalesces, -, -, -, hreply⟩ | ⟨-, hreply⟩ |
    ⟨item, -, -, hreply⟩
  · rw [hreply]
    have haccepted : acceptedItems [LaneEvent.superseded tail replaced, .accepted replaced] =
        [replaced] := rfl
    have hbegun : begunItems [LaneEvent.superseded tail replaced, .accepted replaced] = [] := rfl
    refine ⟨fun hundisturbed => ?_, ?_⟩
    · have hbefore := h.coalesced (Undisturbed.left hundisturbed)
      rw [hqueue, ← List.append_assoc] at hbefore
      have hlast : (acceptedItems lane.log).getLast? = some tail := by
        rw [← hbefore.last, List.getLast?_concat]
      obtain ⟨earlier, hearlier⟩ := List.getLast?_eq_some_iff.mp hlast
      rw [hearlier] at hbefore
      have hreplaced := hbefore.replace_last hcoalesces
      rw [acceptedItems_append, begunItems_append, haccepted, hbegun, hearlier, List.append_nil,
        ← List.append_assoc (begunItems lane.log)]
      exact hreplaced
    · intro item hitem
      obtain ⟨flown, hflown, hsame⟩ := h.flight item hitem
      exact ⟨flown, by rw [begunItems_append, hbegun, List.append_nil]; exact hflown, hsame⟩
  · rw [hreply]
    exact h
  · rw [hreply]
    have haccepted : acceptedItems [LaneEvent.accepted item] = [item] := rfl
    have hbegun : begunItems [LaneEvent.accepted item] = [] := rfl
    refine ⟨fun hundisturbed => ?_, ?_⟩
    · have hkept := (h.coalesced (Undisturbed.left hundisturbed)).snoc item
      rw [acceptedItems_append, begunItems_append, haccepted, hbegun, List.append_nil,
        ← List.append_assoc (begunItems lane.log)]
      exact hkept
    · intro other hother
      obtain ⟨flown, hflown, hsame⟩ := h.flight other hother
      exact ⟨flown, by rw [begunItems_append, hbegun, List.append_nil]; exact hflown, hsame⟩

/-- A text that supersedes the tail stands for all it has replaced. -/
theorem CoalescingInvariant.enqueue (h : lane.CoalescingInvariant)
    (evaluate : Check → Option Bool) (caller : Caller) (owner : Owner) (command : Command)
    (holdGeneration completion : Option Nat) :
    (lane.enqueue evaluate caller owner command holdGeneration
      completion).lane.CoalescingInvariant := by
  rcases lane.enqueue_cases evaluate caller owner command holdGeneration completion with
    hreply | ⟨registration, check, -, -, -, hreply⟩ | ⟨-, -, hreply⟩
  · rw [hreply]
    exact h
  · rw [hreply]
    exact h.deactivateOwner caller owner .unauthorized
  · rw [hreply]
    exact h.place owner command holdGeneration completion

theorem CoalescingInvariant.withCompletions (h : lane.CoalescingInvariant)
    (completions : Nat → Completion) (nextCompletion : Nat) :
    { lane with
      completions := completions, nextCompletion := nextCompletion }.CoalescingInvariant :=
  ⟨h.coalesced, h.flight⟩

/-- One case for each call. -/
theorem CoalescingInvariant.perform (h : lane.CoalescingInvariant) (caller : Caller)
    (call : LaneCall Owner Check Handler) :
    (lane.perform caller call).lane.CoalescingInvariant := by
  cases call with
  | activate owner registration =>
      cases hactivate : lane.activate owner registration with
      | none =>
          simp only [CommandDispatchLane.perform, hactivate, Option.getD_none]
          exact h
      | some next =>
          simp only [CommandDispatchLane.perform, hactivate, Option.getD_some]
          obtain ⟨task, -, rfl⟩ := activate_eq_some hactivate
          exact ⟨h.coalesced, h.flight⟩
  | submit evaluate owner command => exact h.enqueue evaluate caller owner command none none
  | submitAndWait evaluate owner command holdGeneration =>
      have hplaced := (h.withCompletions lane.completions (lane.nextCompletion + 1)).enqueue
        evaluate caller owner command (some holdGeneration) (some lane.nextCompletion)
      simp only [CommandDispatchLane.perform, submitAndWait]
      split
      · exact hplaced
      · exact hplaced.withCompletions _ _
  | cancelOwner owner => exact h.deactivateOwner caller owner .cancelled
  | cancelGeneration owner holdGeneration => exact h.cancelGeneration caller owner holdGeneration

theorem CoalescingInvariant.runHandler {reply : LaneReply Owner Check Handler}
    (h : reply.lane.CoalescingInvariant) (caller : Caller)
    (callback : List (LaneCall Owner Check Handler)) :
    (runHandler reply caller callback).CoalescingInvariant := by
  unfold CommandDispatchLane.runHandler
  split
  · generalize reply.lane = current at h
    unfold performAll
    induction callback generalizing current with
    | nil => exact h
    | cons call rest ih => exact ih _ (h.perform caller call)
  · exact h

theorem CoalescingInvariant.workerWake (h : lane.CoalescingInvariant)
    {next : CommandDispatchLane Owner Check Handler} (hwake : lane.workerWake = some next) :
    next.CoalescingInvariant := by
  unfold CommandDispatchLane.workerWake at hwake
  split at hwake
  · split at hwake <;>
      exact Option.some.inj hwake ▸ ⟨h.coalesced, h.flight⟩
  · split at hwake
    · exact Option.some.inj hwake ▸ ⟨h.coalesced, by simp⟩
    · split at hwake
      · exact Option.some.inj hwake ▸ ⟨h.coalesced, h.flight⟩
      · exact absurd hwake (by simp)
  · exact absurd hwake (by simp)

/-- The head is begun as it is; what else the worker may find in a lane that is
in order ends its owner. -/
theorem CoalescingInvariant.workerScan (h : lane.CoalescingInvariant) (hlane : lane.LaneInvariant)
    {evaluate : Check → Option Bool} {reply : LaneReply Owner Check Handler}
    (hscan : lane.workerScan evaluate = some reply) : reply.lane.CoalescingInvariant := by
  obtain ⟨cancelRequested, htask, hcases⟩ := workerScan_cases hscan
  rcases hcases with ⟨hqueue, rfl⟩ | ⟨item, rest, hqueue, hcases⟩
  · exact ⟨h.coalesced, h.flight⟩
  · have hlive := hlane.queueing.live item (by simp [hqueue])
    rcases hcases with ⟨hnone, -⟩ | ⟨registration, check, howner, hcheck, -, rfl⟩ |
      ⟨hcancelled, -⟩ | ⟨-, -, rfl⟩
    · rw [hnone] at hlive
      exact absurd hlive.2 (by simp)
    · obtain ⟨completions, hsame⟩ := deactivateOwner_popped .worker .unauthorized hqueue
      rw [hsame]
      exact (h.deactivateOwner .worker item.owner .unauthorized).withCompletions _ _
    · rw [hcancelled] at hlive
      exact absurd hlive.1 (by simp)
    · have haccepted : acceptedItems [LaneEvent.begun item] = [] := rfl
      have hbegun : begunItems [LaneEvent.begun item] = [item] := rfl
      refine ⟨fun hundisturbed => ?_, ?_⟩
      · have hbefore := h.coalesced (Undisturbed.left hundisturbed)
        rw [hqueue] at hbefore
        simp only [record, setWorker, acceptedItems_append, begunItems_append, haccepted, hbegun,
          List.append_nil, List.append_assoc, List.singleton_append]
        exact hbefore
      · intro other hother
        obtain rfl := Option.some.inj hother
        refine ⟨item, ?_, rfl⟩
        simp [record, setWorker, hbegun]

/-- The end of a dispatch begins nothing. -/
theorem CoalescingInvariant.workerResume (h : lane.CoalescingInvariant)
    {outcome : DispatchOutcome} {callback : List (LaneCall Owner Check Handler)}
    {next : CommandDispatchLane Owner Check Handler}
    (hresume : lane.workerResume outcome callback = some next) : next.CoalescingInvariant := by
  have hsettled : ∀ item, (lane.settle item outcome).lane.CoalescingInvariant := by
    intro item
    cases outcome with
    | suspended => exact h
    | returned => exact h.withCompletions _ _
    | failed category => exact h.withCompletions _ _
    | revoked => exact h.deactivateOwner .worker item.owner .revoked
    | cancelled => exact h.withCompletions _ _
  unfold CommandDispatchLane.workerResume at hresume
  split at hresume
  · rename_i interrupted cancelRequested item htask hitem
    split at hresume
    · exact Option.some.inj hresume ▸ ⟨h.coalesced, h.flight⟩
    · split at hresume
      · exact absurd hresume (by simp)
      · obtain rfl := Option.some.inj hresume
        have hran := CoalescingInvariant.runHandler (hsettled item) .worker callback
        exact ⟨hran.coalesced, by simp [finishItem]⟩
  · exact absurd hresume (by simp)

/-- One case for each label. -/
theorem CoalescingInvariant.step (h : lane.CoalescingInvariant) (hlane : lane.LaneInvariant)
    {label : LaneLabel Owner Check Handler} {next : CommandDispatchLane Owner Check Handler}
    (hstep : lane.step label = some next) : next.CoalescingInvariant := by
  cases label with
  | call request callback =>
      obtain rfl := Option.some.inj hstep
      exact CoalescingInvariant.runHandler (h.perform .other request) .other callback
  | close =>
      obtain rfl := Option.some.inj hstep
      exact h.close
  | closeFinished =>
      simp only [CommandDispatchLane.step, closeFinished] at hstep
      split at hstep
      · exact Option.some.inj hstep ▸ ⟨h.coalesced, by simp⟩
      · exact absurd hstep (by simp)
  | cancelAwaited id =>
      obtain rfl := Option.some.inj hstep
      exact h.withCompletions _ _
  | workerWake => exact h.workerWake hstep
  | workerScan evaluate callback =>
      obtain ⟨reply, hscan, rfl⟩ := Option.map_eq_some_iff.mp hstep
      exact CoalescingInvariant.runHandler (h.workerScan hlane hscan) .worker callback
  | workerResume outcome callback => exact h.workerResume hstep

/-- The invariant in every reachable lane. -/
theorem run_coalescingInvariant {first final : CommandDispatchLane Owner Check Handler}
    {maxQueueSize : Nat} (hnew : new maxQueueSize = some first)
    {labels : List (LaneLabel Owner Check Handler)}
    (hrun : Machine.run CommandDispatchLane.step first labels = some final) :
    final.LaneInvariant ∧ final.CoalescingInvariant := by
  refine Machine.run_invariant
    (fun lane : CommandDispatchLane Owner Check Handler =>
      lane.LaneInvariant ∧ lane.CoalescingInvariant)
    (fun _ _ _ h hstep => ⟨h.1.step hstep, h.2.step h.1 hstep⟩) ⟨new_invariant hnew, ?_⟩ hrun
  unfold new at hnew
  split at hnew
  · obtain rfl := Option.some.inj hnew
    exact ⟨fun _ => .nil, by simp⟩
  · exact absurd hnew (by simp)

end CommandDispatchLane

/-- The history of a lane that neither coalesces nor discards. -/
structure PlainHistory (history : List (OrderedQueue.Event (QueuedCommand Owner)))
    (pending : List (QueuedCommand Owner)) : Prop where
  valid : OrderedQueue.Valid history pending
  plain : ∀ gone, .withdraw gone ∉ history

section Runs

open CommandDispatchLane

variable [DecidableEq Owner] {first final : CommandDispatchLane Owner Check Handler}
variable {labels : List (LaneLabel Owner Check Handler)}

/-- A lane that was not disturbed, seen beside a lane without coalescing that
accepted the same commands. -/
structure MatchesPlain (lane : CommandDispatchLane Owner Check Handler) : Prop where
  /-- Only a text is dropped, and only before the next text of its owner. -/
  coalesced : Coalesced Coalesces (acceptedItems lane.log) (begunItems lane.log ++ lane.queue)
  /-- Commands are begun in acceptance order. -/
  order : (begunItems lane.log ++ lane.queue).Sublist (acceptedItems lane.log)
  /-- No other command is dropped. -/
  commands :
    (begunItems lane.log ++ lane.queue).filter (fun item => item.command.action ≠ .sendText) =
      (acceptedItems lane.log).filter fun item => item.command.action ≠ .sendText
  /-- Before a command that is no text of an owner, the last text of that owner is
  the same: texts cross neither other commands nor other owners. -/
  before : ∀ history pending, PlainHistory history pending →
    OrderedQueue.accepted history = acceptedItems lane.log →
    ∀ command before after earlier later,
      begunItems lane.log = before ++ command :: after →
      OrderedQueue.begun history = earlier ++ command :: later →
      ∀ owner, isTextOf owner command = false → lastText owner before = lastText owner earlier
  /-- When both lanes are quiet, each owner's last text is the same. -/
  quiet : ∀ history, PlainHistory history [] →
    OrderedQueue.accepted history = acceptedItems lane.log → lane.quiescent →
    ∀ owner, lastText owner (begunItems lane.log) = lastText owner (OrderedQueue.begun history)
  /-- The command in flight is the one that was begun. -/
  flight : ∀ item, lane.current = some item →
    ∃ flown, (begunItems lane.log).getLast? = some flown ∧
      item = { flown with cancelled := item.cancelled }

theorem coalescing_matches_plain {maxQueueSize : Nat} (hnew : new maxQueueSize = some first)
    (hrun : Machine.run CommandDispatchLane.step first labels = some final)
    (hundisturbed : Undisturbed final.log) : MatchesPlain final := by
  obtain ⟨hlane, hcoalescing⟩ := run_coalescingInvariant hnew hrun
  have hcoalesced := hcoalescing.coalesced hundisturbed
  have hnodup : (acceptedItems final.log).Nodup := by
    refine hlane.queueing.increasing.imp ?_
    intro earlier later hlt hsame
    rw [hsame] at hlt
    exact lt_irrefl _ hlt
  refine ⟨hcoalesced, hcoalesced.sublist,
    hcoalesced.filter_eq fun old new hreplaces => by simp [hreplaces.2.1], ?_, ?_,
    hcoalescing.flight⟩
  · intro history pending hplain haccepted command before after earlier later hbegun hhistory
      owner hother
    have hall := hplain.valid.begun_append_pending hplain.plain
    rw [haccepted, hhistory] at hall
    rw [hbegun, ← hall, List.append_assoc, List.append_assoc, List.cons_append,
      List.cons_append] at hcoalesced
    rw [← hall, List.append_assoc, List.cons_append] at hnodup
    exact hcoalesced.last_before hnodup
      (fun old new hreplaces hold => hreplaces.isTextOf owner hold) hother
  · intro history hplain haccepted hquiescent owner
    have hall := hplain.valid.begun_append_pending hplain.plain
    rw [List.append_nil] at hall
    obtain ⟨hempty, -⟩ := hlane.idle hquiescent
    rw [hempty, List.append_nil, ← haccepted, ← hall] at hcoalesced
    exact hcoalesced.last_of fun old new hreplaces hold => hreplaces.isTextOf owner hold

/-- Two owners type while a third command waits. -/
def typingLabels : List (LaneLabel Nat Unit Unit) :=
  let text : String → Command := fun text => { action := .sendText, text := some text }
  let key : Command := { action := .sendKey, samsungKey := some "KEY_UP" }
  let allow : Unit → Option Bool := fun _ => some true
  [.call (.activate 1 ⟨some (), none⟩) [], .call (.activate 2 ⟨none, none⟩) [],
    .call (.submit allow 1 (text "a")) [], .call (.submit allow 1 (text "ab")) [],
    .call (.submit allow 2 (text "x")) [], .workerWake, .workerScan allow [],
    .call (.submit allow 2 (text "xy")) [], .call (.submit allow 1 key) [],
    .workerResume .returned [], .workerScan allow [], .workerResume .suspended [],
    .workerResume .returned [], .workerScan allow [], .workerResume .returned [],
    .workerScan allow []]

theorem coalescing_matches_plain_typing :
    ∃ first final, new 3 = some first ∧
      Machine.run CommandDispatchLane.step first typingLabels = some final ∧
      (begunItems final.log).map (fun item => item.command.text) =
        [some "ab", some "xy", none] ∧
      MatchesPlain final := by
  let typed : Option (CommandDispatchLane Nat Unit Unit) :=
    (new 3).bind fun first => Machine.run CommandDispatchLane.step first typingLabels
  obtain ⟨final, hfinal⟩ :=
    Option.isSome_iff_exists.mp (show typed.isSome = true by decide +kernel)
  have hbegun : typed.map (fun final =>
      (begunItems final.log).map fun item => item.command.text) =
      some [some "ab", some "xy", none] := by decide +kernel
  have hquiet : typed.map (fun final => final.log.all fun event => !event.ends) = some true := by
    decide +kernel
  rw [hfinal] at hbegun hquiet
  obtain ⟨first, hnew, hrun⟩ := Option.bind_eq_some_iff.mp hfinal
  refine ⟨first, final, hnew, hrun, Option.some.inj hbegun,
    coalescing_matches_plain hnew hrun fun event hevent => ?_⟩
  have hends := List.all_eq_true.mp (Option.some.inj hquiet) event hevent
  simpa using hends

end Runs

end CompanionBridge
