import CompanionBridge.Companion.NoGhostRepeats

/-!
# Which repeats are submitted

Only a repeat task submits commands tagged with a generation, and only while
its connection still holds that generation. Once a hold is stopped the lane
therefore accepts no repeat of it any more.
-/

namespace CompanionBridge

open CommandDispatchLane

/-- A generation the connection holds, or one it has not used yet. -/
def Live (server : CompanionServer) (connection : ConnectionId) (generation : Nat) : Prop :=
  (∃ key, (key, generation) ∈ (server.connections connection).repeater.held) ∨
    (server.connections connection).repeater.nextGeneration < generation

/-- The lane accepted nothing. -/
def AcceptsNone (before after : CompanionServer) : Prop :=
  ∃ events, after.lane.log = before.lane.log ++ events ∧ ∀ item, LaneEvent.accepted item ∉ events

/-- The lane accepted no repeat but those of live generations. -/
def AcceptsLive (before after : CompanionServer) : Prop :=
  ∃ events, after.lane.log = before.lane.log ++ events ∧
    ∀ item generation, LaneEvent.accepted item ∈ events →
      item.holdGeneration = some generation → Live before item.owner.connection generation

theorem Quietly.live {before after : CompanionServer} (hquiet : Quietly before after)
    {connection : ConnectionId} {generation : Nat} (hlive : Live after connection generation) :
    Live before connection generation := by
  rcases hlive with ⟨key, hheld⟩ | hfresh
  · exact Or.inl ⟨key, hquiet.held connection _ hheld⟩
  · rw [hquiet.generation connection] at hfresh
    exact Or.inr hfresh

namespace AcceptsNone

theorem refl (server : CompanionServer) : AcceptsNone server server :=
  ⟨[], by simp, by simp⟩

theorem trans {first second third : CompanionServer} (hfirst : AcceptsNone first second)
    (hsecond : AcceptsNone second third) : AcceptsNone first third := by
  obtain ⟨early, hearly, hnone⟩ := hfirst
  obtain ⟨late, hlate, hnone'⟩ := hsecond
  refine ⟨early ++ late, by rw [hlate, hearly, List.append_assoc], ?_⟩
  intro item
  simp [hnone item, hnone' item]

/-- Accepting nothing is a matter of the lane alone. -/
theorem of_lane {before after : CompanionServer} (hlane : LaneQuiet before.lane after.lane) :
    AcceptsNone before after := by
  obtain ⟨events, hlog, hnone⟩ := hlane.log
  exact ⟨events, hlog, fun item => (hnone item).2⟩

theorem of_sameLane {before after : CompanionServer} (hlane : after.lane = before.lane) :
    AcceptsNone before after :=
  .of_lane (.of_same (by rw [hlane]) (by rw [hlane]))

/-- Accepting nothing is accepting only live generations. -/
theorem live {before after : CompanionServer} (hnone : AcceptsNone before after) :
    AcceptsLive before after := by
  obtain ⟨events, hlog, hnone⟩ := hnone
  exact ⟨events, hlog, fun item _ hmem => absurd hmem (hnone item)⟩

variable (server : CompanionServer) (caller : Caller) (connection : ConnectionId)

theorem cancelRepeatGeneration (generation : Nat) :
    AcceptsNone server (server.cancelRepeatGeneration caller connection generation) := by
  simp only [CompanionServer.cancelRepeatGeneration]
  split
  · exact .refl server
  · exact .of_lane (.cancelGeneration server.lane caller _ generation)

theorem notifyStop (stopped : Option Nat) :
    AcceptsNone server (server.notifyStop caller connection stopped) := by
  cases stopped with
  | none => exact .refl server
  | some generation => exact cancelRepeatGeneration server caller connection generation

theorem cancelHold (key : String) :
    AcceptsNone server (server.cancelHold caller connection key) := by
  have hcancelled : AcceptsNone server (server.setRepeater connection
      ((server.connections connection).repeater.cancel key).1) := .of_sameLane rfl
  exact hcancelled.trans (notifyStop _ caller connection _)

theorem cancelHolds (keys : List String) :
    AcceptsNone server (server.cancelHolds caller connection keys) := by
  induction keys generalizing server with
  | nil => exact .refl server
  | cons key rest ih => exact (cancelHold server caller connection key).trans (ih _)

theorem endDispatchSession : AcceptsNone server (server.endDispatchSession caller connection) := by
  simp only [CompanionServer.endDispatchSession]
  split
  · exact .refl server
  · exact .of_lane (.deactivateOwner server.lane caller _ .cancelled)

theorem closeConnection : AcceptsNone server (server.closeConnection caller connection) :=
  (cancelHolds server caller connection _).trans (endDispatchSession _ caller connection)

theorem settleReply {reply : LaneReply SessionOwner ConnectionId ConnectionId}
    (hlane : LaneQuiet server.lane reply.lane) :
    AcceptsNone server (server.settleReply caller reply) := by
  have hset : AcceptsNone server (server.setLane reply.lane) := .of_lane hlane
  simp only [CompanionServer.settleReply]
  cases reply.handler with
  | none => exact hset
  | some handler => exact hset.trans (closeConnection _ caller handler)

theorem beginDispatchSession : AcceptsNone server (server.beginDispatchSession connection) := by
  simp only [CompanionServer.beginDispatchSession]
  have hclosed := closeConnection server .other connection
  generalize server.closeConnection .other connection = ended at hclosed
  refine hclosed.trans (.of_lane ?_)
  cases hactivate : ended.lane.activate ⟨connection, (ended.connections connection).nextSerial⟩
      ⟨some connection, some connection⟩ with
  | none => exact .of_same rfl rfl
  | some lane =>
      obtain ⟨task, -, rfl⟩ := activate_eq_some hactivate
      exact .of_same rfl rfl

theorem finishRepeat (generation : Nat) (task : RepeatTask) :
    AcceptsNone server (server.finishRepeat connection generation task) := by
  have hreleased : AcceptsNone server (server.setRepeater connection
      ((server.connections connection).repeater.release task.key generation).1) := .of_sameLane rfl
  exact (hreleased.trans (notifyStop _ .other connection _)).trans (.of_sameLane rfl)

end AcceptsNone

/-! ## Submissions -/

variable {server : CompanionServer}

namespace ServerInvariant

/-- What a submission adds to the log is tagged as it was asked to be, or as the
text it replaces. -/
theorem enqueue_acceptsLive (h : ServerInvariant server) (verdict : Verdict)
    (owner : SessionOwner) (command : Command) (holdGeneration completion : Option Nat)
    (htag : ∀ generation, holdGeneration = some generation →
      Live server owner.connection generation) :
    AcceptsLive server (server.settleReply .other
      (server.lane.enqueue verdict .other owner command holdGeneration completion)) := by
  rcases server.lane.enqueue_cases verdict .other owner command holdGeneration completion with
    hreply | ⟨registration, check, -, -, -, hreply⟩ | ⟨-, -, hreply⟩
  · rw [hreply]
    exact (AcceptsNone.settleReply server .other (.of_same rfl rfl)).live
  · rw [hreply]
    have hquiet := LaneQuiet.deactivateOwner server.lane .other owner .unauthorized
    exact (AcceptsNone.settleReply server .other hquiet).live
  · rw [hreply]
    rcases server.lane.place_cases owner command holdGeneration completion with
      ⟨front, tail, replaced, hqueue, -, hreplaced, -, -, hplace⟩ | ⟨-, hplace⟩ |
      ⟨item, -, hitem, hplace⟩
    · rw [hplace]
      refine ⟨[.superseded tail replaced, .accepted replaced], rfl, ?_⟩
      intro other generation hmem hgeneration
      obtain rfl : other = replaced := by simpa using hmem
      rw [hreplaced] at hgeneration ⊢
      have htagged := h.tagged tail (by simp [hqueue]) generation hgeneration
      obtain ⟨-, -, hheld⟩ := (h.service tail.owner.connection).owners generation _ htagged
      exact Or.inl hheld
    · rw [hplace]
      exact (AcceptsNone.settleReply server .other (.of_same rfl rfl)).live
    · rw [hplace]
      refine ⟨[.accepted item], rfl, ?_⟩
      intro other generation hmem hgeneration
      obtain rfl : other = item := by simpa using hmem
      rw [hitem] at hgeneration ⊢
      exact htag generation hgeneration

theorem submitDispatch_acceptsLive (h : ServerInvariant server) (verdict : Verdict)
    (connection : ConnectionId) (command : Command) :
    AcceptsLive server (server.submitDispatch verdict connection command).1 := by
  simp only [CompanionServer.submitDispatch]
  cases (server.connections connection).dispatchOwner with
  | none => exact (AcceptsNone.refl server).live
  | some owner => exact h.enqueue_acceptsLive verdict owner command none none (by simp)

/-- A repeat is only submitted by the task that holds the slot. -/
theorem sendRepeatKey_acceptsLive (h : ServerInvariant server) (verdicts : Nat → Verdict)
    (connection : ConnectionId) (key : String) (generation : Nat) :
    AcceptsLive server (server.sendRepeatKey verdicts connection key generation).1 := by
  simp only [CompanionServer.sendRepeatKey]
  split
  · exact (AcceptsNone.closeConnection server .other connection).live
  · cases howner : (server.connections connection).repeatOwners generation with
    | none => exact (AcceptsNone.refl server).live
    | some owner =>
        obtain ⟨hconnection, -, hheld⟩ :=
          (h.service connection).owners generation owner howner
        have hcreated := h.setLane (h.lane.withCompletions server.lane.completions
          (server.lane.nextCompletion + 1)) (.of_same rfl rfl)
        have haccepts := hcreated.1.enqueue_acceptsLive (verdicts 1) owner
          { action := .sendKey, samsungKey := some key, source := "repeat", fast := true }
          (some generation) (some server.lane.nextCompletion) (by
            intro other hother
            rw [Option.some.injEq] at hother
            subst hother
            rw [hconnection]
            exact Or.inl hheld)
        simp only [submitAndWait]
        split
        · exact haccepts
        · rename_i hrejected
          have hunplaced := LaneQuiet.enqueue_rejected (by simpa using hrejected)
          refine AcceptsNone.live (AcceptsNone.settleReply server .other ?_)
          exact ⟨hunplaced.log, hunplaced.queue⟩

end ServerInvariant

namespace AcceptsLive

theorem trans {first second third : CompanionServer} (hfirst : AcceptsLive first second)
    (hquiet : Quietly first second) (hsecond : AcceptsLive second third) :
    AcceptsLive first third := by
  obtain ⟨early, hearly, hlive⟩ := hfirst
  obtain ⟨late, hlate, hlive'⟩ := hsecond
  refine ⟨early ++ late, by rw [hlate, hearly, List.append_assoc], ?_⟩
  intro item generation hmem hgeneration
  rcases List.mem_append.mp hmem with hmem | hmem
  · exact hlive item generation hmem hgeneration
  · exact hquiet.live (hlive' item generation hmem hgeneration)

/-- What follows accepted nothing. -/
theorem silently {first second third : CompanionServer} (hfirst : AcceptsLive first second)
    (hsecond : AcceptsNone second third) : AcceptsLive first third := by
  obtain ⟨early, hearly, hlive⟩ := hfirst
  obtain ⟨late, hlate, hnone⟩ := hsecond
  refine ⟨early ++ late, by rw [hlate, hearly, List.append_assoc], ?_⟩
  intro item generation hmem hgeneration
  rcases List.mem_append.mp hmem with hmem | hmem
  · exact hlive item generation hmem hgeneration
  · exact absurd hmem (hnone item)

end AcceptsLive

theorem startHold_acceptsNone (server : CompanionServer) (connection : ConnectionId)
    (owner : SessionOwner) (key : String) (clickTicket : Nat) :
    AcceptsNone server (server.startHold connection owner key clickTicket) := by
  simp only [CompanionServer.startHold]
  split
  · exact .of_sameLane rfl
  · exact (AcceptsNone.cancelHolds server .other connection _).trans (.of_sameLane rfl)

theorem dispatchSink_acceptsLive (h : ServerInvariant server) (verdict : Verdict)
    (connection : ConnectionId) (command : Command) :
    AcceptsLive server (server.dispatchSink verdict connection command) := by
  unfold CompanionServer.dispatchSink
  split
  · split
    · dsimp only
      split
      · exact (h.submitDispatch_acceptsLive verdict connection _).silently
          (startHold_acceptsNone _ connection _ _ _)
      · exact h.submitDispatch_acceptsLive verdict connection _
    · exact (AcceptsNone.refl server).live
  · split
    · exact (AcceptsNone.refl server).live
    · exact (AcceptsNone.cancelHold server .other connection _).live
  · exact h.submitDispatch_acceptsLive verdict connection command

theorem sinkAll_plain_acceptsLive (h : ServerInvariant server) (verdicts : Nat → Verdict)
    (connection : ConnectionId) {commands : List Command}
    (hplain : ∀ command ∈ commands, command.repeatPhase = none) :
    AcceptsLive server (server.sinkAll verdicts connection commands) := by
  induction commands generalizing server verdicts with
  | nil => exact (AcceptsNone.refl server).live
  | cons command rest ih =>
      simp only [List.mem_cons, forall_eq_or_imp] at hplain
      obtain ⟨hfirst, hquiet⟩ := dispatchSink_plain h (verdicts 0) connection command hplain.1
      exact (dispatchSink_acceptsLive h (verdicts 0) connection command).trans hquiet
        (ih hfirst (fun n => verdicts (n + 1)) hplain.2)

/-- The commands of one relay operation: plain ones, a STOP before them, or one START. -/
theorem relayed_acceptsLive (h : ServerInvariant server) (verdicts : Nat → Verdict)
    {connection : ConnectionId} {decision : CommandRelay × List Command}
    (hchange : (server.connections connection).relay.HoldChange decision) :
    AcceptsLive server (server.relayed verdicts connection decision) := by
  have hsunk : AcceptsLive server (server.sinkAll verdicts connection decision.2) := by
    cases hchange with
    | unchanged after commands hkey hplain =>
        exact sinkAll_plain_acceptsLive h verdicts connection hplain
    | stopped after direction commands hbefore hafter hplain =>
        obtain ⟨hstopped, hquiet, -⟩ :=
          h.cancelHold .other connection (gestureToSamsung direction)
        exact (AcceptsNone.cancelHold server .other connection _).live.trans hquiet
          (sinkAll_plain_acceptsLive hstopped (fun n => verdicts (n + 1)) connection hplain)
    | started after direction hbefore hafter =>
        exact dispatchSink_acceptsLive h (verdicts 0) connection _
  exact hsunk.silently (.of_sameLane rfl)

/-! ## Steps -/

theorem repeatOnce_acceptsLive (h : ServerInvariant server) (verdicts : Nat → Verdict) (now : ℚ)
    (connection : ConnectionId) (generation : Nat) (task : RepeatTask) :
    AcceptsLive server (server.repeatOnce verdicts now connection generation task) := by
  simp only [CompanionServer.repeatOnce]
  split
  · have hsent := h.sendRepeatKey_acceptsLive verdicts connection task.key generation
    split
    · exact hsent.silently (.finishRepeat _ connection generation task)
    · exact hsent.silently (.of_sameLane rfl)
  · exact (AcceptsNone.finishRepeat server connection generation task).live

/-- A resumed task submits for its own generation, while it holds the slot. -/
theorem resumeRepeat_acceptsLive (h : ServerInvariant server) {verdicts : Nat → Verdict} {now : ℚ}
    {connection : ConnectionId} {generation : Nat} {next : CompanionServer}
    (hresume : server.resumeRepeat verdicts now connection generation = some next) :
    AcceptsLive server next := by
  have hpoint : ∀ task, AcceptsLive server (server.setRepeatPoint connection generation task) := by
    intro task
    have hset : AcceptsNone server (server.setRepeatPoint connection generation task) :=
      .of_sameLane rfl
    exact hset.live
  have hfinish : ∀ task, AcceptsLive server (server.finishRepeat connection generation task) :=
    fun task => (AcceptsNone.finishRepeat server connection generation task).live
  simp only [CompanionServer.resumeRepeat] at hresume
  split at hresume
  · exact absurd hresume (by simp)
  · rename_i task htask
    split at hresume
    · exact absurd hresume (by simp)
    · exact Option.some.inj hresume ▸ hpoint _
    · exact Option.some.inj hresume ▸ hpoint _
    · exact Option.some.inj hresume ▸ hfinish task
    · exact Option.some.inj hresume ▸
        repeatOnce_acceptsLive h verdicts now connection generation task
    · exact Option.some.inj hresume ▸
        repeatOnce_acceptsLive h verdicts now connection generation task
    · split at hresume
      · exact absurd hresume (by simp)
      · exact Option.some.inj hresume ▸ hpoint _
      · exact Option.some.inj hresume ▸ hfinish task

theorem workerResume_acceptsNone {outcome : DispatchOutcome} {next : CompanionServer}
    (hresume : server.workerResume outcome = some next) : AcceptsNone server next := by
  unfold CompanionServer.workerResume at hresume
  split at hresume
  · rename_i item _ _
    split at hresume
    · exact Option.some.inj hresume ▸ .of_lane (.of_same rfl rfl)
    · split at hresume
      · exact absurd hresume (by simp)
      · have hsettled := AcceptsNone.settleReply server .worker
          (.settle server.lane item outcome)
        exact Option.some.inj hresume ▸ hsettled.trans (.of_lane (.of_same rfl rfl))
  · exact absurd hresume (by simp)

/-- Every step submits only repeats of generations that were live before it. -/
theorem Consistent.acceptsLive (h : Consistent server) {label : ServerLabel}
    {next : CompanionServer} (hstep : server.step label = some next) :
    AcceptsLive server next := by
  have hkeeps := h.keeps
  cases label with
  | sessionStart connection =>
      obtain ⟨-, rfl⟩ := CompanionServer.onFrame_eq_some hstep
      exact (AcceptsNone.beginDispatchSession server connection).live
  | sessionStop connection =>
      obtain ⟨-, rfl⟩ := CompanionServer.onFrame_eq_some hstep
      exact (AcceptsNone.closeConnection server .other connection).live
  | touchStop connection =>
      obtain ⟨-, rfl⟩ := CompanionServer.onFrame_eq_some hstep
      exact (AcceptsNone.cancelHolds server .other connection _).live
  | touch connection nowMs action cx cy verdicts =>
      obtain ⟨-, rfl⟩ := CompanionServer.onFrame_eq_some hstep
      exact relayed_acceptsLive hkeeps verdicts
        (CommandRelay.onTouch_change (hkeeps.service connection).hold nowMs action cx cy).1
  | button connection nowMs hidCode buttonState verdicts =>
      obtain ⟨-, rfl⟩ := CompanionServer.onFrame_eq_some hstep
      exact relayed_acceptsLive hkeeps verdicts
        (CommandRelay.onButton_change _ nowMs hidCode buttonState).1
  | mediaControl connection nowMs key source verdicts =>
      obtain ⟨-, rfl⟩ := CompanionServer.onFrame_eq_some hstep
      exact relayed_acceptsLive hkeeps verdicts
        (CommandRelay.emit_change _ nowMs
          { action := .sendKey, samsungKey := some key, source := source } rfl).1
  | text connection text verdict =>
      obtain ⟨-, rfl⟩ := CompanionServer.onFrame_eq_some hstep
      exact dispatchSink_acceptsLive hkeeps verdict connection _
  | closeConnection connection =>
      obtain rfl := Option.some.inj hstep
      exact (AcceptsNone.closeConnection server .other connection).live
  | connectionLost connection =>
      obtain rfl := Option.some.inj hstep
      simp only [CompanionServer.connectionLost]
      split
      · exact (AcceptsNone.refl server).live
      · have htorn : AcceptsNone server (server.teardownConnection connection) := .of_sameLane rfl
        exact (htorn.trans (.closeConnection _ .other connection)).live
  | shutdown connection =>
      obtain rfl := Option.some.inj hstep
      have hclosed := AcceptsNone.closeConnection server .other connection
      exact (hclosed.trans (.of_sameLane rfl)).live
  -- only the tick of a repeat submits with a generation
  | resumeRepeat connection generation now verdicts => exact resumeRepeat_acceptsLive hkeeps hstep
  | workerWake =>
      obtain ⟨lane, hwake, rfl⟩ := Option.map_eq_some_iff.mp hstep
      unfold CommandDispatchLane.workerWake at hwake
      have hset : lane.log = server.lane.log := by
        split at hwake
        · split at hwake <;> exact Option.some.inj hwake ▸ rfl
        · split at hwake
          · exact Option.some.inj hwake ▸ rfl
          · split at hwake
            · exact Option.some.inj hwake ▸ rfl
            · exact absurd hwake (by simp)
        · exact absurd hwake (by simp)
      exact ⟨[], by simp [CompanionServer.setLane, hset], by simp⟩
  | workerScan verdict =>
      obtain ⟨reply, hscan, rfl⟩ := Option.map_eq_some_iff.mp hstep
      obtain ⟨cancelRequested, -, ⟨-, rfl⟩ | ⟨item, rest, hqueue, hcases⟩⟩ := workerScan_cases hscan
      · exact (AcceptsNone.settleReply server .worker (.of_same rfl rfl)).live
      · have hpopped : ∀ other ∈ rest, other ∈ server.lane.queue := by
          intro other hother
          simp [hqueue, hother]
        rcases hcases with ⟨-, rfl⟩ | ⟨registration, check, -, -, -, rfl⟩ | ⟨-, rfl⟩ | ⟨-, -, rfl⟩
        · exact (AcceptsNone.settleReply server .worker
            (.of_event (.skipped item) rfl (by simp) (by simp) hpopped)).live
        · exact (AcceptsNone.settleReply server .worker
            (.of_event (.ownerEnded item.owner .unauthorized) rfl (by simp) (by simp)
              fun other hother => hpopped other (List.mem_of_mem_filter hother))).live
        · exact (AcceptsNone.settleReply server .worker
            (.of_event (.skipped item) rfl (by simp) (by simp) hpopped)).live
        · exact ⟨[.begun item], rfl, by simp⟩
  | workerResume outcome => exact (workerResume_acceptsNone hstep).live
  | laneClose =>
      obtain rfl := Option.some.inj hstep
      unfold CommandDispatchLane.close
      split
      · exact (AcceptsNone.of_sameLane rfl).live
      · exact ⟨[.closed], rfl, by simp⟩
  | laneCloseFinished =>
      obtain ⟨lane, hclose, rfl⟩ := Option.map_eq_some_iff.mp hstep
      unfold CommandDispatchLane.closeFinished at hclose
      split at hclose
      · exact Option.some.inj hclose ▸ (AcceptsNone.of_lane (.of_same rfl rfl)).live
      · exact absurd hclose (by simp)

/-! ## After a stop -/

/-- No repeat of the connection's generations up to `last` was submitted after `stopped`. -/
def Unsubmitted (stopped : CompanionServer) (connection : ConnectionId) (last : Nat)
    (server : CompanionServer) : Prop :=
  ∃ events, server.lane.log = stopped.lane.log ++ events ∧
    ∀ item generation, LaneEvent.accepted item ∈ events → item.owner.connection = connection →
      item.holdGeneration = some generation → last < generation

/-- A generation that has been silenced is not submitted again, one case for each label. -/
theorem Unsubmitted.step {stopped next : CompanionServer} {connection : ConnectionId} {last : Nat}
    {label : ServerLabel} (h : Unsubmitted stopped connection last server)
    (hsilenced : Silenced stopped connection last server)
    (hstep : server.step label = some next) : Unsubmitted stopped connection last next := by
  obtain ⟨early, hearly, hnone⟩ := h
  obtain ⟨late, hlate, hlive⟩ := hsilenced.consistent.acceptsLive hstep
  refine ⟨early ++ late, by rw [hlate, hearly, List.append_assoc], ?_⟩
  intro item generation hmem hconnection hgeneration
  rcases List.mem_append.mp hmem with hmem | hmem
  · exact hnone item generation hmem hconnection hgeneration
  · rcases hlive item generation hmem hgeneration with ⟨key, hheld⟩ | hfresh
    · rw [hconnection] at hheld
      exact hsilenced.held _ hheld
    · rw [hconnection] at hfresh
      exact lt_of_le_of_lt hsilenced.generation hfresh

/-- A connection without a hold submits no repeat of an earlier one any more. -/
theorem Consistent.unsubmitted {stopped final : CompanionServer} (h : Consistent stopped)
    {connection : ConnectionId} (hheld : (stopped.connections connection).repeater.held = [])
    {labels : List ServerLabel}
    (hrun : Machine.run CompanionServer.step stopped labels = some final) :
    Unsubmitted stopped connection (stopped.connections connection).repeater.nextGeneration
      final := by
  have hsilenced : Silenced stopped connection
      (stopped.connections connection).repeater.nextGeneration stopped :=
    ⟨h, ⟨[], by simp, by simp⟩, le_rfl, by simp [hheld]⟩
  have hunsubmitted : Unsubmitted stopped connection
      (stopped.connections connection).repeater.nextGeneration stopped :=
    ⟨[], by simp, by simp⟩
  have hboth := Machine.run_invariant
    (fun server => Silenced stopped connection
      (stopped.connections connection).repeater.nextGeneration server ∧
      Unsubmitted stopped connection
        (stopped.connections connection).repeater.nextGeneration server)
    (fun _ _ _ h hstep => ⟨h.1.step hstep, h.2.step h.1 hstep⟩)
    ⟨hsilenced, hunsubmitted⟩ hrun
  exact hboth.2

end CompanionBridge
