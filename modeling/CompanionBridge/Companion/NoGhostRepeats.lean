import CompanionBridge.Library.Machine
import CompanionBridge.Companion.ServerInvariant

/-!
# No ghost repeats

Once a hold is stopped, by whichever path, the lane begins no repeat of it any
more. A queued repeat names a generation its connection still holds, and a
generation that was given up is never held again, because generations only grow.
-/

namespace CompanionBridge

open CommandDispatchLane

/-- Between two handlers the repeater only holds the key the relay STARTed, and
a torn-down connection holds none. -/
structure Settled (server : CompanionServer) : Prop where
  coupled : ∀ connection, ∀ entry ∈ (server.connections connection).repeater.held,
    (server.connections connection).relay.heldKey = some entry.1
  closed : ∀ connection, (server.connections connection).connectionClosed = true →
    (server.connections connection).repeater.held = []

/-- What one step may do: begin queued items, and hold only fresh generations. -/
structure Advances (before after : CompanionServer) : Prop where
  log : ∃ events, after.lane.log = before.lane.log ++ events ∧
    ∀ item, LaneEvent.begun item ∈ events → item ∈ before.lane.queue
  generation : ∀ connection, (before.connections connection).repeater.nextGeneration ≤
    (after.connections connection).repeater.nextGeneration
  held : ∀ connection, ∀ entry ∈ (after.connections connection).repeater.held,
    entry ∈ (before.connections connection).repeater.held ∨
      (before.connections connection).repeater.nextGeneration < entry.2

theorem Quietly.advances {before after : CompanionServer} (h : Quietly before after) :
    Advances before after where
  log := by
    obtain ⟨events, hlog, hnone⟩ := h.log
    exact ⟨events, hlog, fun item hmem => absurd hmem (hnone item)⟩
  generation connection := le_of_eq (h.generation connection).symm
  held connection entry hentry := Or.inl (h.held connection entry hentry)

theorem Settled.quietly {before after : CompanionServer} (h : Settled before)
    (hquiet : Quietly before after) : Settled after where
  coupled connection entry hentry := by
    rw [hquiet.relay connection]
    exact h.coupled connection entry (hquiet.held connection entry hentry)
  closed connection hclosed := by
    rw [hquiet.closed connection] at hclosed
    exact hquiet.held_eq_nil (h.closed connection hclosed)

/-- The invariant of the server between two steps. -/
structure Consistent (server : CompanionServer) : Prop where
  keeps : ServerInvariant server
  settled : Settled server

variable {server : CompanionServer}

/-- A quiet operation is a step like any other. -/
theorem Consistent.quietly (h : Consistent server) {next : CompanionServer}
    (hnext : ServerInvariant next) (hquiet : Quietly server next) :
    Consistent next ∧ Advances server next :=
  ⟨⟨hnext, h.settled.quietly hquiet⟩, hquiet.advances⟩

/-! ## The commands of the relay -/

/-- A command that is no hold is submitted to the lane and nothing else. -/
theorem dispatchSink_plain (h : ServerInvariant server) (verdict : Verdict)
    (connection : ConnectionId) (command : Command) (hplain : command.repeatPhase = none) :
    ServerInvariant (server.dispatchSink verdict connection command) ∧
      Quietly server (server.dispatchSink verdict connection command) := by
  simp only [CompanionServer.dispatchSink, hplain]
  obtain ⟨hkept, hquiet, -⟩ := h.submitDispatch verdict connection command
  exact ⟨hkept, hquiet⟩

/-- The same of a list of them, by induction. -/
theorem sinkAll_plain (h : ServerInvariant server) (verdicts : Nat → Verdict)
    (connection : ConnectionId) {commands : List Command}
    (hplain : ∀ command ∈ commands, command.repeatPhase = none) :
    ServerInvariant (server.sinkAll verdicts connection commands) ∧
      Quietly server (server.sinkAll verdicts connection commands) := by
  induction commands generalizing server verdicts with
  | nil => exact ⟨h, .refl server⟩
  | cons command rest ih =>
      simp only [List.mem_cons, forall_eq_or_imp] at hplain
      obtain ⟨hfirst, hquiet⟩ := dispatchSink_plain h (verdicts 0) connection command hplain.1
      obtain ⟨hrest, hquiet'⟩ := ih hfirst (fun n => verdicts (n + 1)) hplain.2
      exact ⟨hrest, hquiet.trans hquiet'⟩

/-- A STOP of the held key leaves no hold. -/
theorem sinkAll_stop (h : ServerInvariant server) (verdicts : Nat → Verdict)
    (connection : ConnectionId) {direction : Gesture} {commands : List Command}
    (hheld : ∀ entry ∈ (server.connections connection).repeater.held,
      entry.1 = gestureToSamsung direction)
    (hplain : ∀ command ∈ commands, command.repeatPhase = none) :
    let next := server.sinkAll verdicts connection
      (CommandRelay.holdCommand direction .stop :: commands)
    ServerInvariant next ∧ Quietly server next ∧
      (next.connections connection).repeater.held = [] := by
  obtain ⟨hstopped, hquiet, hgone⟩ :=
    h.cancelHold .other connection (gestureToSamsung direction)
  have hempty : ((server.cancelHold .other connection
      (gestureToSamsung direction)).connections connection).repeater.held = [] := by
    apply List.eq_nil_iff_forall_not_mem.mpr
    intro entry hentry
    exact hgone entry hentry (hheld entry (hquiet.held connection entry hentry))
  obtain ⟨hrest, hquiet'⟩ := sinkAll_plain hstopped (fun n => verdicts (n + 1)) connection hplain
  exact ⟨hrest, hquiet.trans hquiet', hquiet'.held_eq_nil hempty⟩

/-- A START with no hold submits the first click and then holds at most the next generation. -/
theorem sinkAll_start (h : ServerInvariant server) (verdicts : Nat → Verdict)
    (connection : ConnectionId) (direction : Gesture)
    (hheld : (server.connections connection).repeater.held = []) :
    let next := server.sinkAll verdicts connection [CommandRelay.holdCommand direction .start]
    ServerInvariant next ∧
      (Quietly server next ∨
        ∃ submitted, Quietly server submitted ∧ next.lane = submitted.lane ∧
          (∀ other, other ≠ connection → next.connections other = submitted.connections other) ∧
          (next.connections connection).repeater.held = [(gestureToSamsung direction,
            (server.connections connection).repeater.nextGeneration + 1)] ∧
          (next.connections connection).repeater.nextGeneration =
            (server.connections connection).repeater.nextGeneration + 1 ∧
          (next.connections connection).connectionClosed =
            (server.connections connection).connectionClosed) := by
  simp only [CompanionServer.sinkAll, CompanionServer.dispatchSink, CommandRelay.holdCommand]
  cases howner : (server.connections connection).dispatchOwner with
  | none => exact ⟨h, Or.inl (.refl server)⟩
  | some owner =>
      obtain ⟨hkept, hquiet, hclick⟩ := h.submitDispatch (verdicts 0) connection
        { action := .sendKey, samsungKey := some (gestureToSamsung direction),
          source := s!"gesture:{direction.name}", fast := true }
      by_cases haccepted : (server.submitDispatch (verdicts 0) connection
          { action := .sendKey, samsungKey := some (gestureToSamsung direction),
            source := s!"gesture:{direction.name}", fast := true }).2 = true
      · simp only [haccepted, if_true]
        obtain ⟨current, item, hcurrent, hmem, hticket, hitemOwner, hcommand, huntagged⟩ :=
          hclick haccepted (by simp)
        rw [howner, Option.some.injEq] at hcurrent
        subst hcurrent
        have hfirst : FirstClick _ ⟨owner, gestureToSamsung direction, server.lane.nextTicket⟩ :=
          ⟨item, hmem, hticket, hitemOwner, huntagged, by rw [hcommand], by rw [hcommand]⟩
        obtain ⟨hstarted, hlane, hothers, hnewHeld, hnumber, -, hclosed⟩ := hkept.startHold
          (hquiet.held_eq_nil hheld) ((h.service connection).session owner howner) hfirst
        refine ⟨hstarted, Or.inr ⟨_, hquiet, hlane, hothers, ?_, ?_, ?_⟩⟩
        · rw [hnewHeld, hquiet.generation connection]
        · rw [hnumber, hquiet.generation connection]
        · rw [hclosed, hquiet.closed connection]
      · simp only [haccepted]
        exact ⟨hkept, Or.inl hquiet⟩

/-- A relay may be replaced by any relay that keeps its own invariant. -/
theorem setRelay_invariant (h : ServerInvariant server) (connection : ConnectionId)
    {relay : CommandRelay} (hhold : relay.HoldInvariant) :
    ServerInvariant (server.setService connection
      { server.connections connection with relay := relay }) := by
  have hservice := h.service connection
  exact h.setService_holds _ ⟨hservice.session, hservice.owners, hservice.single,
    hservice.numbered, hservice.fresh, hhold⟩ rfl rfl

/-- The relay's new state is stored after its commands were taken quietly. -/
theorem Consistent.setRelay (h : Consistent server) {sunk : CompanionServer}
    (hsunk : ServerInvariant sunk) (hquiet : Quietly server sunk) (connection : ConnectionId)
    {relay : CommandRelay} (hhold : relay.HoldInvariant)
    (hcoupled : ∀ entry ∈ (sunk.connections connection).repeater.held,
      relay.heldKey = some entry.1) :
    Consistent (sunk.setService connection
        { sunk.connections connection with relay := relay }) ∧
      Advances server (sunk.setService connection
        { sunk.connections connection with relay := relay }) := by
  have hsettled := h.settled.quietly hquiet
  have hadvances := hquiet.advances
  refine ⟨⟨setRelay_invariant hsunk connection hhold, ?_, ?_⟩, ?_, ?_, ?_⟩
  · intro other entry hentry
    by_cases hother : other = connection
    · rw [hother, CompanionServer.setService_same] at hentry ⊢
      exact hcoupled entry hentry
    · rw [CompanionServer.setService_other hother] at hentry ⊢
      exact hsettled.coupled other entry hentry
  · intro other hclosed
    by_cases hother : other = connection
    · rw [hother, CompanionServer.setService_same] at hclosed ⊢
      exact hsettled.closed connection hclosed
    · rw [CompanionServer.setService_other hother] at hclosed ⊢
      exact hsettled.closed other hclosed
  · exact hadvances.log
  · intro other
    by_cases hother : other = connection
    · rw [hother, CompanionServer.setService_same]
      exact hadvances.generation connection
    · rw [CompanionServer.setService_other hother]
      exact hadvances.generation other
  · intro other entry hentry
    by_cases hother : other = connection
    · rw [hother, CompanionServer.setService_same] at hentry
      exact hother ▸ hadvances.held connection entry hentry
    · rw [CompanionServer.setService_other hother] at hentry
      exact hadvances.held other entry hentry

/-- The relay's new state is stored after a hold was started. -/
theorem Consistent.setRelay_started (h : Consistent server) {connection : ConnectionId}
    (hopen : (server.connections connection).connectionClosed = false)
    {submitted sunk : CompanionServer} (hsunk : ServerInvariant sunk)
    (hquiet : Quietly server submitted) (hlane : sunk.lane = submitted.lane)
    (hothers : ∀ other, other ≠ connection →
      sunk.connections other = submitted.connections other) {key : String}
    (hnew : (sunk.connections connection).repeater.held =
      [(key, (server.connections connection).repeater.nextGeneration + 1)])
    (hnumber : (sunk.connections connection).repeater.nextGeneration =
      (server.connections connection).repeater.nextGeneration + 1)
    (hclosed : (sunk.connections connection).connectionClosed =
      (server.connections connection).connectionClosed)
    {relay : CommandRelay} (hhold : relay.HoldInvariant) (hkey : relay.heldKey = some key) :
    Consistent (sunk.setService connection
        { sunk.connections connection with relay := relay }) ∧
      Advances server (sunk.setService connection
        { sunk.connections connection with relay := relay }) := by
  have hsettled := h.settled.quietly hquiet
  have hadvances := hquiet.advances
  refine ⟨⟨setRelay_invariant hsunk connection hhold, ?_, ?_⟩, ?_, ?_, ?_⟩
  · intro other entry hentry
    by_cases hother : other = connection
    · rw [hother, CompanionServer.setService_same] at hentry ⊢
      rw [hnew, List.mem_singleton] at hentry
      rw [hentry]
      exact hkey
    · rw [CompanionServer.setService_other hother, hothers other hother] at hentry ⊢
      exact hsettled.coupled other entry hentry
  · intro other hclosing
    by_cases hother : other = connection
    · rw [hother, CompanionServer.setService_same, hclosed, hopen] at hclosing
      exact absurd hclosing (by decide)
    · rw [CompanionServer.setService_other hother, hothers other hother] at hclosing ⊢
      exact hsettled.closed other hclosing
  · rw [show (sunk.setService connection
      { sunk.connections connection with relay := relay }).lane = submitted.lane from hlane]
    exact hadvances.log
  · intro other
    by_cases hother : other = connection
    · rw [hother, CompanionServer.setService_same, hnumber]
      exact Nat.le_succ _
    · rw [CompanionServer.setService_other hother, hothers other hother]
      exact hadvances.generation other
  · intro other entry hentry
    by_cases hother : other = connection
    · rw [hother, CompanionServer.setService_same, hnew, List.mem_singleton] at hentry
      refine Or.inr ?_
      rw [hentry, hother]
      exact Nat.lt_succ_self _
    · rw [CompanionServer.setService_other hother, hothers other hother] at hentry
      exact hadvances.held other entry hentry

/-- A relay operation of an open connection, with everything its commands do. -/
theorem Consistent.relayed (h : Consistent server) (verdicts : Nat → Verdict)
    {connection : ConnectionId}
    (hopen : (server.connections connection).connectionClosed = false)
    {decision : CommandRelay × List Command}
    (hchange : (server.connections connection).relay.HoldChange decision)
    (hhold : decision.1.HoldInvariant) :
    Consistent (server.relayed verdicts connection decision) ∧
      Advances server (server.relayed verdicts connection decision) := by
  have hcoupled := h.settled.coupled connection
  cases hchange with
  | unchanged after commands hkey hplain =>
      obtain ⟨hsunk, hquiet⟩ := sinkAll_plain h.keeps verdicts connection hplain
      refine h.setRelay hsunk hquiet connection hhold ?_
      intro entry hentry
      rw [hkey]
      exact hcoupled entry (hquiet.held connection entry hentry)
  | stopped after direction commands hbefore hafter hplain =>
      have hheld : ∀ entry ∈ (server.connections connection).repeater.held,
          entry.1 = gestureToSamsung direction := by
        intro entry hentry
        have hkey := hcoupled entry hentry
        rw [hbefore, Option.some.injEq] at hkey
        exact hkey.symm
      obtain ⟨hsunk, hquiet, hempty⟩ := sinkAll_stop h.keeps verdicts connection hheld hplain
      refine h.setRelay hsunk hquiet connection hhold ?_
      intro entry hentry
      rw [hempty] at hentry
      exact absurd hentry (by simp)
  | started after direction hbefore hafter =>
      have hheld : (server.connections connection).repeater.held = [] := by
        apply List.eq_nil_iff_forall_not_mem.mpr
        intro entry hentry
        have hkey := hcoupled entry hentry
        rw [hbefore] at hkey
        exact absurd hkey (by simp)
      obtain ⟨hsunk, hquiet | ⟨submitted, hquiet, hlane, hothers, hnew, hnumber, hclosed⟩⟩ :=
        sinkAll_start h.keeps verdicts connection direction hheld
      · refine h.setRelay hsunk hquiet connection hhold ?_
        intro entry hentry
        rw [hquiet.held_eq_nil hheld] at hentry
        exact absurd hentry (by simp)
      · exact h.setRelay_started hopen hsunk hquiet hlane hothers hnew hnumber hclosed hhold hafter

/-! ## Steps and runs -/

/-- A server is consistent from the start. -/
theorem serve_consistent {maxQueueSize : Nat} {gestureConfig : GestureConfig}
    {holdConfig : DirectionalHoldConfig}
    (hserve : CompanionServer.serve maxQueueSize gestureConfig holdConfig = some server) :
    Consistent server := by
  simp only [CompanionServer.serve, Option.bind_eq_bind, Option.bind_eq_some_iff, Option.pure_def,
    Option.some.injEq] at hserve
  obtain ⟨lane, hnew, started, hstart, rfl⟩ := hserve
  have hlog : started.log = [] ∧ started.queue = [] := by
    obtain ⟨-, task, -, rfl⟩ := start_eq_some hstart
    unfold CommandDispatchLane.new at hnew
    split at hnew
    · rw [Option.some.injEq] at hnew
      subst hnew
      exact ⟨rfl, rfl⟩
    · exact absurd hnew (by simp)
  refine ⟨⟨(new_invariant hnew).start hstart, ?_, ?_, ?_, ?_⟩, ?_, ?_⟩
  · intro connection
    exact ⟨by simp, by simp, by simp, by simp, by simp, .of_inactive rfl⟩
  · intro item hitem
    rw [hlog.2] at hitem
    exact absurd hitem (by simp)
  · intro item generation hmem
    rw [hlog.1] at hmem
    exact absurd hmem (by simp)
  · simp
  · simp
  · simp

/-- Marking a connection as torn down, once it holds nothing. -/
theorem Consistent.of_teardown (h : Consistent server) {next : CompanionServer}
    (hnext : ServerInvariant next) {connection : ConnectionId}
    (hquiet : Quietly (server.teardownConnection connection) next)
    (hempty : (next.connections connection).repeater.held = []) :
    Consistent next ∧ Advances server next := by
  have hrepeater : ∀ other, ((server.teardownConnection connection).connections other).repeater =
      (server.connections other).repeater := by
    intro other
    by_cases hother : other = connection
    · simp only [CompanionServer.teardownConnection, hother, CompanionServer.setService_same]
    · simp only [CompanionServer.teardownConnection, CompanionServer.setService_other hother]
  have hrelay : ∀ other, ((server.teardownConnection connection).connections other).relay =
      (server.connections other).relay := by
    intro other
    by_cases hother : other = connection
    · simp only [CompanionServer.teardownConnection, hother, CompanionServer.setService_same]
    · simp only [CompanionServer.teardownConnection, CompanionServer.setService_other hother]
  have hadvances := hquiet.advances
  refine ⟨⟨hnext, ?_, ?_⟩, hadvances.log, ?_, ?_⟩
  · intro other entry hentry
    have hmem := hquiet.held other entry hentry
    rw [hrepeater] at hmem
    rw [hquiet.relay other, hrelay]
    exact h.settled.coupled other entry hmem
  · intro other hclosed
    by_cases hother : other = connection
    · rw [hother]
      exact hempty
    · rw [hquiet.closed other, CompanionServer.teardownConnection,
        CompanionServer.setService_other hother] at hclosed
      apply hquiet.held_eq_nil
      rw [hrepeater]
      exact h.settled.closed other hclosed
  · intro other
    have hle := hadvances.generation other
    rwa [hrepeater] at hle
  · intro other entry hentry
    have hmem := hadvances.held other entry hentry
    rwa [hrepeater] at hmem

/-- The teardown of a connection is as quiet as what follows it. -/
theorem teardownConnection_quietly (connection : ConnectionId) {next : CompanionServer}
    (hquiet : Quietly server next) :
    Quietly (server.teardownConnection connection) (next.teardownConnection connection) := by
  have hconnections : ∀ (other : ConnectionId) (before : CompanionServer),
      (before.teardownConnection connection).connections other =
        { before.connections other with
          connectionClosed :=
            (if other = connection then true else (before.connections other).connectionClosed) } := by
    intro other before
    by_cases hother : other = connection
    · simp only [CompanionServer.teardownConnection, hother, CompanionServer.setService_same,
        if_true]
    · simp only [CompanionServer.teardownConnection, CompanionServer.setService_other hother,
        hother, if_false]
  refine ⟨hquiet.log, ?_, ?_, ?_, ?_⟩
  · intro other
    simpa only [hconnections] using hquiet.held other
  · intro other
    simpa only [hconnections] using hquiet.generation other
  · intro other
    simpa only [hconnections] using hquiet.relay other
  · intro other
    simp only [hconnections, hquiet.closed other]

/-- A lost connection stops its hold and leaves the rest alone. -/
theorem Consistent.connectionLost (h : Consistent server) (connection : ConnectionId) :
    Consistent (server.connectionLost connection) ∧
      Advances server (server.connectionLost connection) ∧
      ((server.connectionLost connection).connections connection).repeater.held = [] := by
  unfold CompanionServer.connectionLost
  split
  · rename_i hclosed
    exact ⟨h, (Quietly.refl server).advances, h.settled.closed connection hclosed⟩
  · obtain ⟨hkept, hquiet, hempty⟩ :=
      (h.keeps.teardownConnection connection).closeConnection .other connection
    obtain ⟨hnext, hadvances⟩ := h.of_teardown hkept hquiet hempty
    exact ⟨hnext, hadvances, hempty⟩

theorem Consistent.shutdown (h : Consistent server) (connection : ConnectionId) :
    Consistent (server.shutdown connection) ∧ Advances server (server.shutdown connection) ∧
      ((server.shutdown connection).connections connection).repeater.held = [] := by
  obtain ⟨hkept, hquiet, hempty⟩ := h.keeps.closeConnection .other connection
  have htorn := teardownConnection_quietly connection hquiet
  have hgone : ((server.shutdown connection).connections connection).repeater.held = [] := by
    simp only [CompanionServer.shutdown, CompanionServer.teardownConnection,
      CompanionServer.setService_same]
    exact hempty
  obtain ⟨hnext, hadvances⟩ := h.of_teardown (hkept.teardownConnection connection) htorn hgone
  exact ⟨hnext, hadvances, hgone⟩

/-- Every step keeps the invariant, begins only queued items and holds only fresh generations. -/
theorem Consistent.step (h : Consistent server) {label : ServerLabel} {next : CompanionServer}
    (hstep : server.step label = some next) : Consistent next ∧ Advances server next := by
  cases label with
  | sessionStart connection =>
      obtain ⟨-, rfl⟩ := CompanionServer.onFrame_eq_some hstep
      obtain ⟨hkept, hquiet, -⟩ := h.keeps.beginDispatchSession connection
      exact h.quietly hkept hquiet
  | sessionStop connection =>
      obtain ⟨-, rfl⟩ := CompanionServer.onFrame_eq_some hstep
      obtain ⟨hkept, hquiet, -⟩ := h.keeps.closeConnection .other connection
      exact h.quietly hkept hquiet
  | touchStop connection =>
      obtain ⟨-, rfl⟩ := CompanionServer.onFrame_eq_some hstep
      obtain ⟨hkept, hquiet, -⟩ := h.keeps.invalidateRepeaters .other connection
      exact h.quietly hkept hquiet
  -- the frames of the relay are the ones that may start a hold
  | touch connection nowMs action cx cy verdicts =>
      obtain ⟨hopen, rfl⟩ := CompanionServer.onFrame_eq_some hstep
      obtain ⟨hchange, hhold⟩ := CommandRelay.onTouch_change
        (h.keeps.service connection).hold nowMs action cx cy
      exact h.relayed verdicts hopen hchange hhold
  | button connection nowMs hidCode buttonState verdicts =>
      obtain ⟨hopen, rfl⟩ := CompanionServer.onFrame_eq_some hstep
      obtain ⟨hchange, hhold⟩ := CommandRelay.onButton_change
        (server.connections connection).relay nowMs hidCode buttonState
      exact h.relayed verdicts hopen hchange (hhold (h.keeps.service connection).hold)
  | mediaControl connection nowMs key source verdicts =>
      obtain ⟨hopen, rfl⟩ := CompanionServer.onFrame_eq_some hstep
      obtain ⟨hchange, hhold⟩ := CommandRelay.emit_change (server.connections connection).relay
        nowMs { action := .sendKey, samsungKey := some key, source := source } rfl
      exact h.relayed verdicts hopen hchange (hhold (h.keeps.service connection).hold)
  | text connection text verdict =>
      obtain ⟨-, rfl⟩ := CompanionServer.onFrame_eq_some hstep
      obtain ⟨hkept, hquiet⟩ := dispatchSink_plain h.keeps verdict connection
        { action := .sendText, text := some text, source := "rti" } rfl
      exact h.quietly hkept hquiet
  | closeConnection connection =>
      obtain rfl := Option.some.inj hstep
      obtain ⟨hkept, hquiet, -⟩ := h.keeps.closeConnection .other connection
      exact h.quietly hkept hquiet
  | connectionLost connection =>
      obtain rfl := Option.some.inj hstep
      obtain ⟨hnext, hadvances, -⟩ := h.connectionLost connection
      exact ⟨hnext, hadvances⟩
  | shutdown connection =>
      obtain rfl := Option.some.inj hstep
      obtain ⟨hnext, hadvances, -⟩ := h.shutdown connection
      exact ⟨hnext, hadvances⟩
  | resumeRepeat connection generation now verdicts =>
      obtain ⟨hkept, hquiet⟩ := h.keeps.resumeRepeat hstep
      exact h.quietly hkept hquiet
  | workerWake =>
      obtain ⟨lane, hwake, rfl⟩ := Option.map_eq_some_iff.mp hstep
      obtain ⟨hkept, hquiet⟩ := h.keeps.workerWake hwake
      exact h.quietly hkept hquiet
  | workerScan verdict =>
      obtain ⟨reply, hscan, rfl⟩ := Option.map_eq_some_iff.mp hstep
      obtain ⟨hkept, hquiet | ⟨item, rest, hqueue, hhandler, hlog⟩⟩ := h.keeps.workerScan hscan
      · exact h.quietly hkept hquiet
      -- taking an item into flight runs no handler
      · have hsame : server.settleReply .worker reply = server.setLane reply.lane := by
          simp only [CompanionServer.settleReply, hhandler, CompanionServer.runHandler]
        rw [hsame] at hkept ⊢
        refine ⟨⟨hkept, h.settled.coupled, h.settled.closed⟩, ⟨[.begun item], hlog, ?_⟩,
          fun _ => le_rfl, fun _ _ => Or.inl⟩
        intro other hother
        simp only [List.mem_singleton, LaneEvent.begun.injEq] at hother
        simp [hqueue, hother]
  | workerResume outcome =>
      obtain ⟨hkept, hquiet⟩ := h.keeps.workerResume hstep
      exact h.quietly hkept hquiet
  | laneClose =>
      obtain rfl := Option.some.inj hstep
      obtain ⟨hkept, hquiet⟩ := h.keeps.laneClose
      exact h.quietly hkept hquiet
  | laneCloseFinished =>
      obtain ⟨lane, hclose, rfl⟩ := Option.map_eq_some_iff.mp hstep
      obtain ⟨hkept, hquiet⟩ := h.keeps.laneCloseFinished hclose
      exact h.quietly hkept hquiet

/-- The handlers that stop the hold of a connection. A touch stops it when it
ends or restarts the gesture, or when the relay emits a STOP for it. -/
def ServerLabel.StopsHold (server : CompanionServer) (connection : ConnectionId) :
    ServerLabel → Prop
  | .sessionStart other => other = connection
  | .sessionStop other => other = connection
  | .touchStop other => other = connection
  | .closeConnection other => other = connection
  | .connectionLost other => other = connection
  | .shutdown other => other = connection
  | .touch other nowMs action cx cy _ =>
      other = connection ∧ ((action = .press ∨ action = .release ∨ action = .click) ∨
        ∃ command ∈ ((server.connections connection).relay.onTouch nowMs action cx cy).2,
          command.repeatPhase = some .stop)
  | _ => False

/-- A relay operation that emitted a STOP has no hold in progress. -/
theorem heldKey_of_stop {relay : CommandRelay} {decision : CommandRelay × List Command}
    (hchange : relay.HoldChange decision)
    (hstop : ∃ command ∈ decision.2, command.repeatPhase = some .stop) :
    decision.1.heldKey = none := by
  obtain ⟨command, hmem, hphase⟩ := hstop
  cases hchange with
  | unchanged after commands hkey hplain =>
      rw [hplain command hmem] at hphase
      exact absurd hphase (by simp)
  | stopped after direction commands hbefore hafter hplain => exact hafter
  | started after direction hbefore hafter =>
      rw [List.mem_singleton] at hmem
      rw [hmem] at hphase
      exact absurd hphase (by simp [CommandRelay.holdCommand])

/-- Every stop path leaves the repeater of its connection without a held key. -/
theorem Consistent.stopsHold (h : Consistent server) {label : ServerLabel}
    {next : CompanionServer} (hstep : server.step label = some next) {connection : ConnectionId}
    (hstops : label.StopsHold server connection) :
    (next.connections connection).repeater.held = [] := by
  cases label with
  | sessionStart other =>
      obtain rfl : other = connection := hstops
      obtain ⟨-, rfl⟩ := CompanionServer.onFrame_eq_some hstep
      exact (h.keeps.beginDispatchSession other).2.2
  | sessionStop other =>
      obtain rfl : other = connection := hstops
      obtain ⟨-, rfl⟩ := CompanionServer.onFrame_eq_some hstep
      exact (h.keeps.closeConnection .other other).2.2
  | touchStop other =>
      obtain rfl : other = connection := hstops
      obtain ⟨-, rfl⟩ := CompanionServer.onFrame_eq_some hstep
      exact (h.keeps.invalidateRepeaters .other other).2.2
  | touch other nowMs action cx cy verdicts =>
      obtain ⟨rfl, haction⟩ := hstops
      have hnext := (h.step hstep).1
      obtain ⟨-, rfl⟩ := CompanionServer.onFrame_eq_some hstep
      have hhold := (h.keeps.service other).hold
      have hkey : ((server.connections other).relay.onTouch nowMs action cx cy).1.heldKey =
          none := by
        rcases haction with haction | hstop
        · exact CommandRelay.onTouch_heldKey_eq_none hhold nowMs haction cx cy
        · exact heldKey_of_stop (CommandRelay.onTouch_change hhold nowMs action cx cy).1 hstop
      apply List.eq_nil_iff_forall_not_mem.mpr
      intro entry hentry
      -- a key that is still held would be the relay's own, and it has none
      have hcoupled := hnext.settled.coupled other entry hentry
      simp only [CompanionServer.relayed, CompanionServer.setService_same, hkey] at hcoupled
      exact absurd hcoupled (by simp)
  | closeConnection other =>
      obtain rfl : other = connection := hstops
      obtain rfl := Option.some.inj hstep
      exact (h.keeps.closeConnection .other other).2.2
  | connectionLost other =>
      obtain rfl : other = connection := hstops
      obtain rfl := Option.some.inj hstep
      exact (h.connectionLost other).2.2
  | shutdown other =>
      obtain rfl : other = connection := hstops
      obtain rfl := Option.some.inj hstep
      exact (h.shutdown other).2.2
  | button | mediaControl | text | resumeRepeat | workerWake | workerScan | workerResume
  | laneClose | laneCloseFinished => exact absurd hstops (by simp [ServerLabel.StopsHold])

/-- What holds along every continuation of a server in which a connection's
generations up to `last` were given up. -/
structure Silenced (stopped : CompanionServer) (connection : ConnectionId) (last : Nat)
    (server : CompanionServer) : Prop where
  consistent : Consistent server
  log : ∃ events, server.lane.log = stopped.lane.log ++ events ∧
    ∀ item generation, LaneEvent.begun item ∈ events → item.owner.connection = connection →
      item.holdGeneration = some generation → last < generation
  generation : last ≤ (server.connections connection).repeater.nextGeneration
  held : ∀ entry ∈ (server.connections connection).repeater.held, last < entry.2

/-- Once a generation has been silenced, no label makes it repeat again. -/
theorem Silenced.step {stopped : CompanionServer} {connection : ConnectionId} {last : Nat}
    (h : Silenced stopped connection last server) {label : ServerLabel} {next : CompanionServer}
    (hstep : server.step label = some next) : Silenced stopped connection last next := by
  obtain ⟨hnext, hadvances⟩ := h.consistent.step hstep
  refine ⟨hnext, ?_, h.generation.trans (hadvances.generation connection), ?_⟩
  · obtain ⟨early, hearly, hsilent⟩ := h.log
    obtain ⟨late, hlate, hbegun⟩ := hadvances.log
    refine ⟨early ++ late, by rw [hlate, hearly, List.append_assoc], ?_⟩
    intro item generation hmem hconnection hgeneration
    rcases List.mem_append.mp hmem with hmem | hmem
    · exact hsilent item generation hmem hconnection hgeneration
    · have htagged := h.consistent.keeps.tagged item (hbegun item hmem) generation hgeneration
      rw [hconnection] at htagged
      obtain ⟨-, -, key, hheld⟩ :=
        (h.consistent.keeps.service connection).owners generation item.owner htagged
      exact h.held _ hheld
  · intro entry hentry
    rcases hadvances.held connection entry hentry with hmem | hfresh
    · exact h.held entry hmem
    · exact lt_of_le_of_lt h.generation hfresh

/-- The first click of a hold is begun or waits in the queue, unless the hold's
owner ended, or the lane was closed, while it waited. -/
def ClickServed (lane : ServerLane) (start : HoldStart) : Prop :=
  ∃ item, LaneEvent.accepted item ∈ lane.log ∧ item.ticket = start.clickTicket ∧
    item.owner = start.owner ∧ item.holdGeneration = none ∧
    item.command.samsungKey = some start.key ∧
    (LaneEvent.begun item ∈ lane.log ∨ item ∈ lane.queue ∨
      ∃ before event after, lane.log = before ++ event :: after ∧
        LaneEvent.accepted item ∈ before ∧
        (event = .closed ∨ ∃ cause, event = .ownerEnded item.owner cause))

/-- The click a hold begins with is an ordinary item, so the lane serves or withdraws it as
such. -/
theorem FirstClick.served {lane : ServerLane} (hlane : lane.LaneInvariant) {start : HoldStart}
    (hclick : FirstClick lane.log start) : ClickServed lane start := by
  obtain ⟨item, haccepted, hticket, howner, huntagged, haction, hkey⟩ := hclick
  refine ⟨item, haccepted, hticket, howner, huntagged, hkey, ?_⟩
  rcases hlane.fate haccepted with hbegun | hqueued | ⟨before, event, after, hlog, hmem, hgone⟩
  · exact Or.inl hbegun
  · exact Or.inr (Or.inl hqueued)
  · refine Or.inr (Or.inr ⟨before, event, after, hlog, hmem, ?_⟩)
    cases event with
    | accepted other => exact absurd hgone (by simp [LaneEvent.withdraws])
    | begun other => exact absurd hgone (by simp [LaneEvent.withdraws])
    | superseded old new =>
        have hold : item = old := by simpa [LaneEvent.withdraws] using hgone
        have htext := (hlane.queueing.supersession old new (by simp [hlog])).2.1
        rw [← hold, haction] at htext
        exact absurd htext (by decide)
    | skipped other => exact absurd (hlane.queueing.noSkips other) (by simp [hlog])
    | ownerEnded owner cause =>
        have hsame : item.owner = owner := by simpa [LaneEvent.withdraws] using hgone
        exact Or.inr ⟨cause, by rw [hsame]⟩
    | generationEnded owner generation =>
        simp [LaneEvent.withdraws, taggedWith, huntagged] at hgone
    | closed => exact Or.inl rfl

/-- After any stop of a connection's hold has returned: no later begun item is
a repeat of a generation the connection had used so far, first clicks are
served, and repeats only ever belong to the owner their hold began under. -/
theorem no_ghost_repeats {maxQueueSize : Nat} {gestureConfig : GestureConfig}
    {holdConfig : DirectionalHoldConfig} {initial stopping stopped final : CompanionServer}
    {before after : List ServerLabel} {label : ServerLabel} {connection : ConnectionId}
    (hserve : CompanionServer.serve maxQueueSize gestureConfig holdConfig = some initial)
    (hbefore : Machine.run CompanionServer.step initial before = some stopping)
    (hstep : stopping.step label = some stopped)
    (hstops : label.StopsHold stopping connection)
    (hafter : Machine.run CompanionServer.step stopped after = some final) :
    (∃ events, final.lane.log = stopped.lane.log ++ events ∧
      ∀ item generation, LaneEvent.begun item ∈ events → item.owner.connection = connection →
        item.holdGeneration = some generation →
        (stopped.connections connection).repeater.nextGeneration < generation) ∧
    (∀ other generation start, (final.connections other).holdStarts generation = some start →
      ClickServed final.lane start) ∧
    (∀ item generation, LaneEvent.accepted item ∈ final.lane.log →
      item.holdGeneration = some generation →
      ∃ start, (final.connections item.owner.connection).holdStarts generation = some start ∧
        item.owner = start.owner) := by
  have hstopping : Consistent stopping := Machine.run_invariant Consistent
    (fun _ _ _ h hstep => (h.step hstep).1) (serve_consistent hserve) hbefore
  have hheld := hstopping.stopsHold hstep hstops
  have hsilenced : Silenced stopped connection
      (stopped.connections connection).repeater.nextGeneration stopped :=
    ⟨(hstopping.step hstep).1, ⟨[], by simp, by simp⟩, le_rfl, by simp [hheld]⟩
  have hfinal := Machine.run_invariant _ (fun _ _ _ h hstep => Silenced.step h hstep)
    hsilenced hafter
  refine ⟨hfinal.log, ?_, ?_⟩
  · intro other generation start hstart
    exact (hfinal.consistent.keeps.clicked other generation start hstart).served
      hfinal.consistent.keeps.lane
  · intro item generation haccepted hgeneration
    obtain ⟨start, hstart, howner⟩ :=
      hfinal.consistent.keeps.submitted item generation haccepted hgeneration
    exact ⟨start, hstart, howner.symm⟩

/-- A right swipe is held until its first repeat is queued behind the click in
flight; the release purges it, and the lane goes idle having begun one click. -/
theorem no_ghost_repeats_release :
    let allow : Nat → Verdict := fun _ _ => some true
    let before : List ServerLabel :=
      [.sessionStart 0, .touch 0 0 .press 0 0 allow, .touch 0 10 .hold 800 0 allow,
        .touch 0 500 .hold 800 0 allow, .workerWake, .workerScan (allow 0),
        .resumeRepeat 0 1 0 allow, .resumeRepeat 0 1 1 allow]
    let after : List ServerLabel := [.workerResume .returned, .workerScan (allow 0)]
    ∃ initial stopping stopped final,
      CompanionServer.serve 64 {} { enabled := true } = some initial ∧
      Machine.run CompanionServer.step initial before = some stopping ∧
      stopping.lane.queue.map QueuedCommand.holdGeneration = [some 1] ∧
      stopping.step (.touch 0 600 .release 800 0 allow) = some stopped ∧
      Machine.run CompanionServer.step stopped after = some final ∧
      (begunItems final.lane.log).map QueuedCommand.holdGeneration = [none] ∧
      ∀ generation start, (final.connections 0).holdStarts generation = some start →
        ClickServed final.lane start := by
  intro allow before after
  have hrun : ((CompanionServer.serve 64 {} { enabled := true }).bind fun initial =>
      (Machine.run CompanionServer.step initial before).bind fun stopping =>
        (stopping.step (.touch 0 600 .release 800 0 allow)).bind fun stopped =>
          (Machine.run CompanionServer.step stopped after).map fun final =>
            (stopping.lane.queue.map QueuedCommand.holdGeneration,
              (begunItems final.lane.log).map QueuedCommand.holdGeneration)) =
      some ([some 1], [none]) := by
    decide +kernel
  simp only [Option.bind_eq_some_iff, Option.map_eq_some_iff, Prod.mk.injEq] at hrun
  obtain ⟨initial, hserve, stopping, hbefore, stopped, hstep, final, hafter, hqueue, hbegun⟩ := hrun
  have hsilent := no_ghost_repeats hserve hbefore hstep ⟨rfl, Or.inl (Or.inr (Or.inl rfl))⟩ hafter
  exact ⟨initial, stopping, stopped, final, hserve, hbefore, hqueue, hstep, hafter, hbegun,
    fun generation start hstart => hsilent.2.1 0 generation start hstart⟩

end CompanionBridge
