import CompanionBridge.Companion.MalformedBudget
import CompanionBridge.Companion.RepeatSubmissions

/-!
# Touch frames and the hold

The touch handler over all connections and their lane. It reports a message
that its base decode refuses, and hands the point to the relay after `int()`
read the phase and both coordinates; a message it cannot read so is reported
once more, and the relay never sees it. A release with a coordinate that is no
number therefore leaves the hold running, unless its reports close the
connection. What the relay itself raises is reported too, but only after the STOP.
-/

namespace CompanionBridge

open CommandDispatchLane

/-- The mapping a touch message carries. -/
def touchContent (message : OpackValue) : Except PyError OpackValue := do
  return (← message.get "_c").getD emptyDict

/-- The touch phase of a message, as `int()` reads it. -/
def touchPhase (text : PyText) (message : OpackValue) : Except PyError Int := do
  let content ← touchContent message
  let phase ← content.getItem "_tPh"
  phase.toInt text

/-- The end of a touch. -/
def isReleaseMessage (text : PyText) (message : OpackValue) : Bool :=
  match touchPhase text message with
  | .ok phase =>
      touchActionNames phase = some .release || touchActionNames phase = some .click
  | .error _ => false

/-- Whether both coordinates are absent or can be read by `int()`. -/
def readsPoint (text : PyText) (message : OpackValue) : Bool :=
  match touchContent message with
  | .ok content =>
      !Handler.isRaised (optionalInt text content "_cx") &&
        !Handler.isRaised (optionalInt text content "_cy")
  | .error _ => false

/-- The server, with the malformed frames counted on each connection. -/
structure TouchServer where
  server : CompanionServer
  malformedFrames : ConnectionId → Nat := fun _ => 0

/-- An inbound touch message, another frame that is malformed, or anything else
that happens to the connections and the lane. -/
inductive TouchLabel where
  | hidt (connection : ConnectionId) (message : OpackValue) (nowMs : ℚ)
      (verdicts : Nat → Verdict)
  | malformed (connection : ConnectionId)
  | other (label : ServerLabel)

namespace TouchServer

/-- `_malformed_frame`: count a malformed frame, and close at the limit. -/
def malformedFrame (state : TouchServer) (connection : ConnectionId) : TouchServer :=
  let count := state.malformedFrames connection + 1
  { server :=
      if malformedFrameLimit ≤ count then state.server.closeConnection .other connection
      else state.server
    malformedFrames := fun other =>
      if other = connection then count else state.malformedFrames other }

/-- The base decode of the touch handler, isolated from what follows it. -/
def decodeTouch (text : PyText) (state : TouchServer) (connection : ConnectionId)
    (message : OpackValue) : TouchServer :=
  match hidEvent message text with
  | .error _ => state.malformedFrame connection
  | .ok _ => state

def relayTouch (text : PyText) (state : TouchServer) (connection : ConnectionId)
    (message : OpackValue) (nowMs : ℚ) (verdicts : Nat → Verdict) : TouchServer :=
  match touchPoint message text with
  | .error _ => state.malformedFrame connection
  | .ok (rawPhase, cx, cy) =>
      match touchActionNames rawPhase with
      | none => state
      | some action =>
          let relay := (state.server.connections connection).relay
          let relayed : TouchServer :=
            { state with
              server := state.server.relayed verdicts connection
                (relay.onTouch nowMs action cx cy) }
          -- What the relay raises is caught here, once its commands are handed over.
          if relay.touchRaises action cx cy then relayed.malformedFrame connection else relayed

/-- `handle__hidt`. -/
def handleHidt (text : PyText) (state : TouchServer) (connection : ConnectionId)
    (message : OpackValue) (nowMs : ℚ) (verdicts : Nat → Verdict) : TouchServer :=
  (state.decodeTouch text connection message).relayTouch text connection message nowMs verdicts

/-- Frames of a connection are handled until it is torn down or was closed for malformedness. -/
def step (text : PyText) (state : TouchServer) : TouchLabel → Option TouchServer
  | .hidt connection message nowMs verdicts =>
      if (state.server.connections connection).connectionClosed = false ∧
          state.malformedFrames connection < malformedFrameLimit then
        some (state.handleHidt text connection message nowMs verdicts)
      else none
  | .malformed connection =>
      if (state.server.connections connection).connectionClosed = false ∧
          state.malformedFrames connection < malformedFrameLimit then
        some (state.malformedFrame connection)
      else none
  | .other label => (state.server.step label).map fun next => { state with server := next }

end TouchServer

/-! ## The point of a touch message -/

theorem getItem_eq_ok {value item : OpackValue} {key : String}
    (hitem : value.getItem key = .ok item) : value.get key = .ok (some item) := by
  cases value with
  | dict entries =>
      unfold OpackValue.getItem at hitem
      unfold OpackValue.get
      cases hlookup : OpackValue.lookup key entries with
      | none => simp [hlookup] at hitem
      | some held =>
          simp only [hlookup, Option.elim_some, Except.ok.injEq] at hitem
          simp only [hlookup, hitem]
  | _ => simp [OpackValue.getItem] at hitem

/-- The relay's decode reads whatever the base decode reads. -/
theorem touchPoint_of_hidEvent {text : PyText} {message : OpackValue} {action cx cy ns : Int}
    (hevent : hidEvent message text = .ok (action, cx, cy, ns)) :
    touchPoint message text = .ok (action, cx, cy) := by
  unfold hidEvent at hevent
  rw [Outcome.bind_eq_ok] at hevent
  obtain ⟨content, hcontent, hevent⟩ := hevent
  rw [Outcome.bind_eq_ok] at hevent
  obtain ⟨phase, hphase, hevent⟩ := hevent
  rw [Outcome.bind_eq_ok] at hevent
  obtain ⟨value, hvalue, hevent⟩ := hevent
  split at hevent
  · simp only [Outcome.bind_eq_ok] at hevent
    obtain ⟨time, -, x, hx, y, hy, hevent⟩ := hevent
    cases hevent
    unfold touchPoint
    simp only [Outcome.bind_eq_ok]
    exact ⟨some content, getItem_eq_ok hcontent, phase, hphase, action, hvalue, cx, hx, cy, hy, rfl⟩
  · exact absurd hevent (by simp [throw, throwThe, MonadExceptOf.throw])

/-- The reads of `handle__hidt` in the order of the source, so that the first to fail
decides. -/
theorem touchPoint_eq (text : PyText) (message : OpackValue) :
    touchPoint message text = (do
      let content ← touchContent message
      let phase ← content.getItem "_tPh"
      let rawPhase ← phase.toInt text
      let cx ← optionalInt text content "_cx"
      let cy ← optionalInt text content "_cy"
      return (rawPhase, cx, cy)) := by
  unfold touchPoint touchContent
  cases message.get "_c" <;> rfl

/-- A touch message with a phase reaches the relay exactly when its point can be read. -/
theorem touchPoint_cases {text : PyText} {message : OpackValue}
    (hrelease : isReleaseMessage text message = true) :
    (readsPoint text message = true ∧ ∃ phase action cx cy,
      touchPoint message text = .ok (phase, cx, cy) ∧ touchActionNames phase = some action ∧
      (action = .release ∨ action = .click)) ∨
    (readsPoint text message = false ∧ ∃ error, touchPoint message text = .error error) := by
  unfold isReleaseMessage at hrelease
  split at hrelease
  · rename_i phase hphase
    unfold touchPhase at hphase
    simp only [Outcome.bind_eq_ok] at hphase
    obtain ⟨content, hcontent, held, hheld, hphase⟩ := hphase
    have haction : ∃ action, touchActionNames phase = some action ∧
        (action = .release ∨ action = .click) := by
      rw [Bool.or_eq_true, decide_eq_true_eq, decide_eq_true_eq] at hrelease
      rcases hrelease with hrelease | hrelease
      · exact ⟨_, hrelease, Or.inl rfl⟩
      · exact ⟨_, hrelease, Or.inr rfl⟩
    obtain ⟨action, haction, hends⟩ := haction
    rw [touchPoint_eq]
    simp only [readsPoint, hcontent]
    cases hcx : optionalInt text content "_cx" with
    | error error =>
        refine Or.inr ⟨by simp [Handler.isRaised], error, ?_⟩
        simp [bind, Except.bind, hheld, hphase, hcx]
    | ok cx =>
        cases hcy : optionalInt text content "_cy" with
        | error error =>
            refine Or.inr ⟨by simp [Handler.isRaised], error, ?_⟩
            simp [bind, Except.bind, hheld, hphase, hcx, hcy]
        | ok cy =>
            refine Or.inl ⟨by simp [Handler.isRaised], phase, action, cx, cy, ?_, haction, hends⟩
            simp [bind, Except.bind, hheld, hphase, hcx, hcy, pure, Except.pure]
  · exact absurd hrelease (by simp)

/-! ## Steps of the connections and their lane -/

namespace TouchServer

variable {text : PyText} {state next : TouchServer}

/-- A report is no step, or the step that closes the connection. -/
theorem malformedFrame_run (state : TouchServer) (connection : ConnectionId) :
    ∃ labels, Machine.run CompanionServer.step state.server labels =
      some (state.malformedFrame connection).server := by
  simp only [malformedFrame]
  split
  · exact ⟨[.closeConnection connection], by simp [Machine.run, CompanionServer.step]⟩
  · exact ⟨[], by simp⟩

/-- On the server, a malformed frame is a close or nothing. -/
theorem malformedFrame_closed (h : Consistent state.server) (connection : ConnectionId) :
    ((state.malformedFrame connection).server.connections connection).connectionClosed =
      (state.server.connections connection).connectionClosed := by
  simp only [malformedFrame]
  split
  · exact (h.keeps.closeConnection .other connection).2.1.closed connection
  · rfl

/-- The server is consistent in every state of a run. -/
theorem run_consistent {server final : CompanionServer} {labels : List ServerLabel}
    (h : Consistent server) (hrun : Machine.run CompanionServer.step server labels = some final) :
    Consistent final :=
  Machine.run_invariant Consistent (fun _ _ _ h hstep => (h.step hstep).1) h hrun

/-- A report starts no hold. -/
theorem malformedFrame_held (h : Consistent state.server) {connection : ConnectionId}
    (hheld : (state.server.connections connection).repeater.held = []) :
    ((state.malformedFrame connection).server.connections connection).repeater.held = [] := by
  simp only [malformedFrame]
  split
  · exact (h.keeps.closeConnection .other connection).2.2
  · exact hheld

/-- Decoding a touch is a run of the server, of no label or of one. -/
theorem decodeTouch_run (text : PyText) (state : TouchServer) (connection : ConnectionId)
    (message : OpackValue) :
    ∃ labels, Machine.run CompanionServer.step state.server labels =
      some (state.decodeTouch text connection message).server := by
  unfold decodeTouch
  split
  · exact state.malformedFrame_run connection
  · exact ⟨[], by simp⟩

theorem decodeTouch_closed (text : PyText) (h : Consistent state.server) (connection : ConnectionId)
    (message : OpackValue) :
    ((state.decodeTouch text connection message).server.connections connection).connectionClosed =
      (state.server.connections connection).connectionClosed := by
  unfold decodeTouch
  split
  · exact malformedFrame_closed h connection
  · rfl

/-- A touch of an open connection is a step of the server. -/
theorem relayed_run {connection : ConnectionId}
    (hopen : (state.server.connections connection).connectionClosed = false) (nowMs : ℚ)
    (action : TouchAction) (cx cy : Int) (verdicts : Nat → Verdict) :
    state.server.step (.touch connection nowMs action cx cy verdicts) =
      some (state.server.relayed verdicts connection
        ((state.server.connections connection).relay.onTouch nowMs action cx cy)) := by
  simp [CompanionServer.step, CompanionServer.onFrame, hopen]

/-- The relay takes a touch of an open connection in one step, and a report follows
what it raises. -/
theorem relayTouch_run (text : PyText) {connection : ConnectionId}
    (hopen : (state.server.connections connection).connectionClosed = false)
    (message : OpackValue) (nowMs : ℚ) (verdicts : Nat → Verdict) :
    ∃ labels, Machine.run CompanionServer.step state.server labels =
      some (state.relayTouch text connection message nowMs verdicts).server := by
  unfold relayTouch
  split
  · exact state.malformedFrame_run connection
  · rename_i phase cx cy _
    split
    · exact ⟨[], by simp⟩
    · rename_i action _
      have hstep := relayed_run hopen nowMs action cx cy verdicts
      have htouch : Machine.run CompanionServer.step state.server
          [.touch connection nowMs action cx cy verdicts] =
            some (state.server.relayed verdicts connection
              ((state.server.connections connection).relay.onTouch nowMs action cx cy)) := by
        rw [Machine.run_cons]
        exact ⟨_, hstep, Machine.run_nil _⟩
      dsimp only
      split
      · obtain ⟨labels, hreport⟩ := malformedFrame_run
          { state with
            server := state.server.relayed verdicts connection
              ((state.server.connections connection).relay.onTouch nowMs action cx cy) } connection
        exact ⟨_, (Machine.run_append _ _ _ _).mpr ⟨_, htouch, hreport⟩⟩
      · exact ⟨_, htouch⟩

/-- A step is a schedule of the connections and their lane. -/
theorem step_run (h : Consistent state.server) {label : TouchLabel}
    (hstep : state.step text label = some next) :
    ∃ labels, Machine.run CompanionServer.step state.server labels = some next.server := by
  cases label with
  | hidt connection message nowMs verdicts =>
      simp only [step] at hstep
      split at hstep
      · rename_i hopen
        obtain rfl := Option.some.inj hstep
        obtain ⟨decoding, hdecoding⟩ := state.decodeTouch_run text connection message
        have hstill := hopen.1
        rw [← decodeTouch_closed text h connection message] at hstill
        obtain ⟨relaying, hrelaying⟩ := relayTouch_run text hstill message nowMs verdicts
        exact ⟨decoding ++ relaying, (Machine.run_append _ _ _ _).mpr ⟨_, hdecoding, hrelaying⟩⟩
      · exact absurd hstep (by simp)
  | malformed connection =>
      simp only [step] at hstep
      split at hstep
      · exact Option.some.inj hstep ▸ state.malformedFrame_run connection
      · exact absurd hstep (by simp)
  | other label =>
      obtain ⟨server, hserver, rfl⟩ := Option.map_eq_some_iff.mp hstep
      exact ⟨[label], by simp [Machine.run, hserver]⟩

/-- A run is a schedule of the connections and their lane. -/
theorem run_run (h : Consistent state.server) {labels : List TouchLabel}
    (hrun : Machine.run (step text) state labels = some next) :
    ∃ serverLabels, Machine.run CompanionServer.step state.server serverLabels =
      some next.server := by
  induction labels generalizing state with
  | nil =>
      simp only [Machine.run_nil, Option.some.injEq] at hrun
      exact ⟨[], by simp [hrun]⟩
  | cons label rest ih =>
      obtain ⟨middle, hstep, hrest⟩ := (Machine.run_cons state label rest next).mp hrun
      obtain ⟨first, hfirst⟩ := step_run h hstep
      obtain ⟨second, hsecond⟩ := ih (run_consistent h hfirst) hrest
      exact ⟨first ++ second, (Machine.run_append _ _ _ _).mpr ⟨_, hfirst, hsecond⟩⟩

/-! ## A release -/

/-- The connection has no hold, and whatever follows, no repeat of an earlier
hold is submitted or begun. -/
def HoldEnded (text : PyText) (stopped : TouchServer) (connection : ConnectionId) : Prop :=
  (stopped.server.connections connection).repeater.held = [] ∧
  ∀ labels final, Machine.run (step text) stopped labels = some final →
    ∃ events, final.server.lane.log = stopped.server.lane.log ++ events ∧
      ∀ item generation,
        LaneEvent.accepted item ∈ events ∨ LaneEvent.begun item ∈ events →
        item.owner.connection = connection → item.holdGeneration = some generation →
        (stopped.server.connections connection).repeater.nextGeneration < generation

/-- A connection that holds nothing has ended its hold. -/
theorem holdEnded_of_held (h : Consistent state.server) {connection : ConnectionId}
    (hheld : (state.server.connections connection).repeater.held = []) :
    state.HoldEnded text connection := by
  refine ⟨hheld, ?_⟩
  intro labels final hrun
  obtain ⟨serverLabels, hserver⟩ := run_run h hrun
  obtain ⟨events, hlog, hsubmitted⟩ := h.unsubmitted hheld hserver
  have hsilenced : Silenced state.server connection
      (state.server.connections connection).repeater.nextGeneration state.server :=
    ⟨h, ⟨[], by simp, by simp⟩, le_rfl, by simp [hheld]⟩
  obtain ⟨begun, hbegun, hsilent⟩ := (Machine.run_invariant _
    (fun _ _ _ h hstep => Silenced.step h hstep) hsilenced hserver).log
  obtain rfl : begun = events := List.append_cancel_left (hbegun.symm.trans hlog)
  refine ⟨begun, hlog, ?_⟩
  intro item generation hmem hconnection hgeneration
  rcases hmem with hmem | hmem
  · exact hsubmitted item generation hmem hconnection hgeneration
  · exact hsilent item generation hmem hconnection hgeneration

/-- A release whose point can be read stops the hold. -/
theorem handleHidt_held (h : Consistent state.server) {connection : ConnectionId}
    (hopen : (state.server.connections connection).connectionClosed = false)
    {message : OpackValue} {phase cx cy : Int} {action : TouchAction}
    (hpoint : touchPoint message text = .ok (phase, cx, cy))
    (haction : touchActionNames phase = some action)
    (hends : action = .release ∨ action = .click) (nowMs : ℚ) (verdicts : Nat → Verdict) :
    ((state.handleHidt text connection message nowMs verdicts).server.connections
      connection).repeater.held = [] := by
  obtain ⟨labels, hdecoding⟩ := state.decodeTouch_run text connection message
  have hdecoded := run_consistent h hdecoding
  have hstill := hopen
  rw [← decodeTouch_closed text h connection message] at hstill
  simp only [handleHidt, relayTouch, hpoint, haction]
  generalize state.decodeTouch text connection message = decoded at hdecoded hstill
  have hstep := relayed_run hstill nowMs action cx cy verdicts
  have hstopped : ((decoded.server.relayed verdicts connection
      ((decoded.server.connections connection).relay.onTouch nowMs action cx
        cy)).connections connection).repeater.held = [] := by
    refine hdecoded.stopsHold hstep ⟨rfl, Or.inl ?_⟩
    rcases hends with hends | hends
    · exact Or.inr (Or.inl hends)
    · exact Or.inr (Or.inr hends)
  split
  · -- The exception comes after the STOP, and its report leaves the hold stopped.
    exact malformedFrame_held (hdecoded.step hstep).1 hstopped
  · exact hstopped

/-- A release that cannot be read is reported twice. -/
theorem handleHidt_unread {connection : ConnectionId} {message : OpackValue} {error : PyError}
    (hpoint : touchPoint message text = .error error) (nowMs : ℚ) (verdicts : Nat → Verdict) :
    state.handleHidt text connection message nowMs verdicts =
      (state.malformedFrame connection).malformedFrame connection := by
  have hevent : ∃ refusal, hidEvent message text = .error refusal := by
    cases hevent : hidEvent message text with
    | error refusal => exact ⟨refusal, rfl⟩
    | ok event =>
        have hread := touchPoint_of_hidEvent hevent
        rw [hpoint] at hread
        exact absurd hread (by simp)
  obtain ⟨refusal, hrefusal⟩ := hevent
  simp only [handleHidt, relayTouch, hpoint, decodeTouch, hrefusal]

/-- Two reports stop the hold exactly when they reach the limit. -/
theorem reported_held (h : Consistent state.server) {connection : ConnectionId}
    (hcount : state.malformedFrames connection < malformedFrameLimit)
    (hheld : (state.server.connections connection).repeater.held ≠ []) :
    (((state.malformedFrame connection).malformedFrame connection).server.connections
        connection).repeater.held = [] ↔ 0 < state.malformedFrames connection := by
  unfold malformedFrameLimit at hcount
  have hreports : ((state.malformedFrame connection).malformedFrame connection).server =
      if malformedFrameLimit ≤ state.malformedFrames connection + 2 then
        (state.malformedFrame connection).server.closeConnection .other connection
      else (state.malformedFrame connection).server := by
    simp [malformedFrame]
  rw [hreports]
  obtain ⟨labels, hrun⟩ := state.malformedFrame_run connection
  have hreported := run_consistent h hrun
  constructor
  · intro hnone
    by_contra hfirst
    have hzero : state.malformedFrames connection = 0 := by omega
    rw [if_neg (by simp [hzero, malformedFrameLimit])] at hnone
    simp only [malformedFrame, hzero] at hnone
    exact hheld hnone
  · intro hpositive
    rw [if_pos (by unfold malformedFrameLimit; omega)]
    exact (hreported.keeps.closeConnection .other connection).2.2

end TouchServer

/-- A release stops the hold that is running exactly when its coordinates can be
read, or an earlier malformed frame was counted, so that its reports close the
connection. -/
theorem release_stops_hold_iff (text : PyText) {maxQueueSize : Nat} {gestureConfig : GestureConfig}
    {holdConfig : DirectionalHoldConfig} {initial : CompanionServer}
    {state stopped : TouchServer} {labels : List TouchLabel} {connection : ConnectionId}
    {message : OpackValue} {nowMs : ℚ} {verdicts : Nat → Verdict}
    (hserve : CompanionServer.serve maxQueueSize gestureConfig holdConfig = some initial)
    (hrun : Machine.run (TouchServer.step text) { server := initial } labels = some state)
    (hheld : (state.server.connections connection).repeater.held ≠ [])
    (hrelease : isReleaseMessage text message = true)
    (hstep : state.step text (.hidt connection message nowMs verdicts) = some stopped) :
    stopped.HoldEnded text connection ↔
      (readsPoint text message = true ∨ 0 < state.malformedFrames connection) := by
  obtain ⟨serverLabels, hserver⟩ := TouchServer.run_run (serve_consistent hserve) hrun
  have hstate := TouchServer.run_consistent (serve_consistent hserve) hserver
  obtain ⟨stepLabels, hstopping⟩ := TouchServer.step_run hstate hstep
  have hstopped := TouchServer.run_consistent hstate hstopping
  simp only [TouchServer.step] at hstep
  split at hstep
  · rename_i hopen
    obtain rfl := Option.some.inj hstep
    have hended : ∀ ended : TouchServer, Consistent ended.server →
        (ended.HoldEnded text connection ↔
          (ended.server.connections connection).repeater.held = []) :=
      fun ended hended => ⟨fun hstops => hstops.1, TouchServer.holdEnded_of_held hended⟩
    rw [hended _ hstopped]
    rcases touchPoint_cases hrelease with
      ⟨hreads, phase, action, cx, cy, hpoint, haction, hends⟩ | ⟨hunread, error, hpoint⟩
    · have hgone := TouchServer.handleHidt_held hstate hopen.1 hpoint haction hends nowMs verdicts
      exact ⟨fun _ => Or.inl hreads, fun _ => hgone⟩
    · rw [TouchServer.handleHidt_unread hpoint, TouchServer.reported_held hstate hopen.2 hheld]
      simp [hunread]
  · exact absurd hstep (by simp)

/-- A touch message of a phase, with its coordinates as given. -/
def touchMessage (phase : Nat) (coordinates : List (OpackValue × OpackValue)) : OpackValue :=
  .dict [(.ofStr "_i", .ofStr "_hidT"), (.ofStr "_c", .dict ((.ofStr "_tPh", .ofInt phase) ::
    coordinates))]

/-- A right swipe is held until its repeat task waits for the first delay. -/
def rightHold : List TouchLabel :=
  let allow : Nat → Verdict := fun _ _ => some true
  let right := [(.ofStr "_cx", .ofInt 800), (.ofStr "_cy", .ofInt 0)]
  [.other (.sessionStart 0), .hidt 0 (touchMessage 1 []) 0 allow,
    .hidt 0 (touchMessage 2 right) 10 allow, .hidt 0 (touchMessage 3 right) 500 allow,
    .other .workerWake, .other (.workerScan (allow 0)), .other (.workerResume .returned),
    .other (.workerScan (allow 0)), .other (.resumeRepeat 0 1 0 allow)]

/-- A release of that hold. -/
def releaseOf (coordinates : List (OpackValue × OpackValue)) : TouchLabel :=
  .hidt 0 (touchMessage 4 coordinates) 600 fun _ _ => some true

/-- The generations of the repeats submitted so far. -/
def submittedGenerations (server : CompanionServer) : List (Option Nat) :=
  server.lane.log.filterMap fun event =>
    match event with
    | .accepted item => some item.holdGeneration
    | _ => none

/-- A release without coordinates stops the hold. -/
theorem release_stops_hold_plain :
    let step := TouchServer.step transparentBridge.text
    ∃ initial state stopped,
      CompanionServer.serve 64 {} { enabled := true } = some initial ∧
      Machine.run step { server := initial } rightHold = some state ∧
      (state.server.connections 0).repeater.held = [("KEY_RIGHT", 1)] ∧
      step state (releaseOf []) = some stopped ∧
      stopped.HoldEnded transparentBridge.text 0 := by
  intro step
  have hrun : ((CompanionServer.serve 64 {} { enabled := true }).bind fun initial =>
      (Machine.run step { server := initial } rightHold).bind fun state =>
        (step state (releaseOf [])).map fun _ =>
          (state.server.connections 0).repeater.held) = some [("KEY_RIGHT", 1)] := by
    decide +kernel
  simp only [Option.bind_eq_some_iff, Option.map_eq_some_iff] at hrun
  obtain ⟨initial, hserve, state, hstate, stopped, hstep, hheld⟩ := hrun
  refine ⟨initial, state, stopped, hserve, hstate, hheld, hstep, ?_⟩
  exact (release_stops_hold_iff transparentBridge.text hserve hstate (by rw [hheld]; decide)
    (by decide +kernel) hstep).mpr (Or.inl (by decide +kernel))

/-- A release whose coordinate is a word leaves the hold running, and its next
repeat is submitted. -/
theorem release_stops_hold_fails :
    let step := TouchServer.step transparentBridge.text
    let release := releaseOf [(.ofStr "_cx", .ofStr "left"), (.ofStr "_cy", .ofInt 0)]
    let allow : Nat → Verdict := fun _ _ => some true
    ∃ initial state stopped final,
      CompanionServer.serve 64 {} { enabled := true } = some initial ∧
      Machine.run step { server := initial } rightHold = some state ∧
      (state.server.connections 0).repeater.held = [("KEY_RIGHT", 1)] ∧
      step state release = some stopped ∧
      Machine.run step stopped [.other (.resumeRepeat 0 1 1 allow)] = some final ∧
      (stopped.server.connections 0).repeater.held = [("KEY_RIGHT", 1)] ∧
      submittedGenerations stopped.server = [none] ∧
      submittedGenerations final.server = [none, some 1] ∧
      ¬ stopped.HoldEnded transparentBridge.text 0 := by
  intro step release allow
  have hrun : ((CompanionServer.serve 64 {} { enabled := true }).bind fun initial =>
      (Machine.run step { server := initial } rightHold).bind fun state =>
        (step state release).bind fun stopped =>
          (Machine.run step stopped [.other (.resumeRepeat 0 1 1 allow)]).map fun final =>
            ((state.server.connections 0).repeater.held,
              (stopped.server.connections 0).repeater.held,
              submittedGenerations stopped.server, submittedGenerations final.server)) =
      some ([("KEY_RIGHT", 1)], [("KEY_RIGHT", 1)], [none], [none, some 1]) := by
    decide +kernel
  simp only [Option.bind_eq_some_iff, Option.map_eq_some_iff, Prod.mk.injEq] at hrun
  obtain ⟨initial, hserve, state, hstate, stopped, hstep, final, hfinal, hheld, hstill, hbefore,
    hafter⟩ := hrun
  refine ⟨initial, state, stopped, final, hserve, hstate, hheld, hstep, hfinal, hstill, hbefore,
    hafter, fun hended => ?_⟩
  rw [hended.1] at hstill
  exact absurd hstill (by simp)

end CompanionBridge
