import CompanionBridge.Companion.Dispatch
import CompanionBridge.Companion.Repeater

/-!
# Companion connections sharing one lane

`BridgeCompanionService` gives each TV-remote session of a connection a fresh
dispatch owner, feeds the relay's commands to the lane, and drives the hold
repeater. The state below is every connection of the server with the one lane
they share. Handlers run without suspending, so each is one operation.
Authorization is read through the `verdict` an operation is given.

Frames are accepted here until a connection is torn down, also after its
transport started to close, when the source receives no more of them.
-/

namespace CompanionBridge

abbrev ConnectionId := Nat

/-- The `object()` a TV-remote session uses as its dispatch owner. -/
structure SessionOwner where
  connection : ConnectionId
  serial : Nat
  deriving DecidableEq, Repr

/-- What was recorded when a hold generation began. The source keeps no such record. -/
structure HoldStart where
  owner : SessionOwner
  key : String
  clickTicket : Nat
  deriving DecidableEq

structure BridgeCompanionService where
  dispatchOwner : Option SessionOwner := none
  nextSerial : Nat := 0
  repeater : HoldRepeater := {}
  repeatOwners : Nat → Option SessionOwner := fun _ => none
  relay : CommandRelay := {}
  connectionClosed : Bool := false
  holdStarts : Nat → Option HoldStart := fun _ => none

/-- The lane of the server: checks and callbacks are named by their connection. -/
abbrev ServerLane := CommandDispatchLane SessionOwner ConnectionId ConnectionId

/-- Outcome of each connection's authorization check; `none` is a check that raised. -/
abbrev Verdict := ConnectionId → Option Bool

structure CompanionServer where
  lane : ServerLane
  connections : ConnectionId → BridgeCompanionService

namespace CompanionServer

/-- A server without clients, its lane started. -/
def serve (maxQueueSize : Nat) (gestureConfig : GestureConfig)
    (holdConfig : DirectionalHoldConfig) : Option CompanionServer := do
  let lane ← CommandDispatchLane.new maxQueueSize
  let started ← lane.start
  return {
    lane := started
    connections := fun _ =>
      { relay := { swipe := { config := gestureConfig }, holdConfig := holdConfig }
        repeater :=
          { config :=
              { initialDelay := holdConfig.initialDelay, interval := holdConfig.interval
                maxHold := holdConfig.maxHold } } } }

def setLane (server : CompanionServer) (lane : ServerLane) : CompanionServer :=
  { server with lane := lane }

def setService (server : CompanionServer) (connection : ConnectionId)
    (service : BridgeCompanionService) : CompanionServer :=
  { server with
    connections := fun other => if other = connection then service else server.connections other }

def setRepeater (server : CompanionServer) (connection : ConnectionId)
    (repeater : HoldRepeater) : CompanionServer :=
  server.setService connection { server.connections connection with repeater := repeater }

/-- `_cancel_repeat_generation`: discard unsent delayed work of a stopped hold. -/
def cancelRepeatGeneration (server : CompanionServer) (caller : Caller)
    (connection : ConnectionId) (generation : Nat) : CompanionServer :=
  let service := server.connections connection
  match service.repeatOwners generation with
  | none => server
  | some owner =>
      (server.setLane (server.lane.cancelGeneration caller owner generation)).setService connection
        { service with
          repeatOwners := fun other =>
            if other = generation then none else service.repeatOwners other }

def notifyStop (server : CompanionServer) (caller : Caller) (connection : ConnectionId) :
    Option Nat → CompanionServer
  | none => server
  | some generation => server.cancelRepeatGeneration caller connection generation

/-- `HoldRepeater._cancel` with its `on_stop` notification. -/
def cancelHold (server : CompanionServer) (caller : Caller) (connection : ConnectionId)
    (key : String) : CompanionServer :=
  let cancelled := (server.connections connection).repeater.cancel key
  (server.setRepeater connection cancelled.1).notifyStop caller connection cancelled.2

def cancelHolds (server : CompanionServer) (caller : Caller) (connection : ConnectionId)
    (keys : List String) : CompanionServer :=
  keys.foldl (fun server key => server.cancelHold caller connection key) server

/-- Stop active holds and purge their tagged delayed lane work. -/
def invalidateRepeaters (server : CompanionServer) (caller : Caller)
    (connection : ConnectionId) : CompanionServer :=
  server.cancelHolds caller connection
    ((server.connections connection).repeater.held.map Prod.fst)

/-- Invalidate queued Samsung work of the current TV-remote session. -/
def endDispatchSession (server : CompanionServer) (caller : Caller)
    (connection : ConnectionId) : CompanionServer :=
  let service := server.connections connection
  match service.dispatchOwner with
  | none => server
  | some owner =>
      (server.setService connection { service with dispatchOwner := none }).setLane
        (server.lane.cancelOwner caller owner)

def closeConnection (server : CompanionServer) (caller : Caller) (connection : ConnectionId) :
    CompanionServer :=
  (server.invalidateRepeaters caller connection).endDispatchSession caller connection

/-- Run the `on_unauthorized` callback a lane operation left. -/
def runHandler (server : CompanionServer) (caller : Caller) :
    Option ConnectionId → CompanionServer
  | none => server
  | some connection => server.closeConnection caller connection

/-- Take over the result of a lane operation. -/
def settleReply (server : CompanionServer) (caller : Caller)
    (reply : LaneReply SessionOwner ConnectionId ConnectionId) : CompanionServer :=
  (server.setLane reply.lane).runHandler caller reply.handler

/-- Give the TV-remote session a fresh owner. The owner is set also when a closed lane raises. -/
def beginDispatchSession (server : CompanionServer) (connection : ConnectionId) :
    CompanionServer :=
  let ended := server.closeConnection .other connection
  let service := ended.connections connection
  let owner : SessionOwner := ⟨connection, service.nextSerial⟩
  (ended.setService connection
    { service with dispatchOwner := some owner, nextSerial := service.nextSerial + 1 }).setLane
      ((ended.lane.activate owner ⟨some connection, some connection⟩).getD ended.lane)

/-- `_submit_dispatch`: whether the command was accepted, and the server after it. -/
def submitDispatch (server : CompanionServer) (verdict : Verdict) (connection : ConnectionId)
    (command : Command) : CompanionServer × Bool :=
  match (server.connections connection).dispatchOwner with
  | none => (server, false)
  | some owner =>
      let reply := server.lane.submit verdict .other owner command
      (server.settleReply .other reply, reply.accepted)

/-- `HoldRepeater.start` for a hold of the current session, with the owner it is bound to. -/
def startHold (server : CompanionServer) (connection : ConnectionId) (owner : SessionOwner)
    (key : String) (clickTicket : Nat) : CompanionServer :=
  let held := (server.connections connection).repeater.held
  match held.lookup key with
  -- the key is held already: the generation goes on under its first owner
  | some generation =>
      let service := server.connections connection
      server.setService connection
        { service with
          repeatOwners := fun other =>
            if other = generation then some ((service.repeatOwners other).getD owner)
            else service.repeatOwners other }
  | none =>
      -- one hold at a time: a new key stops the others first
      let stopped := server.cancelHolds .other connection (held.map Prod.fst)
      let service := stopped.connections connection
      let created := service.repeater.create key
      stopped.setService connection
        { service with
          repeater := created.1
          repeatOwners := fun other =>
            if other = created.2 then some ((service.repeatOwners other).getD owner)
            else service.repeatOwners other
          holdStarts := fun other =>
            if other = created.2 then some ⟨owner, key, clickTicket⟩
            else service.holdStarts other }

/-- `_dispatch_sink`: take one command of the relay. -/
def dispatchSink (server : CompanionServer) (verdict : Verdict) (connection : ConnectionId)
    (command : Command) : CompanionServer :=
  match command.repeatPhase with
  | some .start =>
      match command.samsungKey, (server.connections connection).dispatchOwner with
      -- the first click goes out as a plain command; the hold starts only if it is accepted
      | some key, some owner =>
          let immediate : Command :=
            { action := command.action, samsungKey := some key, source := command.source
              fast := true }
          let submitted := server.submitDispatch verdict connection immediate
          if submitted.2 then
            submitted.1.startHold connection owner key server.lane.nextTicket
          else submitted.1
      | _, _ => server
  | some .stop =>
      match command.samsungKey with
      | none => server
      | some key => server.cancelHold .other connection key
  | none => (server.submitDispatch verdict connection command).1

/-- Take the relay's commands in order; each may read authorization anew. -/
def sinkAll (server : CompanionServer) (verdicts : Nat → Verdict) (connection : ConnectionId) :
    List Command → CompanionServer
  | [] => server
  | command :: rest =>
      (server.dispatchSink (verdicts 0) connection command).sinkAll (fun n => verdicts (n + 1))
        connection rest

/-- Run a relay operation and hand its commands to the sink. -/
def relayed (server : CompanionServer) (verdicts : Nat → Verdict) (connection : ConnectionId)
    (decision : CommandRelay × List Command) : CompanionServer :=
  let sunk := server.sinkAll verdicts connection decision.2
  sunk.setService connection { sunk.connections connection with relay := decision.1 }

/-- Forget the authentication state and the transport; `false` when done before. -/
def teardownConnection (server : CompanionServer) (connection : ConnectionId) : CompanionServer :=
  server.setService connection { server.connections connection with connectionClosed := true }

def connectionLost (server : CompanionServer) (connection : ConnectionId) : CompanionServer :=
  if (server.connections connection).connectionClosed then server
  else (server.teardownConnection connection).closeConnection .other connection

/-- The synchronous part of `shutdown`. -/
def shutdown (server : CompanionServer) (connection : ConnectionId) : CompanionServer :=
  (server.closeConnection .other connection).teardownConnection connection

/-! ## The repeat task -/

def setRepeatPoint (server : CompanionServer) (connection : ConnectionId) (generation : Nat)
    (task : RepeatTask) : CompanionServer :=
  server.setRepeater connection
    ((server.connections connection).repeater.setTask generation task)

/-- The `finally` of a repeat task. -/
def finishRepeat (server : CompanionServer) (connection : ConnectionId) (generation : Nat)
    (task : RepeatTask) : CompanionServer :=
  let released := (server.connections connection).repeater.release task.key generation
  ((server.setRepeater connection released.1).notifyStop .other connection
    released.2).setRepeatPoint connection generation { task with point := .finished }

/-- `_send_repeat_key`: submit one click under the owner of the hold. `none`
stands for the `RuntimeError` that ends the repeat loop. -/
def sendRepeatKey (server : CompanionServer) (verdicts : Nat → Verdict)
    (connection : ConnectionId) (key : String) (generation : Nat) :
    CompanionServer × Option Nat :=
  if verdicts 0 connection ≠ some true then (server.closeConnection .other connection, none)
  else
    match (server.connections connection).repeatOwners generation with
    | none => (server, none)
    | some owner =>
        let command : Command :=
          { action := .sendKey, samsungKey := some key, source := "repeat", fast := true }
        let reply :=
          server.lane.submitAndWait (verdicts 1) .other owner command generation
        (server.settleReply .other reply,
          if reply.accepted then some server.lane.nextCompletion else none)

/-- The head of the repeat loop: send before the deadline, end after it. -/
def repeatOnce (server : CompanionServer) (verdicts : Nat → Verdict) (now : ℚ)
    (connection : ConnectionId) (generation : Nat) (task : RepeatTask) : CompanionServer :=
  if now < task.deadline then
    let sent := server.sendRepeatKey verdicts connection task.key generation
    match sent.2 with
    | none => sent.1.finishRepeat connection generation task
    | some completion =>
        sent.1.setRepeatPoint connection generation { task with point := .sending completion }
  else server.finishRepeat connection generation task

/-- Resume a repeat task. One that was cancelled before it first ran just ends. -/
def resumeRepeat (server : CompanionServer) (verdicts : Nat → Verdict) (now : ℚ)
    (connection : ConnectionId) (generation : Nat) : Option CompanionServer :=
  let repeater := (server.connections connection).repeater
  match repeater.tasks generation with
  | none => none
  | some task =>
      match task.point, task.cancelRequested with
      | .finished, _ => none
      -- cancelled before its first step: the body never runs
      | .created, true =>
          some (server.setRepeatPoint connection generation { task with point := .finished })
      | .created, false =>
          some (server.setRepeatPoint connection generation
            { task with point := .delaying, deadline := now + repeater.config.maxHold })
      -- a cancellation is raised at the await and ends the task
      | _, true => some (server.finishRepeat connection generation task)
      | .delaying, false => some (server.repeatOnce verdicts now connection generation task)
      | .pausing, false => some (server.repeatOnce verdicts now connection generation task)
      | .sending completion, false =>
          match server.lane.completions completion with
          -- the task waits for the lane to settle its key
          | .pending => none
          | .result =>
              some (server.setRepeatPoint connection generation { task with point := .pausing })
          -- a key that was cancelled or failed ends the hold
          | _ => some (server.finishRepeat connection generation task)

end CompanionServer

/-- One scheduling choice: an inbound frame, the end of a connection, or the
resumption of a repeat task or of the lane's worker. -/
inductive ServerLabel where
  | sessionStart (connection : ConnectionId)
  | sessionStop (connection : ConnectionId)
  | touchStop (connection : ConnectionId)
  | touch (connection : ConnectionId) (nowMs : ℚ) (action : TouchAction) (cx cy : Int)
      (verdicts : Nat → Verdict)
  | button (connection : ConnectionId) (nowMs : ℚ) (hidCode buttonState : Int)
      (verdicts : Nat → Verdict)
  | mediaControl (connection : ConnectionId) (nowMs : ℚ) (key source : String)
      (verdicts : Nat → Verdict)
  | text (connection : ConnectionId) (text : String) (verdict : Verdict)
  | closeConnection (connection : ConnectionId)
  | connectionLost (connection : ConnectionId)
  | shutdown (connection : ConnectionId)
  | resumeRepeat (connection : ConnectionId) (generation : Nat) (now : ℚ)
      (verdicts : Nat → Verdict)
  | workerWake
  | workerScan (verdict : Verdict)
  | workerResume (outcome : DispatchOutcome)
  | laneClose
  | laneCloseFinished

namespace CompanionServer

/-- A frame is handled only while the connection is not torn down. -/
def onFrame (server : CompanionServer) (connection : ConnectionId) (after : CompanionServer) :
    Option CompanionServer :=
  if (server.connections connection).connectionClosed then none else some after

theorem onFrame_eq_some {server after next : CompanionServer} {connection : ConnectionId}
    (hframe : server.onFrame connection after = some next) :
    (server.connections connection).connectionClosed = false ∧ after = next := by
  unfold onFrame at hframe
  split at hframe
  · exact absurd hframe (by simp)
  · rename_i hopen
    exact ⟨by simpa using hopen, Option.some.inj hframe⟩

/-- Resume the dispatch in flight; a revoked owner's connection is closed by the worker. -/
def workerResume (server : CompanionServer) (outcome : DispatchOutcome) :
    Option CompanionServer :=
  match server.lane.workerTask, server.lane.current with
  | some ⟨.dispatching interrupted, cancelRequested⟩, some item =>
      if outcome = .suspended then
        some (server.setLane (server.lane.suspendAgain ⟨.dispatching interrupted, cancelRequested⟩
          interrupted))
      else if outcome = .cancelled ∧
          !CommandDispatchLane.canBeCancelled ⟨.dispatching interrupted, cancelRequested⟩ then
        none
      else
        let settled := server.lane.settle item outcome
        let handled := server.settleReply .worker settled
        some (handled.setLane (handled.lane.finishItem settled.accepted))
  | _, _ => none

def step (server : CompanionServer) : ServerLabel → Option CompanionServer
  | .sessionStart connection =>
      server.onFrame connection (server.beginDispatchSession connection)
  | .sessionStop connection =>
      server.onFrame connection (server.closeConnection .other connection)
  | .touchStop connection =>
      server.onFrame connection (server.invalidateRepeaters .other connection)
  | .touch connection nowMs action cx cy verdicts =>
      server.onFrame connection (server.relayed verdicts connection
        ((server.connections connection).relay.onTouch nowMs action cx cy))
  | .button connection nowMs hidCode buttonState verdicts =>
      server.onFrame connection (server.relayed verdicts connection
        ((server.connections connection).relay.onButton nowMs hidCode buttonState))
  | .mediaControl connection nowMs key source verdicts =>
      server.onFrame connection (server.relayed verdicts connection
        ((server.connections connection).relay.emit nowMs
          { action := .sendKey, samsungKey := some key, source := source }))
  | .text connection text verdict =>
      server.onFrame connection (server.dispatchSink verdict connection
        { action := .sendText, text := some text, source := "rti" })
  -- the events below come from outside the frames of a session
  | .closeConnection connection => some (server.closeConnection .other connection)
  | .connectionLost connection => some (server.connectionLost connection)
  | .shutdown connection => some (server.shutdown connection)
  | .resumeRepeat connection generation now verdicts =>
      server.resumeRepeat verdicts now connection generation
  | .workerWake => server.lane.workerWake.map server.setLane
  | .workerScan verdict => (server.lane.workerScan verdict).map (server.settleReply .worker)
  | .workerResume outcome => server.workerResume outcome
  | .laneClose => some (server.setLane server.lane.close)
  | .laneCloseFinished => server.lane.closeFinished.map server.setLane

end CompanionServer

end CompanionBridge
