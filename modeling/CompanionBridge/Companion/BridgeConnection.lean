import CompanionBridge.Companion.Message
import CompanionBridge.Companion.Relay
import CompanionBridge.Library.Handler
import CompanionBridge.Protocol.Connection
import CompanionBridge.Protocol.KeyedArchiver
import Mathlib.Data.Finset.Basic

/-!
# The state of one bridge connection

`BridgeCompanionService` adds to the protocol connection the session its
handlers keep, the relay, and the dispatch session on the shared lane. The lane
is known by its answers: what became of each command submitted, and whether it
takes a new session. The device state is the one all connections share.

Three fields are bookkeeping the source does not have: `submitted` has the
commands the lane accepted from this connection, `messages` the messages whose
frames were given to its transport, and `closedAsMalformed` tells whether the
malformed-frame limit closed it.
-/

namespace CompanionBridge

/-- A number whose type the language keeps. -/
inductive PyReal where
  | int (value : Int)
  | float (value : Float)

/-- State which belongs to exactly one connection. -/
structure FakeCompanionSessionState where
  sid : OpackValue := .ofInt 0
  interests : List OpackScalar := []
  rtiRegistered : Bool := false
  rtiFocusState : KeyboardFocusState := .focused
  rtiText : Option String := some "Fake Companion Keyboard Text"
  rtiSessionUuid : Option Bytes := none
  pressedButtons : Finset HidCommand := ∅

/-- Device-wide state shared by all connections. -/
structure FakeCompanionState where
  volume : Float := 10.0
  duration : PyReal := .float 10.0
  mediaControlFlags : Nat := 256
  installedApps : List (OpackValue × OpackValue) := []
  availableAccounts : List (OpackValue × OpackValue) := []
  systemStatusSupported : Bool := true
  systemStatus : Nat := 3

/-- What the lane does with a command. -/
inductive LaneAnswer where
  | accepted
  /-- The lane is full or closed, or the session is no longer registered. -/
  | dropped
  /-- The authorization check failed: the lane calls `on_unauthorized`. -/
  | unauthorized
  deriving DecidableEq, Repr

/-- What a connection reads from outside while it handles one frame. -/
structure BridgeInputs where
  authorized : Bool := true
  auth : AuthInputs := {}
  nowMs : ℚ := 0
  laneOpen : Bool := true
  lane : Nat → LaneAnswer := fun _ => .accepted

/-- The code a bridge connection rests on. -/
structure BridgeExternals where
  connection : ConnectionExternals
  text : PyText
  packDepth : Nat
  unpackDepth : Nat
  /-- `plistlib.loads`, half of which is an XML parser. -/
  loadPlist : OpackValue → Option PlistValue
  /-- The archive of an RTI session: its UUID and its text. -/
  dumpRti : Option Bytes → Option String → Bytes
  /-- `str` of a real, which is its shortest decimal, of a date or of a container. -/
  plistText : PlistValue → Except PyError String

structure BridgeConnection where
  service : FakeCompanionService
  session : FakeCompanionSessionState := {}
  state : FakeCompanionState := {}
  relay : CommandRelay := {}
  laneInstalled : Bool := true
  /-- Whether the connection owns a dispatch session. -/
  dispatchOwner : Bool := false
  /-- The key of the hold that is repeating. -/
  repeating : Option String := none
  submitted : List Command := []
  messages : List OpackValue := []
  closedAsMalformed : Bool := false

abbrev HandlerM := Handler PyError BridgeConnection

namespace BridgeConnection

def isConnectionActive (connection : BridgeConnection) : Bool :=
  connection.service.isConnectionActive

def invalidateRepeaters (connection : BridgeConnection) : BridgeConnection :=
  { connection with repeating := none }

def endDispatchSession (connection : BridgeConnection) : BridgeConnection :=
  { connection with dispatchOwner := false }

def closeConnection (connection : BridgeConnection) : BridgeConnection :=
  { connection.invalidateRepeaters.endDispatchSession with
    service := connection.service.closeConnection }

def stillOpen (connection : BridgeConnection) : Bool :=
  connection.service.stillOpen

/-- `_malformed_frame`: count a malformed frame, and close at the limit. -/
def malformedFrame (connection : BridgeConnection) : BridgeConnection × Bool :=
  let counted :=
    { connection with
      service :=
        { connection.service with malformedFrames := connection.service.malformedFrames + 1 } }
  if malformedFrameLimit ≤ counted.service.malformedFrames then
    ({ counted.closeConnection with closedAsMalformed := true }, false)
  else (counted, true)

/-- `send_to_client`, and whether it raised. -/
def sendToClient (externals : BridgeExternals) (connection : BridgeConnection)
    (frameType : FrameType) (message : OpackValue) : BridgeConnection × Bool :=
  let sent := connection.service.sendToClient externals.connection.crypto.aead frameType
    (pack externals.packDepth message)
  ({ connection with
      service := sent.1
      messages :=
        if sent.1.written.length = connection.service.written.length then connection.messages
        else connection.messages ++ [message] }, sent.2)

/-! ## The dispatch session -/

/-- `_submit_dispatch`, with the lane's answer. -/
def submitDispatch (connection : BridgeConnection) (answer : LaneAnswer) (command : Command) :
    BridgeConnection × Bool :=
  if !connection.laneInstalled || !connection.dispatchOwner then (connection, false)
  else
    match answer with
    | .accepted => ({ connection with submitted := connection.submitted ++ [command] }, true)
    | .dropped => (connection, false)
    | .unauthorized => (connection.closeConnection, false)

/-- `_dispatch_sink`: take one command of the relay. -/
def dispatchSink (connection : BridgeConnection) (answer : LaneAnswer) (command : Command) :
    BridgeConnection :=
  match command.repeatPhase with
  | some .start =>
      match command.samsungKey with
      | none => connection
      | some key =>
          -- the click that opens a hold is submitted at once, ahead of the repeats
          let immediate : Command :=
            { action := command.action, samsungKey := some key, source := command.source
              fast := true }
          let submission := connection.submitDispatch answer immediate
          if submission.2 then { submission.1 with repeating := some key } else submission.1
  | some .stop =>
      -- a stop for another key leaves the hold that is running
      if command.samsungKey.isSome ∧ connection.repeating = command.samsungKey then
        { connection with repeating := none }
      else connection
  | none => (connection.submitDispatch answer command).1

/-- Take the relay's commands in order. -/
def sinkAll (connection : BridgeConnection) (answers : Nat → LaneAnswer) :
    List Command → BridgeConnection
  | [] => connection
  | command :: rest =>
      (connection.dispatchSink (answers 0) command).sinkAll (fun n => answers (n + 1)) rest

/-- Run a relay operation and hand its commands to the sink. -/
def relayed (connection : BridgeConnection) (answers : Nat → LaneAnswer)
    (decision : CommandRelay × List Command) : BridgeConnection :=
  ({ connection with relay := decision.1 }).sinkAll answers decision.2

end BridgeConnection

/-! ## What the handlers are made of -/

section Primitives

variable (externals : BridgeExternals)

/-- `send_to_client` of an application message. -/
def sendMessage (message : OpackValue) : HandlerM Unit := fun connection =>
  let sent := connection.sendToClient externals .eOpack message
  (if sent.2 then .error .other else .ok (), sent.1)

def responseMessage (identifier xid content : OpackValue) : OpackValue :=
  .dict [(.ofStr "_i", identifier), (.ofStr "_x", xid), (.ofStr "_t", .ofInt 3),
    (.ofStr "_c", content)]

def eventMessage (identifier xid content : OpackValue) : OpackValue :=
  .dict [(.ofStr "_i", identifier), (.ofStr "_x", xid), (.ofStr "_t", .ofInt 1),
    (.ofStr "_c", content)]

def errorMessage (identifier xid : OpackValue) (code : Nat) (domain message : String) :
    OpackValue :=
  .dict [(.ofStr "_i", identifier), (.ofStr "_x", xid), (.ofStr "_t", .ofInt 3),
    (.ofStr "_ec", .ofInt code), (.ofStr "_ed", .ofStr domain), (.ofStr "_em", .ofStr message)]

def sendResponse (request content : OpackValue) : HandlerM Unit := do
  let identifier ← Handler.lift (request.getItem "_i")
  let xid ← Handler.lift (request.getItem "_x")
  sendMessage externals (responseMessage identifier xid content)

def sendEvent (identifier : String) (xid content : OpackValue) : HandlerM Unit :=
  sendMessage externals (eventMessage (.ofStr identifier) xid content)

def sendError (request : OpackValue) (message : String) (code : Nat := 1337) : HandlerM Unit := do
  let identifier ← Handler.lift (request.getItem "_i")
  let xid ← Handler.lift (request.getItem "_x")
  sendMessage externals (errorMessage identifier xid code "RPErrorDomain" message)

def sendHandlerNotSupported (request : OpackValue) : HandlerM Unit :=
  sendError externals request "No request handler" 58822

end Primitives

/-- Report the message being handled as malformed. -/
def reportMalformed : HandlerM Unit :=
  Handler.update fun connection => connection.malformedFrame.1

def updateSession (change : FakeCompanionSessionState → FakeCompanionSessionState) :
    HandlerM Unit :=
  Handler.update fun connection => { connection with session := change connection.session }

def updateState (change : FakeCompanionState → FakeCompanionState) : HandlerM Unit :=
  Handler.update fun connection => { connection with state := change connection.state }

/-- Let the relay decide, and hand its commands to the sink. -/
def relayCommands (inputs : BridgeInputs)
    (decide : CommandRelay → CommandRelay × List Command) : HandlerM Unit :=
  Handler.update fun connection => connection.relayed inputs.lane (decide connection.relay)

end CompanionBridge
