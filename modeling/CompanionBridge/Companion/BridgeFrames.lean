import CompanionBridge.Companion.MessageHandlers
import CompanionBridge.Protocol.AuthPhases
import CompanionBridge.Protocol.PeerStream

/-!
# Frames of a bridge connection

The frame loop of `FakeCompanionService`, from the chunk to the handler of each
message. The loop also returns what the source does not record: the frames it
handed to `_handle_frame`, with the connection before and after each.
-/

namespace CompanionBridge

/-- The `_pd` bytes of a mapping that has them. -/
def pairingBlob : OpackValue → Option Bytes
  | .dict entries =>
      match OpackValue.lookup "_pd" entries with
      | some (.scalar (.bytes blob)) => some blob
      | _ => none
  | _ => none

/-- A frame the loop handed on, and whether the loop went on after it. -/
structure HandledFrame where
  before : BridgeConnection
  header : Bytes
  payload : Bytes
  inputs : BridgeInputs
  after : BridgeConnection
  continued : Bool

namespace BridgeConnection

variable (externals : BridgeExternals)

def countHandled (connection : BridgeConnection) : BridgeConnection :=
  { connection with
    service := { connection.service with handled := connection.service.handled + 1 } }

/-- Hand a decoded message of an encrypted connection to its handler. -/
def handleMessage (connection : BridgeConnection) (message : OpackValue) (inputs : BridgeInputs) :
    BridgeConnection × Bool :=
  if isStartupResponse message then (connection, connection.stillOpen)
  else
    match (dispatchMessage externals inputs message).perform connection.countHandled with
    | (.ok _, after) => (after, after.stillOpen)
    | (.error _, after) => after.malformedFrame

/-- Hand a frame to the authentication exchange. -/
def handleAuth (connection : BridgeConnection) (frameType : FrameType) (message : OpackValue)
    (inputs : AuthInputs) : BridgeConnection × Bool :=
  let service := connection.service
  let reply := service.auth.handleAuthFrame externals.connection.crypto
    externals.connection.accessoryInfo { inputs with cipherInstalled := service.chacha.isSome }
    frameType (pairingBlob message)
  let advanced :=
    { connection with
      service := { service with auth := reply.auth }.applyEffects externals.connection
        reply.effects }
  if reply.completed = some true then (advanced, advanced.stillOpen)
  else (advanced.closeConnection, false)

/-- Decode a plaintext payload and hand it on. -/
def handlePayload (connection : BridgeConnection) (frameType : FrameType) (payload : Bytes)
    (inputs : BridgeInputs) : BridgeConnection × Bool :=
  if maxApplicationPayload < payload.length then (connection.closeConnection, false)
  else
    match unpack externals.unpackDepth payload with
    | none => connection.malformedFrame
    | some (message, _) =>
        if frameType.isAuth then connection.handleAuth externals frameType message inputs.auth
        else if connection.service.chacha.isNone then connection.malformedFrame
        else connection.handleMessage externals message inputs

/-- Record what became of a frame received under encryption. -/
def receiveFrame (connection : BridgeConnection) (frame : InboundFrame) : BridgeConnection :=
  { connection with service := connection.service.receiveFrame frame }

/-- Decrypt a payload: the connection with its counter moved, and the plaintext. -/
def openFrame (connection : BridgeConnection) (cipher : Chacha20Cipher) (header payload : Bytes) :
    BridgeConnection × Option Bytes :=
  let opened := cipher.decrypt externals.connection.crypto.aead payload header
  let recorded : InboundFrame :=
    if (counterNonce cipher.inCounter).isSome then
      .opened cipher.inCounter header payload opened.2
    else .refused header payload
  ({ connection with
      service := { connection.service with chacha := some opened.1 }.receiveFrame recorded },
    opened.2)

/-- A frame of an encrypted connection that is not an authentication frame. -/
def handleSealed (connection : BridgeConnection) (cipher : Chacha20Cipher) (frameType : FrameType)
    (header payload : Bytes) (inputs : BridgeInputs) : BridgeConnection × Bool :=
  if inputs.authorized = false then
    ((connection.receiveFrame (.refused header payload)).closeConnection, false)
  else if frameType = .noOp ∧ payload = [] then
    (connection.receiveFrame .keepalive, connection.stillOpen)
  else
    match connection.openFrame externals cipher header payload with
    | (received, none) => (received.closeConnection, false)
    | (received, some plaintext) => received.handlePayload externals frameType plaintext inputs

/-- `_handle_frame`: the connection afterwards, and whether it goes on. -/
def handleFrame (connection : BridgeConnection) (header payload : Bytes) (inputs : BridgeInputs) :
    BridgeConnection × Bool :=
  match FrameType.ofCode? (header.headD 0) with
  | none => connection.malformedFrame
  | some frameType =>
      if frameType.isAuth ∧
          (connection.service.chacha.isSome ∨ connection.service.auth.isEncrypted) then
        ((connection.receiveFrame (.refused header payload)).closeConnection, false)
      else if maxApplicationPayload < payload.length ∧
          (connection.service.chacha.isNone ∨ frameType.isAuth) then
        (connection.closeConnection, false)
      else
        match connection.service.chacha with
        | some cipher => connection.handleSealed externals cipher frameType header payload inputs
        | none => connection.handlePayload externals frameType payload inputs

def setParser (connection : BridgeConnection) (parser : FrameParser) : BridgeConnection :=
  { connection with service := { connection.service with frameParser := parser } }

/-- Consume the frames of a chunk until one stops the connection. Every frame
takes a byte of it, so its length bounds their number. -/
def receive : Nat → BridgeConnection → Bytes → (Nat → BridgeInputs) →
    BridgeConnection × List HandledFrame
  | 0, connection, _, _ => (connection, [])
  | fuel + 1, connection, incoming, inputs =>
      match connection.service.frameParser.next incoming with
      | (parser, .needMore) => (connection.setParser parser, [])
      | (parser, .tooLarge _) => ((connection.setParser parser).closeConnection, [])
      | (parser, .frame header payload rest) =>
          let before := connection.setParser parser
          let handled := before.handleFrame externals header payload (inputs 0)
          let frame : HandledFrame :=
            ⟨before, header, payload, inputs 0, handled.1, handled.2⟩
          -- bytes after a frame that closed the connection are not read
          if handled.2 then
            let received := receive fuel handled.1 rest fun n => inputs (n + 1)
            (received.1, frame :: received.2)
          else (handled.1, [frame])

/-- `data_received`, with the frames it handled. -/
def dataReceived (connection : BridgeConnection) (chunk : Bytes) (inputs : Nat → BridgeInputs) :
    BridgeConnection × List HandledFrame :=
  if connection.isConnectionActive then receive externals chunk.length connection chunk inputs
  else (connection, [])

end BridgeConnection

/-! ## The life of a connection -/

/-- An event of one connection. -/
inductive BridgeEvent where
  | dataReceived (chunk : Bytes) (inputs : Nat → BridgeInputs)
  /-- Another connection changed the device state. -/
  | stateChanged (state : FakeCompanionState)
  /-- `system_status` was assigned. -/
  | systemStatus (status : Nat)
  /-- The TV focused or left a text field. -/
  | imeStart
  | imeEnd
  | closeConnection
  | authenticationTimedOut
  | connectionLost

/-- `FakeCompanionSessionState.detach`. -/
def FakeCompanionSessionState.detach (_ : FakeCompanionSessionState) : FakeCompanionSessionState :=
  { rtiFocusState := .unfocused, rtiText := none }

namespace BridgeConnection

variable (externals : BridgeExternals)

/-- The `system_status` setter, as far as it reaches this connection. -/
def pushSystemStatus (connection : BridgeConnection) (status : Nat) : BridgeConnection :=
  let changed := { connection with state := { connection.state with systemStatus := status } }
  if changed.state.systemStatusSupported ∧ changed.isConnectionActive then
    (changed.sendToClient externals .eOpack
      (eventMessage (.ofStr "SystemStatus") (.ofInt 1234)
        (.dict [(.ofStr "state", .ofInt status)]))).1
  else changed

/-- Whether `active_rti_sessions` has the session of this connection. -/
def isActiveRtiSession (connection : BridgeConnection) : Bool :=
  connection.session.rtiRegistered && connection.session.rtiSessionUuid.isSome &&
    connection.isConnectionActive

/-- The TV entered a text field: clear the text and show the keyboard. -/
def imeStart (connection : BridgeConnection) : BridgeConnection :=
  if connection.isActiveRtiSession ∧ connection.session.rtiFocusState ≠ .focused then
    ((setRtiFocusState externals .focused).perform
      { connection with session := { connection.session with rtiText := some "" } }).2
  else connection

def imeEnd (connection : BridgeConnection) : BridgeConnection :=
  if connection.isActiveRtiSession then
    ((setRtiFocusState externals .unfocused).perform connection).2
  else connection

def authenticationTimedOut (connection : BridgeConnection) : BridgeConnection :=
  if connection.service.chacha.isNone then connection.closeConnection else connection

/-- `connection_lost`, or `shutdown` before it. -/
def connectionLost (connection : BridgeConnection) : BridgeConnection :=
  if connection.service.connectionClosed then connection
  else
    { connection.invalidateRepeaters.endDispatchSession with
      service := connection.service.teardownConnection
      session := connection.session.detach }

/-- One event, with the frames it handled. -/
def step (connection : BridgeConnection) : BridgeEvent → BridgeConnection × List HandledFrame
  | .dataReceived chunk inputs => connection.dataReceived externals chunk inputs
  | .stateChanged state => ({ connection with state := state }, [])
  | .systemStatus status => (connection.pushSystemStatus externals status, [])
  | .imeStart => (connection.imeStart externals, [])
  | .imeEnd => (connection.imeEnd externals, [])
  | .closeConnection => (connection.closeConnection, [])
  | .authenticationTimedOut => (connection.authenticationTimedOut, [])
  | .connectionLost => (connection.connectionLost, [])

/-- A sequence of events, with the frames handled during it. -/
def run (connection : BridgeConnection) : List BridgeEvent → BridgeConnection × List HandledFrame
  | [] => (connection, [])
  | event :: rest =>
      let stepped := connection.step externals event
      let finished := run stepped.1 rest
      (finished.1, stepped.2 ++ finished.2)

/-- `connection_made`; a peer that is refused admission is closed at once. -/
def connectionMade (auth : CompanionServerAuth) (gestureConfig : GestureConfig)
    (holdConfig : DirectionalHoldConfig) (laneInstalled : Bool) (state : FakeCompanionState)
    (admitted : Bool) : BridgeConnection :=
  { service :=
      if admitted then FakeCompanionService.connectionMade auth
      else { FakeCompanionService.connectionMade auth with admitted := false, transport := .closing }
    state := state
    relay := { swipe := { config := gestureConfig }, holdConfig := holdConfig }
    laneInstalled := laneInstalled }

end BridgeConnection

/-! ## A session that can be evaluated -/

def transparentBridge : BridgeExternals where
  connection := FakeCompanionService.transparentExternals
  text := { CaseTable.ascii with decimal := decimalValue }
  packDepth := 20
  unpackDepth := 20
  loadPlist _ := none
  dumpRti _ _ := []
  plistText _ := .ok ""

def newConnection : BridgeConnection :=
  BridgeConnection.connectionMade { uniqueId := [3], privateKey := [4] } {} {} true {} true

/-- A phone whose key is stored runs pair-verify. -/
def pairVerifyEvents : List BridgeEvent :=
  let phone : Bytes := [112, 104, 111, 110, 101]
  let proof := writeTlv
    [(TlvValue.identifier, phone), (TlvValue.signature, [1, 2] ++ ([9] ++ phone ++ [7]))]
  let encrypted := Aead.tagged.encrypt [7, 9] (padNonce "PV-Msg03".toUTF8.toList) proof []
  let m1 := writeTlv [(TlvValue.seqNo, [1]), (TlvValue.publicKey, [9])]
  let m3 := writeTlv [(TlvValue.seqNo, [3]), (TlvValue.encryptedData, encrypted)]
  let chunk := fun frameType blob =>
    let payload := (pack 20 (.dict [(.ofStr "_pd", .scalar (.bytes blob))])).getD []
    frameHeader frameType payload.length ++ payload
  [.dataReceived (chunk .pvStart m1) fun _ => { auth := { verifyPrivate := [7] } },
    .dataReceived (chunk .pvNext m3) fun _ =>
      { auth := { ltpk := fun client => if client = "phone" then some [1, 2] else none } }]

/-- The frames of the phone from the `counter`-th sealed one on. -/
def sealedMessages (counter : Nat) (messages : List OpackValue) : Bytes :=
  (peerStream Aead.tagged [7, 9] counter
    (messages.map fun message => .message .eOpack ((pack 20 message).getD []))).getD []

end CompanionBridge
