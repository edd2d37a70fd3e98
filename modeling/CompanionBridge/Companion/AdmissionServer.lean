import CompanionBridge.Companion.BridgeFrames
import CompanionBridge.Protocol.AuthPhases
import CompanionBridge.Protocol.Guardrails

/-!
# Connections under admission

The connections of one server with the admission they share. A connection is
created by the factory, made once by the event loop, and torn down by
`connection_lost` or `shutdown`, whichever comes first; a shutdown may come
before it is made. Three fields are bookkeeping the source does not have:
`answer` keeps what `acquire` said, `released` counts the slots given back, and
`handled` has the frames handed to `_handle_frame`.
-/

namespace CompanionBridge

/-- A connection of the server, and its dealings with the admission. -/
structure AdmissionPeer where
  connection : BridgeConnection
  /-- Once the connection was made: the reason it was refused for, if any. -/
  answer : Option (Option String) := none
  released : Nat := 0
  handled : List HandledFrame := []

namespace AdmissionPeer

def isGranted (peer : AdmissionPeer) : Bool :=
  peer.answer = some none

def isRefused (peer : AdmissionPeer) : Bool :=
  peer.answer.any Option.isSome

/-- An admitted connection that is not torn down. -/
def isServed (peer : AdmissionPeer) : Bool :=
  peer.isGranted && !peer.connection.service.connectionClosed

/-- A served connection without a cipher. -/
def isUnauthenticated (peer : AdmissionPeer) : Bool :=
  peer.isServed && peer.connection.service.chacha.isNone

end AdmissionPeer

structure AdmissionServer where
  admission : ConnectionAdmission := {}
  peers : List AdmissionPeer := []

inductive AdmissionLabel where
  /-- The factory creates a connection. -/
  | created (auth : CompanionServerAuth) (gestureConfig : GestureConfig)
      (holdConfig : DirectionalHoldConfig) (laneInstalled : Bool) (state : FakeCompanionState)
  | connectionMade (peer : Nat)
  /-- Bytes, a push, a server-side close, the deadline or `connection_lost`. -/
  | event (peer : Nat) (event : BridgeEvent)
  | shutdown (peer : Nat)

/-- The connection an event is about. -/
def AdmissionLabel.peer? : AdmissionLabel → Option Nat
  | .created .. => none
  | .connectionMade peer | .event peer _ | .shutdown peer => some peer

/-- `__init__`, before the event loop has made the connection. -/
def BridgeConnection.created (auth : CompanionServerAuth) (gestureConfig : GestureConfig)
    (holdConfig : DirectionalHoldConfig) (laneInstalled : Bool) (state : FakeCompanionState) :
    BridgeConnection where
  service := { auth := auth, transport := .gone, admitted := false }
  state := state
  relay := { swipe := { config := gestureConfig }, holdConfig := holdConfig }
  laneInstalled := laneInstalled

/-- Whether `enable_encryption` ran between two states of a connection. -/
def encryptionEnabled (before after : BridgeConnection) : Bool :=
  (after.service.exchanges.drop before.service.exchanges.length).any VerifyEvent.isInstalled

namespace AdmissionServer

variable (externals : BridgeExternals)

/-- `connection_made`. The connection was neither relaying nor serving a session
before, so it starts as a fresh one does. -/
def connectionMade (server : AdmissionServer) (peer : Nat) (served : AdmissionPeer) :
    AdmissionServer :=
  let acquired := server.admission.acquire peer
  let connection := served.connection
  { admission := acquired.1
    peers :=
      server.peers.set peer
        { served with
          connection :=
            BridgeConnection.connectionMade connection.service.auth connection.relay.swipe.config
              connection.relay.holdConfig connection.laneInstalled connection.state
              acquired.2.isNone
          answer := some acquired.2 } }

/-- `_teardown_connection` and what follows it. -/
def teardownConnection (server : AdmissionServer) (peer : Nat) (served : AdmissionPeer) :
    AdmissionServer :=
  if served.connection.service.connectionClosed then server
  else
    { admission := server.admission.release peer
      peers :=
        server.peers.set peer
          { served with
            connection := served.connection.connectionLost
            released := served.released + if peer ∈ server.admission.connections then 1 else 0 } }

/-- An event that does not tear the connection down. `enable_encryption` tells
the admission, which nothing else looks at while a frame is handled. -/
def handle (server : AdmissionServer) (peer : Nat) (served : AdmissionPeer) (event : BridgeEvent) :
    AdmissionServer :=
  let stepped := served.connection.step externals event
  { admission :=
      if encryptionEnabled served.connection stepped.1 then server.admission.authenticated peer
      else server.admission
    peers :=
      server.peers.set peer
        { served with connection := stepped.1, handled := served.handled ++ stepped.2 } }

/-- `shutdown`: the dispatch session ends first. -/
def shutdown (server : AdmissionServer) (peer : Nat) (served : AdmissionPeer) : AdmissionServer :=
  let quieted :=
    { served with connection := served.connection.invalidateRepeaters.endDispatchSession }
  { server with peers := server.peers.set peer quieted }.teardownConnection peer quieted

/-- One event; an event of a connection that does not exist, or that is made
twice, does not happen. -/
def step (server : AdmissionServer) : AdmissionLabel → AdmissionServer
  | .created auth gestureConfig holdConfig laneInstalled state =>
      { server with
        peers := server.peers ++
          [{ connection := .created auth gestureConfig holdConfig laneInstalled state }] }
  | .connectionMade peer =>
      match server.peers[peer]? with
      | none => server
      -- a peer is asked for admission once
      | some served => if served.answer.isSome then server else server.connectionMade peer served
  | .event peer event =>
      match server.peers[peer]? with
      | none => server
      | some served =>
          match event with
          -- the loss of the transport gives the admission back
          | .connectionLost => server.teardownConnection peer served
          | event => server.handle externals peer served event
  | .shutdown peer =>
      match server.peers[peer]? with
      | none => server
      | some served => server.shutdown peer served

def run (server : AdmissionServer) (labels : List AdmissionLabel) : AdmissionServer :=
  labels.foldl (step externals) server

end AdmissionServer

end CompanionBridge
