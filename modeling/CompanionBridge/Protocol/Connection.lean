import CompanionBridge.Library.Machine
import CompanionBridge.Protocol.Auth

/-!
# One Companion connection

`FakeCompanionService` parses the byte stream, decrypts, authenticates and hands
messages to their handlers. A handler of a message is known here by what it does
to the connection: the frames it sends, whether it closes the connection and
whether it raises. The same goes for the OPACK codec, whose results are inputs.

Four fields are bookkeeping the source does not have: `written` records the
frames given to the transport, `inbound` what became of each frame received
while the cipher was installed, `exchanges` the steps of pair-verify, and
`handled` counts the message handlers that ran.
-/

namespace CompanionBridge

inductive Transport where
  | up
  /-- `close` was called; nothing is delivered or sent any more. -/
  | closing
  | gone
  deriving DecidableEq, Repr

/-- A frame given to the transport. `nonce` is the counter it was sealed with. -/
structure WrittenFrame where
  header : Bytes
  payload : Bytes
  nonce : Option Nat
  deriving DecidableEq, Repr

/-- What became of a frame received on an encrypted connection. An opened frame
was handed to the AEAD with the nonce of a counter. -/
inductive InboundFrame where
  | keepalive
  | opened (nonce : Nat) (header payload : Bytes) (plaintext : Option Bytes)
  | refused (header payload : Bytes)
  deriving DecidableEq, Repr

/-- What the handler of a message does to its connection; `none` is a value OPACK
cannot encode. -/
inductive MessageAction where
  | send (frameType : FrameType) (encoded : Option Bytes)
  | close
  /-- The handler reports its message as malformed and goes on. -/
  | malformed

/-- A decoded OPACK payload, as far as the connection looks at it. -/
structure UnpackedFrame where
  /-- The `_pd` bytes of a mapping that has them. -/
  pairingBlob : Option Bytes := none
  /-- A response correlated by its transaction id alone, which needs no reply. -/
  startupResponse : Bool := false
  actions : List MessageAction := []
  raised : Bool := false

/-- What the connection reads from outside while it handles one frame. -/
structure FrameInputs where
  authorized : Bool := true
  unpacked : Option UnpackedFrame := none
  auth : AuthInputs := {}

/-- The code a connection rests on. -/
structure ConnectionExternals where
  crypto : AuthCrypto
  /-- OPACK of a pairing message. -/
  packMessage : AuthMessage → Bytes
  /-- The packed device record of M6. -/
  accessoryInfo : Bytes

structure FakeCompanionService where
  auth : CompanionServerAuth
  frameParser : FrameParser := {}
  chacha : Option Chacha20Cipher := none
  transport : Transport := .up
  admitted : Bool := true
  connectionClosed : Bool := false
  malformedFrames : Nat := 0
  written : List WrittenFrame := []
  inbound : List InboundFrame := []
  exchanges : List VerifyEvent := []
  handled : Nat := 0
  deriving DecidableEq

def malformedFrameLimit : Nat := 3

namespace FakeCompanionService

def isConnectionActive (service : FakeCompanionService) : Bool :=
  !service.connectionClosed && service.admitted && service.transport = .up

def closeConnection (service : FakeCompanionService) : FakeCompanionService :=
  { service with
    frameParser := service.frameParser.clear
    transport := if service.transport = .up then .closing else service.transport }

/-- The result of `transport is None or not transport.is_closing()`. -/
def stillOpen (service : FakeCompanionService) : Bool :=
  service.transport ≠ .closing

def write (service : FakeCompanionService) (frame : WrittenFrame) : FakeCompanionService :=
  if service.transport = .up then { service with written := service.written ++ [frame] }
  else service

/-- `send_to_client` of an encoded value, and whether it raised. -/
def sendToClient (aead : Aead) (service : FakeCompanionService) (frameType : FrameType)
    (encoded : Option Bytes) : FakeCompanionService × Bool :=
  match encoded with
  | none => (service, true)
  | some encoded =>
      if maxApplicationPayload < encoded.length then (service, false)
      else
        match service.chacha with
        | none =>
            let header := frameHeader frameType encoded.length
            (service.write { header := header, payload := encoded, nonce := none }, false)
        | some cipher =>
            let header := frameHeader frameType (encoded.length + 16)
            -- the counter moves only when the payload was sealed
            match cipher.encrypt aead encoded header with
            | none => (service, true)
            | some (sealed, next) =>
                ({ service with chacha := some next }.write
                  { header := header, payload := sealed, nonce := some cipher.outCounter }, false)

def malformedFrame (service : FakeCompanionService) : FakeCompanionService × Bool :=
  let counted := { service with malformedFrames := service.malformedFrames + 1 }
  if malformedFrameLimit ≤ counted.malformedFrames then (counted.closeConnection, false)
  else (counted, true)

/-- Apply what an authentication handler did. -/
def applyEffect (externals : ConnectionExternals) (service : FakeCompanionService)
    (effect : AuthEffect) : FakeCompanionService :=
  let noted := { service with exchanges := service.exchanges ++ effect.verifyEvent?.toList }
  match effect with
  | .send message =>
      (noted.sendToClient externals.crypto.aead message.frameType
        (some (externals.packMessage message))).1
  | .enableEncryption outputKey inputKey =>
      { noted with chacha := some { outKey := outputKey, inKey := inputKey } }
  | _ => noted

def applyEffects (externals : ConnectionExternals) (service : FakeCompanionService)
    (effects : List AuthEffect) : FakeCompanionService :=
  effects.foldl (applyEffect externals) service

/-- Hand a frame to the authentication exchange. -/
def handleAuth (externals : ConnectionExternals) (service : FakeCompanionService)
    (frameType : FrameType) (unpacked : UnpackedFrame) (inputs : AuthInputs) :
    FakeCompanionService × Bool :=
  let reply := service.auth.handleAuthFrame externals.crypto externals.accessoryInfo
    { inputs with cipherInstalled := service.chacha.isSome } frameType unpacked.pairingBlob
  let advanced := { service with auth := reply.auth }.applyEffects externals reply.effects
  if reply.completed = some true then (advanced, advanced.stillOpen)
  else (advanced.closeConnection, false)

/-- Perform what a message handler does until it raises. -/
def performActions (aead : Aead) (service : FakeCompanionService) :
    List MessageAction → FakeCompanionService × Bool
  | [] => (service, false)
  | .close :: rest => service.closeConnection.performActions aead rest
  | .malformed :: rest => service.malformedFrame.1.performActions aead rest
  | .send frameType encoded :: rest =>
      let sent := service.sendToClient aead frameType encoded
      if sent.2 then (sent.1, true) else sent.1.performActions aead rest

/-- Decode a plaintext payload and hand it on. -/
def handlePayload (externals : ConnectionExternals) (service : FakeCompanionService)
    (frameType : FrameType) (payload : Bytes) (inputs : FrameInputs) :
    FakeCompanionService × Bool :=
  if maxApplicationPayload < payload.length then (service.closeConnection, false)
  else
    match inputs.unpacked with
    | none => service.malformedFrame
    | some unpacked =>
        if frameType.isAuth then service.handleAuth externals frameType unpacked inputs.auth
        -- no application frame is served before the session is encrypted
        else if service.chacha.isNone then service.malformedFrame
        else if unpacked.startupResponse then (service, service.stillOpen)
        else
          let performed := { service with handled := service.handled + 1 }.performActions
            externals.crypto.aead unpacked.actions
          -- what a handler did before it raised stays done
          if performed.2 || unpacked.raised then performed.1.malformedFrame
          else (performed.1, performed.1.stillOpen)

/-- Record what became of a frame received under encryption. -/
def receiveFrame (service : FakeCompanionService) (frame : InboundFrame) : FakeCompanionService :=
  { service with inbound := service.inbound ++ [frame] }

/-- A frame of an encrypted connection that is not an authentication frame. -/
def handleSealed (externals : ConnectionExternals) (service : FakeCompanionService)
    (cipher : Chacha20Cipher) (frameType : FrameType) (header payload : Bytes)
    (inputs : FrameInputs) : FakeCompanionService × Bool :=
  -- a revoked client is closed before its frame is opened
  if inputs.authorized = false then
    ((service.receiveFrame (.refused header payload)).closeConnection, false)
  -- a keepalive is neither opened nor counted
  else if frameType = .noOp ∧ payload = [] then
    (service.receiveFrame .keepalive, service.stillOpen)
  else
    let opened := cipher.decrypt externals.crypto.aead payload header
    let recorded : InboundFrame :=
      if (counterNonce cipher.inCounter).isSome then
        .opened cipher.inCounter header payload opened.2
      else .refused header payload
    let received := { service with chacha := some opened.1 }.receiveFrame recorded
    match opened.2 with
    | none => (received.closeConnection, false)
    | some plaintext => received.handlePayload externals frameType plaintext inputs

/-- `_handle_frame`: the connection afterwards, and whether it goes on. -/
def handleFrame (externals : ConnectionExternals) (service : FakeCompanionService)
    (header payload : Bytes) (inputs : FrameInputs) : FakeCompanionService × Bool :=
  match FrameType.ofCode? (header.headD 0) with
  | none => service.malformedFrame
  | some frameType =>
      if frameType.isAuth ∧ (service.chacha.isSome ∨ service.auth.isEncrypted) then
        ((service.receiveFrame (.refused header payload)).closeConnection, false)
      else if maxApplicationPayload < payload.length ∧
          (service.chacha.isNone ∨ frameType.isAuth) then
        (service.closeConnection, false)
      else
        match service.chacha with
        | some cipher => service.handleSealed externals cipher frameType header payload inputs
        | none => service.handlePayload externals frameType payload inputs

/-- Consume the frames of a chunk until one stops the connection. Every frame
takes a byte of it, so its length bounds their number. -/
def receive (externals : ConnectionExternals) :
    Nat → FakeCompanionService → Bytes → (Nat → FrameInputs) → FakeCompanionService
  | 0, service, _, _ => service
  | fuel + 1, service, incoming, inputs =>
      match service.frameParser.next incoming with
      | (parser, .needMore) => { service with frameParser := parser }
      | (parser, .tooLarge _) => { service with frameParser := parser }.closeConnection
      | (parser, .frame header payload rest) =>
          let handled :=
            { service with frameParser := parser }.handleFrame externals header payload (inputs 0)
          if handled.2 then receive externals fuel handled.1 rest fun n => inputs (n + 1)
          else handled.1

def dataReceived (externals : ConnectionExternals) (service : FakeCompanionService)
    (chunk : Bytes) (inputs : Nat → FrameInputs) : FakeCompanionService :=
  if service.isConnectionActive then receive externals chunk.length service chunk inputs
  else service

def teardownConnection (service : FakeCompanionService) : FakeCompanionService :=
  if service.connectionClosed then service
  else
    { service with
      connectionClosed := true
      frameParser := service.frameParser.clear
      transport := .gone
      chacha := none
      auth := service.auth.resetAuthenticationState true
      admitted := false }

def authenticationTimedOut (service : FakeCompanionService) : FakeCompanionService :=
  if service.chacha.isNone then service.closeConnection else service

end FakeCompanionService

/-- An event of one connection: bytes from the peer, a device push or a deferred
response, and the ways it ends. -/
inductive ConnectionLabel where
  | dataReceived (chunk : Bytes) (inputs : Nat → FrameInputs)
  | push (frameType : FrameType) (encoded : Option Bytes)
  | closeConnection
  | authenticationTimedOut
  | teardownConnection

namespace FakeCompanionService

def step (externals : ConnectionExternals) (service : FakeCompanionService) :
    ConnectionLabel → Option FakeCompanionService
  | .dataReceived chunk inputs => some (service.dataReceived externals chunk inputs)
  | .push frameType encoded => some (service.sendToClient externals.crypto.aead frameType encoded).1
  | .closeConnection => some service.closeConnection
  | .authenticationTimedOut => some service.authenticationTimedOut
  | .teardownConnection => some service.teardownConnection

/-- `connection_made` of an admitted peer. -/
def connectionMade (auth : CompanionServerAuth) : FakeCompanionService :=
  { auth := auth.resetAuthenticationState false }

end FakeCompanionService

end CompanionBridge
