import CompanionBridge.Protocol.Cipher
import CompanionBridge.Protocol.Framing
import CompanionBridge.Protocol.Tlv
import CompanionBridge.State.PairingWindow

/-!
# Pair-setup and pair-verify

`CompanionServerAuth` walks one connection through the HAP exchanges. What a
handler reads from outside (the clock's limiters, the state directory, fresh
randomness) is the `AuthInputs` of the frame; what it does outside is its list
of effects, in order. The primitives are parameters, ideal where a result
depends on it.
-/

namespace CompanionBridge

/-- The only valid pre-encryption exchange positions of one connection. -/
inductive AuthenticationPhase where
  | idle | setupM3 | setupM5 | setupComplete | verifyM3 | encrypted | failed | closed
  deriving DecidableEq, Repr

inductive ErrorCode where
  | unknown | authentication | backOff | maxPeers | maxTries | unavailable | busy
  deriving DecidableEq, Repr

def ErrorCode.code : ErrorCode → UInt8
  | unknown => 1
  | authentication => 2
  | backOff => 3
  | maxPeers => 4
  | maxTries => 5
  | unavailable => 6
  | busy => 7

/-- The admission decision for a pair-setup M1. -/
structure PairSetupAttemptAdmission where
  allowed : Bool
  error : Option ErrorCode := none
  retryAfter : Nat := 0
  deriving DecidableEq, Repr

/-- The primitives. A `none` is a call that raises, except that a signature
check that raises is one that fails. -/
structure AuthCrypto where
  aead : Aead
  x25519Public : Bytes → Bytes
  x25519Exchange : Bytes → Bytes → Option Bytes
  ed25519Public : Bytes → Bytes
  ed25519Sign : Bytes → Bytes → Bytes
  ed25519Verify : Bytes → Bytes → Bytes → Bool
  hkdfExpand : String → String → Bytes → Bytes
  /-- The public value of an SRP server session. -/
  srpPublic : Nat → Bytes
  /-- Whether `process` accepts the client's public value with this salt. -/
  srpProcess : Nat → Bytes → Bytes → Bool
  srpVerifyProof : Nat → Bytes → Bytes → Option Bool
  srpKey : Nat → Bytes → Bytes
  srpKeyProofHash : Nat → Bytes → Bytes
  /-- The recursion depth the TLV reader may use. -/
  tlvDepth : Nat

/-- An SRP server session, named by the number of its allocation, and the client
value it has processed. -/
structure SrpServerSession where
  serial : Nat
  clientPublic : Option Bytes := none
  deriving DecidableEq, Repr

/-- A pairing message as the mapping that is sent. -/
structure AuthMessage where
  frameType : FrameType
  pairingData : TlvMap
  passwordType : Option Nat := none
  deriving DecidableEq

/-- How `mutate_if_current` with the store's `add_locked` ended. -/
inductive CommitOutcome where
  | added
  | notCurrent
  | full
  | raised
  deriving DecidableEq, Repr

/-- The one-use material of a Pair-Verify M1. -/
structure VerifyMaterial where
  sessionKey : Bytes
  serverPub : Bytes
  clientPub : Bytes
  outputKey : Bytes
  inputKey : Bytes
  deriving DecidableEq, Repr

/-- What a handler does besides changing its own fields. `beginVerify` and
`useVerify` only note which M1 an M3 answers. -/
inductive AuthEffect where
  | send (message : AuthMessage)
  | beginVerify (material : VerifyMaterial)
  | useVerify (material : VerifyMaterial)
  | takeAdmission
  | allocateSession (serial : Nat)
  | verifyProof (serial : Nat)
  | recordFailure
  | commit (generation identifier : String) (ltpk : Bytes)
  | enableEncryption (outputKey inputKey : Bytes)
  | hasPaired
  deriving DecidableEq

/-- A step of pair-verify: an M1 made material, an M3 used it, the cipher was installed. -/
inductive VerifyEvent where
  | began (material : VerifyMaterial)
  | used (material : VerifyMaterial)
  | installed (outputKey inputKey : Bytes)
  deriving DecidableEq, Repr

def AuthEffect.verifyEvent? : AuthEffect → Option VerifyEvent
  | .beginVerify material => some (.began material)
  | .useVerify material => some (.used material)
  | .enableEncryption outputKey inputKey => some (.installed outputKey inputKey)
  | _ => none

/-- What the handler of one frame reads from outside. -/
structure AuthInputs where
  cipherInstalled : Bool := false
  identityReset : Bool := false
  admission : PairSetupAttemptAdmission := { allowed := true }
  backoff : Nat := 0
  backoffAgain : Nat := 0
  window : Option PairingWindow := none
  /-- Number and salt of a new SRP session. -/
  session : Option (Nat × Bytes) := none
  verifyPrivate : Bytes := []
  ltpk : String → Option Bytes := fun _ => none
  commit : String → String → Bytes → CommitOutcome := fun _ _ _ => .raised

structure CompanionServerAuth where
  uniqueId : Bytes
  privateKey : Bytes
  serverIdentityGeneration : Option String := none
  authPhase : AuthenticationPhase := .idle
  setupSession : Option SrpServerSession := none
  setupSalt : Option Bytes := none
  setupPin : Option String := none
  setupWindowExpiry : Option ℚ := none
  setupWindowGeneration : Option String := none
  setupProofVerified : Bool := false
  verifiedClient : Option VerifiedClient := none
  inputKey : Option Bytes := none
  outputKey : Option Bytes := none
  pvSessionKey : Option Bytes := none
  pvServerPub : Option Bytes := none
  pvClientPub : Option Bytes := none
  deriving DecidableEq

/-- The end of a handler; `completed` is `none` when it raised. -/
structure HandlerReply where
  auth : CompanionServerAuth
  effects : List AuthEffect
  completed : Option Bool

namespace CompanionServerAuth

/-- Discard the one-use ECDH material and derived transport keys. -/
def clearVerifySession (auth : CompanionServerAuth) : CompanionServerAuth :=
  { auth with
    inputKey := none, outputKey := none, pvSessionKey := none, pvServerPub := none
    pvClientPub := none }

def clearVerifiedClient (auth : CompanionServerAuth) : CompanionServerAuth :=
  { auth with verifiedClient := none }

def clearSetupSession (auth : CompanionServerAuth) : CompanionServerAuth :=
  { auth with
    setupSession := none, setupSalt := none, setupPin := none, setupWindowExpiry := none
    setupWindowGeneration := none, setupProofVerified := false }

def clearPendingAuthState (auth : CompanionServerAuth) : CompanionServerAuth :=
  auth.clearSetupSession.clearVerifySession.clearVerifiedClient

def resetAuthenticationState (auth : CompanionServerAuth) (connectionClosed : Bool) :
    CompanionServerAuth :=
  { auth.clearPendingAuthState with authPhase := if connectionClosed then .closed else .idle }

def isEncrypted (auth : CompanionServerAuth) : Bool :=
  auth.authPhase = .encrypted

/-! ## Messages -/

def verifyError : AuthEffect :=
  .send
    { frameType := .pvNext
      pairingData :=
        [(TlvValue.seqNo, [4]), (TlvValue.error, [ErrorCode.authentication.code])] }

def setupError (seqno : UInt8) (error : ErrorCode) : AuthEffect :=
  .send
    { frameType := .psNext
      pairingData := [(TlvValue.seqNo, [seqno]), (TlvValue.error, [error.code])] }

def setupBackoff (retryAfter : Nat) : AuthEffect :=
  .send
    { frameType := .psNext
      pairingData :=
        [(TlvValue.seqNo, [2]), (TlvValue.error, [ErrorCode.backOff.code]),
          (TlvValue.backOff, littleEndian 2 retryAfter)] }

def setupAdmissionError (admission : PairSetupAttemptAdmission) : AuthEffect :=
  if admission.error = some .backOff then
    setupBackoff (if admission.retryAfter = 0 then 1 else admission.retryAfter)
  else setupError 2 (admission.error.getD .busy)

/-! ## Pair-verify -/

variable (crypto : AuthCrypto)

/-- A handler that answers and is not completed. -/
def refuse (auth : CompanionServerAuth) (effects : List AuthEffect) : HandlerReply :=
  { auth := auth, effects := effects, completed := some false }

def keepMaterial (auth : CompanionServerAuth) (material : VerifyMaterial) :
    CompanionServerAuth :=
  { auth with
    outputKey := some material.outputKey
    inputKey := some material.inputKey
    pvSessionKey := some material.sessionKey
    pvServerPub := some material.serverPub
    pvClientPub := some material.clientPub }

/-- The material held for M3. -/
def verifyMaterial (auth : CompanionServerAuth) : Option VerifyMaterial := do
  let sessionKey ← auth.pvSessionKey
  let serverPub ← auth.pvServerPub
  let clientPub ← auth.pvClientPub
  let outputKey ← auth.outputKey
  let inputKey ← auth.inputKey
  return { sessionKey, serverPub, clientPub, outputKey, inputKey }

def m1Verify (auth : CompanionServerAuth) (inputs : AuthInputs) (pairingData : TlvMap) :
    HandlerReply :=
  let cleared := auth.clearVerifySession.clearVerifiedClient
  if inputs.identityReset then cleared.refuse [verifyError]
  else
    match pairingData.lookup TlvValue.publicKey with
    | none => cleared.refuse [verifyError]
    | some clientPub =>
        match crypto.x25519Exchange inputs.verifyPrivate clientPub with
        | none => cleared.refuse [verifyError]
        -- an exchange that yields no shared key was refused above
        | some sharedKey =>
            let serverPub := crypto.x25519Public inputs.verifyPrivate
            let material : VerifyMaterial :=
              { sessionKey :=
                  crypto.hkdfExpand "Pair-Verify-Encrypt-Salt" "Pair-Verify-Encrypt-Info" sharedKey
                serverPub := serverPub
                clientPub := clientPub
                outputKey := crypto.hkdfExpand "" "ServerEncrypt-main" sharedKey
                inputKey := crypto.hkdfExpand "" "ClientEncrypt-main" sharedKey }
            let signature :=
              crypto.ed25519Sign auth.privateKey (serverPub ++ auth.uniqueId ++ clientPub)
            let proof :=
              writeTlv [(TlvValue.identifier, auth.uniqueId), (TlvValue.signature, signature)]
            let encrypted :=
              crypto.aead.encrypt material.sessionKey (padNonce "PV-Msg02".toUTF8.toList) proof []
            { auth := cleared.keepMaterial material
              effects :=
                [.beginVerify material,
                  .send
                    { frameType := .pvNext
                      pairingData :=
                        [(TlvValue.seqNo, [2]), (TlvValue.publicKey, serverPub),
                          (TlvValue.encryptedData, encrypted)] }]
              completed := some true }

/-- The client whose signature in M3 is valid; every failure denies. -/
def verifyClient (auth : CompanionServerAuth) (inputs : AuthInputs) (pairingData : TlvMap) :
    Option VerifiedClient := do
  let sessionKey ← auth.pvSessionKey
  let encrypted ← pairingData.lookup TlvValue.encryptedData
  let proof ← crypto.aead.decrypt sessionKey (padNonce "PV-Msg03".toUTF8.toList) encrypted []
  let sub ← readTlv crypto.tlvDepth proof
  let identifier ← sub.lookup TlvValue.identifier
  let identifierStr ← String.fromUTF8? ⟨identifier.toArray⟩
  let ltpk ← inputs.ltpk identifierStr
  let signature ← sub.lookup TlvValue.signature
  let clientPub ← auth.pvClientPub
  let serverPub ← auth.pvServerPub
  if crypto.ed25519Verify ltpk signature (clientPub ++ identifier ++ serverPub) then
    return ⟨identifierStr, ltpk⟩
  else failure

def m3Verify (auth : CompanionServerAuth) (inputs : AuthInputs) (pairingData : TlvMap) :
    HandlerReply :=
  let used := (auth.verifyMaterial.map AuthEffect.useVerify).toList
  match auth.verifyClient crypto inputs pairingData with
  | none => auth.clearVerifiedClient.clearVerifySession.refuse (used ++ [verifyError])
  | some client =>
      let verified := { auth with verifiedClient := some client }
      match auth.outputKey, auth.inputKey with
      | some outputKey, some inputKey =>
          let answered : List AuthEffect :=
            used ++ [.send { frameType := .pvNext, pairingData := [(TlvValue.seqNo, [4])] }]
          -- an active cipher is never reset: `enable_encryption` raises
          if inputs.cipherInstalled then
            { auth := verified, effects := answered, completed := none }
          else
            { auth := verified.clearVerifySession
              effects := answered ++ [.enableEncryption outputKey inputKey]
              completed := some true }
      | _, _ =>
          verified.clearVerifiedClient.clearVerifySession.refuse (used ++ [verifyError])

/-! ## Pair-setup -/

/-- Keep a handshake bound to the unexpired window that started it. -/
def setupWindowIsCurrent (auth : CompanionServerAuth) (inputs : AuthInputs) : Bool :=
  inputs.window.any fun window =>
    some window.pin = auth.setupPin && some window.expiresAt = auth.setupWindowExpiry &&
      auth.setupWindowGeneration.all fun generation => window.generation = generation

/-- Open the SRP session of an admitted M1. -/
def startSetup (auth : CompanionServerAuth) (inputs : AuthInputs) (window : PairingWindow)
    (effects : List AuthEffect) : HandlerReply :=
  match inputs.session with
  | none => { auth := auth, effects := effects, completed := none }
  | some (serial, salt) =>
      { auth :=
          { auth with
            setupSession := some { serial := serial }
            setupSalt := some salt
            setupPin := some window.pin
            setupWindowExpiry := some window.expiresAt
            setupWindowGeneration := some window.generation
            setupProofVerified := false }
        effects := effects ++
          [.allocateSession serial,
            .send
              { frameType := .psNext
                pairingData :=
                  [(TlvValue.seqNo, [2]), (TlvValue.salt, salt),
                    (TlvValue.publicKey, crypto.srpPublic serial), (27, [1])]
                passwordType := some 1 }]
        completed := some true }

def m1Setup (auth : CompanionServerAuth) (inputs : AuthInputs) (_pairingData : TlvMap) :
    HandlerReply :=
  let cleared := auth.clearVerifySession.clearVerifiedClient
  if inputs.admission.allowed = false then
    cleared.clearSetupSession.refuse [.takeAdmission, setupAdmissionError inputs.admission]
  else if inputs.identityReset then
    cleared.clearSetupSession.refuse [.takeAdmission, setupError 2 .authentication]
  else if inputs.backoff ≠ 0 then
    cleared.clearSetupSession.refuse [.takeAdmission, setupBackoff inputs.backoff]
  else
    match inputs.window with
    | none => cleared.clearSetupSession.refuse [.takeAdmission, setupError 2 .authentication]
    | some window =>
        if cleared.setupSession.isSome then
          -- a new M1 abandons an unfinished handshake, which counts as a failure
          let abandoned := cleared.clearSetupSession
          if inputs.backoffAgain ≠ 0 then
            abandoned.refuse [.takeAdmission, .recordFailure, setupBackoff inputs.backoffAgain]
          else abandoned.startSetup crypto inputs window [.takeAdmission, .recordFailure]
        else cleared.startSetup crypto inputs window [.takeAdmission]

/-- The error path of an M3 that proves nothing. -/
def rejectProof (auth : CompanionServerAuth) (effects : List AuthEffect) : HandlerReply :=
  auth.clearSetupSession.refuse (effects ++ [.recordFailure, setupError 4 .authentication])

def m3Setup (auth : CompanionServerAuth) (inputs : AuthInputs) (pairingData : TlvMap) :
    HandlerReply :=
  match auth.setupSession, auth.setupSalt, auth.setupProofVerified with
  | some session, some salt, false =>
      if auth.setupWindowIsCurrent inputs = false then
        auth.clearSetupSession.refuse [setupError 4 .authentication]
      else
        match pairingData.lookup TlvValue.publicKey with
        | none => auth.rejectProof []
        | some clientPublic =>
            if crypto.srpProcess session.serial clientPublic salt = false then
              auth.rejectProof []
            else
              match pairingData.lookup TlvValue.proof with
              | none => auth.rejectProof []
              | some proof =>
                  match crypto.srpVerifyProof session.serial clientPublic proof with
                  | some true =>
                      { auth :=
                          { auth with
                            setupSession := some { session with clientPublic := clientPublic }
                            setupProofVerified := true }
                        effects :=
                          [.verifyProof session.serial,
                            .send
                              { frameType := .psNext
                                pairingData :=
                                  [(TlvValue.proof,
                                    crypto.srpKeyProofHash session.serial clientPublic),
                                    (TlvValue.seqNo, [4])] }]
                        completed := some true }
                  | some false =>
                      auth.clearSetupSession.refuse
                        [.verifyProof session.serial, .recordFailure,
                          .send
                            { frameType := .psNext
                              pairingData :=
                                [(TlvValue.error, [ErrorCode.authentication.code]),
                                  (TlvValue.seqNo, [4])] }]
                  | none => auth.rejectProof [.verifyProof session.serial]
  | _, _, _ =>
      auth.clearSetupSession.refuse [.recordFailure, setupError 4 .authentication]

/-- `_server_identity_binding`: the identifier and generation of the running identity. -/
def serverIdentityBinding (auth : CompanionServerAuth) : Option (String × String) := do
  let generation ← auth.serverIdentityGeneration
  let identifier ← String.fromUTF8? ⟨auth.uniqueId.toArray⟩
  return (identifier, generation)

/-- The client a well-formed M5 enrolls, its signature checked. -/
def setupClient (sessionKey : Bytes) (clientTlv : TlvMap) : Option VerifiedClient := do
  let identifier ← clientTlv.lookup TlvValue.identifier
  let ltpk ← clientTlv.lookup TlvValue.publicKey
  let signature ← clientTlv.lookup TlvValue.signature
  guard (ltpk.length = 32)
  let identifierStr ← String.fromUTF8? ⟨identifier.toArray⟩
  let deviceX :=
    crypto.hkdfExpand "Pair-Setup-Controller-Sign-Salt" "Pair-Setup-Controller-Sign-Info" sessionKey
  guard (crypto.ed25519Verify ltpk signature (deviceX ++ identifier ++ ltpk))
  return ⟨identifierStr, ltpk⟩

/-- `_register_setup_client`: the commits it attempts, and the error it returns. -/
def registerSetupClient (auth : CompanionServerAuth) (inputs : AuthInputs) (sessionKey : Bytes)
    (clientTlv : TlvMap) : List AuthEffect × Option ErrorCode :=
  match setupClient crypto sessionKey clientTlv, auth.setupWindowGeneration,
      auth.serverIdentityBinding with
  | some client, some generation, some _ =>
      let commit : AuthEffect := .commit generation client.identifier client.ltpk
      match inputs.commit generation client.identifier client.ltpk with
      | .added => ([commit], none)
      | .full => ([commit], some .maxPeers)
      | .notCurrent | .raised => ([commit], some .authentication)
  | _, _, _ => ([], some .authentication)

/-- The record the accessory signs and encrypts in M6. -/
def accessoryProof (auth : CompanionServerAuth) (sessionKey : Bytes) (info : Bytes) : Bytes :=
  let deviceX :=
    crypto.hkdfExpand "Pair-Setup-Accessory-Sign-Salt" "Pair-Setup-Accessory-Sign-Info" sessionKey
  let publicKey := crypto.ed25519Public auth.privateKey
  let signature := crypto.ed25519Sign auth.privateKey (deviceX ++ auth.uniqueId ++ publicKey)
  writeTlv
    [(TlvValue.identifier, auth.uniqueId), (TlvValue.publicKey, publicKey),
      (TlvValue.signature, signature), (17, info)]

/-- `info` is the packed device record the source sends along. -/
def m5Setup (info : Bytes) (auth : CompanionServerAuth) (inputs : AuthInputs)
    (pairingData : TlvMap) : HandlerReply :=
  match auth.setupSession, auth.setupProofVerified with
  | some session, true =>
      if auth.setupWindowIsCurrent inputs = false then
        auth.clearSetupSession.refuse [setupError 6 .authentication]
      else
        let srpKey := crypto.srpKey session.serial (session.clientPublic.getD [])
        let sessionKey :=
          crypto.hkdfExpand "Pair-Setup-Encrypt-Salt" "Pair-Setup-Encrypt-Info" srpKey
        let client := do
          let encrypted ← pairingData.lookup TlvValue.encryptedData
          let plain ←
            crypto.aead.decrypt sessionKey (padNonce "PS-Msg05".toUTF8.toList) encrypted []
          readTlv crypto.tlvDepth plain
        match client with
        | none =>
            auth.clearSetupSession.refuse [.recordFailure, setupError 6 .authentication]
        | some clientTlv =>
            let registered := auth.registerSetupClient crypto inputs srpKey clientTlv
            match registered.2 with
            | some error =>
                let failure := if error = .authentication then [AuthEffect.recordFailure] else []
                auth.clearSetupSession.refuse (registered.1 ++ failure ++ [setupError 6 error])
            | none =>
                let encrypted :=
                  crypto.aead.encrypt sessionKey (padNonce "PS-Msg06".toUTF8.toList)
                    (auth.accessoryProof crypto srpKey info) []
                { auth := auth.clearSetupSession
                  effects := registered.1 ++
                    [.send
                      { frameType := .psNext
                        pairingData :=
                          [(TlvValue.seqNo, [6]), (TlvValue.encryptedData, encrypted)] },
                      .hasPaired]
                  completed := some true }
  | _, _ =>
      auth.clearSetupSession.refuse [.recordFailure, setupError 6 .authentication]

/-! ## The exchange -/

/-- The handler of a frame, by the phase it leads to. -/
inductive AuthHandler where
  | m1Setup | m3Setup | m5Setup | m1Verify | m3Verify
  deriving DecidableEq, Repr

def AuthHandler.nextPhase : AuthHandler → AuthenticationPhase
  | m1Setup => .setupM3
  | m3Setup => .setupM5
  | m5Setup => .setupComplete
  | m1Verify => .verifyM3
  | m3Verify => .encrypted

def nextAuthTransition (phase : AuthenticationPhase) (frameType : FrameType) (seqno : UInt8) :
    Option AuthHandler :=
  match phase, frameType, seqno with
  | .idle, .psStart, 1 => some .m1Setup
  | .idle, .pvStart, 1 => some .m1Verify
  | .setupM3, .psNext, 3 => some .m3Setup
  | .setupM5, .psNext, 5 => some .m5Setup
  | .setupComplete, .pvStart, 1 => some .m1Verify
  | .verifyM3, .pvNext, 3 => some .m3Verify
  | .verifyM3, .psStart, 1 => some .m1Setup
  | _, _, _ => none

def runHandler (info : Bytes) (auth : CompanionServerAuth) (handler : AuthHandler)
    (inputs : AuthInputs) (pairingData : TlvMap) : HandlerReply :=
  match handler with
  | .m1Setup => auth.m1Setup crypto inputs pairingData
  | .m3Setup => auth.m3Setup crypto inputs pairingData
  | .m5Setup => auth.m5Setup crypto info inputs pairingData
  | .m1Verify => auth.m1Verify crypto inputs pairingData
  | .m3Verify => auth.m3Verify crypto inputs pairingData

/-- `_decode_auth_frame` of the `_pd` bytes; `none` is a payload without them. -/
def decodeAuthFrame (pairingBlob : Option Bytes) : Option (TlvMap × UInt8) := do
  let blob ← pairingBlob
  let pairingData ← readTlv crypto.tlvDepth blob
  match pairingData.lookup TlvValue.seqNo with
  | some [seqno] => return (pairingData, seqno)
  | _ => failure

/-- The sequence number an error for `seqno` answers with. -/
def rejectSeqno : Option UInt8 → UInt8
  | none => 2
  | some seqno => if seqno ≤ 1 then 2 else if seqno ≤ 3 then 4 else 6

/-- Erase all reusable material and answer an invalid transition. -/
def rejectAuthTransition (auth : CompanionServerAuth) (frameType : FrameType)
    (seqno : Option UInt8) (effects : List AuthEffect) : HandlerReply :=
  let failed := { auth.clearPendingAuthState with authPhase := .failed }
  if frameType = .psStart ∨ frameType = .psNext then
    failed.refuse (effects ++ [.recordFailure, setupError (rejectSeqno seqno) .authentication])
  else failed.refuse (effects ++ [verifyError])

/-- Advance exactly one valid transition. -/
def handleAuthFrame (info : Bytes) (auth : CompanionServerAuth) (inputs : AuthInputs)
    (frameType : FrameType) (pairingBlob : Option Bytes) : HandlerReply :=
  if auth.isEncrypted then auth.refuse []
  else
    match decodeAuthFrame crypto pairingBlob with
    | none => auth.rejectAuthTransition frameType none []
    | some (pairingData, seqno) =>
        match nextAuthTransition auth.authPhase frameType seqno with
        | none => auth.rejectAuthTransition frameType (some seqno) []
        -- the handler runs only where the phase allows the transition
        | some handler =>
            let reply := auth.runHandler crypto info handler inputs pairingData
            match reply.completed with
            | none => reply.auth.rejectAuthTransition frameType (some seqno) reply.effects
            -- a refusal ends the attempt: what was pending is dropped
            | some false =>
                { reply with
                  auth := { reply.auth.clearPendingAuthState with authPhase := .failed } }
            | some true => { reply with auth := { reply.auth with authPhase := handler.nextPhase } }

end CompanionServerAuth

end CompanionBridge
