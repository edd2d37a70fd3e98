import CompanionBridge.Protocol.Auth

/-!
# What an authentication frame leaves behind

Every exit of a handler erases exactly the material that its next phase does not
use: SRP state outside a setup under way, ephemeral keys outside the wait for a
verify M3. The results here say so for one frame.
-/

namespace CompanionBridge

/-- The pair-verify part of what a handler did. -/
def HandlerReply.exchange (reply : HandlerReply) : List VerifyEvent :=
  reply.effects.filterMap AuthEffect.verifyEvent?

/-- The decrypted M3 names a client and its signature over the ephemeral keys is
valid under the key stored for that client. -/
def ValidProof (crypto : AuthCrypto) (ltpk : String → Option Bytes) (material : VerifyMaterial)
    (pairingData : TlvMap) (client : VerifiedClient) : Prop :=
  ∃ encrypted proof sub identifier signature,
    pairingData.lookup TlvValue.encryptedData = some encrypted ∧
    crypto.aead.decrypt material.sessionKey (padNonce "PV-Msg03".toUTF8.toList) encrypted [] =
      some proof ∧
    readTlv crypto.tlvDepth proof = some sub ∧
    sub.lookup TlvValue.identifier = some identifier ∧
    String.fromUTF8? ⟨identifier.toArray⟩ = some client.identifier ∧
    ltpk client.identifier = some client.ltpk ∧
    sub.lookup TlvValue.signature = some signature ∧
    crypto.ed25519Verify client.ltpk signature
      (material.clientPub ++ identifier ++ material.serverPub) = true

namespace CompanionServerAuth

variable {crypto : AuthCrypto} {info : Bytes} {auth : CompanionServerAuth} {inputs : AuthInputs}
  {pairingData : TlvMap}

/-! ## What is erased -/

/-- No SRP session state is held. -/
structure SetupErased (auth : CompanionServerAuth) : Prop where
  session : auth.setupSession = none
  salt : auth.setupSalt = none
  pin : auth.setupPin = none
  expiry : auth.setupWindowExpiry = none
  generation : auth.setupWindowGeneration = none
  proof : auth.setupProofVerified = false

/-- No ephemeral verify material and no derived keys are held. -/
structure VerifyErased (auth : CompanionServerAuth) : Prop where
  inputKey : auth.inputKey = none
  outputKey : auth.outputKey = none
  sessionKey : auth.pvSessionKey = none
  serverPub : auth.pvServerPub = none
  clientPub : auth.pvClientPub = none

/-- The phases that hold SRP state. -/
def InSetup (auth : CompanionServerAuth) : Prop :=
  auth.authPhase = .setupM3 ∨ auth.authPhase = .setupM5

/-- Material exists only in the phases that use it. -/
structure PhaseInvariant (auth : CompanionServerAuth) : Prop where
  setup : ¬ auth.InSetup → auth.SetupErased
  verify : auth.authPhase ≠ .verifyM3 → auth.VerifyErased
  pending : auth.authPhase = .verifyM3 → ∃ material, auth.verifyMaterial = some material

/-- `_clear_setup_session` leaves nothing of a setup. -/
theorem clearSetupSession_setupErased (auth : CompanionServerAuth) :
    auth.clearSetupSession.SetupErased := ⟨rfl, rfl, rfl, rfl, rfl, rfl⟩

/-- `_clear_verify_session` leaves nothing of a verification. -/
theorem clearVerifySession_verifyErased (auth : CompanionServerAuth) :
    auth.clearVerifySession.VerifyErased := ⟨rfl, rfl, rfl, rfl, rfl⟩

theorem clearSetupSession_verifyErased (hverify : auth.VerifyErased) :
    auth.clearSetupSession.VerifyErased := { hverify with }

/-- A cleared exchange satisfies the invariant in every phase without material. -/
theorem clearPendingAuthState_invariant {phase : AuthenticationPhase} (hphase : phase ≠ .verifyM3) :
    PhaseInvariant { auth.clearPendingAuthState with authPhase := phase } where
  setup := fun _ => { clearSetupSession_setupErased auth with }
  verify := fun _ => { clearVerifySession_verifyErased auth with }
  pending := fun hpending => absurd hpending hphase

/-- The material of M1 is there as a whole or not at all. -/
theorem verifyMaterial_eq_some {material : VerifyMaterial}
    (hmaterial : auth.verifyMaterial = some material) :
    auth.pvSessionKey = some material.sessionKey ∧ auth.pvServerPub = some material.serverPub ∧
      auth.pvClientPub = some material.clientPub ∧ auth.outputKey = some material.outputKey ∧
      auth.inputKey = some material.inputKey := by
  simp only [verifyMaterial, Option.bind_eq_bind, Option.bind_eq_some_iff, Option.pure_def,
    Option.some.injEq] at hmaterial
  obtain ⟨sessionKey, hsession, serverPub, hserver, clientPub, hclient, outputKey, houtput,
    inputKey, hinput, rfl⟩ := hmaterial
  exact ⟨hsession, hserver, hclient, houtput, hinput⟩

theorem keepMaterial_verifyMaterial (material : VerifyMaterial) :
    (auth.keepMaterial material).verifyMaterial = some material := rfl

/-! ## Pair-setup -/

@[simp] theorem setupError_verifyEvent? (seqno : UInt8) (error : ErrorCode) :
    (setupError seqno error).verifyEvent? = none := rfl

@[simp] theorem verifyError_verifyEvent? : verifyError.verifyEvent? = none := rfl

@[simp] theorem setupBackoff_verifyEvent? (retryAfter : Nat) :
    (setupBackoff retryAfter).verifyEvent? = none := rfl

@[simp] theorem setupAdmissionError_verifyEvent? (admission : PairSetupAttemptAdmission) :
    (setupAdmissionError admission).verifyEvent? = none := by
  unfold setupAdmissionError
  split <;> rfl

/-- A setup handler keeps no verify material and takes no part in pair-verify. -/
structure SetupReply (reply : HandlerReply) : Prop where
  erased : reply.auth.VerifyErased
  silent : reply.exchange = []

/-- The first setup message leaves the server in the phase of the second, or of none. -/
theorem startSetup_reply (hverify : auth.VerifyErased) (window : PairingWindow)
    {effects : List AuthEffect} (hsilent : effects.filterMap AuthEffect.verifyEvent? = []) :
    SetupReply (auth.startSetup crypto inputs window effects) := by
  unfold startSetup
  cases inputs.session with
  | none => exact ⟨hverify, hsilent⟩
  | some session =>
      obtain ⟨serial, salt⟩ := session
      refine ⟨?_, ?_⟩
      · exact { hverify with }
      · simp only [HandlerReply.exchange, List.filterMap_append, hsilent]
        rfl

/-- A setup M1 abandons any verify exchange. -/
theorem m1Setup_reply (pairingData : TlvMap) :
    SetupReply (auth.m1Setup crypto inputs pairingData) := by
  have hcleared : auth.clearVerifySession.clearVerifiedClient.VerifyErased :=
    { clearVerifySession_verifyErased auth with }
  have habandoned := clearSetupSession_verifyErased hcleared
  unfold m1Setup
  dsimp only
  split
  · refine ⟨habandoned, ?_⟩
    simp only [HandlerReply.exchange, refuse, List.filterMap_cons,
      setupAdmissionError_verifyEvent?]
    rfl
  split
  · exact ⟨habandoned, rfl⟩
  split
  · exact ⟨habandoned, rfl⟩
  split
  · exact ⟨habandoned, rfl⟩
  split
  · split
    · exact ⟨habandoned, rfl⟩
    · exact startSetup_reply habandoned _ rfl
  · exact startSetup_reply hcleared _ rfl

/-- A proof that is refused erases the setup. -/
theorem m3Setup_reply (hverify : auth.VerifyErased) :
    SetupReply (auth.m3Setup crypto inputs pairingData) := by
  have hcleared := clearSetupSession_verifyErased hverify
  unfold m3Setup rejectProof
  split
  · split
    · exact ⟨hcleared, rfl⟩
    split
    · exact ⟨hcleared, rfl⟩
    split
    · exact ⟨hcleared, rfl⟩
    split
    · exact ⟨hcleared, rfl⟩
    split
    · exact ⟨{ hverify with }, rfl⟩
    · exact ⟨hcleared, rfl⟩
    · exact ⟨hcleared, rfl⟩
  · exact ⟨hcleared, rfl⟩

theorem registerSetupClient_silent (sessionKey : Bytes) (clientTlv : TlvMap) :
    (auth.registerSetupClient crypto inputs sessionKey clientTlv).1.filterMap
      AuthEffect.verifyEvent? = [] := by
  unfold registerSetupClient
  split
  · dsimp only
    split <;> rfl
  · rfl

/-- The last setup message completes the setup or erases it. -/
theorem m5Setup_reply (hverify : auth.VerifyErased) :
    SetupReply (auth.m5Setup crypto info inputs pairingData) := by
  have hcleared := clearSetupSession_verifyErased hverify
  unfold m5Setup
  split
  · split
    · exact ⟨hcleared, rfl⟩
    dsimp only
    split
    · exact ⟨hcleared, rfl⟩
    split
    · refine ⟨hcleared, ?_⟩
      simp only [HandlerReply.exchange, refuse, List.filterMap_append, registerSetupClient_silent]
      split <;> rfl
    · refine ⟨hcleared, ?_⟩
      simp only [HandlerReply.exchange, List.filterMap_append, registerSetupClient_silent]
      rfl
  · exact ⟨hcleared, rfl⟩

/-- The SRP session ends with its M5, whatever comes of it. -/
theorem m5Setup_setupErased :
    (auth.m5Setup crypto info inputs pairingData).auth.SetupErased := by
  have hcleared := clearSetupSession_setupErased auth
  unfold m5Setup
  split
  · split
    · exact hcleared
    dsimp only
    split
    · exact hcleared
    split <;> exact hcleared
  · exact hcleared

/-! ## Pair-verify -/

/-- A verify M1 holds fresh material, or is refused. -/
theorem m1Verify_cases (crypto : AuthCrypto) (inputs : AuthInputs) (pairingData : TlvMap)
    (hsetup : auth.SetupErased) :
    ((auth.m1Verify crypto inputs pairingData).completed = some false ∧
      (auth.m1Verify crypto inputs pairingData).exchange = []) ∨
    ∃ material,
      (auth.m1Verify crypto inputs pairingData).completed = some true ∧
      (auth.m1Verify crypto inputs pairingData).auth.verifyMaterial = some material ∧
      (auth.m1Verify crypto inputs pairingData).auth.SetupErased ∧
      (auth.m1Verify crypto inputs pairingData).exchange = [.began material] := by
  unfold m1Verify
  dsimp only
  split
  · exact Or.inl ⟨rfl, rfl⟩
  split
  · exact Or.inl ⟨rfl, rfl⟩
  split
  · exact Or.inl ⟨rfl, rfl⟩
  · refine Or.inr ⟨_, rfl, keepMaterial_verifyMaterial _, ?_, rfl⟩
    exact { hsetup with }

/-- The signature an accepted M3 carries is the one the proof asks for. -/
theorem verifyClient_valid {material : VerifyMaterial}
    (hmaterial : auth.verifyMaterial = some material) {client : VerifiedClient}
    (hclient : auth.verifyClient crypto inputs pairingData = some client) :
    ValidProof crypto inputs.ltpk material pairingData client := by
  obtain ⟨hsession, hserver, hclientPub, -, -⟩ := verifyMaterial_eq_some hmaterial
  simp only [verifyClient, hsession, hserver, hclientPub, Option.bind_eq_bind,
    Option.bind_some, Option.bind_eq_some_iff] at hclient
  obtain ⟨encrypted, hencrypted, proof, hproof, sub, hsub, identifier, hidentifier, text, htext,
    ltpk, hltpk, signature, hsignature, hverified⟩ := hclient
  split at hverified
  · rename_i hvalid
    simp only [Option.pure_def, Option.some.injEq] at hverified
    subst hverified
    exact ⟨encrypted, proof, sub, identifier, signature, hencrypted, hproof, hsub, hidentifier,
      htext, hltpk, hsignature, hvalid⟩
  · exact absurd hverified (by simp [failure])

/-- An M3 uses the material it was given and either installs the cipher it
derives or fails. -/
theorem m3Verify_cases (crypto : AuthCrypto) (inputs : AuthInputs) (pairingData : TlvMap)
    {material : VerifyMaterial} (hmaterial : auth.verifyMaterial = some material)
    (hsetup : auth.SetupErased) :
    ((auth.m3Verify crypto inputs pairingData).completed ≠ some true ∧
      (auth.m3Verify crypto inputs pairingData).exchange = [.used material]) ∨
    ∃ client message,
      inputs.cipherInstalled = false ∧
      ValidProof crypto inputs.ltpk material pairingData client ∧
      (auth.m3Verify crypto inputs pairingData).completed = some true ∧
      (auth.m3Verify crypto inputs pairingData).auth.verifiedClient = some client ∧
      (auth.m3Verify crypto inputs pairingData).auth.SetupErased ∧
      (auth.m3Verify crypto inputs pairingData).auth.VerifyErased ∧
      (auth.m3Verify crypto inputs pairingData).effects =
        [.useVerify material, .send message,
          .enableEncryption material.outputKey material.inputKey] := by
  obtain ⟨-, -, -, houtput, hinput⟩ := verifyMaterial_eq_some hmaterial
  unfold m3Verify
  simp only [hmaterial, Option.map_some, Option.toList_some, houtput, hinput]
  cases hclient : auth.verifyClient crypto inputs pairingData with
  | none => exact Or.inl ⟨by simp [refuse], rfl⟩
  | some client =>
      cases hcipher : inputs.cipherInstalled with
      | true => exact Or.inl ⟨by simp, rfl⟩
      | false =>
          exact Or.inr ⟨client, _, rfl, verifyClient_valid hmaterial hclient, rfl, rfl,
            { hsetup with }, { clearVerifySession_verifyErased auth with }, rfl⟩

/-! ## One frame -/

theorem rejectAuthTransition_auth (frameType : FrameType) (seqno : Option UInt8)
    (effects : List AuthEffect) :
    (auth.rejectAuthTransition frameType seqno effects).auth =
      { auth.clearPendingAuthState with authPhase := .failed } := by
  unfold rejectAuthTransition
  split <;> rfl

theorem rejectAuthTransition_completed (frameType : FrameType) (seqno : Option UInt8)
    (effects : List AuthEffect) :
    (auth.rejectAuthTransition frameType seqno effects).completed = some false := by
  unfold rejectAuthTransition
  split <;> rfl

theorem rejectAuthTransition_exchange (frameType : FrameType) (seqno : Option UInt8)
    (effects : List AuthEffect) :
    (auth.rejectAuthTransition frameType seqno effects).exchange =
      effects.filterMap AuthEffect.verifyEvent? := by
  unfold rejectAuthTransition
  split
  · simp only [refuse, HandlerReply.exchange, List.filterMap_append, List.filterMap_cons,
      setupError_verifyEvent?, List.filterMap_nil]
    exact List.append_nil _
  · simp only [refuse, HandlerReply.exchange, List.filterMap_append, List.filterMap_cons,
      verifyError_verifyEvent?, List.filterMap_nil, List.append_nil]

/-- How a frame that was not completed ends. -/
structure FailedReply (reply : HandlerReply) (exchange : List VerifyEvent) : Prop where
  completed : reply.completed = some false
  phase : reply.auth.authPhase = .failed
  invariant : PhaseInvariant reply.auth
  exchange : reply.exchange = exchange

/-- A frame out of turn fails the exchange and erases both sessions. -/
theorem rejectAuthTransition_failed (frameType : FrameType) (seqno : Option UInt8)
    (effects : List AuthEffect) :
    FailedReply (auth.rejectAuthTransition frameType seqno effects)
      (effects.filterMap AuthEffect.verifyEvent?) where
  completed := rejectAuthTransition_completed frameType seqno effects
  phase := by rw [rejectAuthTransition_auth]
  invariant := by
    rw [rejectAuthTransition_auth]
    exact clearPendingAuthState_invariant (by decide)
  exchange := rejectAuthTransition_exchange frameType seqno effects

/-- The end of a frame whose handler ran: the next phase, or erasure. -/
def finishAuthFrame (frameType : FrameType) (seqno : UInt8) (handler : AuthHandler)
    (reply : HandlerReply) : HandlerReply :=
  match reply.completed with
  | none => reply.auth.rejectAuthTransition frameType (some seqno) reply.effects
  | some false =>
      { reply with auth := { reply.auth.clearPendingAuthState with authPhase := .failed } }
  | some true => { reply with auth := { reply.auth with authPhase := handler.nextPhase } }

/-- A handler that did not complete fails the exchange. -/
theorem finishAuthFrame_failed (frameType : FrameType) (seqno : UInt8) (handler : AuthHandler)
    {reply : HandlerReply} (hcompleted : reply.completed ≠ some true) :
    FailedReply (finishAuthFrame frameType seqno handler reply) reply.exchange := by
  unfold finishAuthFrame
  cases hreply : reply.completed with
  | none => exact rejectAuthTransition_failed frameType (some seqno) reply.effects
  | some completed =>
      cases completed with
      | true => exact absurd hreply hcompleted
      | false =>
          exact
            { completed := rfl
              phase := rfl
              invariant := clearPendingAuthState_invariant (by decide)
              exchange := rfl }

/-- One that completed moves to the phase after it. -/
theorem finishAuthFrame_completed (frameType : FrameType) (seqno : UInt8) (handler : AuthHandler)
    {reply : HandlerReply} (hcompleted : reply.completed = some true) :
    finishAuthFrame frameType seqno handler reply =
      { reply with auth := { reply.auth with authPhase := handler.nextPhase } } := by
  unfold finishAuthFrame
  rw [hcompleted]

/-- An auth frame is ignored under encryption, rejected, or handled. -/
theorem handleAuthFrame_cases (crypto : AuthCrypto) (info : Bytes) (auth : CompanionServerAuth)
    (inputs : AuthInputs) (frameType : FrameType) (pairingBlob : Option Bytes) :
    (auth.isEncrypted = true ∧
      auth.handleAuthFrame crypto info inputs frameType pairingBlob = auth.refuse []) ∨
    (∃ seqno, auth.handleAuthFrame crypto info inputs frameType pairingBlob =
      auth.rejectAuthTransition frameType seqno []) ∨
    ∃ handler pairingData seqno,
      decodeAuthFrame crypto pairingBlob = some (pairingData, seqno) ∧
      nextAuthTransition auth.authPhase frameType seqno = some handler ∧
      auth.handleAuthFrame crypto info inputs frameType pairingBlob =
        finishAuthFrame frameType seqno handler
          (auth.runHandler crypto info handler inputs pairingData) := by
  by_cases hencrypted : auth.isEncrypted = true
  · exact Or.inl ⟨hencrypted, by simp only [handleAuthFrame, hencrypted, if_true]⟩
  · cases hdecode : decodeAuthFrame crypto pairingBlob with
    | none =>
        refine Or.inr (Or.inl ⟨none, ?_⟩)
        simp only [handleAuthFrame, hencrypted, hdecode, if_false, Bool.false_eq_true]
    | some decoded =>
        obtain ⟨pairingData, seqno⟩ := decoded
        cases htransition : nextAuthTransition auth.authPhase frameType seqno with
        | none =>
            refine Or.inr (Or.inl ⟨some seqno, ?_⟩)
            simp only [handleAuthFrame, hencrypted, hdecode, htransition, if_false,
              Bool.false_eq_true]
        | some handler =>
            refine Or.inr (Or.inr ⟨handler, pairingData, seqno, rfl, htransition, ?_⟩)
            simp only [handleAuthFrame, hencrypted, hdecode, htransition, if_false,
              Bool.false_eq_true]
            rfl

/-- What one auth frame does to the exchange, as the phase it leads to. -/
inductive ExchangeStep (crypto : AuthCrypto) (inputs : AuthInputs) (auth : CompanionServerAuth)
    (frameType : FrameType) (pairingBlob : Option Bytes) (reply : HandlerReply) : Prop
  | silent (hphase : reply.auth.authPhase ≠ .verifyM3) (hplain : reply.auth.authPhase ≠ .encrypted)
      (hexchange : reply.exchange = [])
  | began (material : VerifyMaterial) (hphase : reply.auth.authPhase = .verifyM3)
      (hmaterial : reply.auth.verifyMaterial = some material)
      (hexchange : reply.exchange = [.began material])
  | failed (material : VerifyMaterial) (hphase : auth.authPhase = .verifyM3)
      (hmaterial : auth.verifyMaterial = some material)
      (hfailed : FailedReply reply [.used material])
  | installed (material : VerifyMaterial) (pairingData : TlvMap) (client : VerifiedClient)
      (message : AuthMessage) (hphase : auth.authPhase = .verifyM3)
      (hmaterial : auth.verifyMaterial = some material) (hframe : frameType = .pvNext)
      (hdecode : decodeAuthFrame crypto pairingBlob = some (pairingData, 3))
      (hvalid : ValidProof crypto inputs.ltpk material pairingData client)
      (hcipher : inputs.cipherInstalled = false)
      (hencrypted : reply.auth.authPhase = .encrypted)
      (hclient : reply.auth.verifiedClient = some client)
      (heffects : reply.effects =
        [.useVerify material, .send message,
          .enableEncryption material.outputKey material.inputKey])

/-- A verification begins on a fresh or freshly set up connection. -/
theorem nextAuthTransition_m1Verify {phase : AuthenticationPhase} {frameType : FrameType}
    {seqno : UInt8} (hnext : nextAuthTransition phase frameType seqno = some .m1Verify) :
    phase = .idle ∨ phase = .setupComplete := by
  unfold nextAuthTransition at hnext
  split at hnext <;> simp_all

/-- Its second message is only read after its first. -/
theorem nextAuthTransition_m3Verify {phase : AuthenticationPhase} {frameType : FrameType}
    {seqno : UInt8} (hnext : nextAuthTransition phase frameType seqno = some .m3Verify) :
    phase = .verifyM3 ∧ frameType = .pvNext ∧ seqno = 3 := by
  unfold nextAuthTransition at hnext
  split at hnext <;> simp_all

/-- A proof is only read after the salt was sent. -/
theorem nextAuthTransition_m3Setup {phase : AuthenticationPhase} {frameType : FrameType}
    {seqno : UInt8} (hnext : nextAuthTransition phase frameType seqno = some .m3Setup) :
    phase = .setupM3 := by
  unfold nextAuthTransition at hnext
  split at hnext <;> simp_all

/-- The exchange of keys is only read after the proof. -/
theorem nextAuthTransition_m5Setup {phase : AuthenticationPhase} {frameType : FrameType}
    {seqno : UInt8} (hnext : nextAuthTransition phase frameType seqno = some .m5Setup) :
    phase = .setupM5 := by
  unfold nextAuthTransition at hnext
  split at hnext <;> simp_all

/-- A frame that fails without having touched verify material. -/
theorem FailedReply.silent {frameType : FrameType} {pairingBlob : Option Bytes}
    {reply : HandlerReply} (hfailed : FailedReply reply []) :
    PhaseInvariant reply.auth ∧
      ExchangeStep crypto inputs auth frameType pairingBlob reply :=
  ⟨hfailed.invariant,
    .silent (by rw [hfailed.phase]; decide) (by rw [hfailed.phase]; decide) hfailed.exchange⟩

/-- A setup handler moves between phases that hold no verify material. -/
theorem SetupReply.finish {frameType : FrameType} {pairingBlob : Option Bytes} {seqno : UInt8}
    {handler : AuthHandler} {reply : HandlerReply} (hreply : SetupReply reply)
    (hverify : handler.nextPhase ≠ .verifyM3) (hplain : handler.nextPhase ≠ .encrypted)
    (hsetup : handler.nextPhase = .setupM3 ∨ handler.nextPhase = .setupM5 ∨
      reply.auth.SetupErased) :
    PhaseInvariant (finishAuthFrame frameType seqno handler reply).auth ∧
      ExchangeStep crypto inputs auth frameType pairingBlob
        (finishAuthFrame frameType seqno handler reply) := by
  by_cases hcompleted : reply.completed = some true
  · rw [finishAuthFrame_completed frameType seqno handler hcompleted]
    refine ⟨⟨?_, ?_, ?_⟩, .silent hverify hplain hreply.silent⟩
    · intro houtside
      rcases hsetup with hphase | hphase | herased
      · exact absurd (Or.inl hphase) houtside
      · exact absurd (Or.inr hphase) houtside
      · exact { herased with }
    · intro _
      exact { hreply.erased with }
    · exact fun hphase => absurd hphase hverify
  · have hfailed := finishAuthFrame_failed frameType seqno handler hcompleted
    rw [hreply.silent] at hfailed
    exact hfailed.silent

/-- M1 keeps its material for M3 and fails otherwise. -/
theorem m1Verify_finish {frameType : FrameType} {pairingBlob : Option Bytes} {seqno : UInt8}
    (hsetup : auth.SetupErased) :
    PhaseInvariant
        (finishAuthFrame frameType seqno .m1Verify
          (auth.m1Verify crypto inputs pairingData)).auth ∧
      ExchangeStep crypto inputs auth frameType pairingBlob
        (finishAuthFrame frameType seqno .m1Verify
          (auth.m1Verify crypto inputs pairingData)) := by
  rcases m1Verify_cases crypto inputs pairingData hsetup with
    ⟨hcompleted, hexchange⟩ | ⟨material, hcompleted, hmaterial, herased, hexchange⟩
  · have hfailed := finishAuthFrame_failed frameType seqno .m1Verify
      (show (auth.m1Verify crypto inputs pairingData).completed ≠ some true by
        rw [hcompleted]; decide)
    rw [hexchange] at hfailed
    exact hfailed.silent
  · rw [finishAuthFrame_completed frameType seqno .m1Verify hcompleted]
    refine ⟨⟨?_, ?_, ?_⟩, .began material rfl hmaterial hexchange⟩
    · intro _
      exact { herased with }
    · exact fun hphase => absurd rfl hphase
    · exact fun _ => ⟨material, hmaterial⟩

/-- M3 uses the material once, whatever comes of it. -/
theorem m3Verify_finish {frameType : FrameType} {pairingBlob : Option Bytes} {seqno : UInt8}
    {material : VerifyMaterial} (hmaterial : auth.verifyMaterial = some material)
    (hsetup : auth.SetupErased) (hphase : auth.authPhase = .verifyM3)
    (hframe : frameType = .pvNext)
    (hdecode : decodeAuthFrame crypto pairingBlob = some (pairingData, 3)) :
    PhaseInvariant
        (finishAuthFrame frameType seqno .m3Verify
          (auth.m3Verify crypto inputs pairingData)).auth ∧
      ExchangeStep crypto inputs auth frameType pairingBlob
        (finishAuthFrame frameType seqno .m3Verify
          (auth.m3Verify crypto inputs pairingData)) := by
  rcases m3Verify_cases crypto inputs pairingData hmaterial hsetup with ⟨hcompleted, hexchange⟩ |
      ⟨client, message, hcipher, hvalid, hcompleted, hclient, hsetup', hverify', heffects⟩
  · have hfailed := finishAuthFrame_failed frameType seqno .m3Verify hcompleted
    rw [hexchange] at hfailed
    exact ⟨hfailed.invariant, .failed material hphase hmaterial hfailed⟩
  · rw [finishAuthFrame_completed frameType seqno .m3Verify hcompleted]
    refine ⟨⟨?_, ?_, ?_⟩, .installed material pairingData client message hphase hmaterial hframe
      hdecode hvalid hcipher rfl hclient heffects⟩
    · intro _
      exact { hsetup' with }
    · intro _
      exact { hverify' with }
    · exact fun hpending => absurd hpending (by simp [AuthHandler.nextPhase])

/-- One auth frame keeps the invariant and takes one step of the exchange. -/
theorem handleAuthFrame_step (crypto : AuthCrypto) (info : Bytes) (hinvariant : PhaseInvariant auth)
    (hplain : auth.isEncrypted = false) (inputs : AuthInputs) (frameType : FrameType)
    (pairingBlob : Option Bytes) :
    PhaseInvariant (auth.handleAuthFrame crypto info inputs frameType pairingBlob).auth ∧
      ExchangeStep crypto inputs auth frameType pairingBlob
        (auth.handleAuthFrame crypto info inputs frameType pairingBlob) := by
  rcases handleAuthFrame_cases crypto info auth inputs frameType pairingBlob with
    ⟨hencrypted, -⟩ | ⟨seqno, heq⟩ | ⟨handler, pairingData, seqno, hdecode, hnext, heq⟩
  · rw [hplain] at hencrypted
    exact absurd hencrypted (by decide)
  · rw [heq]
    exact (rejectAuthTransition_failed frameType seqno []).silent
  · rw [heq]
    cases handler with
    | m1Setup =>
        exact (m1Setup_reply pairingData).finish (by decide) (by decide) (Or.inl rfl)
    | m3Setup =>
        have hverify := hinvariant.verify (by rw [nextAuthTransition_m3Setup hnext]; decide)
        exact (m3Setup_reply hverify).finish (by decide) (by decide) (Or.inr (Or.inl rfl))
    | m5Setup =>
        have hverify := hinvariant.verify (by rw [nextAuthTransition_m5Setup hnext]; decide)
        exact (m5Setup_reply hverify).finish (by decide) (by decide)
          (Or.inr (Or.inr m5Setup_setupErased))
    | m1Verify =>
        have hsetup : auth.SetupErased := hinvariant.setup (by
          rcases nextAuthTransition_m1Verify hnext with hphase | hphase <;>
            simp [InSetup, hphase])
        exact m1Verify_finish hsetup
    | m3Verify =>
        obtain ⟨hphase, hframe, rfl⟩ := nextAuthTransition_m3Verify hnext
        obtain ⟨material, hmaterial⟩ := hinvariant.pending hphase
        have hsetup : auth.SetupErased := hinvariant.setup (by simp [InSetup, hphase])
        exact m3Verify_finish hmaterial hsetup hphase hframe hdecode

end CompanionServerAuth

end CompanionBridge
