import CompanionBridge.Protocol.AuthHandlers

/-!
# What a frame spends on pair-setup

Starts, SRP sessions and proofs of one authentication frame. A session is open
until its one proof has been checked; every other exit of a frame that takes it
up drops it.
-/

namespace CompanionBridge

/-- A start, an SRP session or a proof. -/
def AuthEffect.isSpending : AuthEffect → Bool
  | .takeAdmission => true
  | .allocateSession _ => true
  | .verifyProof _ => true
  | _ => false

/-- What a handler spent, in order. -/
def HandlerReply.spent (reply : HandlerReply) : List AuthEffect :=
  reply.effects.filter AuthEffect.isSpending

namespace CompanionServerAuth

/-- The number of the SRP session whose proof has not been checked. -/
def openSession (auth : CompanionServerAuth) : Option Nat :=
  if auth.setupProofVerified then none else auth.setupSession.map SrpServerSession.serial

/-- A setup that was erased has no session. -/
theorem SetupErased.openSession {auth : CompanionServerAuth} (h : auth.SetupErased) :
    auth.openSession = none := by
  rw [CompanionServerAuth.openSession, h.session, Option.map_none, ite_self]

/-- What one frame spends, and the session it leaves open. -/
inductive Spending (auth : CompanionServerAuth) (inputs : AuthInputs) (reply : HandlerReply) : Prop
  | nothing (hspent : reply.spent = [])
      (hopen : reply.auth.openSession = none ∨ reply.auth.openSession = auth.openSession)
  | start (hspent : reply.spent = [.takeAdmission]) (hopen : reply.auth.openSession = none)
  | session (serial : Nat) (salt : Bytes) (hallowed : inputs.admission.allowed = true)
      (hsession : inputs.session = some (serial, salt))
      (hspent : reply.spent = [.takeAdmission, .allocateSession serial])
      (hopen : reply.auth.openSession = none ∨ reply.auth.openSession = some serial)
  | proof (serial : Nat) (hserial : auth.openSession = some serial)
      (hspent : reply.spent = [.verifyProof serial]) (hopen : reply.auth.openSession = none)

variable {crypto : AuthCrypto} {info : Bytes} {auth : CompanionServerAuth} {inputs : AuthInputs}
  {pairingData : TlvMap}

/-! ## Effects that spend nothing -/

@[simp] theorem setupError_isSpending (seqno : UInt8) (error : ErrorCode) :
    (setupError seqno error).isSpending = false := rfl

@[simp] theorem verifyError_isSpending : verifyError.isSpending = false := rfl

@[simp] theorem setupBackoff_isSpending (retryAfter : Nat) :
    (setupBackoff retryAfter).isSpending = false := rfl

@[simp] theorem setupAdmissionError_isSpending (admission : PairSetupAttemptAdmission) :
    (setupAdmissionError admission).isSpending = false := by
  unfold setupAdmissionError
  split <;> rfl

@[simp] theorem clearSetupSession_openSession (auth : CompanionServerAuth) :
    auth.clearSetupSession.openSession = none :=
  (clearSetupSession_setupErased auth).openSession

/-- A session that is dropped for an answer that spends nothing. -/
theorem Spending.dropped {effects : List AuthEffect} (held : CompanionServerAuth)
    (hsilent : effects.filter AuthEffect.isSpending = []) :
    Spending auth inputs (held.clearSetupSession.refuse effects) :=
  .nothing hsilent (.inl (clearSetupSession_openSession held))

/-! ## The handlers -/

/-- A setup that starts spends the admitted attempt. -/
theorem startSetup_spending {effects : List AuthEffect} (window : PairingWindow)
    {held : CompanionServerAuth} (hallowed : inputs.admission.allowed = true)
    (hnone : held.setupSession = none)
    (heffects : effects.filter AuthEffect.isSpending = [.takeAdmission]) :
    Spending auth inputs (held.startSetup crypto inputs window effects) := by
  unfold startSetup
  cases hsession : inputs.session with
  | none =>
      refine .start heffects ?_
      simp [openSession, hnone]
  | some session =>
      obtain ⟨serial, salt⟩ := session
      refine .session serial salt hallowed hsession ?_ (.inr rfl)
      rw [HandlerReply.spent, List.filter_append, heffects]
      rfl

/-- A start is refused, or opens the session it is given. -/
theorem m1Setup_spending (pairingData : TlvMap) :
    Spending auth inputs (auth.m1Setup crypto inputs pairingData) := by
  unfold m1Setup
  dsimp only
  split
  · refine .start ?_ (clearSetupSession_openSession _)
    simp only [HandlerReply.spent, refuse, List.filter_cons, setupAdmissionError_isSpending]
    rfl
  · rename_i hrefused
    have hallowed : inputs.admission.allowed = true := by
      rwa [Bool.not_eq_false] at hrefused
    split
    · exact .start rfl (clearSetupSession_openSession _)
    split
    · exact .start rfl (clearSetupSession_openSession _)
    split
    · exact .start rfl (clearSetupSession_openSession _)
    split
    · split
      · exact .start rfl (clearSetupSession_openSession _)
      · exact startSetup_spending _ hallowed rfl rfl
    · rename_i hnone
      exact startSetup_spending _ hallowed (Option.not_isSome_iff_eq_none.mp hnone) rfl

/-- The proof of a session is checked once, and the session is open no longer. -/
theorem m3Setup_spending :
    Spending auth inputs (auth.m3Setup crypto inputs pairingData) := by
  unfold m3Setup rejectProof
  split
  · rename_i session salt hsession hsalt hproof
    have hopen : auth.openSession = some session.serial := by
      simp [openSession, hproof, hsession]
    split
    · exact .dropped auth rfl
    split
    · exact .dropped auth rfl
    split
    · exact .dropped auth rfl
    split
    · exact .dropped auth rfl
    split
    · exact .proof session.serial hopen rfl rfl
    · exact .proof session.serial hopen rfl (clearSetupSession_openSession auth)
    · exact .proof session.serial hopen rfl (clearSetupSession_openSession auth)
  · exact .dropped auth rfl

theorem registerSetupClient_unspent (sessionKey : Bytes) (clientTlv : TlvMap) :
    (auth.registerSetupClient crypto inputs sessionKey clientTlv).1.filter
      AuthEffect.isSpending = [] := by
  unfold registerSetupClient
  split
  · dsimp only
    split <;> rfl
  · rfl

theorem m5Setup_spending :
    Spending auth inputs (auth.m5Setup crypto info inputs pairingData) := by
  refine .nothing ?_ (.inl m5Setup_setupErased.openSession)
  unfold m5Setup
  split
  · split
    · rfl
    dsimp only
    split
    · rfl
    split
    · simp only [HandlerReply.spent, refuse, List.filter_append, registerSetupClient_unspent]
      split <;> rfl
    · simp only [HandlerReply.spent, List.filter_append, registerSetupClient_unspent]
      rfl
  · rfl

theorem m1Verify_spending :
    Spending auth inputs (auth.m1Verify crypto inputs pairingData) := by
  unfold m1Verify
  dsimp only
  split
  · exact .nothing rfl (.inr rfl)
  split
  · exact .nothing rfl (.inr rfl)
  split
  · exact .nothing rfl (.inr rfl)
  · exact .nothing rfl (.inr rfl)

/-- Nor a verification. -/
theorem m3Verify_spending :
    Spending auth inputs (auth.m3Verify crypto inputs pairingData) := by
  have hused : (auth.verifyMaterial.map AuthEffect.useVerify).toList.filter
      AuthEffect.isSpending = [] := by
    cases auth.verifyMaterial <;> rfl
  unfold m3Verify
  dsimp only
  split
  · refine .nothing ?_ (.inr rfl)
    simp only [HandlerReply.spent, refuse, List.filter_append, hused]
    rfl
  · split
    · split
      · refine .nothing ?_ (.inr rfl)
        simp only [HandlerReply.spent, List.filter_append, hused]
        rfl
      · refine .nothing ?_ (.inr rfl)
        simp only [HandlerReply.spent, List.filter_append, hused]
        rfl
    · refine .nothing ?_ (.inr rfl)
      simp only [HandlerReply.spent, refuse, List.filter_append, hused]
      rfl

theorem runHandler_spending (handler : AuthHandler) (pairingData : TlvMap) :
    Spending auth inputs (auth.runHandler crypto info handler inputs pairingData) := by
  cases handler with
  | m1Setup => exact m1Setup_spending pairingData
  | m3Setup => exact m3Setup_spending
  | m5Setup => exact m5Setup_spending
  | m1Verify => exact m1Verify_spending
  | m3Verify => exact m3Verify_spending

/-! ## One frame -/

/-- The end of a frame adds nothing to what its handler spent, and may drop the session. -/
theorem Spending.ended {reply ended : HandlerReply} (h : Spending auth inputs reply)
    (hspent : ended.spent = reply.spent)
    (hopen : ended.auth.openSession = none ∨ ended.auth.openSession = reply.auth.openSession) :
    Spending auth inputs ended := by
  cases h with
  | nothing hreply hheld =>
      refine .nothing (hspent.trans hreply) ?_
      obtain hnone | hsame := hopen
      · exact .inl hnone
      · rwa [hsame]
  | start hreply hheld =>
      refine .start (hspent.trans hreply) ?_
      obtain hnone | hsame := hopen
      · exact hnone
      · rw [hsame, hheld]
  | session serial salt hallowed hsession hreply hheld =>
      refine .session serial salt hallowed hsession (hspent.trans hreply) ?_
      obtain hnone | hsame := hopen
      · exact .inl hnone
      · rwa [hsame]
  | proof serial hserial hreply hheld =>
      refine .proof serial hserial (hspent.trans hreply) ?_
      obtain hnone | hsame := hopen
      · exact hnone
      · rw [hsame, hheld]

theorem rejectAuthTransition_spent (frameType : FrameType) (seqno : Option UInt8)
    (effects : List AuthEffect) :
    (auth.rejectAuthTransition frameType seqno effects).spent =
      effects.filter AuthEffect.isSpending := by
  unfold rejectAuthTransition
  split
  · rw [HandlerReply.spent, refuse, List.filter_append]
    exact List.append_nil _
  · rw [HandlerReply.spent, refuse, List.filter_append]
    exact List.append_nil _

theorem rejectAuthTransition_openSession (frameType : FrameType) (seqno : Option UInt8)
    (effects : List AuthEffect) :
    (auth.rejectAuthTransition frameType seqno effects).auth.openSession = none := by
  rw [rejectAuthTransition_auth]
  rfl

/-- What one authentication frame spends. -/
theorem handleAuthFrame_spending (crypto : AuthCrypto) (info : Bytes) (auth : CompanionServerAuth)
    (inputs : AuthInputs) (frameType : FrameType) (pairingBlob : Option Bytes) :
    Spending auth inputs (auth.handleAuthFrame crypto info inputs frameType pairingBlob) := by
  obtain ⟨_, hrefused⟩ | ⟨seqno, hrejected⟩ |
    ⟨handler, pairingData, seqno, _, _, hhandled⟩ :=
      handleAuthFrame_cases crypto info auth inputs frameType pairingBlob
  · rw [hrefused]
    exact .nothing rfl (.inr rfl)
  · rw [hrejected]
    exact .nothing (rejectAuthTransition_spent frameType seqno [])
      (.inl (rejectAuthTransition_openSession frameType seqno []))
  · rw [hhandled]
    have hhandler := @runHandler_spending crypto info auth inputs handler pairingData
    unfold finishAuthFrame
    split
    · exact hhandler.ended (rejectAuthTransition_spent _ _ _)
        (.inl (rejectAuthTransition_openSession _ _ _))
    · exact hhandler.ended rfl (.inl rfl)
    · exact hhandler.ended rfl (.inr rfl)

end CompanionServerAuth

end CompanionBridge
