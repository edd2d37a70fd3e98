import CompanionBridge.Protocol.AuthHandlers
import CompanionBridge.Protocol.Connection

/-!
# What is written before encryption

Every message of the authentication exchange is a `PS_Next` or a `PV_Next`
frame, so a connection that only answers authentication frames writes nothing
else in plaintext.
-/

namespace CompanionBridge

/-- Anything but a message of another frame type. -/
def AuthEffect.sendsPairing : AuthEffect → Bool
  | .send message => message.frameType = .psNext || message.frameType = .pvNext
  | _ => true

/-- A `PS_Next` or a `PV_Next` frame. -/
def WrittenFrame.isPairing (frame : WrittenFrame) : Bool :=
  frame.header.head? = some FrameType.psNext.code || frame.header.head? = some FrameType.pvNext.code

/-- The frames that were written without a cipher. -/
def FakeCompanionService.plaintextFrames (service : FakeCompanionService) : List WrittenFrame :=
  service.written.filter fun frame => frame.nonce.isNone

namespace CompanionServerAuth

variable {crypto : AuthCrypto} {info : Bytes} {auth : CompanionServerAuth} {inputs : AuthInputs}
  {pairingData : TlvMap}

theorem setupAdmissionError_sendsPairing (admission : PairSetupAttemptAdmission) :
    (setupAdmissionError admission).sendsPairing = true := by
  unfold setupAdmissionError
  split <;> rfl

theorem startSetup_sendsPairing (window : PairingWindow) {effects : List AuthEffect}
    (heffects : effects.all AuthEffect.sendsPairing = true) :
    (auth.startSetup crypto inputs window effects).effects.all AuthEffect.sendsPairing = true := by
  unfold startSetup
  split
  · exact heffects
  · simp only [List.all_append, heffects, Bool.true_and]
    rfl

theorem m1Setup_sendsPairing :
    (auth.m1Setup crypto inputs pairingData).effects.all AuthEffect.sendsPairing = true := by
  simp only [m1Setup]
  split
  · simp only [refuse, List.all_cons, setupAdmissionError_sendsPairing]
    rfl
  · split
    · rfl
    · split
      · rfl
      · split
        · rfl
        · split
          · split
            · rfl
            · exact startSetup_sendsPairing _ rfl
          · exact startSetup_sendsPairing _ rfl

theorem rejectProof_sendsPairing {effects : List AuthEffect}
    (heffects : effects.all AuthEffect.sendsPairing = true) :
    (auth.rejectProof effects).effects.all AuthEffect.sendsPairing = true := by
  simp only [rejectProof, refuse, List.all_append, heffects, Bool.true_and]
  rfl

theorem m3Setup_sendsPairing :
    (auth.m3Setup crypto inputs pairingData).effects.all AuthEffect.sendsPairing = true := by
  unfold m3Setup
  split
  · split
    · rfl
    · split
      · exact rejectProof_sendsPairing rfl
      · split
        · exact rejectProof_sendsPairing rfl
        · split
          · exact rejectProof_sendsPairing rfl
          · split
            · rfl
            · rfl
            · exact rejectProof_sendsPairing rfl
  · rfl

theorem registerSetupClient_sendsPairing (sessionKey : Bytes) (clientTlv : TlvMap) :
    (auth.registerSetupClient crypto inputs sessionKey clientTlv).1.all
      AuthEffect.sendsPairing = true := by
  unfold registerSetupClient
  split
  · dsimp only
    split <;> rfl
  · rfl

theorem m5Setup_sendsPairing :
    (auth.m5Setup crypto info inputs pairingData).effects.all AuthEffect.sendsPairing = true := by
  have hregistered := @registerSetupClient_sendsPairing crypto auth inputs
  simp only [m5Setup]
  split
  · split
    · rfl
    · split
      · rfl
      · split
        · simp only [refuse, List.all_append, hregistered, Bool.true_and]
          split <;> rfl
        · simp only [List.all_append, hregistered, Bool.true_and]
          rfl
  · rfl

theorem m1Verify_sendsPairing :
    (auth.m1Verify crypto inputs pairingData).effects.all AuthEffect.sendsPairing = true := by
  simp only [m1Verify]
  split
  · rfl
  · split
    · rfl
    · split
      · rfl
      · rfl

theorem m3Verify_sendsPairing :
    (auth.m3Verify crypto inputs pairingData).effects.all AuthEffect.sendsPairing = true := by
  have hused : (auth.verifyMaterial.map AuthEffect.useVerify).toList.all
      AuthEffect.sendsPairing = true := by
    cases auth.verifyMaterial <;> rfl
  simp only [m3Verify]
  split
  · simp only [refuse, List.all_append, hused, Bool.true_and]
    rfl
  · split
    · split
      · simp only [List.all_append, hused, Bool.true_and]
        rfl
      · simp only [List.all_append, hused, Bool.true_and]
        rfl
    · simp only [refuse, List.all_append, hused, Bool.true_and]
      rfl

theorem runHandler_sendsPairing (handler : AuthHandler) :
    (auth.runHandler crypto info handler inputs pairingData).effects.all
      AuthEffect.sendsPairing = true := by
  cases handler with
  | m1Setup => exact @m1Setup_sendsPairing crypto auth inputs pairingData
  | m3Setup => exact m3Setup_sendsPairing
  | m5Setup => exact m5Setup_sendsPairing
  | m1Verify => exact m1Verify_sendsPairing
  | m3Verify => exact m3Verify_sendsPairing

theorem rejectAuthTransition_sendsPairing (frameType : FrameType) (seqno : Option UInt8)
    {effects : List AuthEffect} (heffects : effects.all AuthEffect.sendsPairing = true) :
    (auth.rejectAuthTransition frameType seqno effects).effects.all
      AuthEffect.sendsPairing = true := by
  unfold rejectAuthTransition
  dsimp only
  split
  · simp only [refuse, List.all_append, heffects, Bool.true_and]
    rfl
  · simp only [refuse, List.all_append, heffects, Bool.true_and]
    rfl

/-- Every message of the exchange is a pairing frame. -/
theorem handleAuthFrame_sendsPairing (crypto : AuthCrypto) (info : Bytes)
    (auth : CompanionServerAuth) (inputs : AuthInputs) (frameType : FrameType)
    (pairingBlob : Option Bytes) :
    (auth.handleAuthFrame crypto info inputs frameType pairingBlob).effects.all
      AuthEffect.sendsPairing = true := by
  unfold handleAuthFrame
  split
  · rfl
  · split
    · exact rejectAuthTransition_sendsPairing _ _ rfl
    · split
      · exact rejectAuthTransition_sendsPairing _ _ rfl
      · have hran := @runHandler_sendsPairing crypto info auth inputs
        dsimp only
        split
        · exact rejectAuthTransition_sendsPairing _ _ (hran _)
        · exact hran _
        · exact hran _

end CompanionServerAuth

namespace FakeCompanionService

theorem write_plaintext (service : FakeCompanionService) {frame : WrittenFrame}
    (hpairing : frame.nonce = none → frame.isPairing = true)
    (hservice : ∀ held ∈ service.plaintextFrames, held.isPairing = true) :
    ∀ held ∈ (service.write frame).plaintextFrames, held.isPairing = true := by
  unfold write
  split
  · intro held hheld
    simp only [plaintextFrames, List.filter_append, List.mem_append] at hheld
    rcases hheld with hheld | hheld
    · exact hservice held hheld
    · simp only [List.mem_filter, List.mem_singleton, Option.isNone_iff_eq_none] at hheld
      obtain ⟨rfl, hnone⟩ := hheld
      exact hpairing hnone
  · exact hservice

/-- A pairing frame is one whether or not the connection is encrypted. -/
theorem sendToClient_plaintext (aead : Aead) (service : FakeCompanionService)
    {frameType : FrameType} (hpairing : frameType = .psNext ∨ frameType = .pvNext)
    (encoded : Option Bytes) (hservice : ∀ held ∈ service.plaintextFrames, held.isPairing = true) :
    ∀ held ∈ (service.sendToClient aead frameType encoded).1.plaintextFrames,
      held.isPairing = true := by
  unfold sendToClient
  cases encoded with
  | none => exact hservice
  | some encoded =>
      dsimp only
      split
      · exact hservice
      · split
        · refine write_plaintext service (fun _ => ?_) hservice
          rcases hpairing with rfl | rfl <;> simp [WrittenFrame.isPairing, frameHeader]
        · split
          · exact hservice
          · refine write_plaintext _ (fun hnone => absurd hnone (by simp)) ?_
            exact hservice

/-- So the plaintext that is written is pairing frames. -/
theorem applyEffects_plaintext (externals : ConnectionExternals) (service : FakeCompanionService)
    {effects : List AuthEffect} (heffects : effects.all AuthEffect.sendsPairing = true)
    (hservice : ∀ held ∈ service.plaintextFrames, held.isPairing = true) :
    ∀ held ∈ (service.applyEffects externals effects).plaintextFrames, held.isPairing = true := by
  induction effects generalizing service with
  | nil => exact hservice
  | cons effect rest ih =>
      rw [List.all_cons, Bool.and_eq_true] at heffects
      refine ih (service.applyEffect externals effect) heffects.2 ?_
      cases effect with
      | send message =>
          have hpairing := heffects.1
          simp only [AuthEffect.sendsPairing, Bool.or_eq_true, decide_eq_true_eq] at hpairing
          exact sendToClient_plaintext _ _ hpairing _ hservice
      | _ => exact hservice

/-- An encrypted connection writes nothing in plaintext, and stays encrypted. -/
theorem sendToClient_sealed (aead : Aead) {service : FakeCompanionService}
    (hcipher : service.chacha.isSome = true) (frameType : FrameType) (encoded : Option Bytes) :
    (service.sendToClient aead frameType encoded).1.chacha.isSome = true ∧
      (service.sendToClient aead frameType encoded).1.plaintextFrames =
        service.plaintextFrames := by
  unfold sendToClient
  cases encoded with
  | none => exact ⟨hcipher, rfl⟩
  | some encoded =>
      dsimp only
      split
      · exact ⟨hcipher, rfl⟩
      · split
        · rename_i hnone
          rw [hnone] at hcipher
          exact absurd hcipher (by simp)
        · split
          · exact ⟨hcipher, rfl⟩
          · unfold write
            split
            · exact ⟨rfl, by simp [plaintextFrames, List.filter_append]⟩
            · exact ⟨rfl, rfl⟩

/-- No effect of the exchange removes the cipher. -/
theorem applyEffects_cipher (externals : ConnectionExternals) {service : FakeCompanionService}
    (hcipher : service.chacha.isSome = true) (effects : List AuthEffect) :
    (service.applyEffects externals effects).chacha.isSome = true := by
  induction effects generalizing service with
  | nil => exact hcipher
  | cons effect rest ih =>
      refine @ih (service.applyEffect externals effect) ?_
      cases effect with
      | send message =>
          have hnoted : ({ service with
              exchanges := service.exchanges ++ (AuthEffect.send message).verifyEvent?.toList } :
              FakeCompanionService).chacha.isSome = true := hcipher
          exact (sendToClient_sealed _ hnoted _ _).1
      | enableEncryption outputKey inputKey => rfl
      | _ => exact hcipher

end FakeCompanionService

end CompanionBridge
