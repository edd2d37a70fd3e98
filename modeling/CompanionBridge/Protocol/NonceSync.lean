import CompanionBridge.Protocol.AuthPhases
import CompanionBridge.Protocol.PeerStream

/-!
# Nonce synchronisation

Each direction of an encrypted connection numbers its sealed frames from zero.
The frames the AEAD never sees take no number, so that a peer counting by the
same rule stays in step with the server.
-/

namespace CompanionBridge

def WrittenFrame.isSealed (frame : WrittenFrame) : Bool :=
  frame.nonce.isSome

def InboundFrame.isOpened : InboundFrame → Bool
  | .opened _ _ _ _ => true
  | _ => false

/-- A written frame is sealed with the nonce of counter `k`. -/
def SealedAs (aead : Aead) (key : Bytes) (k : Nat) (frame : WrittenFrame) : Prop :=
  ∃ nonce data, counterNonce k = some nonce ∧ frame.nonce = some k ∧
    frame.payload = aead.encrypt key nonce data frame.header

/-- A received frame was opened with the nonce of counter `k`. -/
def OpenedAs (aead : Aead) (key : Bytes) (k : Nat) (frame : InboundFrame) : Prop :=
  ∃ nonce header payload, counterNonce k = some nonce ∧
    frame = .opened k header payload (aead.decrypt key nonce payload header)

/-- A number for the next frame of a direction. -/
theorem numbered_append {α : Type} {numbered : Nat → α → Prop} {frames : List α}
    (hframes : ∀ k frame, frames[k]? = some frame → numbered k frame) {last : α}
    (hlast : numbered frames.length last) :
    ∀ k frame, (frames ++ [last])[k]? = some frame → numbered k frame := by
  intro k frame hget
  rw [List.getElem?_append] at hget
  split at hget
  · exact hframes k frame hget
  · rename_i hbeyond
    rw [List.getElem?_singleton] at hget
    split at hget
    · have hk : k = frames.length := by omega
      rw [Option.some.injEq] at hget
      subst hget
      rw [hk]
      exact hlast
    · exact absurd hget (by simp)

namespace FakeCompanionService

variable {externals : ConnectionExternals} {service next : FakeCompanionService} {aead : Aead}
  {outKey inKey : Bytes}

def sealedFrames (service : FakeCompanionService) : List WrittenFrame :=
  service.written.filter WrittenFrame.isSealed

def openedFrames (service : FakeCompanionService) : List InboundFrame :=
  service.inbound.filter InboundFrame.isOpened

/-- Both directions are numbered from zero, and the cipher knows the next numbers. -/
structure Synchronised (aead : Aead) (outKey inKey : Bytes) (service : FakeCompanionService) :
    Prop where
  sealed : ∀ k frame, service.sealedFrames[k]? = some frame → SealedAs aead outKey k frame
  opened : ∀ k frame, service.openedFrames[k]? = some frame → OpenedAs aead inKey k frame
  keys : ∀ cipher, service.chacha = some cipher → cipher.outKey = outKey ∧ cipher.inKey = inKey
  inCounter : ∀ cipher, service.chacha = some cipher →
    cipher.inCounter = service.openedFrames.length
  outCounter : ∀ cipher, service.chacha = some cipher →
    service.sealedFrames.length ≤ cipher.outCounter ∧
      (service.transport = .up → service.sealedFrames.length = cipher.outCounter)

/-! ## Sending -/

/-- What sending a value can do. -/
theorem sendToClient_cases (aead : Aead) (service : FakeCompanionService) (frameType : FrameType)
    (encoded : Option Bytes) :
    (service.sendToClient aead frameType encoded).1 = service ∨
    (service.chacha = none ∧ ∃ header payload,
      (service.sendToClient aead frameType encoded).1 =
        service.write { header := header, payload := payload, nonce := none }) ∨
    ∃ cipher nonce data header,
      service.chacha = some cipher ∧ counterNonce cipher.outCounter = some nonce ∧
      (service.sendToClient aead frameType encoded).1 =
        { service with chacha := some { cipher with outCounter := cipher.outCounter + 1 } }.write
          { header := header
            payload := aead.encrypt cipher.outKey nonce data header
            nonce := some cipher.outCounter } := by
  unfold sendToClient
  cases encoded with
  | none => exact Or.inl rfl
  | some data =>
      dsimp only
      split
      · exact Or.inl rfl
      cases hchacha : service.chacha with
      | none => exact Or.inr (Or.inl ⟨rfl, _, _, rfl⟩)
      | some cipher =>
          dsimp only
          split
          · exact Or.inl rfl
          · rename_i payload later hsealed
            obtain ⟨nonce, hnonce, rfl, rfl⟩ := Chacha20Cipher.encrypt_eq_some hsealed
            exact Or.inr (Or.inr ⟨cipher, nonce, data, _, rfl, hnonce, rfl⟩)

/-- What is written counts as sealed only while the transport is up. -/
theorem write_sealedFrames (service : FakeCompanionService) (frame : WrittenFrame) :
    (service.write frame).sealedFrames =
      if service.transport = .up ∧ frame.isSealed then service.sealedFrames ++ [frame]
      else service.sealedFrames := by
  unfold write sealedFrames
  by_cases hup : service.transport = .up
  · rw [if_pos hup]
    dsimp only
    rw [List.filter_append, List.filter_singleton]
    cases frame.isSealed <;> simp [hup]
  · rw [if_neg hup, if_neg (fun hboth => hup hboth.1)]

theorem write_openedFrames (service : FakeCompanionService) (frame : WrittenFrame) :
    (service.write frame).openedFrames = service.openedFrames := by
  unfold write
  split <;> rfl

theorem write_transport (service : FakeCompanionService) (frame : WrittenFrame) :
    (service.write frame).transport = service.transport := by
  unfold write
  split <;> rfl

theorem write_chacha (service : FakeCompanionService) (frame : WrittenFrame) :
    (service.write frame).chacha = service.chacha := by
  unfold write
  split <;> rfl

/-- A sealed frame takes the next nonce of the sender. -/
theorem Synchronised.sendToClient (h : service.Synchronised aead outKey inKey)
    (frameType : FrameType) (encoded : Option Bytes) :
    Synchronised aead outKey inKey (service.sendToClient aead frameType encoded).1 := by
  rcases sendToClient_cases aead service frameType encoded with
    heq | ⟨hchacha, header, payload, heq⟩ | ⟨cipher, nonce, data, header, hchacha, hnonce, heq⟩
  · rw [heq]
    exact h
  · rw [heq]
    have hsealed : (service.write { header, payload, nonce := none }).sealedFrames =
        service.sealedFrames := by
      rw [write_sealedFrames, if_neg]
      rintro ⟨-, hfalse⟩
      exact Bool.false_ne_true hfalse
    exact
      { sealed := by rw [hsealed]; exact h.sealed
        opened := by rw [write_openedFrames]; exact h.opened
        keys := by rw [write_chacha]; exact h.keys
        inCounter := by rw [write_chacha, write_openedFrames]; exact h.inCounter
        outCounter := by rw [write_chacha, hsealed, write_transport]; exact h.outCounter }
  · rw [heq]
    obtain ⟨houtKey, hinKey⟩ := h.keys cipher hchacha
    obtain ⟨hle, hup⟩ := h.outCounter cipher hchacha
    have hin := h.inCounter cipher hchacha
    -- on a transport that is down the counter runs ahead of what was written
    by_cases htransport : service.transport = .up
    · have hlength := hup htransport
      have hsealed : ∀ frame : WrittenFrame, frame.isSealed = true →
          ({ service with
              chacha := some { cipher with outCounter := cipher.outCounter + 1 } }.write
                frame).sealedFrames = service.sealedFrames ++ [frame] := by
        intro frame hframe
        rw [write_sealedFrames, if_pos ⟨htransport, hframe⟩]
        rfl
      exact
        { sealed := by
            rw [hsealed _ rfl]
            refine numbered_append h.sealed ⟨nonce, data, ?_, ?_, ?_⟩
            · rw [hlength]
              exact hnonce
            · rw [hlength]
            · rw [houtKey]
          opened := by rw [write_openedFrames]; exact h.opened
          keys := by
            rw [write_chacha]
            intro later hlater
            rw [← Option.some.inj hlater]
            exact ⟨houtKey, hinKey⟩
          inCounter := by
            rw [write_chacha, write_openedFrames]
            intro later hlater
            rw [← Option.some.inj hlater]
            exact hin
          outCounter := by
            rw [write_chacha, hsealed _ rfl, List.length_append]
            intro later hlater
            rw [← Option.some.inj hlater]
            exact ⟨by simp [hlength], fun _ => by simp [hlength]⟩ }
    · have hsealed : ∀ frame : WrittenFrame,
          ({ service with
              chacha := some { cipher with outCounter := cipher.outCounter + 1 } }.write
                frame).sealedFrames = service.sealedFrames := by
        intro frame
        rw [write_sealedFrames, if_neg (fun hboth => htransport hboth.1)]
        rfl
      exact
        { sealed := by rw [hsealed]; exact h.sealed
          opened := by rw [write_openedFrames]; exact h.opened
          keys := by
            rw [write_chacha]
            intro later hlater
            rw [← Option.some.inj hlater]
            exact ⟨houtKey, hinKey⟩
          inCounter := by
            rw [write_chacha, write_openedFrames]
            intro later hlater
            rw [← Option.some.inj hlater]
            exact hin
          outCounter := by
            rw [write_chacha, hsealed, write_transport]
            intro later hlater
            rw [← Option.some.inj hlater]
            exact ⟨hle.trans (Nat.le_succ _), fun hopen => absurd hopen htransport⟩ }

/-! ## The rest of a frame -/

theorem Synchronised.closeConnection (h : service.Synchronised aead outKey inKey) :
    Synchronised aead outKey inKey service.closeConnection where
  sealed := h.sealed
  opened := h.opened
  keys := h.keys
  inCounter := h.inCounter
  outCounter := fun cipher hchacha =>
    ⟨(h.outCounter cipher hchacha).1, fun hup => absurd hup (closeConnection_transport service)⟩

theorem Synchronised.malformedFrame (h : service.Synchronised aead outKey inKey) :
    Synchronised aead outKey inKey service.malformedFrame.1 := by
  have hcounted : Synchronised aead outKey inKey
      { service with malformedFrames := service.malformedFrames + 1 } := { h with }
  unfold FakeCompanionService.malformedFrame
  dsimp only
  split
  · exact hcounted.closeConnection
  · exact hcounted

/-- The frames of a message take their nonces in order. -/
theorem Synchronised.performActions (h : service.Synchronised aead outKey inKey)
    (actions : List MessageAction) :
    Synchronised aead outKey inKey (service.performActions aead actions).1 := by
  induction actions generalizing service with
  | nil => exact h
  | cons action rest ih =>
      cases action with
      | close => exact ih h.closeConnection
      | malformed => exact ih h.malformedFrame
      | send frameType encoded =>
          unfold FakeCompanionService.performActions
          dsimp only
          split
          · exact h.sendToClient frameType encoded
          · exact ih (h.sendToClient frameType encoded)

/-- A payload behind the cipher is answered in step. -/
theorem Synchronised.handlePayload
    (h : service.Synchronised externals.crypto.aead outKey inKey) {frameType : FrameType}
    (hplain : frameType.isAuth = false) (payload : Bytes) (inputs : FrameInputs) :
    Synchronised externals.crypto.aead outKey inKey
      (service.handlePayload externals frameType payload inputs).1 := by
  unfold FakeCompanionService.handlePayload
  split
  · exact h.closeConnection
  split
  · exact h.malformedFrame
  rw [hplain, if_neg Bool.false_ne_true]
  split
  · exact h.malformedFrame
  split
  · exact h
  dsimp only
  have hhandled : Synchronised externals.crypto.aead outKey inKey
      { service with handled := service.handled + 1 } := { h with }
  split
  · exact (hhandled.performActions _).malformedFrame
  · exact hhandled.performActions _

/-- Recording a frame that was not opened changes no number. -/
theorem Synchronised.receiveFrame (h : service.Synchronised aead outKey inKey)
    {frame : InboundFrame} (hframe : frame.isOpened = false) :
    Synchronised aead outKey inKey (service.receiveFrame frame) := by
  have hopened : (service.receiveFrame frame).openedFrames = service.openedFrames := by
    simp [openedFrames, FakeCompanionService.receiveFrame, hframe]
  exact
    { sealed := h.sealed
      opened := by rw [hopened]; exact h.opened
      keys := h.keys
      inCounter := by rw [hopened]; exact h.inCounter
      outCounter := h.outCounter }

/-- The connection after the AEAD was asked to open a frame. -/
def afterOpening (aead : Aead) (service : FakeCompanionService) (cipher : Chacha20Cipher)
    (header payload : Bytes) : FakeCompanionService :=
  { service with chacha := some (cipher.decrypt aead payload header).1 }.receiveFrame
    (if (counterNonce cipher.inCounter).isSome then
      .opened cipher.inCounter header payload (cipher.decrypt aead payload header).2
    else .refused header payload)

/-- Without a nonce nothing is opened and nothing changes. -/
theorem afterOpening_exhausted {cipher : Chacha20Cipher} (hchacha : service.chacha = some cipher)
    (hnonce : counterNonce cipher.inCounter = none) (header payload : Bytes) :
    service.afterOpening aead cipher header payload =
      service.receiveFrame (.refused header payload) := by
  simp only [afterOpening, Chacha20Cipher.decrypt, hnonce, Option.isSome_none,
    Bool.false_eq_true, if_false, ← hchacha]

/-- A frame that is handed to the AEAD is recorded with its nonce, opened or not. -/
theorem afterOpening_openedFrames (service : FakeCompanionService) (aead : Aead)
    {cipher : Chacha20Cipher} {nonce : Bytes}
    (hnonce : counterNonce cipher.inCounter = some nonce) (header payload : Bytes) :
    (service.afterOpening aead cipher header payload).openedFrames =
      service.openedFrames ++
        [.opened cipher.inCounter header payload
          (aead.decrypt cipher.inKey nonce payload header)] := by
  simp [afterOpening, Chacha20Cipher.decrypt, hnonce, openedFrames,
    FakeCompanionService.receiveFrame, InboundFrame.isOpened]

theorem afterOpening_chacha (service : FakeCompanionService) (aead : Aead)
    {cipher : Chacha20Cipher} {nonce : Bytes}
    (hnonce : counterNonce cipher.inCounter = some nonce) (header payload : Bytes) :
    (service.afterOpening aead cipher header payload).chacha =
      some { cipher with inCounter := cipher.inCounter + 1 } := by
  simp [afterOpening, Chacha20Cipher.decrypt, hnonce, FakeCompanionService.receiveFrame]

/-- Its nonce is the next one of the receiver. -/
theorem Synchronised.afterOpening (h : service.Synchronised aead outKey inKey)
    {cipher : Chacha20Cipher} (hchacha : service.chacha = some cipher) (header payload : Bytes) :
    Synchronised aead outKey inKey (service.afterOpening aead cipher header payload) := by
  obtain ⟨houtKey, hinKey⟩ := h.keys cipher hchacha
  have hin := h.inCounter cipher hchacha
  cases hnonce : counterNonce cipher.inCounter with
  | none =>
      rw [afterOpening_exhausted hchacha hnonce]
      exact h.receiveFrame rfl
  | some nonce =>
      have hopened := afterOpening_openedFrames service aead hnonce header payload
      have hlater := afterOpening_chacha service aead hnonce header payload
      exact
        { sealed := h.sealed
          opened := by
            rw [hopened]
            refine numbered_append h.opened ⟨nonce, header, payload, ?_, ?_⟩
            · rw [← hin]
              exact hnonce
            · rw [hin, hinKey]
          keys := by
            intro later heq
            rw [hlater] at heq
            rw [← Option.some.inj heq]
            exact ⟨houtKey, hinKey⟩
          inCounter := by
            intro later heq
            rw [hlater] at heq
            rw [← Option.some.inj heq, hopened, List.length_append]
            exact congrArg (· + 1) hin
          outCounter := by
            intro later heq
            rw [hlater] at heq
            rw [← Option.some.inj heq]
            exact h.outCounter cipher hchacha }

/-- A frame under encryption, by what becomes of it. -/
theorem handleSealed_cases (externals : ConnectionExternals) (service : FakeCompanionService)
    (cipher : Chacha20Cipher) (frameType : FrameType) (header payload : Bytes) (inputs : FrameInputs) :
    (inputs.authorized = false ∧
      service.handleSealed externals cipher frameType header payload inputs =
        ((service.receiveFrame (.refused header payload)).closeConnection, false)) ∨
    (inputs.authorized = true ∧ frameType = .noOp ∧ payload = [] ∧
      service.handleSealed externals cipher frameType header payload inputs =
        (service.receiveFrame .keepalive, service.stillOpen)) ∨
    (inputs.authorized = true ∧ ¬ (frameType = .noOp ∧ payload = []) ∧
      service.handleSealed externals cipher frameType header payload inputs =
        match (cipher.decrypt externals.crypto.aead payload header).2 with
        | none =>
            ((service.afterOpening externals.crypto.aead cipher header payload).closeConnection,
              false)
        | some plaintext =>
            (service.afterOpening externals.crypto.aead cipher header payload).handlePayload
              externals frameType plaintext inputs) := by
  unfold handleSealed
  cases hauthorized : inputs.authorized with
  | false => exact Or.inl ⟨rfl, rfl⟩
  | true =>
      by_cases hkeepalive : frameType = .noOp ∧ payload = []
      · refine Or.inr (Or.inl ⟨rfl, hkeepalive.1, hkeepalive.2, ?_⟩)
        rw [if_neg (by decide), if_pos hkeepalive]
      · refine Or.inr (Or.inr ⟨rfl, hkeepalive, ?_⟩)
        rw [if_neg (by decide), if_neg hkeepalive]
        rfl

/-- A frame is opened first and answered afterwards. -/
theorem Synchronised.handleSealed
    (h : service.Synchronised externals.crypto.aead outKey inKey) {cipher : Chacha20Cipher}
    (hchacha : service.chacha = some cipher) {frameType : FrameType}
    (hplain : frameType.isAuth = false) (header payload : Bytes) (inputs : FrameInputs) :
    Synchronised externals.crypto.aead outKey inKey
      (service.handleSealed externals cipher frameType header payload inputs).1 := by
  rcases handleSealed_cases externals service cipher frameType header payload inputs
    with ⟨-, heq⟩ | ⟨-, -, -, heq⟩ | ⟨-, -, heq⟩
  · rw [heq]
    exact (h.receiveFrame rfl).closeConnection
  · rw [heq]
    exact h.receiveFrame rfl
  · rw [heq]
    split
    · exact (h.afterOpening hchacha header payload).closeConnection
    · exact (h.afterOpening hchacha header payload).handlePayload hplain _ inputs

/-! ## Before the cipher is installed -/

/-- No sealed frame is written and none is opened. -/
structure Quiet (service next : FakeCompanionService) : Prop where
  sealed : next.sealedFrames = service.sealedFrames
  opened : next.openedFrames = service.openedFrames

/-- Without a cipher nothing is sealed or opened, however long the program. -/
theorem Quiet.trans {middle : FakeCompanionService} (hfirst : service.Quiet middle)
    (hsecond : middle.Quiet next) : service.Quiet next :=
  ⟨hsecond.sealed.trans hfirst.sealed, hsecond.opened.trans hfirst.opened⟩

theorem sendToClient_quiet (aead : Aead) (hchacha : service.chacha = none)
    (frameType : FrameType) (encoded : Option Bytes) :
    service.Quiet (service.sendToClient aead frameType encoded).1 := by
  rcases sendToClient_cases aead service frameType encoded with
    heq | ⟨-, header, payload, heq⟩ | ⟨cipher, nonce, data, header, hsome, -, -⟩
  · rw [heq]
    exact ⟨rfl, rfl⟩
  · rw [heq]
    refine ⟨?_, write_openedFrames _ _⟩
    rw [write_sealedFrames, if_neg]
    rintro ⟨-, hfalse⟩
    exact Bool.false_ne_true hfalse
  · rw [hchacha] at hsome
    exact absurd hsome (by simp)

theorem malformedFrame_quiet (service : FakeCompanionService) :
    service.Quiet service.malformedFrame.1 := by
  unfold FakeCompanionService.malformedFrame
  dsimp only
  split <;> exact ⟨rfl, rfl⟩

theorem receiveFrame_quiet (service : FakeCompanionService) {frame : InboundFrame}
    (hframe : frame.isOpened = false) : service.Quiet (service.receiveFrame frame) := by
  refine ⟨rfl, ?_⟩
  simp [openedFrames, FakeCompanionService.receiveFrame, hframe]

theorem applyEffect_quiet (hchacha : service.chacha = none) (effect : AuthEffect) :
    service.Quiet (service.applyEffect externals effect) := by
  cases effect with
  | send message =>
      have hsent := @sendToClient_quiet
        { service with
          exchanges := service.exchanges ++ (AuthEffect.send message).verifyEvent?.toList }
        externals.crypto.aead hchacha message.frameType (some (externals.packMessage message))
      exact ⟨hsent.sealed, hsent.opened⟩
  | _ => exact ⟨rfl, rfl⟩

/-- Effects that install no cipher use none. -/
theorem applyEffects_quiet (hchacha : service.chacha = none) {effects : List AuthEffect}
    (hplain : ∀ outputKey inputKey, AuthEffect.enableEncryption outputKey inputKey ∉ effects) :
    service.Quiet (service.applyEffects externals effects) := by
  induction effects generalizing service with
  | nil => exact ⟨rfl, rfl⟩
  | cons effect rest ih =>
      have hfirst : (service.applyEffect externals effect).chacha = none :=
        @applyEffects_chacha externals service hchacha [effect] fun outputKey inputKey hmem =>
          hplain outputKey inputKey
            (List.mem_singleton.mp hmem ▸ List.mem_cons_self)
      exact (applyEffect_quiet hchacha effect).trans
        (ih hfirst fun outputKey inputKey hmem =>
          hplain outputKey inputKey (List.mem_cons_of_mem effect hmem))

/-- A handler installs the cipher last, or not at all. -/
theorem authReply_effects (externals : ConnectionExternals)
    (hinvariant : service.ConnectionInvariant) (hopen : service.connectionClosed = false)
    (hchacha : service.chacha = none) (frameType : FrameType) (unpacked : UnpackedFrame)
    (inputs : AuthInputs) :
    (∀ outputKey inputKey, AuthEffect.enableEncryption outputKey inputKey ∉
      (service.authReply externals frameType unpacked inputs).effects) ∨
    ∃ material message,
      (service.authReply externals frameType unpacked inputs).effects =
        [.useVerify material, .send message,
          .enableEncryption material.outputKey material.inputKey] := by
  have hplain : service.auth.isEncrypted = false := by
    have hphase : service.auth.authPhase ≠ .encrypted := by
      rw [Ne, ← hinvariant.cipher hopen, hchacha]
      decide
    simpa [CompanionServerAuth.isEncrypted] using hphase
  obtain ⟨-, hstep⟩ := CompanionServerAuth.handleAuthFrame_step externals.crypto
    externals.accessoryInfo hinvariant.phases hplain
    { inputs with cipherInstalled := service.chacha.isSome } frameType unpacked.pairingBlob
  change CompanionServerAuth.ExchangeStep _ _ _ _ _
    (service.authReply externals frameType unpacked inputs) at hstep
  have hsilent : ∀ exchange, (service.authReply externals frameType unpacked inputs).exchange =
      exchange → (∀ event ∈ exchange, event.isInstalled = false) →
      ∀ outputKey inputKey, AuthEffect.enableEncryption outputKey inputKey ∉
        (service.authReply externals frameType unpacked inputs).effects := by
    intro exchange heq hexchange outputKey inputKey hmem
    have hevent : VerifyEvent.installed outputKey inputKey ∈ exchange := by
      rw [← heq]
      exact List.mem_filterMap.mpr ⟨_, hmem, rfl⟩
    exact absurd (hexchange _ hevent) (by simp [VerifyEvent.isInstalled])
  cases hstep with
  | silent _ _ hexchange => exact Or.inl (hsilent _ hexchange (by simp))
  | began material _ _ hexchange =>
      exact Or.inl (hsilent _ hexchange (by simp [VerifyEvent.isInstalled]))
  | failed material _ _ hfailed =>
      exact Or.inl (hsilent _ hfailed.exchange (by simp [VerifyEvent.isInstalled]))
  | installed material _ _ message _ _ _ _ _ _ _ _ heffects =>
      exact Or.inr ⟨material, message, heffects⟩

/-- An authentication frame seals nothing before it installs the cipher. -/
theorem handleAuth_quiet (externals : ConnectionExternals)
    (hinvariant : service.ConnectionInvariant) (hopen : service.connectionClosed = false)
    (hchacha : service.chacha = none) (frameType : FrameType) (unpacked : UnpackedFrame)
    (inputs : AuthInputs) :
    service.Quiet (service.handleAuth externals frameType unpacked inputs).1 := by
  have hadvanced : Quiet
      { service with auth := (service.authReply externals frameType unpacked inputs).auth }
      ({ service with
          auth := (service.authReply externals frameType unpacked inputs).auth }.applyEffects
        externals (service.authReply externals frameType unpacked inputs).effects) := by
    rcases authReply_effects externals hinvariant hopen hchacha frameType unpacked inputs with
      hplain | ⟨material, message, heffects⟩
    · apply applyEffects_quiet
      · exact hchacha
      · exact hplain
    · rw [heffects]
      -- the installation follows the last message
      have hsent : Quiet
          { service with auth := (service.authReply externals frameType unpacked inputs).auth }
          (applyEffects externals
            { service with auth := (service.authReply externals frameType unpacked inputs).auth }
            [.useVerify material, .send message]) := by
        apply applyEffects_quiet
        · exact hchacha
        · intro outputKey inputKey hmem
          simp at hmem
      exact ⟨hsent.sealed, hsent.opened⟩
  unfold handleAuth
  dsimp only
  split
  · exact ⟨hadvanced.sealed, hadvanced.opened⟩
  · exact ⟨hadvanced.sealed, hadvanced.opened⟩

/-- Without a cipher no frame is sealed or opened. -/
theorem handleFrame_quiet (externals : ConnectionExternals)
    (hinvariant : service.ConnectionInvariant) (hopen : service.connectionClosed = false)
    (hchacha : service.chacha = none) (header payload : Bytes) (inputs : FrameInputs) :
    service.Quiet (service.handleFrame externals header payload inputs).1 := by
  unfold handleFrame
  split
  · exact malformedFrame_quiet service
  split
  · have hreceived : service.Quiet (service.receiveFrame (.refused header payload)) :=
      receiveFrame_quiet service rfl
    exact ⟨hreceived.sealed, hreceived.opened⟩
  split
  · exact ⟨rfl, rfl⟩
  rw [hchacha]
  dsimp only
  unfold handlePayload
  split
  · exact ⟨rfl, rfl⟩
  split
  · exact malformedFrame_quiet service
  split
  · exact handleAuth_quiet externals hinvariant hopen hchacha _ _ _
  · rw [if_pos (by rw [hchacha]; rfl)]
    exact malformedFrame_quiet service

/-! ## Runs -/

/-- Nothing is numbered before the cipher is there, and afterwards both
directions are. -/
structure NonceInvariant (aead : Aead) (service : FakeCompanionService) : Prop where
  connection : service.ConnectionInvariant
  unnumbered : service.connectionClosed = false → service.chacha = none →
    service.sealedFrames = [] ∧ service.openedFrames = []
  synchronised : ∃ outKey inKey, service.Synchronised aead outKey inKey

/-- A connection that has sealed and opened nothing is in step under any keys. -/
theorem synchronised_unnumbered (hsealed : service.sealedFrames = [])
    (hopened : service.openedFrames = [])
    (hchacha : ∀ cipher, service.chacha = some cipher →
      cipher = { outKey := outKey, inKey := inKey }) :
    service.Synchronised aead outKey inKey where
  sealed := by simp [hsealed]
  opened := by simp [hopened]
  keys := by
    intro cipher heq
    rw [hchacha cipher heq]
    exact ⟨rfl, rfl⟩
  inCounter := by
    intro cipher heq
    rw [hchacha cipher heq, hopened]
    rfl
  outCounter := by
    intro cipher heq
    rw [hchacha cipher heq, hsealed]
    exact ⟨le_rfl, fun _ => rfl⟩

/-- While there is no cipher, a quiet step that installs one installs a fresh one. -/
theorem NonceInvariant.quiet (h : service.NonceInvariant aead)
    (hopen : service.connectionClosed = false) (hchacha : service.chacha = none)
    (hquiet : service.Quiet next) (hconnection : next.ConnectionInvariant)
    (hfresh : ∀ cipher, next.chacha = some cipher →
      ∃ outKey inKey, cipher = { outKey := outKey, inKey := inKey }) :
    next.NonceInvariant aead := by
  obtain ⟨hsealed, hopened⟩ := h.unnumbered hopen hchacha
  have hsealed' : next.sealedFrames = [] := hquiet.sealed.trans hsealed
  have hopened' : next.openedFrames = [] := hquiet.opened.trans hopened
  refine ⟨hconnection, fun _ _ => ⟨hsealed', hopened'⟩, ?_⟩
  cases hnext : next.chacha with
  | none => exact ⟨[], [], synchronised_unnumbered hsealed' hopened' (by simp [hnext])⟩
  | some cipher =>
      obtain ⟨outKey, inKey, heq⟩ := hfresh cipher hnext
      refine ⟨outKey, inKey, synchronised_unnumbered hsealed' hopened' ?_⟩
      intro later hlater
      rw [hnext, Option.some.injEq] at hlater
      rw [← hlater, heq]

/-- One frame: plaintext, the one that installs the cipher, or a sealed one. -/
theorem NonceInvariant.frame (h : service.NonceInvariant externals.crypto.aead)
    {header payload : Bytes} {inputs : FrameInputs}
    (hstep : frameStep externals service (.frame header payload inputs) = some next) :
    next.NonceInvariant externals.crypto.aead := by
  have hconnection := frameStep_invariant h.connection hstep
  have hinstalls := frameStep_installs h.connection hstep
  have hkept := frameStep_cases hstep
  simp only [frameStep] at hstep
  split at hstep
  · exact absurd hstep (by simp)
  rename_i hclosed
  rw [Bool.not_eq_true] at hclosed
  rw [Option.some.injEq] at hstep
  subst hstep
  -- the frame that installs the cipher is itself in the clear
  cases hchacha : service.chacha with
  | none =>
      refine h.quiet hclosed hchacha
        (handleFrame_quiet externals h.connection hclosed hchacha header payload inputs)
        hconnection ?_
      intro cipher hcipher
      obtain ⟨_, _, _, _, _, material, _, _, _, _, _, _, _, _, _, hnext, _⟩ :=
        hinstalls hchacha (by rw [hcipher]; simp)
      rw [hcipher, Option.some.injEq] at hnext
      exact ⟨_, _, hnext⟩
  | some cipher =>
      obtain ⟨outKey, inKey, hsynchronised⟩ := h.synchronised
      refine ⟨hconnection, ?_, outKey, inKey, ?_⟩
      · intro _ hnone
        rcases handleFrame_cases externals service header payload inputs with
          ⟨_, _, _, _, hsome, _⟩ | hcarries
        · rw [hchacha] at hsome
          exact absurd hsome (by simp)
        · have hkeeps := hcarries.isSome
          rw [hnone, hchacha] at hkeeps
          exact absurd hkeeps (by simp)
      · unfold handleFrame
        split
        · exact hsynchronised.malformedFrame
        split
        · exact (hsynchronised.receiveFrame rfl).closeConnection
        split
        · exact hsynchronised.closeConnection
        · rename_i frameType _ hcleartext _
          rw [hchacha]
          dsimp only
          have hplain : frameType.isAuth = false := by
            rw [hchacha] at hcleartext
            simpa using hcleartext
          exact hsynchronised.handleSealed hchacha hplain header payload inputs

/-- One case for each label. -/
theorem NonceInvariant.step (h : service.NonceInvariant externals.crypto.aead)
    {label : FrameLabel} (hstep : frameStep externals service label = some next) :
    next.NonceInvariant externals.crypto.aead := by
  have hconnection := frameStep_invariant h.connection hstep
  obtain ⟨outKey, inKey, hsynchronised⟩ := h.synchronised
  cases label with
  | frame header payload inputs => exact h.frame hstep
  | parsed parser =>
      simp only [frameStep, Option.some.injEq] at hstep
      subst hstep
      exact ⟨hconnection, h.unnumbered, outKey, inKey, { hsynchronised with }⟩
  | push frameType encoded =>
      simp only [frameStep, Option.some.injEq] at hstep
      subst hstep
      refine ⟨hconnection, ?_, outKey, inKey, hsynchronised.sendToClient frameType encoded⟩
      intro hopen hnone
      have hcarries := sendToClient_carries externals.crypto.aead service frameType encoded
      rw [hcarries.connectionClosed] at hopen
      have hchacha : service.chacha = none := by
        have hkept := hcarries.isSome
        rw [hnone] at hkept
        exact Option.isNone_iff_eq_none.mp (Option.isSome_eq_false_iff.mp hkept.symm)
      have hquiet := sendToClient_quiet externals.crypto.aead hchacha frameType encoded
      rw [hquiet.sealed, hquiet.opened]
      exact h.unnumbered hopen hchacha
  | closeConnection =>
      simp only [frameStep, Option.some.injEq] at hstep
      subst hstep
      exact ⟨hconnection, h.unnumbered, outKey, inKey, hsynchronised.closeConnection⟩
  | authenticationTimedOut =>
      simp only [frameStep, Option.some.injEq, authenticationTimedOut] at hstep
      subst hstep
      split
      · rename_i hnone
        rw [if_pos hnone] at hconnection
        exact ⟨hconnection, h.unnumbered, outKey, inKey, hsynchronised.closeConnection⟩
      · exact h
  -- the cipher is gone after the teardown, so no counter is left to agree
  | teardownConnection =>
      simp only [frameStep, Option.some.injEq, teardownConnection] at hstep
      subst hstep
      split
      · exact h
      · rename_i hopen
        rw [if_neg hopen] at hconnection
        refine ⟨hconnection, fun hclosed => absurd hclosed (by simp), outKey, inKey, ?_⟩
        exact
          { sealed := hsynchronised.sealed
            opened := hsynchronised.opened
            keys := by simp
            inCounter := by simp
            outCounter := by simp }

theorem connectionMade_nonces (aead : Aead) (auth : CompanionServerAuth) :
    (connectionMade auth).NonceInvariant aead :=
  ⟨connectionMade_invariant auth, fun _ _ => ⟨rfl, rfl⟩, [], [],
    synchronised_unnumbered rfl rfl (by simp [connectionMade])⟩

end FakeCompanionService

end CompanionBridge
