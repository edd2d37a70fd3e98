import CompanionBridge.Protocol.Connection

/-!
# A connection frame by frame

The loop of `data_received` is unfolded into one step for each frame, so that
what holds between two frames of one chunk can be stated. Every run of the byte
machine is a run of the frame machine.
-/

namespace CompanionBridge

/-- An event of one connection at the grain of frames. -/
inductive FrameLabel where
  /-- The parser takes in bytes. -/
  | parsed (parser : FrameParser)
  /-- A complete frame is handled. -/
  | frame (header payload : Bytes) (inputs : FrameInputs)
  | push (frameType : FrameType) (encoded : Option Bytes)
  | closeConnection
  | authenticationTimedOut
  | teardownConnection

/-- The cipher a later state holds is the same one, perhaps further on. -/
structure Chacha20Cipher.Continues (cipher next : Chacha20Cipher) : Prop where
  outKey : next.outKey = cipher.outKey
  inKey : next.inKey = cipher.inKey
  outCounter : cipher.outCounter ≤ next.outCounter
  inCounter : cipher.inCounter ≤ next.inCounter

namespace Chacha20Cipher

theorem Continues.refl (cipher : Chacha20Cipher) : cipher.Continues cipher :=
  ⟨rfl, rfl, le_rfl, le_rfl⟩

/-- A cipher that goes on keeps its keys and never counts back. -/
theorem Continues.trans {cipher middle next : Chacha20Cipher} (hfirst : cipher.Continues middle)
    (hsecond : middle.Continues next) : cipher.Continues next where
  outKey := hsecond.outKey.trans hfirst.outKey
  inKey := hsecond.inKey.trans hfirst.inKey
  outCounter := hfirst.outCounter.trans hsecond.outCounter
  inCounter := hfirst.inCounter.trans hsecond.inCounter

/-- Sealing uses the nonce of the counter and counts on. -/
theorem encrypt_eq_some {aead : Aead} {cipher next : Chacha20Cipher} {data aad payload : Bytes}
    (hsealed : cipher.encrypt aead data aad = some (payload, next)) :
    ∃ nonce, counterNonce cipher.outCounter = some nonce ∧
      payload = aead.encrypt cipher.outKey nonce data aad ∧
      next = { cipher with outCounter := cipher.outCounter + 1 } := by
  simp only [encrypt, Option.map_eq_some_iff, Prod.mk.injEq] at hsealed
  obtain ⟨nonce, hnonce, hpayload, hnext⟩ := hsealed
  exact ⟨nonce, hnonce, hpayload.symm, hnext.symm⟩

theorem encrypt_continues {aead : Aead} {cipher next : Chacha20Cipher} {data aad payload : Bytes}
    (hsealed : cipher.encrypt aead data aad = some (payload, next)) : cipher.Continues next := by
  obtain ⟨nonce, -, -, rfl⟩ := encrypt_eq_some hsealed
  exact ⟨rfl, rfl, Nat.le_succ _, le_rfl⟩

/-- Opening counts on, whether or not it succeeds. -/
theorem decrypt_continues (aead : Aead) (cipher : Chacha20Cipher) (data aad : Bytes) :
    cipher.Continues (cipher.decrypt aead data aad).1 := by
  unfold decrypt
  split
  · exact Continues.refl cipher
  · exact ⟨rfl, rfl, le_rfl, Nat.le_succ _⟩

end Chacha20Cipher

namespace FakeCompanionService

variable {externals : ConnectionExternals}

def frameStep (externals : ConnectionExternals) (service : FakeCompanionService) :
    FrameLabel → Option FakeCompanionService
  | .parsed parser => some { service with frameParser := parser }
  | .frame header payload inputs =>
      if service.connectionClosed then none
      else some (service.handleFrame externals header payload inputs).1
  | .push frameType encoded => some (service.sendToClient externals.crypto.aead frameType encoded).1
  | .closeConnection => some service.closeConnection
  | .authenticationTimedOut => some service.authenticationTimedOut
  | .teardownConnection => some service.teardownConnection

/-! ## What every function carries over -/

/-- The exchange is not touched and the cipher is the same one. -/
structure Carries (service next : FakeCompanionService) : Prop where
  auth : next.auth = service.auth
  exchanges : next.exchanges = service.exchanges
  connectionClosed : next.connectionClosed = service.connectionClosed
  chacha : Option.Rel Chacha20Cipher.Continues service.chacha next.chacha

theorem continues_refl (chacha : Option Chacha20Cipher) :
    Option.Rel Chacha20Cipher.Continues chacha chacha := by
  cases chacha with
  | none => exact .none
  | some cipher => exact .some (Chacha20Cipher.Continues.refl cipher)

theorem Carries.refl (service : FakeCompanionService) : service.Carries service :=
  ⟨rfl, rfl, rfl, continues_refl service.chacha⟩

theorem Carries.trans {service middle next : FakeCompanionService}
    (hfirst : service.Carries middle) (hsecond : middle.Carries next) : service.Carries next where
  auth := hsecond.auth.trans hfirst.auth
  exchanges := hsecond.exchanges.trans hfirst.exchanges
  connectionClosed := hsecond.connectionClosed.trans hfirst.connectionClosed
  chacha := by
    have hleft := hfirst.chacha
    have hright := hsecond.chacha
    generalize service.chacha = first at hleft
    generalize middle.chacha = second at hleft hright
    generalize next.chacha = third at hright
    cases hleft with
    | none => exact hright
    | some hcontinues =>
        cases hright with
        | some hlater => exact .some (hcontinues.trans hlater)

theorem Carries.isSome {service next : FakeCompanionService} (hcarries : service.Carries next) :
    next.chacha.isSome = service.chacha.isSome := by
  have hrel := hcarries.chacha
  generalize service.chacha = first at hrel
  generalize next.chacha = second at hrel
  cases hrel <;> rfl

theorem Carries.none {service next : FakeCompanionService} (hcarries : service.Carries next)
    (hchacha : service.chacha = none) : next.chacha = none := by
  have hkept := hcarries.isSome
  rw [hchacha] at hkept
  exact Option.isNone_iff_eq_none.mp (Option.isSome_eq_false_iff.mp hkept)

/-- A close forgets neither the exchange nor the cipher. -/
theorem closeConnection_carries (service : FakeCompanionService) :
    service.Carries service.closeConnection :=
  ⟨rfl, rfl, rfl, continues_refl service.chacha⟩

theorem receiveFrame_carries (service : FakeCompanionService) (frame : InboundFrame) :
    service.Carries (service.receiveFrame frame) :=
  ⟨rfl, rfl, rfl, continues_refl service.chacha⟩

theorem write_carries (service : FakeCompanionService) (frame : WrittenFrame) :
    service.Carries (service.write frame) := by
  unfold write
  split
  · exact ⟨rfl, rfl, rfl, continues_refl service.chacha⟩
  · exact Carries.refl service

theorem malformedFrame_carries (service : FakeCompanionService) :
    service.Carries service.malformedFrame.1 := by
  unfold malformedFrame
  dsimp only
  split <;> exact ⟨rfl, rfl, rfl, continues_refl service.chacha⟩

theorem setCipher_carries {service : FakeCompanionService} {cipher next : Chacha20Cipher}
    (hchacha : service.chacha = some cipher) (hcontinues : cipher.Continues next) :
    service.Carries { service with chacha := some next } where
  auth := rfl
  exchanges := rfl
  connectionClosed := rfl
  chacha := by rw [hchacha]; exact .some hcontinues

/-- Sending moves the counter of a cipher that is there. -/
theorem sendToClient_carries (aead : Aead) (service : FakeCompanionService)
    (frameType : FrameType) (encoded : Option Bytes) :
    service.Carries (service.sendToClient aead frameType encoded).1 := by
  unfold sendToClient
  split
  · exact Carries.refl service
  split
  · exact Carries.refl service
  split
  · exact write_carries service _
  · rename_i cipher hchacha
    dsimp only
    split
    · exact Carries.refl service
    · rename_i payload next hsealed
      exact (setCipher_carries hchacha (Chacha20Cipher.encrypt_continues hsealed)).trans
        (write_carries _ _)

/-- Actions one after the other, by induction. -/
theorem performActions_carries (aead : Aead) (service : FakeCompanionService)
    (actions : List MessageAction) :
    service.Carries (service.performActions aead actions).1 := by
  induction actions generalizing service with
  | nil => exact Carries.refl service
  | cons action rest ih =>
      cases action with
      | close => exact (closeConnection_carries service).trans (ih service.closeConnection)
      | malformed => exact (malformedFrame_carries service).trans (ih service.malformedFrame.1)
      | send frameType encoded =>
          have hsent := sendToClient_carries aead service frameType encoded
          unfold performActions
          dsimp only
          split
          · exact hsent
          · exact hsent.trans (ih _)

/-- A frame that is not an authentication frame leaves the exchange alone. -/
theorem handlePayload_carries (service : FakeCompanionService) {frameType : FrameType}
    (hplain : frameType.isAuth = false) (payload : Bytes) (inputs : FrameInputs) :
    service.Carries (service.handlePayload externals frameType payload inputs).1 := by
  unfold handlePayload
  split
  · exact closeConnection_carries service
  split
  · exact malformedFrame_carries service
  rw [hplain, if_neg Bool.false_ne_true]
  split
  · exact malformedFrame_carries service
  split
  · exact Carries.refl service
  dsimp only
  have hcounted : service.Carries { service with handled := service.handled + 1 } :=
    ⟨rfl, rfl, rfl, continues_refl service.chacha⟩
  have hperformed := fun actions => hcounted.trans
    (performActions_carries externals.crypto.aead { service with handled := service.handled + 1 }
      actions)
  split
  · exact (hperformed _).trans (malformedFrame_carries _)
  · exact hperformed _

/-- An encrypted frame never touches the exchange. -/
theorem handleSealed_carries {service : FakeCompanionService} {cipher : Chacha20Cipher}
    (hchacha : service.chacha = some cipher) {frameType : FrameType}
    (hplain : frameType.isAuth = false) (header payload : Bytes) (inputs : FrameInputs) :
    service.Carries (service.handleSealed externals cipher frameType header payload inputs).1 := by
  unfold handleSealed
  split
  · exact (receiveFrame_carries service _).trans (closeConnection_carries _)
  split
  · exact receiveFrame_carries service _
  dsimp only
  have hopened := (setCipher_carries hchacha
    (Chacha20Cipher.decrypt_continues externals.crypto.aead cipher payload header))
  split
  · exact (hopened.trans (receiveFrame_carries _ _)).trans (closeConnection_carries _)
  · exact (hopened.trans (receiveFrame_carries _ _)).trans (handlePayload_carries _ hplain _ _)

/-- A frame either reaches the authentication exchange, without a cipher, or
leaves the exchange alone. -/
theorem handleFrame_cases (externals : ConnectionExternals) (service : FakeCompanionService)
    (header payload : Bytes) (inputs : FrameInputs) :
    (∃ frameType unpacked,
      FrameType.ofCode? (header.headD 0) = some frameType ∧ frameType.isAuth = true ∧
      service.chacha = none ∧ service.auth.isEncrypted = false ∧
      inputs.unpacked = some unpacked ∧
      service.handleFrame externals header payload inputs =
        service.handleAuth externals frameType unpacked inputs.auth) ∨
    service.Carries (service.handleFrame externals header payload inputs).1 := by
  unfold handleFrame
  cases htype : FrameType.ofCode? (header.headD 0) with
  | none => exact Or.inr (malformedFrame_carries service)
  | some frameType =>
      dsimp only
      split
      · exact Or.inr ((receiveFrame_carries service _).trans (closeConnection_carries _))
      · rename_i hcleartext
        split
        · exact Or.inr (closeConnection_carries service)
        · cases hauth : frameType.isAuth with
          | false =>
              cases hchacha : service.chacha with
              | none => exact Or.inr (handlePayload_carries service hauth payload inputs)
              | some cipher =>
                  exact Or.inr (handleSealed_carries hchacha hauth header payload inputs)
          | true =>
              simp only [hauth, true_and, not_or, Bool.not_eq_true, Option.isSome_eq_false_iff,
                Option.isNone_iff_eq_none] at hcleartext
              obtain ⟨hchacha, hencrypted⟩ := hcleartext
              rw [hchacha]
              dsimp only
              unfold handlePayload
              split
              · exact Or.inr (closeConnection_carries service)
              · cases hunpacked : inputs.unpacked with
                | none => exact Or.inr (malformedFrame_carries service)
                | some unpacked =>
                    refine Or.inl ⟨frameType, unpacked, rfl, hauth, rfl, hencrypted, rfl, rfl⟩

/-- An auth frame under encryption closes the connection and does nothing else. -/
theorem handleFrame_afterEncryption {service : FakeCompanionService} {header : Bytes}
    {frameType : FrameType} (htype : FrameType.ofCode? (header.headD 0) = some frameType)
    (hauth : frameType.isAuth = true)
    (hencrypted : service.chacha.isSome ∨ service.auth.isEncrypted = true) (payload : Bytes)
    (inputs : FrameInputs) :
    service.handleFrame externals header payload inputs =
      ((service.receiveFrame (.refused header payload)).closeConnection, false) := by
  unfold handleFrame
  rw [htype]
  dsimp only
  rw [if_pos ⟨hauth, hencrypted⟩]

/-! ## The end of a connection -/

theorem closeConnection_transport (service : FakeCompanionService) :
    service.closeConnection.transport ≠ .up := by
  show (if service.transport = .up then Transport.closing else service.transport) ≠ .up
  split
  · decide
  · assumption

theorem isConnectionActive_transport {service : FakeCompanionService}
    (hactive : service.isConnectionActive = true) : service.transport = .up := by
  simp only [isConnectionActive, Bool.and_eq_true, decide_eq_true_eq] at hactive
  exact hactive.2

theorem closeConnection_inactive (service : FakeCompanionService) :
    service.closeConnection.isConnectionActive = false := by
  rw [Bool.eq_false_iff]
  intro hactive
  exact closeConnection_transport service (isConnectionActive_transport hactive)

/-- The loop is left only when nothing more may be read. -/
def Stops (handled : FakeCompanionService × Bool) : Prop :=
  handled.2 = false → handled.1.isConnectionActive = false

theorem closeConnection_stops (service : FakeCompanionService) :
    Stops (service.closeConnection, false) :=
  fun _ => closeConnection_inactive service

theorem stillOpen_stops (service : FakeCompanionService) : Stops (service, service.stillOpen) := by
  intro hstops
  rw [Bool.eq_false_iff]
  intro hactive
  have hup : service.transport = .up := isConnectionActive_transport hactive
  simp [stillOpen, hup] at hstops

/-- A malformed frame stops the reading exactly when it closes the connection. -/
theorem malformedFrame_stops (service : FakeCompanionService) : Stops service.malformedFrame := by
  unfold malformedFrame
  dsimp only
  split
  · exact closeConnection_stops _
  · exact fun hstops => absurd hstops (by simp)

theorem handleAuth_stops (externals : ConnectionExternals) (service : FakeCompanionService)
    (frameType : FrameType) (unpacked : UnpackedFrame) (inputs : AuthInputs) :
    Stops (service.handleAuth externals frameType unpacked inputs) := by
  unfold handleAuth
  dsimp only
  split
  · exact stillOpen_stops _
  · exact closeConnection_stops _

theorem handlePayload_stops (externals : ConnectionExternals) (service : FakeCompanionService)
    (frameType : FrameType) (payload : Bytes) (inputs : FrameInputs) :
    Stops (service.handlePayload externals frameType payload inputs) := by
  unfold handlePayload
  split
  · exact closeConnection_stops service
  split
  · exact malformedFrame_stops service
  split
  · exact handleAuth_stops externals service _ _ _
  split
  · exact malformedFrame_stops service
  split
  · exact stillOpen_stops service
  dsimp only
  split
  · exact malformedFrame_stops _
  · exact stillOpen_stops _

theorem handleSealed_stops (externals : ConnectionExternals) (service : FakeCompanionService)
    (cipher : Chacha20Cipher) (frameType : FrameType) (header payload : Bytes)
    (inputs : FrameInputs) :
    Stops (service.handleSealed externals cipher frameType header payload inputs) := by
  unfold handleSealed
  split
  · exact closeConnection_stops _
  split
  · exact stillOpen_stops (service.receiveFrame .keepalive)
  dsimp only
  split
  · exact closeConnection_stops _
  · exact handlePayload_stops externals _ frameType _ inputs

theorem handleFrame_stops (externals : ConnectionExternals) (service : FakeCompanionService)
    (header payload : Bytes) (inputs : FrameInputs) :
    Stops (service.handleFrame externals header payload inputs) := by
  unfold handleFrame
  split
  · exact malformedFrame_stops service
  split
  · exact closeConnection_stops _
  split
  · exact closeConnection_stops service
  split
  · exact handleSealed_stops externals service _ _ header payload inputs
  · exact handlePayload_stops externals service _ payload inputs

/-! ## The effects of an authentication handler -/

theorem applyEffect_auth (externals : ConnectionExternals) (service : FakeCompanionService)
    (effect : AuthEffect) :
    (service.applyEffect externals effect).auth = service.auth ∧
      (service.applyEffect externals effect).connectionClosed = service.connectionClosed ∧
      (service.applyEffect externals effect).exchanges =
        service.exchanges ++ effect.verifyEvent?.toList := by
  cases effect with
  | send message =>
      have hsent := sendToClient_carries externals.crypto.aead
        { service with
          exchanges := service.exchanges ++ (AuthEffect.send message).verifyEvent?.toList }
        message.frameType (some (externals.packMessage message))
      exact ⟨hsent.auth, hsent.connectionClosed, hsent.exchanges⟩
  | _ => exact ⟨rfl, rfl, rfl⟩

/-- The effects of a reply do not change the reply. -/
theorem applyEffects_auth (externals : ConnectionExternals) (service : FakeCompanionService)
    (effects : List AuthEffect) :
    (service.applyEffects externals effects).auth = service.auth ∧
      (service.applyEffects externals effects).connectionClosed = service.connectionClosed ∧
      (service.applyEffects externals effects).exchanges =
        service.exchanges ++ effects.filterMap AuthEffect.verifyEvent? := by
  induction effects generalizing service with
  | nil => exact ⟨rfl, rfl, (List.append_nil _).symm⟩
  | cons effect rest ih =>
      obtain ⟨hauth, hclosed, hexchanges⟩ := applyEffect_auth externals service effect
      obtain ⟨hrestAuth, hrestClosed, hrestExchanges⟩ := ih (service.applyEffect externals effect)
      refine ⟨hrestAuth.trans hauth, hrestClosed.trans hclosed, hrestExchanges.trans ?_⟩
      rw [hexchanges, List.filterMap_cons, List.append_assoc]
      cases effect.verifyEvent? <;> rfl

/-- Without an installation there is no cipher afterwards. -/
theorem applyEffects_chacha {service : FakeCompanionService} (hchacha : service.chacha = none)
    {effects : List AuthEffect}
    (hplain : ∀ outputKey inputKey, AuthEffect.enableEncryption outputKey inputKey ∉ effects) :
    (service.applyEffects externals effects).chacha = none := by
  induction effects generalizing service with
  | nil => exact hchacha
  | cons effect rest ih =>
      apply ih
      · cases effect with
        | send message =>
            have hsent := sendToClient_carries externals.crypto.aead
              { service with
                exchanges := service.exchanges ++ (AuthEffect.send message).verifyEvent?.toList }
              message.frameType (some (externals.packMessage message))
            exact hsent.none hchacha
        | enableEncryption outputKey inputKey =>
            exact absurd List.mem_cons_self (hplain outputKey inputKey)
        | _ => exact hchacha
      · intro outputKey inputKey hmem
        exact hplain outputKey inputKey (List.mem_cons_of_mem effect hmem)

/-! ## From bytes to frames -/

theorem handleAuth_connectionClosed (externals : ConnectionExternals)
    (service : FakeCompanionService) (frameType : FrameType) (unpacked : UnpackedFrame)
    (inputs : AuthInputs) :
    (service.handleAuth externals frameType unpacked inputs).1.connectionClosed =
      service.connectionClosed := by
  unfold handleAuth
  dsimp only
  split
  · exact (applyEffects_auth _ _ _).2.1
  · exact (closeConnection_carries _).connectionClosed.trans (applyEffects_auth _ _ _).2.1

theorem handleFrame_connectionClosed (externals : ConnectionExternals)
    (service : FakeCompanionService) (header payload : Bytes) (inputs : FrameInputs) :
    (service.handleFrame externals header payload inputs).1.connectionClosed =
      service.connectionClosed := by
  rcases handleFrame_cases externals service header payload inputs with
    ⟨frameType, unpacked, -, -, -, -, -, heq⟩ | hcarries
  · rw [heq]
    exact handleAuth_connectionClosed externals service frameType unpacked inputs.auth
  · exact hcarries.connectionClosed

open Machine in
/-- The loop over a chunk is a sequence of frame steps. -/
theorem receive_frames (fuel : Nat) {service : FakeCompanionService}
    (hopen : service.connectionClosed = false) (incoming : Bytes) (inputs : Nat → FrameInputs) :
    ∃ labels, run (frameStep externals) service labels =
      some (receive externals fuel service incoming inputs) := by
  induction fuel generalizing service incoming inputs with
  | zero => exact ⟨[], rfl⟩
  | succ fuel ih =>
      unfold receive
      rcases hparsed : service.frameParser.next incoming with ⟨parser, result⟩
      cases result with
      | needMore => exact ⟨[.parsed parser], rfl⟩
      | tooLarge declared => exact ⟨[.parsed parser, .closeConnection], rfl⟩
      | frame header payload rest =>
          dsimp only
          have hclosed := handleFrame_connectionClosed externals
            { service with frameParser := parser } header payload (inputs 0)
          have hframe : run (frameStep externals) service
              [.parsed parser, .frame header payload (inputs 0)] =
                some ({ service with frameParser := parser }.handleFrame externals header payload
                  (inputs 0)).1 := by
            simp [run, frameStep, hopen]
          split
          · obtain ⟨labels, hrest⟩ := ih (hclosed.trans hopen) rest fun n => inputs (n + 1)
            exact ⟨_, (run_append _ _ labels _).mpr ⟨_, hframe, hrest⟩⟩
          · exact ⟨_, hframe⟩

open Machine in
/-- The frame machine makes every run of the byte machine. -/
theorem run_frames {service final : FakeCompanionService} {labels : List ConnectionLabel}
    (hrun : run (step externals) service labels = some final) :
    ∃ frames, run (frameStep externals) service frames = some final := by
  induction labels generalizing service with
  | nil => exact ⟨[], hrun⟩
  | cons label rest ih =>
      obtain ⟨next, hstep, hrest⟩ := (run_cons service label rest final).mp hrun
      obtain ⟨later, hlater⟩ := ih hrest
      have hfirst : ∃ frames, run (frameStep externals) service frames = some next := by
        cases label with
        | dataReceived chunk inputs =>
            simp only [step, Option.some.injEq] at hstep
            subst hstep
            unfold dataReceived
            by_cases hactive : service.isConnectionActive = true
            · rw [if_pos hactive]
              simp only [isConnectionActive, Bool.and_eq_true, Bool.not_eq_true'] at hactive
              exact receive_frames chunk.length hactive.1.1 chunk inputs
            · rw [if_neg hactive]
              exact ⟨[], rfl⟩
        | push frameType encoded => exact ⟨[.push frameType encoded], hstep⟩
        | closeConnection => exact ⟨[.closeConnection], hstep⟩
        | authenticationTimedOut => exact ⟨[.authenticationTimedOut], hstep⟩
        | teardownConnection => exact ⟨[.teardownConnection], hstep⟩
      obtain ⟨frames, hframes⟩ := hfirst
      exact ⟨frames ++ later, (run_append _ _ later _).mpr ⟨next, hframes, hlater⟩⟩

end FakeCompanionService

end CompanionBridge
