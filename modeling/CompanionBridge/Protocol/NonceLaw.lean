import CompanionBridge.Protocol.PeerInStep

/-!
# The nonce law of a connection

The results about numbering are assembled: which frames take a nonce, that no
nonce is skipped or used twice, and that a peer of the same rule stays in step.
-/

namespace CompanionBridge

namespace FakeCompanionService

variable {externals : ConnectionExternals} {service next : FakeCompanionService}

/-! ## Writing under encryption -/

/-- Everything written in between is sealed. -/
def SealsAll (service next : FakeCompanionService) : Prop :=
  ∃ frames, next.written = service.written ++ frames ∧
    ∀ frame ∈ frames, frame.isSealed = true

theorem sealsAll_same (hwritten : next.written = service.written) : service.SealsAll next :=
  ⟨[], by rw [hwritten, List.append_nil], by simp⟩

theorem SealsAll.trans {middle : FakeCompanionService} (hfirst : service.SealsAll middle)
    (hsecond : middle.SealsAll next) : service.SealsAll next := by
  obtain ⟨first, hwritten, hsealed⟩ := hfirst
  obtain ⟨second, hwritten', hsealed'⟩ := hsecond
  refine ⟨first ++ second, by rw [hwritten', hwritten, List.append_assoc], ?_⟩
  intro frame hmem
  rcases List.mem_append.mp hmem with hfirst | hsecond
  · exact hsealed frame hfirst
  · exact hsealed' frame hsecond

/-- Behind the cipher, whatever is sent is sealed. -/
theorem sendToClient_sealsAll (aead : Aead) (hchacha : service.chacha.isSome = true)
    (frameType : FrameType) (encoded : Option Bytes) :
    service.SealsAll (service.sendToClient aead frameType encoded).1 := by
  rcases sendToClient_cases aead service frameType encoded with
    heq | ⟨hnone, -, -, -⟩ | ⟨cipher, nonce, data, header, -, -, heq⟩
  · exact sealsAll_same (by rw [heq])
  · rw [hnone] at hchacha
    exact absurd hchacha (by decide)
  · rw [heq]
    unfold write
    split
    · exact ⟨[_], rfl, fun frame hmem => by rw [List.mem_singleton.mp hmem]; rfl⟩
    · exact sealsAll_same rfl

theorem malformedFrame_written (service : FakeCompanionService) :
    service.malformedFrame.1.written = service.written := by
  unfold malformedFrame
  dsimp only
  split <;> rfl

/-- So are all actions of a message. -/
theorem performActions_sealsAll (aead : Aead) (hchacha : service.chacha.isSome = true)
    (actions : List MessageAction) :
    service.SealsAll (service.performActions aead actions).1 := by
  induction actions generalizing service with
  | nil => exact sealsAll_same rfl
  | cons action rest ih =>
      cases action with
      | close =>
          have hclosed : service.SealsAll service.closeConnection := sealsAll_same rfl
          exact hclosed.trans (ih hchacha)
      | malformed =>
          have hreported := sealsAll_same (malformedFrame_written service)
          exact hreported.trans (ih (by rw [(malformedFrame_carries service).isSome]; exact hchacha))
      | send frameType encoded =>
          have hsent := sendToClient_sealsAll aead hchacha frameType encoded
          have hkept := (sendToClient_carries aead service frameType encoded).isSome
          unfold performActions
          dsimp only
          split
          · exact hsent
          · exact hsent.trans (ih (by rw [hkept]; exact hchacha))

theorem handlePayload_sealsAll (hchacha : service.chacha.isSome = true) {frameType : FrameType}
    (hplain : frameType.isAuth = false) (payload : Bytes) (inputs : FrameInputs) :
    service.SealsAll (service.handlePayload externals frameType payload inputs).1 := by
  unfold handlePayload
  split
  · exact sealsAll_same rfl
  split
  · exact sealsAll_same (malformedFrame_written service)
  rw [hplain, if_neg Bool.false_ne_true]
  split
  · exact sealsAll_same (malformedFrame_written service)
  split
  · exact sealsAll_same rfl
  dsimp only
  have hcounted : service.SealsAll { service with handled := service.handled + 1 } :=
    sealsAll_same rfl
  have hperformed := fun actions => hcounted.trans
    (@performActions_sealsAll { service with handled := service.handled + 1 }
      externals.crypto.aead hchacha actions)
  split
  · exact (hperformed _).trans (sealsAll_same (malformedFrame_written _))
  · exact hperformed _

/-- And every answer to a frame. -/
theorem handleFrame_sealsAll (externals : ConnectionExternals) {cipher : Chacha20Cipher}
    (hchacha : service.chacha = some cipher) (header payload : Bytes) (inputs : FrameInputs) :
    service.SealsAll (service.handleFrame externals header payload inputs).1 := by
  unfold handleFrame
  split
  · exact sealsAll_same (malformedFrame_written service)
  split
  · exact sealsAll_same rfl
  split
  · exact sealsAll_same rfl
  · rename_i frameType _ hcleartext _
    have hplain : frameType.isAuth = false := by
      rw [hchacha] at hcleartext
      simpa using hcleartext
    rw [hchacha]
    dsimp only
    rcases handleSealed_cases externals service cipher frameType header payload inputs with
      ⟨-, heq⟩ | ⟨-, -, -, heq⟩ | ⟨-, -, heq⟩
    · rw [heq]
      exact sealsAll_same rfl
    · rw [heq]
      exact sealsAll_same rfl
    · rw [heq]
      have hopened : service.SealsAll
          (service.afterOpening externals.crypto.aead cipher header payload) := sealsAll_same rfl
      split
      · exact hopened.trans (sealsAll_same rfl)
      · exact hopened.trans (handlePayload_sealsAll rfl hplain _ inputs)

/-- Under encryption the server writes sealed frames only. -/
theorem frameStep_sealsAll {cipher : Chacha20Cipher} (hchacha : service.chacha = some cipher)
    {label : FrameLabel} (hstep : frameStep externals service label = some next) :
    service.SealsAll next := by
  cases label with
  | frame header payload inputs =>
      simp only [frameStep] at hstep
      split at hstep
      · exact absurd hstep (by simp)
      · rw [Option.some.injEq] at hstep
        rw [← hstep]
        exact handleFrame_sealsAll externals hchacha header payload inputs
  | push frameType encoded =>
      simp only [frameStep, Option.some.injEq] at hstep
      rw [← hstep]
      exact sendToClient_sealsAll _ (by rw [hchacha]; rfl) frameType encoded
  | parsed parser =>
      simp only [frameStep, Option.some.injEq] at hstep
      exact sealsAll_same (by rw [← hstep])
  | closeConnection =>
      simp only [frameStep, Option.some.injEq] at hstep
      exact sealsAll_same (by rw [← hstep]; rfl)
  | authenticationTimedOut =>
      simp only [frameStep, Option.some.injEq, authenticationTimedOut] at hstep
      rw [← hstep]
      split <;> exact sealsAll_same rfl
  | teardownConnection =>
      simp only [frameStep, Option.some.injEq, teardownConnection] at hstep
      rw [← hstep]
      split <;> exact sealsAll_same rfl

/-- A peer opens all sealed frames with the numbers of its own count. -/
theorem peerReceive_sealed {aead : Aead} (haead : LawfulAead aead) {key : Bytes}
    {frames : List WrittenFrame} {first : Nat}
    (hframes : ∀ k frame, frames[k]? = some frame → SealedAs aead key (first + k) frame) :
    peerReceive aead key first (frames.map fun frame => (frame.header, frame.payload)) =
      some (first + frames.length) := by
  induction frames generalizing first with
  | nil => rfl
  | cons frame rest ih =>
      obtain ⟨nonce, data, hnonce, -, hpayload⟩ := hframes 0 frame rfl
      rw [Nat.add_zero] at hnonce
      have hnonempty : frame.payload ≠ [] := by
        intro hempty
        have hlength := haead.length key nonce data frame.header
        rw [← hpayload, hempty] at hlength
        exact absurd hlength (by simp)
      have hopens : aead.decrypt key nonce frame.payload frame.header = some data := by
        rw [hpayload]
        exact haead.roundTrip key nonce data frame.header
      have hrest := @ih (first + 1) (by
        intro k other hget
        have hnumbered := hframes (k + 1) other hget
        rw [show first + 1 + k = first + (k + 1) by omega]
        exact hnumbered)
      simp only [List.map_cons, peerReceive, hnonempty, if_false, hnonce, hopens,
        Option.bind_eq_bind, Option.bind_some, hrest, List.length_cons]
      congr 1
      omega

/-! ## Which frames take a nonce -/

/-- The frames that are not handed to the AEAD. -/
def Exempt (header payload : Bytes) (inputs : FrameInputs) : Prop :=
  match FrameType.ofCode? (header.headD 0) with
  | none => True
  | some frameType =>
      frameType.isAuth = true ∨ inputs.authorized = false ∨ (frameType = .noOp ∧ payload = [])

theorem malformedFrame_inside (service : FakeCompanionService) :
    service.malformedFrame.1.chacha = service.chacha ∧
      service.malformedFrame.1.openedFrames = service.openedFrames := by
  unfold malformedFrame
  dsimp only
  split <;> exact ⟨rfl, rfl⟩

/-- A frame that is not opened uses no nonce. -/
theorem handleFrame_exempt {cipher : Chacha20Cipher} (hchacha : service.chacha = some cipher)
    {header payload : Bytes} {inputs : FrameInputs} (hexempt : Exempt header payload inputs) :
    (service.handleFrame externals header payload inputs).1.chacha = service.chacha ∧
      (service.handleFrame externals header payload inputs).1.openedFrames =
        service.openedFrames := by
  have hrefused := (receiveFrame_quiet service
    (show (InboundFrame.refused header payload).isOpened = false from rfl)).opened
  have hkeepalive := (receiveFrame_quiet service
    (show InboundFrame.keepalive.isOpened = false from rfl)).opened
  unfold Exempt at hexempt
  unfold handleFrame
  split
  · exact malformedFrame_inside service
  rename_i frameType htype
  rw [htype] at hexempt
  dsimp only at hexempt
  split
  · exact ⟨rfl, hrefused⟩
  rename_i hcleartext
  split
  · exact ⟨rfl, rfl⟩
  rw [hchacha]
  dsimp only
  rcases handleSealed_cases externals service cipher frameType header payload inputs with
    ⟨-, heq⟩ | ⟨-, -, -, heq⟩ | ⟨hauthorized, hother, -⟩
  · rw [heq]
    exact ⟨hchacha, hrefused⟩
  · rw [heq]
    exact ⟨hchacha, hkeepalive⟩
  · rcases hexempt with hauth | hrevoked | hnoOp
    · exact absurd ⟨hauth, Or.inl (by rw [hchacha]; rfl)⟩ hcleartext
    · rw [hauthorized] at hrevoked
      exact absurd hrevoked (by decide)
    · exact absurd hnoOp hother

/-- Any other frame takes the next nonce. -/
theorem handleFrame_opens {cipher : Chacha20Cipher} (hchacha : service.chacha = some cipher)
    {header payload nonce : Bytes} {inputs : FrameInputs}
    (hother : ¬ Exempt header payload inputs)
    (hnonce : counterNonce cipher.inCounter = some nonce) :
    (service.handleFrame externals header payload inputs).1.inSide =
        some (cipher.inKey, cipher.inCounter + 1) ∧
      (service.handleFrame externals header payload inputs).1.openedFrames =
        service.openedFrames ++
          [.opened cipher.inCounter header payload
            (externals.crypto.aead.decrypt cipher.inKey nonce payload header)] := by
  unfold Exempt at hother
  unfold handleFrame
  cases htype : FrameType.ofCode? (header.headD 0) with
  | none =>
      rw [htype] at hother
      exact absurd trivial hother
  | some frameType =>
      rw [htype] at hother
      simp only [not_or, Bool.not_eq_true, Bool.not_eq_false] at hother
      obtain ⟨hplain, hauthorized, hnoOp⟩ := hother
      dsimp only
      rw [if_neg (by simp [hplain]), if_neg (by simp [hplain, hchacha]), hchacha]
      dsimp only
      have hopened := afterOpening_openedFrames service externals.crypto.aead hnonce header payload
      have hlater : (service.afterOpening externals.crypto.aead cipher header payload).inSide =
          some (cipher.inKey, cipher.inCounter + 1) := by
        rw [inSide, afterOpening_chacha service externals.crypto.aead hnonce, Option.map_some]
      rcases handleSealed_cases externals service cipher frameType header payload inputs with
        ⟨hrevoked, -⟩ | ⟨-, htypeNoOp, hempty, -⟩ | ⟨-, -, heq⟩
      · rw [hauthorized] at hrevoked
        exact absurd hrevoked (by decide)
      · exact absurd ⟨htypeNoOp, hempty⟩ hnoOp
      · rw [heq]
        split
        · exact ⟨hlater, hopened⟩
        · rename_i plaintext _
          have hsends := handlePayload_sendsOnly externals
            (service.afterOpening externals.crypto.aead cipher header payload) hplain plaintext
            inputs
          refine ⟨hsends.inSide.trans hlater, ?_⟩
          rw [openedFrames, hsends.inbound]
          exact hopened

open Machine in
/-- The nonces of a connection, at every point between two frames. -/
theorem nonce_synchronisation (externals : ConnectionExternals) (auth : CompanionServerAuth)
    {labels : List FrameLabel} {service : FakeCompanionService}
    (hrun : run (frameStep externals) (connectionMade auth) labels = some service) :
    -- both directions are numbered from zero without a gap
    (∃ outKey inKey,
      (∀ k frame, service.sealedFrames[k]? = some frame →
        SealedAs externals.crypto.aead outKey k frame) ∧
      (∀ k frame, service.openedFrames[k]? = some frame →
        OpenedAs externals.crypto.aead inKey k frame) ∧
      ∀ cipher, service.chacha = some cipher →
        cipher.outKey = outKey ∧ cipher.inKey = inKey ∧
        cipher.inCounter = service.openedFrames.length ∧
        (service.transport = .up → cipher.outCounter = service.sealedFrames.length)) ∧
    -- no two written frames share a nonce
    (∀ (k l : Nat) (first second : WrittenFrame) nonce, service.sealedFrames[k]? = some first →
      service.sealedFrames[l]? = some second → first.nonce.bind counterNonce = some nonce →
      second.nonce.bind counterNonce = some nonce → k = l) ∧
    -- under encryption only sealed frames are written
    (∀ cipher, service.chacha = some cipher → ∀ label next,
      frameStep externals service label = some next → service.SealsAll next) ∧
    -- a frame that is not opened takes no nonce, every other frame takes one
    (∀ cipher, service.chacha = some cipher → ∀ header payload inputs next,
      frameStep externals service (.frame header payload inputs) = some next →
      (Exempt header payload inputs →
        next.chacha = service.chacha ∧ next.openedFrames = service.openedFrames) ∧
      (¬ Exempt header payload inputs → ∀ nonce, counterNonce cipher.inCounter = some nonce →
        next.inSide = some (cipher.inKey, cipher.inCounter + 1) ∧
        next.openedFrames = service.openedFrames ++
          [.opened cipher.inCounter header payload
            (externals.crypto.aead.decrypt cipher.inKey nonce payload header)])) ∧
    -- nor does a frame that declares too many bytes
    (∀ fuel incoming inputs parser declared,
      service.frameParser.next incoming = (parser, .tooLarge declared) →
      (receive externals (fuel + 1) service incoming inputs).chacha = service.chacha ∧
      (receive externals (fuel + 1) service incoming inputs).openedFrames =
        service.openedFrames) ∧
    -- a peer of the same rule reads every sealed frame, and is read for as long as
    -- the connection is up
    (LawfulAead externals.crypto.aead → ∀ cipher, service.chacha = some cipher →
      peerReceive externals.crypto.aead cipher.outKey 0
          (service.sealedFrames.map fun frame => (frame.header, frame.payload)) =
        some service.sealedFrames.length ∧
      ∀ frames stream events final, (∀ frame ∈ frames, PeerFrame.Valid frame) →
        service.frameParser = {} →
        peerStream externals.crypto.aead cipher.inKey cipher.inCounter frames = some stream →
        events.flatMap ConnectionLabel.bytes <+: stream →
        run (step externals) service events = some final →
        InStep externals.crypto.aead cipher.inKey cipher.inCounter frames
          (events.flatMap ConnectionLabel.bytes) service final) := by
  have hinvariant : service.NonceInvariant externals.crypto.aead :=
    run_invariant (NonceInvariant externals.crypto.aead)
      (fun _ _ _ hstate hstep => hstate.step hstep)
      (connectionMade_nonces externals.crypto.aead auth) hrun
  obtain ⟨outKey, inKey, hsynchronised⟩ := hinvariant.synchronised
  refine ⟨⟨outKey, inKey, hsynchronised.sealed, hsynchronised.opened, ?_⟩, ?_, ?_, ?_, ?_, ?_⟩
  · intro cipher hchacha
    obtain ⟨houtKey, hinKey⟩ := hsynchronised.keys cipher hchacha
    exact ⟨houtKey, hinKey, hsynchronised.inCounter cipher hchacha, fun hup =>
      ((hsynchronised.outCounter cipher hchacha).2 hup).symm⟩
  · intro k l first second nonce hfirst hsecond hleft hright
    obtain ⟨_, _, _, hk, _⟩ := hsynchronised.sealed k first hfirst
    obtain ⟨_, _, _, hl, _⟩ := hsynchronised.sealed l second hsecond
    rw [hk, Option.bind_some] at hleft
    rw [hl, Option.bind_some] at hright
    exact counterNonce_injective hleft hright
  · intro cipher hchacha label next hstep
    exact frameStep_sealsAll hchacha hstep
  · intro cipher hchacha header payload inputs next hstep
    simp only [frameStep] at hstep
    split at hstep
    · exact absurd hstep (by simp)
    rw [Option.some.injEq] at hstep
    rw [← hstep]
    exact ⟨handleFrame_exempt hchacha, fun hother nonce hnonce =>
      handleFrame_opens hchacha hother hnonce⟩
  · intro fuel incoming inputs parser declared hparsed
    unfold receive
    rw [hparsed]
    exact ⟨rfl, rfl⟩
  · intro haead cipher hchacha
    obtain ⟨houtKey, -⟩ := hsynchronised.keys cipher hchacha
    refine ⟨?_, ?_⟩
    · have hread := @peerReceive_sealed _ haead cipher.outKey _ 0 (by
        intro k frame hget
        rw [Nat.zero_add, houtKey]
        exact hsynchronised.sealed k frame hget)
      rw [Nat.zero_add] at hread
      exact hread
    · intro frames stream events final hvalid hparser hstream hwithin hevents
      have hread := run_inStep haead hvalid hstream
        (by rw [inSide, hchacha, Option.map_some])
        (by rw [hparser]; exact FrameParser.clear_holds {}) (by rw [hparser])
        (by rw [hparser]; exact hwithin) hevents
      rw [hparser] at hread
      exact hread

/-- A phone whose key is stored runs pair-verify. -/
def verifyExchange : List FrameLabel :=
  let phone : Bytes := [112, 104, 111, 110, 101]
  let proof := writeTlv
    [(TlvValue.identifier, phone), (TlvValue.signature, [1, 2] ++ ([9] ++ phone ++ [7]))]
  let encrypted := Aead.tagged.encrypt [7, 9] (padNonce "PV-Msg03".toUTF8.toList) proof []
  let m1 := writeTlv [(TlvValue.seqNo, [1]), (TlvValue.publicKey, [9])]
  let m3 := writeTlv [(TlvValue.seqNo, [3]), (TlvValue.encryptedData, encrypted)]
  [.frame (frameHeader .pvStart m1.length) m1
      { unpacked := some { pairingBlob := some m1 }, auth := { verifyPrivate := [7] } },
    .frame (frameHeader .pvNext m3.length) m3
      { unpacked := some { pairingBlob := some m3 }
        auth := { ltpk := fun client => if client = "phone" then some [1, 2] else none } }]

/-- The phone sends a keepalive and a message in two chunks, with a push between
them; the message is answered. -/
theorem nonce_synchronisation_keepalive :
    let frames : List PeerFrame := [.keepalive, .message .eOpack [5]]
    let answer : UnpackedFrame := { actions := [.send .eOpack (some [6])] }
    ∃ service final stream,
      Machine.run (frameStep transparentExternals)
        (connectionMade { uniqueId := [3], privateKey := [4] }) verifyExchange = some service ∧
      service.chacha = some { outKey := [7, 9], inKey := [7, 9] } ∧
      peerStream Aead.tagged [7, 9] 0 frames = some stream ∧
      Machine.run (step transparentExternals) service
        [.dataReceived (stream.take 7) fun _ => { unpacked := some answer },
          .push .eOpack (some [8]),
          .dataReceived (stream.drop 7) fun _ => { unpacked := some answer }] = some final ∧
      InStep Aead.tagged [7, 9] 0 frames stream service final ∧
      final.isConnectionActive = true ∧ final.inSide = some ([7, 9], 1) := by
  intro frames answer
  have hrun : ((Machine.run (frameStep transparentExternals)
      (connectionMade { uniqueId := [3], privateKey := [4] }) verifyExchange).bind fun service =>
        (peerStream Aead.tagged [7, 9] 0 frames).bind fun stream =>
          (Machine.run (step transparentExternals) service
            [.dataReceived (stream.take 7) fun _ => { unpacked := some answer },
              .push .eOpack (some [8]),
              .dataReceived (stream.drop 7) fun _ => { unpacked := some answer }]).map fun final =>
            decide (service.chacha = some { outKey := [7, 9], inKey := [7, 9] } ∧
              service.frameParser = {} ∧ final.isConnectionActive = true ∧
              final.inSide = some ([7, 9], 1))) = some true := by
    decide +kernel
  simp only [Option.bind_eq_some_iff, Option.map_eq_some_iff, decide_eq_true_eq] at hrun
  obtain ⟨service, hservice, stream, hstream, final, hfinal, hchacha, hparser, hactive, hin⟩ := hrun
  obtain ⟨-, -, -, -, -, hpeer⟩ := nonce_synchronisation transparentExternals _ hservice
  obtain ⟨-, hreads⟩ := hpeer Aead.tagged_lawful _ hchacha
  have hbytes : stream.take 7 ++ stream.drop 7 = stream := List.take_append_drop 7 stream
  have hread := hreads frames stream _ final
    (by
      intro frame hmem
      simp only [frames, List.mem_cons, List.not_mem_nil, or_false] at hmem
      rcases hmem with rfl | rfl
      · exact trivial
      · exact ⟨rfl, by decide⟩)
    hparser hstream (by simp [ConnectionLabel.bytes]) hfinal
  refine ⟨service, final, stream, hservice, hchacha, hstream, hfinal, ?_, hactive, hin⟩
  change InStep Aead.tagged [7, 9] 0 frames _ service final at hread
  simpa [ConnectionLabel.bytes, hbytes] using hread

end FakeCompanionService

end CompanionBridge
