import CompanionBridge.Protocol.NonceSync

/-!
# Staying in step with a peer

A peer that seals its messages with the nonces of its own counter, and sends
keepalives outside the sequence, is understood for as long as the connection is
up, however its bytes are cut into chunks and whatever the server sends between
them.
-/

namespace CompanionBridge

/-- A frame that a partial buffer completes takes at least one byte of the chunk. -/
theorem FrameParser.Partial.consumes {parser : FrameParser} (hheld : parser.Partial)
    {incoming header payload rest : Bytes} (hheader : header.length = frameHeaderSize)
    (hpayload : payload.length = payloadSize header)
    (hstream : parser.buffer ++ incoming = header ++ payload ++ rest) :
    rest.length < incoming.length := by
  have hlengths := congrArg List.length hstream
  simp only [List.length_append, hheader, hpayload] at hlengths
  unfold FrameParser.Partial at hheld
  cases hframeSize : parser.frameSize with
  | none =>
      simp only [hframeSize] at hheld
      omega
  | some size =>
      simp only [hframeSize] at hheld
      obtain ⟨hfour, hbelow, hsize⟩ := hheld
      have htake := congrArg (List.take frameHeaderSize) hstream
      rw [List.take_append_of_le_length hfour, List.append_assoc, ← hheader, List.take_left,
        hheader] at htake
      have hsame : payloadSize parser.buffer = payloadSize header := by
        rw [← List.take_append_drop frameHeaderSize parser.buffer, htake]
        exact payloadSize_append hheader _
      omega

namespace PeerFrame

variable {aead : Aead} {key payload : Bytes} {counter later : Nat} {frame : PeerFrame}

theorem header_length (frame : PeerFrame) : frame.header.length = frameHeaderSize := by
  cases frame <;> rfl

/-- What the server records when it receives the frame. -/
def received (counter : Nat) (frame : PeerFrame) (payload : Bytes) : InboundFrame :=
  match frame with
  | keepalive => .keepalive
  | message _ data => .opened counter frame.header payload (some data)

/-- A frame of the peer is as long as its header says, and not too long. -/
theorem sealFrame_payload (haead : LawfulAead aead) (hvalid : frame.Valid)
    (hsealed : frame.sealFrame aead key counter = some (payload, later)) :
    payload.length = payloadSize frame.header ∧ payload.length ≤ maxWirePayload := by
  cases frame with
  | keepalive =>
      simp only [sealFrame, Option.some.injEq, Prod.mk.injEq] at hsealed
      rw [← hsealed.1]
      exact ⟨(payloadSize_frameHeader .noOp (by decide)).symm, Nat.zero_le _⟩
  | message frameType data =>
      simp only [sealFrame, Option.map_eq_some_iff, Prod.mk.injEq] at hsealed
      obtain ⟨nonce, -, hpayload, -⟩ := hsealed
      have hlength : payload.length = data.length + 16 := by
        rw [← hpayload]
        exact haead.length _ _ _ _
      have hdata : data.length ≤ 1048576 := hvalid.2
      refine ⟨?_, ?_⟩
      · rw [hlength, header, payloadSize_frameHeader frameType (by omega)]
      · rw [hlength]
        exact Nat.add_le_add_right hvalid.2 16

/-- A message takes a counter, and a keepalive takes none. -/
theorem sealFrame_counter
    (hsealed : frame.sealFrame aead key counter = some (payload, later)) :
    later = counter + [frame].countP isMessage := by
  cases frame with
  | keepalive =>
      simp only [sealFrame, Option.some.injEq, Prod.mk.injEq] at hsealed
      exact hsealed.2.symm
  | message frameType data =>
      simp only [sealFrame, Option.map_eq_some_iff, Prod.mk.injEq] at hsealed
      obtain ⟨nonce, -, -, hlater⟩ := hsealed
      exact hlater.symm

end PeerFrame

/-- The records of a run of frames. -/
def deliveries (aead : Aead) (key : Bytes) : Nat → List PeerFrame → List InboundFrame
  | _, [] => []
  | counter, frame :: rest =>
      match frame.sealFrame aead key counter with
      | none => []
      | some (payload, later) =>
          frame.received counter payload :: deliveries aead key later rest

/-- The stream of a peer is its first frame and the stream of the others. -/
theorem peerStream_cons {aead : Aead} {key stream : Bytes} {counter : Nat} {frame : PeerFrame}
    {rest : List PeerFrame} (hstream : peerStream aead key counter (frame :: rest) = some stream) :
    ∃ payload later tail, frame.sealFrame aead key counter = some (payload, later) ∧
      peerStream aead key later rest = some tail ∧ stream = frame.header ++ payload ++ tail := by
  simp only [peerStream, Option.bind_eq_bind, Option.bind_eq_some_iff, Option.pure_def,
    Option.some.injEq] at hstream
  obtain ⟨⟨payload, later⟩, hsealed, tail, htail, hjoin⟩ := hstream
  exact ⟨payload, later, tail, hsealed, htail, hjoin.symm⟩

namespace FakeCompanionService

variable {externals : ConnectionExternals} {service next : FakeCompanionService}

/-- What reading relies on: the inbound key and counter. -/
def inSide (service : FakeCompanionService) : Option (Bytes × Nat) :=
  service.chacha.map fun cipher => (cipher.inKey, cipher.inCounter)

/-- Nothing of the inbound side moves, and a connection that is down stays down. -/
structure SendsOnly (service next : FakeCompanionService) : Prop where
  inbound : next.inbound = service.inbound
  inSide : next.inSide = service.inSide
  parser : next.frameParser = service.frameParser ∨
    next.frameParser = service.frameParser.clear
  active : next.isConnectionActive = true → service.isConnectionActive = true

theorem SendsOnly.refl (service : FakeCompanionService) : service.SendsOnly service :=
  ⟨rfl, rfl, Or.inl rfl, id⟩

/-- What only sends leaves the receiving side alone. -/
theorem SendsOnly.trans {middle : FakeCompanionService} (hfirst : service.SendsOnly middle)
    (hsecond : middle.SendsOnly next) : service.SendsOnly next where
  inbound := hsecond.inbound.trans hfirst.inbound
  inSide := hsecond.inSide.trans hfirst.inSide
  parser := by
    rcases hsecond.parser with heq | heq
    · rw [heq]
      exact hfirst.parser
    · rw [heq]
      rcases hfirst.parser with hmiddle | hmiddle
      · exact Or.inr (by rw [hmiddle])
      · exact Or.inr (by rw [hmiddle]; rfl)
  active := fun hactive => hfirst.active (hsecond.active hactive)

theorem closeConnection_sendsOnly (service : FakeCompanionService) :
    service.SendsOnly service.closeConnection :=
  ⟨rfl, rfl, Or.inr rfl, fun hactive =>
    absurd hactive (by rw [closeConnection_inactive]; exact Bool.false_ne_true)⟩

theorem malformedFrame_sendsOnly (service : FakeCompanionService) :
    service.SendsOnly service.malformedFrame.1 := by
  have hcounted : service.SendsOnly
      { service with malformedFrames := service.malformedFrames + 1 } :=
    ⟨rfl, rfl, Or.inl rfl, id⟩
  unfold malformedFrame
  dsimp only
  split
  · exact hcounted.trans (closeConnection_sendsOnly _)
  · exact hcounted

theorem write_sendsOnly (service : FakeCompanionService) (frame : WrittenFrame) :
    service.SendsOnly (service.write frame) := by
  unfold write
  split
  · exact ⟨rfl, rfl, Or.inl rfl, id⟩
  · exact SendsOnly.refl service

/-- An answer does not touch the receiving counter. -/
theorem sendToClient_reads (aead : Aead) (service : FakeCompanionService)
    (frameType : FrameType) (encoded : Option Bytes) :
    service.SendsOnly (service.sendToClient aead frameType encoded).1 ∧
      (service.sendToClient aead frameType encoded).1.frameParser = service.frameParser := by
  have hwrite : ∀ (sender : FakeCompanionService) frame,
      (sender.write frame).frameParser = sender.frameParser := by
    intro sender frame
    unfold write
    split <;> rfl
  rcases sendToClient_cases aead service frameType encoded with
    heq | ⟨-, header, payload, heq⟩ | ⟨cipher, nonce, data, header, hchacha, -, heq⟩
  · rw [heq]
    exact ⟨SendsOnly.refl service, rfl⟩
  · rw [heq]
    exact ⟨write_sendsOnly service _, hwrite service _⟩
  · rw [heq]
    have hadvanced : service.SendsOnly
        { service with chacha := some { cipher with outCounter := cipher.outCounter + 1 } } :=
      ⟨rfl, by rw [inSide, inSide, hchacha]; rfl, Or.inl rfl, id⟩
    exact ⟨hadvanced.trans (write_sendsOnly _ _), hwrite _ _⟩

theorem performActions_sendsOnly (aead : Aead) (service : FakeCompanionService)
    (actions : List MessageAction) :
    service.SendsOnly (service.performActions aead actions).1 := by
  induction actions generalizing service with
  | nil => exact SendsOnly.refl service
  | cons action rest ih =>
      cases action with
      | close => exact (closeConnection_sendsOnly service).trans (ih service.closeConnection)
      | malformed => exact (malformedFrame_sendsOnly service).trans (ih service.malformedFrame.1)
      | send frameType encoded =>
          have hsent := (sendToClient_reads aead service frameType encoded).1
          unfold performActions
          dsimp only
          split
          · exact hsent
          · exact hsent.trans (ih _)

theorem handlePayload_sendsOnly (externals : ConnectionExternals) (service : FakeCompanionService)
    {frameType : FrameType} (hplain : frameType.isAuth = false) (payload : Bytes)
    (inputs : FrameInputs) :
    service.SendsOnly (service.handlePayload externals frameType payload inputs).1 := by
  unfold handlePayload
  split
  · exact closeConnection_sendsOnly service
  split
  · exact malformedFrame_sendsOnly service
  rw [hplain, if_neg Bool.false_ne_true]
  split
  · exact malformedFrame_sendsOnly service
  split
  · exact SendsOnly.refl service
  dsimp only
  have hcounted : service.SendsOnly { service with handled := service.handled + 1 } :=
    ⟨rfl, rfl, Or.inl rfl, id⟩
  split
  · exact (hcounted.trans (performActions_sendsOnly _ _ _)).trans (malformedFrame_sendsOnly _)
  · exact hcounted.trans (performActions_sendsOnly _ _ _)

/-! ## One frame of the peer -/

/-- The frame was delivered, and only its number was used up. -/
structure Delivered (service next : FakeCompanionService) (entry : InboundFrame)
    (key : Bytes) (later : Nat) : Prop where
  inbound : next.inbound = service.inbound ++ [entry]
  inSide : next.inSide = some (key, later)
  parser : next.frameParser = service.frameParser ∨
    next.frameParser = service.frameParser.clear
  active : next.isConnectionActive = true → service.isConnectionActive = true

/-- The frame was refused, which closed the connection. -/
structure Refused (service : FakeCompanionService) (handled : FakeCompanionService × Bool)
    (frame : InboundFrame) : Prop where
  stops : handled.2 = false
  inactive : handled.1.isConnectionActive = false
  inbound : handled.1.inbound = service.inbound ++ [frame]

/-- So a frame that was delivered stays delivered while it is answered. -/
theorem Delivered.sendsOnly {middle : FakeCompanionService} {entry : InboundFrame} {key : Bytes}
    {later : Nat} (hdelivered : Delivered service middle entry key later)
    (hsends : middle.SendsOnly next) : Delivered service next entry key later where
  inbound := hsends.inbound.trans hdelivered.inbound
  inSide := hsends.inSide.trans hdelivered.inSide
  parser := by
    rcases hsends.parser with heq | heq
    · rw [heq]
      exact hdelivered.parser
    · rw [heq]
      rcases hdelivered.parser with hmiddle | hmiddle
      · exact Or.inr (by rw [hmiddle])
      · exact Or.inr (by rw [hmiddle]; rfl)
  active := fun hactive => hdelivered.active (hsends.active hactive)

/-- A frame of the peer is opened with the counter it was sealed with. -/
theorem handleFrame_peer (haead : LawfulAead externals.crypto.aead) {frame : PeerFrame}
    (hvalid : frame.Valid) {key payload : Bytes} {counter later : Nat}
    (hin : service.inSide = some (key, counter))
    (hsealed : frame.sealFrame externals.crypto.aead key counter = some (payload, later))
    (inputs : FrameInputs) :
    Delivered service (service.handleFrame externals frame.header payload inputs).1
        (frame.received counter payload) key later ∨
      Refused service (service.handleFrame externals frame.header payload inputs)
        (.refused frame.header payload) := by
  simp only [inSide, Option.map_eq_some_iff, Prod.mk.injEq] at hin
  obtain ⟨cipher, hchacha, hkey, hcounter⟩ := hin
  have hrefused : Refused service
      ((service.receiveFrame (.refused frame.header payload)).closeConnection, false)
      (.refused frame.header payload) :=
    ⟨rfl, closeConnection_inactive _, rfl⟩
  unfold handleFrame
  cases frame with
  | keepalive =>
      simp only [PeerFrame.sealFrame, Option.some.injEq, Prod.mk.injEq] at hsealed
      obtain ⟨rfl, rfl⟩ := hsealed
      have htype : FrameType.ofCode? ((PeerFrame.header .keepalive).headD 0) = some .noOp :=
        FrameType.ofCode?_code .noOp
      rw [htype]
      dsimp only
      rw [if_neg (by simp [FrameType.isAuth]), if_neg (by simp), hchacha]
      dsimp only
      rcases handleSealed_cases externals service cipher .noOp (PeerFrame.header .keepalive) []
        inputs with ⟨-, heq⟩ | ⟨-, -, -, heq⟩ | ⟨-, hother, -⟩
      · rw [heq]
        exact Or.inr hrefused
      · rw [heq]
        refine Or.inl ⟨rfl, ?_, Or.inl rfl, id⟩
        show service.chacha.map _ = _
        rw [hchacha, Option.map_some, hkey, hcounter]
      · exact absurd ⟨rfl, rfl⟩ hother
  | message frameType data =>
      obtain ⟨hplain, -⟩ := hvalid
      simp only [PeerFrame.sealFrame, Option.map_eq_some_iff, Prod.mk.injEq] at hsealed
      obtain ⟨nonce, hnonce, hpayload, rfl⟩ := hsealed
      have htype : FrameType.ofCode? ((PeerFrame.header (.message frameType data)).headD 0) =
          some frameType := FrameType.ofCode?_code frameType
      -- a sealed frame has a tag at least, so it is no keepalive
      have hnonempty : payload ≠ [] := by
        intro hempty
        have hlength := haead.length key nonce data (frameHeader frameType (data.length + 16))
        rw [hpayload, hempty] at hlength
        exact absurd hlength (by simp)
      rw [htype]
      dsimp only
      rw [if_neg (by simp [hplain]), if_neg (by simp [hplain, hchacha]), hchacha]
      dsimp only
      rcases handleSealed_cases externals service cipher frameType
        (PeerFrame.header (.message frameType data)) payload inputs with
        ⟨-, heq⟩ | ⟨-, -, hempty, -⟩ | ⟨-, -, heq⟩
      · rw [heq]
        exact Or.inr hrefused
      · exact absurd hempty hnonempty
      · rw [← hcounter] at hnonce
        have hopens : externals.crypto.aead.decrypt cipher.inKey nonce payload
            (PeerFrame.header (.message frameType data)) = some data := by
          rw [hkey, ← hpayload]
          exact haead.roundTrip key nonce data _
        have hopened : (cipher.decrypt externals.crypto.aead payload
            (PeerFrame.header (.message frameType data))).2 = some data := by
          rw [Chacha20Cipher.decrypt, hnonce]
          exact hopens
        rw [heq, hopened]
        dsimp only
        have hdelivered : Delivered service
            (service.afterOpening externals.crypto.aead cipher
              (PeerFrame.header (.message frameType data)) payload)
            (PeerFrame.received counter (.message frameType data) payload) key (counter + 1) := by
          refine ⟨?_, ?_, Or.inl rfl, id⟩
          · rw [afterOpening, hopened, hnonce]
            show _ ++ [_] = _ ++ [_]
            rw [hcounter]
            rfl
          · rw [inSide, afterOpening_chacha service _ hnonce, Option.map_some, hkey, hcounter]
        exact Or.inl (hdelivered.sendsOnly (handlePayload_sendsOnly externals _ hplain data inputs))

/-! ## A chunk, and a run -/

/-- What was understood of a peer's frames after some of its bytes arrived. -/
def InStep (aead : Aead) (key : Bytes) (counter : Nat) (frames : List PeerFrame) (bytes : Bytes)
    (service final : FakeCompanionService) : Prop :=
  ∃ done rest cut,
    frames = done ++ rest ∧
    final.inbound = service.inbound ++ deliveries aead key counter done ++ cut ∧
    (∀ frame ∈ cut, ∃ header payload, frame = .refused header payload) ∧
    (final.isConnectionActive = true →
      cut = [] ∧ final.inSide = some (key, counter + done.countP PeerFrame.isMessage) ∧
      final.frameParser.Partial ∧ final.frameParser.maxPayload = maxWirePayload ∧
      ∃ consumed, peerStream aead key counter done = some consumed ∧
        consumed ++ final.frameParser.buffer = bytes)

/-- Nothing arrived, or nothing is read any more. -/
theorem inStep_nothing {aead : Aead} {key bytes : Bytes} {counter : Nat}
    {frames : List PeerFrame} (hinbound : next.inbound = service.inbound)
    (hactive : next.isConnectionActive = true → next.inSide = some (key, counter) ∧
      next.frameParser.Partial ∧ next.frameParser.maxPayload = maxWirePayload ∧
      next.frameParser.buffer = bytes) : InStep aead key counter frames bytes service next := by
  refine ⟨[], frames, [], rfl, ?_, by simp, ?_⟩
  · rw [hinbound]
    simp [deliveries]
  · intro hup
    obtain ⟨hin, hheld, hmax, hbuffer⟩ := hactive hup
    exact ⟨rfl, hin, hheld, hmax, [], rfl, hbuffer⟩

/-- Delivering one frame and then others is delivering all of them. -/
theorem InStep.cons {aead : Aead} {key payload bytes : Bytes} {counter later : Nat}
    {frame : PeerFrame} {frames : List PeerFrame} {middle final : FakeCompanionService}
    (hsealed : frame.sealFrame aead key counter = some (payload, later))
    (hinbound : middle.inbound = service.inbound ++ [frame.received counter payload])
    (hrest : InStep aead key later frames bytes middle final) :
    InStep aead key counter (frame :: frames) (frame.header ++ payload ++ bytes) service final := by
  obtain ⟨done, rest, cut, rfl, hfinal, hcut, hactive⟩ := hrest
  refine ⟨frame :: done, rest, cut, rfl, ?_, hcut, ?_⟩
  · rw [hfinal, hinbound, deliveries, hsealed]
    simp
  · intro hup
    obtain ⟨rfl, hin, hheld, hmax, consumed, hstream, hbytes⟩ := hactive hup
    refine ⟨rfl, ?_, hheld, hmax, frame.header ++ payload ++ consumed, ?_, ?_⟩
    · rw [hin, PeerFrame.sealFrame_counter hsealed, Nat.add_assoc, ← List.countP_append]
      rfl
    · simp only [peerStream, hsealed, Option.bind_eq_bind, Option.bind_some, hstream,
        Option.pure_def]
    · rw [List.append_assoc, hbytes]

/-- The loop over a chunk, from a parser that holds a part of a frame. -/
theorem receive_inStep (haead : LawfulAead externals.crypto.aead) (fuel : Nat)
    {service : FakeCompanionService} {frames : List PeerFrame} {key stream incoming : Bytes}
    {counter : Nat} (hvalid : ∀ frame ∈ frames, frame.Valid)
    (hstream : peerStream externals.crypto.aead key counter frames = some stream)
    (hin : service.inSide = some (key, counter)) (hheld : service.frameParser.Partial)
    (hmax : service.frameParser.maxPayload = maxWirePayload) (hfuel : incoming.length ≤ fuel)
    (hwithin : service.frameParser.buffer ++ incoming <+: stream) (inputs : Nat → FrameInputs) :
    InStep externals.crypto.aead key counter frames (service.frameParser.buffer ++ incoming)
      service (receive externals fuel service incoming inputs) := by
  -- the frames of the peer are consumed from the front as the bytes arrive
  induction fuel generalizing service frames stream incoming counter inputs with
  | zero =>
      have hempty : incoming = [] := List.eq_nil_of_length_eq_zero (Nat.le_zero.mp hfuel)
      subst hempty
      exact inStep_nothing rfl fun _ => ⟨hin, hheld, hmax, (List.append_nil _).symm⟩
  | succ fuel ih =>
      unfold receive
      cases frames with
      | nil =>
          simp only [peerStream, Option.some.injEq] at hstream
          rw [← hstream, List.prefix_nil, List.append_eq_nil_iff] at hwithin
          obtain ⟨hbuffer, rfl⟩ := hwithin
          exact inStep_nothing rfl fun _ => ⟨hin, hheld, hmax, (List.append_nil _).symm⟩
      | cons frame frames =>
          obtain ⟨payload, later, tail, hsealed, htail, rfl⟩ := peerStream_cons hstream
          have hframe := hvalid frame List.mem_cons_self
          have hheader := frame.header_length
          obtain ⟨hsize, hwire⟩ := PeerFrame.sealFrame_payload haead hframe hsealed
          rw [← hmax] at hwire
          by_cases hshort : (service.frameParser.buffer ++ incoming).length <
              (frame.header ++ payload).length
          · have hshorter : service.frameParser.buffer ++ incoming <+: frame.header ++ payload :=
              List.prefix_of_prefix_length_le hwithin (List.prefix_append _ _) hshort.le
            obtain ⟨kept, hnext, hkept, hkeptMax, hbuffer⟩ :=
              FrameParser.next_incomplete hheld hheader hsize hwire hshorter hshort
            rw [hnext]
            exact inStep_nothing rfl fun _ => ⟨hin, hkept, hkeptMax.trans hmax, hbuffer⟩
          · have hwhole : frame.header ++ payload <+: service.frameParser.buffer ++ incoming :=
              List.prefix_of_prefix_length_le (List.prefix_append _ _) hwithin
                (Nat.le_of_not_lt hshort)
            obtain ⟨rest, hrest⟩ := hwhole
            have hconsumes := hheld.consumes hheader hsize hrest.symm
            have hnonempty : incoming ≠ [] := by
              rintro rfl
              exact absurd hconsumes (Nat.not_lt_zero _)
            rw [FrameParser.next_complete hheld hnonempty hheader hsize hwire hrest.symm,
              ← hrest]
            have hsuffix : rest <+: tail := by
              rw [← hrest] at hwithin
              exact (List.prefix_append_right_inj _).mp hwithin
            dsimp only
            have hhandled := @handleFrame_peer externals
              { service with frameParser := service.frameParser.clear } haead frame hframe key
              payload counter later hin hsealed (inputs 0)
            rcases hhandled with hdelivered | hrefused
            · have hclear : ∀ parser, (parser = service.frameParser.clear ∨
                  parser = service.frameParser.clear.clear) →
                  parser = service.frameParser.clear := by
                rintro parser (heq | heq)
                · exact heq
                · exact heq
              have hparser := hclear _ hdelivered.parser
              split
              · -- the loop goes on with the bytes behind the frame
                have hshorter : rest.length ≤ fuel := by omega
                have hlater := ih
                  (fun other hmem => hvalid other (List.mem_cons_of_mem _ hmem)) htail
                  hdelivered.inSide (by rw [hparser]; exact FrameParser.clear_holds _)
                  (by rw [hparser]; exact hmax) hshorter (by rw [hparser]; exact hsuffix)
                  (fun n => inputs (n + 1))
                rw [hparser] at hlater
                exact hlater.cons hsealed hdelivered.inbound
              · rename_i hstops
                have hdown := handleFrame_stops externals _ frame.header payload (inputs 0)
                  (Bool.eq_false_iff.mpr hstops)
                have hnothing : InStep externals.crypto.aead key later frames rest _ _ :=
                  inStep_nothing rfl fun hup => absurd hup (by rw [hdown]; exact Bool.false_ne_true)
                exact hnothing.cons hsealed hdelivered.inbound
            · rw [hrefused.stops, if_neg Bool.false_ne_true]
              refine ⟨[], frame :: frames, [.refused frame.header payload], rfl, ?_, ?_, ?_⟩
              · rw [hrefused.inbound]
                simp [deliveries]
              · intro other hmem
                exact ⟨_, _, List.mem_singleton.mp hmem⟩
              · intro hup
                rw [hrefused.inactive] at hup
                exact absurd hup Bool.false_ne_true

/-- A stream that was cut is the streams of its parts, counters going on. -/
theorem peerStream_append {aead : Aead} {key stream consumed : Bytes} {counter : Nat}
    {done rest : List PeerFrame} (hstream : peerStream aead key counter (done ++ rest) = some stream)
    (hdone : peerStream aead key counter done = some consumed) :
    ∃ tail, peerStream aead key (counter + done.countP PeerFrame.isMessage) rest = some tail ∧
      stream = consumed ++ tail := by
  induction done generalizing counter stream consumed with
  | nil =>
      simp only [peerStream, Option.some.injEq] at hdone
      exact ⟨stream, hstream, by rw [← hdone]; rfl⟩
  | cons frame done ih =>
      obtain ⟨payload, later, tail, hsealed, htail, rfl⟩ := peerStream_cons hstream
      obtain ⟨payload', later', tail', hsealed', htail', rfl⟩ := peerStream_cons hdone
      rw [hsealed, Option.some.injEq, Prod.mk.injEq] at hsealed'
      obtain ⟨rfl, rfl⟩ := hsealed'
      obtain ⟨last, hlast, rfl⟩ := ih htail htail'
      refine ⟨last, ?_, (List.append_assoc _ _ _).symm⟩
      rw [← hlast, PeerFrame.sealFrame_counter hsealed, Nat.add_assoc, ← List.countP_append]
      rfl

/-- Being in step with each part is being in step with the whole. -/
theorem InStep.append {aead : Aead} {key consumed bytes : Bytes} {counter : Nat}
    {done rest : List PeerFrame} {middle final : FakeCompanionService}
    (hdone : peerStream aead key counter done = some consumed)
    (hinbound : middle.inbound = service.inbound ++ deliveries aead key counter done)
    (hrest : InStep aead key (counter + done.countP PeerFrame.isMessage) rest bytes middle final) :
    InStep aead key counter (done ++ rest) (consumed ++ bytes) service final := by
  induction done generalizing counter consumed service with
  | nil =>
      simp only [peerStream, Option.some.injEq] at hdone
      rw [deliveries, List.append_nil] at hinbound
      rw [← hdone]
      obtain ⟨done, later, cut, hframes, hfinal, hcut, hactive⟩ := hrest
      exact ⟨done, later, cut, hframes, by rw [hfinal, hinbound]; rfl, hcut, hactive⟩
  | cons frame done ih =>
      obtain ⟨payload, later, tail, hsealed, htail, rfl⟩ := peerStream_cons hdone
      have hcount : counter + (frame :: done).countP PeerFrame.isMessage =
          later + done.countP PeerFrame.isMessage := by
        rw [PeerFrame.sealFrame_counter hsealed, Nat.add_assoc, ← List.countP_append]
        rfl
      rw [hcount] at hrest
      have htailStep : InStep aead key later (done ++ rest) (tail ++ bytes)
          { service with inbound := service.inbound ++ [frame.received counter payload] } final := by
        refine ih htail ?_ hrest
        rw [hinbound, deliveries, hsealed]
        simp
      rw [List.append_assoc]
      exact htailStep.cons hsealed rfl

/-- A connection that is down reads nothing. -/
theorem step_inactive {label : ConnectionLabel} (hdown : service.isConnectionActive = false)
    (hstep : step externals service label = some next) :
    next.inbound = service.inbound ∧ next.isConnectionActive = false := by
  have hsends : ∀ after, service.SendsOnly after →
      after.inbound = service.inbound ∧ after.isConnectionActive = false := by
    intro after hafter
    refine ⟨hafter.inbound, ?_⟩
    rw [Bool.eq_false_iff]
    intro hactive
    rw [hafter.active hactive] at hdown
    exact absurd hdown (by decide)
  cases label with
  | dataReceived chunk inputs =>
      simp only [step, dataReceived, hdown, Bool.false_eq_true, if_false,
        Option.some.injEq] at hstep
      rw [← hstep]
      exact ⟨rfl, hdown⟩
  | push frameType encoded =>
      simp only [step, Option.some.injEq] at hstep
      rw [← hstep]
      exact hsends _ (sendToClient_reads _ service frameType encoded).1
  | closeConnection =>
      simp only [step, Option.some.injEq] at hstep
      rw [← hstep]
      exact hsends _ (closeConnection_sendsOnly service)
  | authenticationTimedOut =>
      simp only [step, authenticationTimedOut, Option.some.injEq] at hstep
      rw [← hstep]
      split
      · exact hsends _ (closeConnection_sendsOnly service)
      · exact ⟨rfl, hdown⟩
  | teardownConnection =>
      simp only [step, teardownConnection, Option.some.injEq] at hstep
      rw [← hstep]
      split
      · exact ⟨rfl, hdown⟩
      · exact ⟨rfl, rfl⟩

open Machine in
/-- A connection that is closed receives nothing more. -/
theorem run_inactive {labels : List ConnectionLabel} (hdown : service.isConnectionActive = false)
    (hrun : run (step externals) service labels = some next) :
    next.inbound = service.inbound ∧ next.isConnectionActive = false := by
  induction labels generalizing service with
  | nil =>
      simp only [run_nil, Option.some.injEq] at hrun
      rw [← hrun]
      exact ⟨rfl, hdown⟩
  | cons label rest ih =>
      obtain ⟨middle, hstep, hrest⟩ := (run_cons service label rest next).mp hrun
      obtain ⟨hinbound, hmiddle⟩ := step_inactive hdown hstep
      obtain ⟨hlater, hfinal⟩ := ih hmiddle hrest
      exact ⟨hlater.trans hinbound, hfinal⟩

end FakeCompanionService

/-- The bytes an event delivers. -/
def ConnectionLabel.bytes : ConnectionLabel → Bytes
  | .dataReceived chunk _ => chunk
  | _ => []

namespace FakeCompanionService

variable {externals : ConnectionExternals} {service next : FakeCompanionService}

/-- An event between two chunks leaves the parser alone or takes the connection down. -/
theorem step_between {label : ConnectionLabel} {key : Bytes} {counter : Nat}
    (hbytes : ∀ chunk inputs, label ≠ .dataReceived chunk inputs)
    (hin : service.inSide = some (key, counter))
    (hstep : step externals service label = some next) :
    next.inbound = service.inbound ∧
      (next.isConnectionActive = true →
        next.frameParser = service.frameParser ∧ next.inSide = some (key, counter)) := by
  cases label with
  | dataReceived chunk inputs => exact absurd rfl (hbytes chunk inputs)
  | push frameType encoded =>
      simp only [step, Option.some.injEq] at hstep
      rw [← hstep]
      obtain ⟨hsends, hparser⟩ := sendToClient_reads externals.crypto.aead service frameType
        encoded
      exact ⟨hsends.inbound, fun _ => ⟨hparser, hsends.inSide.trans hin⟩⟩
  | closeConnection =>
      simp only [step, Option.some.injEq] at hstep
      rw [← hstep]
      refine ⟨rfl, fun hactive => ?_⟩
      rw [closeConnection_inactive] at hactive
      exact absurd hactive Bool.false_ne_true
  | authenticationTimedOut =>
      have hsome : service.chacha.isNone = false := by
        simp only [inSide, Option.map_eq_some_iff] at hin
        obtain ⟨cipher, hchacha, -⟩ := hin
        rw [hchacha]
        rfl
      simp only [step, authenticationTimedOut, hsome, Bool.false_eq_true, if_false,
        Option.some.injEq] at hstep
      rw [← hstep]
      exact ⟨rfl, fun _ => ⟨rfl, hin⟩⟩
  | teardownConnection =>
      simp only [step, teardownConnection, Option.some.injEq] at hstep
      rw [← hstep]
      split
      · exact ⟨rfl, fun _ => ⟨rfl, hin⟩⟩
      · exact ⟨rfl, fun hactive => absurd hactive (by simp [isConnectionActive])⟩

open Machine in
/-- However the stream is chunked and whatever happens between the chunks, what
was read is a prefix of what the peer wrote. -/
theorem run_inStep (haead : LawfulAead externals.crypto.aead) {labels : List ConnectionLabel}
    {service final : FakeCompanionService} {frames : List PeerFrame} {key stream : Bytes}
    {counter : Nat} (hvalid : ∀ frame ∈ frames, frame.Valid)
    (hstream : peerStream externals.crypto.aead key counter frames = some stream)
    (hin : service.inSide = some (key, counter)) (hheld : service.frameParser.Partial)
    (hmax : service.frameParser.maxPayload = maxWirePayload)
    (hwithin : service.frameParser.buffer ++ labels.flatMap ConnectionLabel.bytes <+: stream)
    (hrun : run (step externals) service labels = some final) :
    InStep externals.crypto.aead key counter frames
      (service.frameParser.buffer ++ labels.flatMap ConnectionLabel.bytes) service final := by
  induction labels generalizing service frames stream counter with
  | nil =>
      simp only [run_nil, Option.some.injEq] at hrun
      rw [← hrun]
      exact inStep_nothing rfl fun _ => ⟨hin, hheld, hmax, (List.append_nil _).symm⟩
  | cons label rest ih =>
      -- nothing is delivered once the connection is down
      by_cases hdown : service.isConnectionActive = false
      · obtain ⟨hinbound, hfinal⟩ := run_inactive hdown hrun
        exact inStep_nothing hinbound fun hup =>
          absurd hup (by rw [hfinal]; exact Bool.false_ne_true)
      rw [Bool.not_eq_false] at hdown
      obtain ⟨middle, hstep, hrest⟩ := (run_cons service label rest final).mp hrun
      rw [List.flatMap_cons, ← List.append_assoc] at hwithin ⊢
      by_cases hchunk : ∃ chunk inputs, label = .dataReceived chunk inputs
      · obtain ⟨chunk, inputs, rfl⟩ := hchunk
        simp only [step, dataReceived, hdown, if_true, Option.some.injEq] at hstep
        have hreceived := receive_inStep haead chunk.length hvalid hstream hin hheld hmax
          le_rfl ((List.prefix_append _ _).trans hwithin) inputs
        rw [hstep] at hreceived
        obtain ⟨done, later, cut, rfl, hinbound, hcut, hactive⟩ := hreceived
        by_cases hup : middle.isConnectionActive = true
        · obtain ⟨rfl, hin', hheld', hmax', consumed, hconsumed, hbuffer⟩ := hactive hup
          obtain ⟨tail, htail, rfl⟩ := peerStream_append hstream hconsumed
          rw [List.append_nil] at hinbound
          rw [show ConnectionLabel.bytes (.dataReceived chunk inputs) = chunk from rfl,
            ← hbuffer, List.append_assoc] at hwithin ⊢
          have hlater := ih (fun frame hmem => hvalid frame (List.mem_append_right _ hmem)) htail
            hin' hheld' hmax' ((List.prefix_append_right_inj _).mp hwithin) hrest
          exact InStep.append hconsumed hinbound hlater
        · rw [Bool.not_eq_true] at hup
          obtain ⟨hsame, hfinal⟩ := run_inactive hup hrest
          exact ⟨done, later, cut, rfl, hsame.trans hinbound, hcut, fun hactive =>
            absurd hactive (by rw [hfinal]; exact Bool.false_ne_true)⟩
      -- between chunks neither the parser nor the counter moves
      · have hother : ∀ chunk inputs, label ≠ .dataReceived chunk inputs :=
          fun chunk inputs heq => hchunk ⟨chunk, inputs, heq⟩
        have hnone : label.bytes = [] := by
          cases label with
          | dataReceived chunk inputs => exact absurd rfl (hother chunk inputs)
          | _ => rfl
        rw [hnone, List.append_nil] at hwithin ⊢
        obtain ⟨hinbound, hactive⟩ := step_between hother hin hstep
        by_cases hup : middle.isConnectionActive = true
        · obtain ⟨hparser, hin'⟩ := hactive hup
          have hlater := ih hvalid hstream hin' (by rw [hparser]; exact hheld)
            (by rw [hparser]; exact hmax) (by rw [hparser]; exact hwithin) hrest
          rw [hparser] at hlater
          obtain ⟨done, later, cut, hframes, hfinal, hcut, hend⟩ := hlater
          exact ⟨done, later, cut, hframes, by rw [hfinal, hinbound], hcut, hend⟩
        · rw [Bool.not_eq_true] at hup
          obtain ⟨hsame, hfinal⟩ := run_inactive hup hrest
          exact inStep_nothing (hsame.trans hinbound) fun hactive =>
            absurd hactive (by rw [hfinal]; exact Bool.false_ne_true)

end FakeCompanionService

end CompanionBridge
