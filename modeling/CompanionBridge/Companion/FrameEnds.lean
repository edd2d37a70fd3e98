import CompanionBridge.Companion.HandlerEffects
import CompanionBridge.Protocol.FrameStep

/-!
# How the handling of a frame ends

A frame either carries a message to its handler, or it is reported malformed,
closes the connection, or leaves it as it stood. What the connection stands at
are its transport and its count of malformed frames; most of what a handler
does leaves both alone.
-/

namespace CompanionBridge

open Handler

namespace FakeCompanionService

/-- The transport and the malformed count are untouched. -/
structure SameStanding (service next : FakeCompanionService) : Prop where
  transport : next.transport = service.transport
  connectionClosed : next.connectionClosed = service.connectionClosed
  admitted : next.admitted = service.admitted
  malformedFrames : next.malformedFrames = service.malformedFrames

theorem SameStanding.refl (service : FakeCompanionService) : service.SameStanding service :=
  ⟨rfl, rfl, rfl, rfl⟩

theorem SameStanding.trans {service middle next : FakeCompanionService}
    (hfirst : service.SameStanding middle) (hsecond : middle.SameStanding next) :
    service.SameStanding next :=
  ⟨hsecond.transport.trans hfirst.transport,
    hsecond.connectionClosed.trans hfirst.connectionClosed,
    hsecond.admitted.trans hfirst.admitted,
    hsecond.malformedFrames.trans hfirst.malformedFrames⟩

/-- Whether a connection is active is part of its standing. -/
theorem SameStanding.isConnectionActive {service next : FakeCompanionService}
    (hsame : service.SameStanding next) : next.isConnectionActive = service.isConnectionActive := by
  unfold FakeCompanionService.isConnectionActive
  rw [hsame.connectionClosed, hsame.admitted, hsame.transport]

theorem write_standing (service : FakeCompanionService) (frame : WrittenFrame) :
    service.SameStanding (service.write frame) := by
  unfold write
  split
  · exact ⟨rfl, rfl, rfl, rfl⟩
  · exact .refl service

theorem sendToClient_standing (aead : Aead) (service : FakeCompanionService)
    (frameType : FrameType) (encoded : Option Bytes) :
    service.SameStanding (service.sendToClient aead frameType encoded).1 := by
  unfold sendToClient
  cases encoded with
  | none => exact .refl service
  | some encoded =>
      dsimp only
      split
      · exact .refl service
      · split
        · exact write_standing service _
        · split
          · exact .refl service
          · have hset : ∀ next, service.SameStanding { service with chacha := some next } :=
              fun _ => ⟨rfl, rfl, rfl, rfl⟩
            exact (hset _).trans (write_standing _ _)

/-- Authentication effects write frames and install keys; they never close. -/
theorem applyEffects_standing (externals : ConnectionExternals) (service : FakeCompanionService)
    (effects : List AuthEffect) :
    service.SameStanding (service.applyEffects externals effects) := by
  induction effects generalizing service with
  | nil => exact .refl service
  | cons effect rest ih =>
      refine SameStanding.trans ?_ (ih (service.applyEffect externals effect))
      cases effect with
      | send message =>
          have hnoted : service.SameStanding
              { service with
                exchanges :=
                  service.exchanges ++ (AuthEffect.send message).verifyEvent?.toList } :=
            ⟨rfl, rfl, rfl, rfl⟩
          exact hnoted.trans (sendToClient_standing _ _ _ _)
      | _ => exact ⟨rfl, rfl, rfl, rfl⟩

end FakeCompanionService

namespace BridgeConnection

/-- The protocol connection stands as before, and was closed no more than before. -/
structure SameStanding (connection next : BridgeConnection) : Prop where
  service : connection.service.SameStanding next.service
  closedAsMalformed : next.closedAsMalformed = connection.closedAsMalformed

/-- The malformed count is untouched, whatever became of the transport. -/
structure SameCount (connection next : BridgeConnection) : Prop where
  malformedFrames : next.service.malformedFrames = connection.service.malformedFrames
  closedAsMalformed : next.closedAsMalformed = connection.closedAsMalformed

theorem SameStanding.refl (connection : BridgeConnection) : connection.SameStanding connection :=
  ⟨.refl connection.service, rfl⟩

theorem SameStanding.trans {connection middle next : BridgeConnection}
    (hfirst : connection.SameStanding middle) (hsecond : middle.SameStanding next) :
    connection.SameStanding next :=
  ⟨hfirst.service.trans hsecond.service,
    hsecond.closedAsMalformed.trans hfirst.closedAsMalformed⟩

theorem SameStanding.sameCount {connection next : BridgeConnection}
    (hsame : connection.SameStanding next) : connection.SameCount next :=
  ⟨hsame.service.malformedFrames, hsame.closedAsMalformed⟩

theorem SameCount.trans {connection middle next : BridgeConnection}
    (hfirst : connection.SameCount middle) (hsecond : middle.SameCount next) :
    connection.SameCount next :=
  ⟨hsecond.malformedFrames.trans hfirst.malformedFrames,
    hsecond.closedAsMalformed.trans hfirst.closedAsMalformed⟩

theorem SameStanding.isConnectionActive {connection next : BridgeConnection}
    (hsame : connection.SameStanding next) :
    next.isConnectionActive = connection.isConnectionActive :=
  hsame.service.isConnectionActive

theorem sendToClient_standing (externals : BridgeExternals) (connection : BridgeConnection)
    (frameType : FrameType) (message : OpackValue) :
    connection.SameStanding (connection.sendToClient externals frameType message).1 :=
  ⟨FakeCompanionService.sendToClient_standing _ _ _ _, rfl⟩

instance : Std.Refl SameStanding where
  refl := .refl

instance : IsTrans BridgeConnection SameStanding where
  trans := fun _ _ _ => .trans

instance (externals : BridgeExternals) : QuietRelation externals SameStanding where
  send := fun connection message => sendToClient_standing externals connection .eOpack message
  session := fun connection _ => ⟨.refl connection.service, rfl⟩
  state := fun connection _ => ⟨.refl connection.service, rfl⟩
  owner := fun connection _ _ => ⟨.refl connection.service, rfl⟩

/-- Closing does not count. -/
theorem closeConnection_sameCount (connection : BridgeConnection) :
    connection.SameCount connection.closeConnection :=
  ⟨rfl, rfl⟩

theorem submitDispatch_sameCount (connection : BridgeConnection) (answer : LaneAnswer)
    (command : Command) : connection.SameCount (connection.submitDispatch answer command).1 := by
  unfold submitDispatch
  split
  · exact ⟨rfl, rfl⟩
  · cases answer with
    | accepted => exact ⟨rfl, rfl⟩
    | dropped => exact ⟨rfl, rfl⟩
    | unauthorized => exact closeConnection_sameCount connection

/-- A submission that closes the connection is no malformed frame. -/
theorem dispatchSink_sameCount (connection : BridgeConnection) (answer : LaneAnswer)
    (command : Command) : connection.SameCount (connection.dispatchSink answer command) := by
  unfold dispatchSink
  split
  · split
    · exact ⟨rfl, rfl⟩
    · dsimp only
      split
      · have hsubmit := submitDispatch_sameCount connection answer
        exact (hsubmit _).trans ⟨rfl, rfl⟩
      · exact submitDispatch_sameCount connection answer _
  · split
    · exact ⟨rfl, rfl⟩
    · exact ⟨rfl, rfl⟩
  · exact submitDispatch_sameCount connection answer command

instance : Std.Refl SameCount where
  refl := fun _ => ⟨rfl, rfl⟩

instance : IsTrans BridgeConnection SameCount where
  trans := fun _ _ _ => .trans

instance (externals : BridgeExternals) : RelayRelation externals SameCount where
  send := fun connection message =>
    (sendToClient_standing externals connection .eOpack message).sameCount
  session := fun _ _ => ⟨rfl, rfl⟩
  state := fun _ _ => ⟨rfl, rfl⟩
  owner := fun _ _ _ => ⟨rfl, rfl⟩
  relay := fun _ _ => ⟨rfl, rfl⟩
  sink := dispatchSink_sameCount

/-! ## The message of a frame -/

/-- The message a frame carries to its handler, when it does. -/
def inboundMessage? (externals : BridgeExternals) (connection : BridgeConnection)
    (header payload : Bytes) (inputs : BridgeInputs) : Option OpackValue :=
  match FrameType.ofCode? (header.headD 0), connection.service.chacha with
  | some frameType, some cipher =>
      if frameType.isAuth ∨ inputs.authorized = false ∨ (frameType = .noOp ∧ payload = []) then none
      else
        match (connection.openFrame externals cipher header payload).2 with
        | none => none
        | some plaintext =>
            if maxApplicationPayload < plaintext.length then none
            else (unpack externals.unpackDepth plaintext).map Prod.fst
  | _, _ => none

/-- The connection once the payload of a frame is decrypted. -/
def opened (externals : BridgeExternals) (connection : BridgeConnection)
    (header payload : Bytes) : BridgeConnection :=
  match connection.service.chacha with
  | none => connection
  | some cipher => (connection.openFrame externals cipher header payload).1

/-- How a frame ends that carries no message to a handler. -/
inductive FrameEnd (connection : BridgeConnection) : BridgeConnection × Bool → Prop where
  | malformed (middle : BridgeConnection) (hsame : connection.SameStanding middle) :
      FrameEnd connection middle.malformedFrame
  | closed (middle : BridgeConnection) (hsame : connection.SameStanding middle) :
      FrameEnd connection (middle.closeConnection, false)
  | kept (middle : BridgeConnection) (hsame : connection.SameStanding middle) :
      FrameEnd connection (middle, middle.stillOpen)

/-- A prefix of the frame that keeps the standing does not matter for how it ends. -/
theorem FrameEnd.of_standing {connection middle : BridgeConnection}
    {ended : BridgeConnection × Bool} (hsame : connection.SameStanding middle)
    (hended : FrameEnd middle ended) : FrameEnd connection ended := by
  cases hended with
  | malformed next hnext => exact .malformed next (hsame.trans hnext)
  | closed next hnext => exact .closed next (hsame.trans hnext)
  | kept next hnext => exact .kept next (hsame.trans hnext)

theorem receiveFrame_standing (connection : BridgeConnection) (frame : InboundFrame) :
    connection.SameStanding (connection.receiveFrame frame) :=
  ⟨⟨rfl, rfl, rfl, rfl⟩, rfl⟩

theorem openFrame_standing (externals : BridgeExternals) (connection : BridgeConnection)
    (cipher : Chacha20Cipher) (header payload : Bytes) :
    connection.SameStanding (connection.openFrame externals cipher header payload).1 :=
  ⟨⟨rfl, rfl, rfl, rfl⟩, rfl⟩

/-- Opening a sealed frame moves the counter and nothing else. -/
theorem opened_standing (externals : BridgeExternals) (connection : BridgeConnection)
    (header payload : Bytes) :
    connection.SameStanding (connection.opened externals header payload) := by
  unfold opened
  split
  · exact .refl connection
  · exact openFrame_standing externals connection _ header payload

/-- An authentication frame ends by its answer, by a close or as malformed. -/
theorem handleAuth_end (externals : BridgeExternals) (connection : BridgeConnection)
    (frameType : FrameType) (message : OpackValue) (inputs : AuthInputs) :
    FrameEnd connection (connection.handleAuth externals frameType message inputs) := by
  unfold handleAuth
  dsimp only
  have hstart : ∀ auth, connection.service.SameStanding { connection.service with auth := auth } :=
    fun _ => ⟨rfl, rfl, rfl, rfl⟩
  split
  · exact .kept _ ⟨(hstart _).trans (FakeCompanionService.applyEffects_standing _ _ _), rfl⟩
  · exact .closed _ ⟨(hstart _).trans (FakeCompanionService.applyEffects_standing _ _ _), rfl⟩

/-- A payload ends by its handler, by a close or as malformed, encrypted or not. -/
theorem handlePayload_end {externals : BridgeExternals} {connection : BridgeConnection}
    {frameType : FrameType} {payload : Bytes} {inputs : BridgeInputs}
    (hmessage : frameType.isAuth = false → connection.service.chacha.isSome →
      payload.length ≤ maxApplicationPayload → unpack externals.unpackDepth payload = none) :
    FrameEnd connection (connection.handlePayload externals frameType payload inputs) := by
  unfold handlePayload
  split
  · exact .closed connection (.refl connection)
  · rename_i hsize
    cases hunpack : unpack externals.unpackDepth payload with
    | none => exact .malformed connection (.refl connection)
    | some decoded =>
        dsimp only
        split
        · exact handleAuth_end externals connection frameType decoded.1 inputs.auth
        · rename_i hauth
          split
          · exact .malformed connection (.refl connection)
          · rename_i hcipher
            rw [Option.isNone_iff_eq_none, ← ne_eq, Option.ne_none_iff_isSome] at hcipher
            have hnone := hmessage (by simpa using hauth) hcipher (Nat.le_of_not_lt hsize)
            rw [hnone] at hunpack
            exact absurd hunpack (by simp)

/-- A frame without a message for a handler ends in one of three ways. -/
theorem handleFrame_end {externals : BridgeExternals} {connection : BridgeConnection}
    {header payload : Bytes} {inputs : BridgeInputs}
    (hmessage : connection.inboundMessage? externals header payload inputs = none) :
    FrameEnd connection (connection.handleFrame externals header payload inputs) := by
  unfold inboundMessage? at hmessage
  unfold handleFrame
  cases htype : FrameType.ofCode? (header.headD 0) with
  | none => exact .malformed connection (.refl connection)
  | some frameType =>
      rw [htype] at hmessage
      dsimp only
      split
      · exact .closed _ (receiveFrame_standing connection _)
      · rename_i hclear
        split
        · exact .closed connection (.refl connection)
        · cases hcipher : connection.service.chacha with
          | none =>
              exact handlePayload_end fun _ hsome => absurd hsome (by simp [hcipher])
          | some cipher =>
              rw [hcipher] at hmessage hclear
              dsimp only at hmessage ⊢
              -- an authentication frame on an encrypted connection was cut off above
              have hauth : frameType.isAuth = false := by
                cases hisAuth : frameType.isAuth with
                | false => rfl
                | true => exact absurd ⟨hisAuth, Or.inl rfl⟩ hclear
              unfold handleSealed
              split
              · exact .closed _ (receiveFrame_standing connection _)
              · rename_i hauthorized
                split
                · exact .kept _ (receiveFrame_standing connection _)
                · rename_i hkeepalive
                  rw [if_neg (by simp [hauth, hauthorized, hkeepalive])] at hmessage
                  have hopened := openFrame_standing externals connection cipher header payload
                  cases hplain : connection.openFrame externals cipher header payload with
                  | mk received plaintext =>
                      rw [hplain] at hmessage hopened
                      cases plaintext with
                      | none => exact .closed received hopened
                      | some plaintext =>
                          refine .of_standing hopened (handlePayload_end fun _ _ hsize => ?_)
                          dsimp only at hmessage
                          rw [if_neg (Nat.not_lt.mpr hsize), Option.map_eq_none_iff] at hmessage
                          exact hmessage

/-- A frame with a message hands it to its handler. -/
theorem handleFrame_message {externals : BridgeExternals} {connection : BridgeConnection}
    {header payload : Bytes} {inputs : BridgeInputs} {message : OpackValue}
    (hmessage : connection.inboundMessage? externals header payload inputs = some message) :
    connection.handleFrame externals header payload inputs =
      (connection.opened externals header payload).handleMessage externals message inputs := by
  unfold inboundMessage? at hmessage
  unfold handleFrame opened
  cases htype : FrameType.ofCode? (header.headD 0) with
  | none =>
      rw [htype] at hmessage
      exact absurd hmessage (by simp)
  | some frameType =>
      -- only an encrypted connection carries messages
      cases hcipher : connection.service.chacha with
      | none =>
          rw [htype, hcipher] at hmessage
          exact absurd hmessage (by simp)
      | some cipher =>
          rw [htype, hcipher] at hmessage
          dsimp only at hmessage ⊢
          split at hmessage
          · exact absurd hmessage (by simp)
          · rename_i hplain
            simp only [not_or, Bool.not_eq_true, Bool.not_eq_false] at hplain
            obtain ⟨hauth, hauthorized, hkeepalive⟩ := hplain
            rw [if_neg (by simp [hauth]), if_neg (by simp [hauth])]
            unfold handleSealed
            rw [if_neg (by simp [hauthorized]), if_neg hkeepalive]
            have hsome : (connection.openFrame externals cipher header payload).1.service.chacha.isSome :=
              rfl
            cases hopened : connection.openFrame externals cipher header payload with
            | mk received plaintext =>
                rw [hopened] at hmessage hsome
                cases plaintext with
                | none => exact absurd hmessage (by simp)
                | some plaintext =>
                    dsimp only at hmessage ⊢
                    split at hmessage
                    · exact absurd hmessage (by simp)
                    · rename_i hsize
                      rw [Option.map_eq_some_iff] at hmessage
                      obtain ⟨⟨decoded, rest⟩, hunpack, rfl⟩ := hmessage
                      unfold handlePayload
                      rw [if_neg hsize, hunpack]
                      dsimp only
                      rw [if_neg (by simp [hauth]), if_neg (by simp [Option.isSome_iff_ne_none.mp hsome])]

end BridgeConnection

end CompanionBridge
