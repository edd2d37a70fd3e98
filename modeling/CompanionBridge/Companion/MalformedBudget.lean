import CompanionBridge.Companion.FrameEnds

/-!
# The malformed-frame budget

Frames are reported as malformed by the loop, by the handlers that decode their
own messages, and once more when a handler raises. Each path reports a frame
once, but the touch handler reports what its base decode refuses and then what
its own part refuses: a message it cannot read, or a point that leads the relay
out of range. A touch message that both refuse counts twice.
-/

namespace CompanionBridge

open Handler

/-- Whether the relay's part of the touch handler refuses a message: it cannot read
it, or its point leads the gesture in progress out of range. -/
def relayRefuses (text : PyText) (relay : CommandRelay) (message : OpackValue) : Bool :=
  match touchPoint message text with
  | .error _ => true
  | .ok (rawPhase, cx, cy) =>
      match touchActionNames rawPhase with
      | none => false
      | some action => relay.touchOutOfRange action cx cy

/-- A message for the touch handler that its base decode refuses and its own part too. -/
def isUnreadTouch (text : PyText) (relay : CommandRelay) (message : OpackValue) : Bool :=
  !isStartupResponse message &&
    (match requestedHandler text message with
      | .ok (some .hidt) => isRaised (hidEvent message text) && relayRefuses text relay message
      | _ => false)

namespace HandledFrame

/-- The message the frame carried to its handler. -/
def message? (externals : BridgeExternals) (frame : HandledFrame) : Option OpackValue :=
  frame.before.inboundMessage? externals frame.header frame.payload frame.inputs

def isUnreadTouch (externals : BridgeExternals) (frame : HandledFrame) : Bool :=
  (frame.message? externals).any
    (CompanionBridge.isUnreadTouch externals.text frame.before.relay)

/-- Whether the frame was reported as malformed. -/
def isReported (frame : HandledFrame) : Bool :=
  frame.before.service.malformedFrames < frame.after.service.malformedFrames

/-- Whether the connection was closed for malformedness while the frame was handled. -/
def isMalformedClose (frame : HandledFrame) : Bool :=
  !frame.before.closedAsMalformed && frame.after.closedAsMalformed

end HandledFrame

/-- Handling a frame counts at most one malformed frame, and the connection is
closed for malformedness exactly while the third reported frame is handled. -/
structure WithinMalformedBudget (frames : List HandledFrame) : Prop where
  once : ∀ frame ∈ frames,
    frame.after.service.malformedFrames ≤ frame.before.service.malformedFrames + 1
  third : ∀ earlier frame later, frames = earlier ++ frame :: later →
    (frame.isMalformedClose ↔ frame.isReported ∧ earlier.countP HandledFrame.isReported = 2)

/-! ## Reports of one handler -/

/-- At most one report, that of an exception included. -/
def ReportsOnce (connection : BridgeConnection) (raised : Bool) (after : BridgeConnection) : Prop :=
  after.service.malformedFrames + raised.toNat ≤ connection.service.malformedFrames + 1

namespace BridgeConnection

theorem malformedFrame_count (connection : BridgeConnection) :
    connection.malformedFrame.1.service.malformedFrames =
      connection.service.malformedFrames + 1 := by
  unfold malformedFrame
  dsimp only
  split
  · rfl
  · rfl

theorem SameCount.reportsOnce {connection after : BridgeConnection}
    (hsame : connection.SameCount after) (raised : Bool) : ReportsOnce connection raised after := by
  unfold ReportsOnce
  rw [hsame.malformedFrames]
  cases raised with
  | false => exact Nat.le_succ _
  | true => exact Nat.le_refl _

end BridgeConnection

section Reports

variable {externals : BridgeExternals} {inputs : BridgeInputs} {message : OpackValue}

/-- A handler that counts nothing reports at most once. -/
theorem reportsOnce_of_sameCount {Result : Type} {handler : HandlerM Result}
    (hkeeps : Keeps BridgeConnection.SameCount handler) : Ends ReportsOnce handler :=
  .of_keeps hkeeps fun _ raised _ hsame => hsame.reportsOnce raised

theorem reportMalformed_reportsOnce : Ends ReportsOnce reportMalformed :=
  .update fun connection => Nat.le_of_eq connection.malformedFrame_count

/-- A part that reports nothing leaves the report to the rest. -/
theorem reportsOnce_bind {Result Other : Type} {handler : HandlerM Result}
    {next : Result → HandlerM Other} (hhandler : Keeps BridgeConnection.SameCount handler)
    (hnext : ∀ result, Ends ReportsOnce (next result)) : Ends ReportsOnce (handler >>= next) := by
  refine .bind hhandler ?_ ?_ hnext
  · exact fun _ _ hsame => hsame.reportsOnce true
  · intro connection middle raised after hsame hreports
    unfold ReportsOnce at hreports ⊢
    rwa [hsame.malformedFrames] at hreports

theorem handleHidc_reportsOnce : Ends ReportsOnce (handleHidc externals inputs message) := by
  unfold handleHidc
  split
  · exact reportMalformed_reportsOnce
  · split
    · split
      · exact reportMalformed_reportsOnce
      · exact reportsOnce_of_sameCount <|
          .bind (updateSession_keeps externals _) fun _ =>
            .bind (sendResponse_keeps _) fun _ =>
              relayCommands_keeps externals _
    · exact reportsOnce_of_sameCount <|
        .bind handleHidcBase_keeps fun _ =>
          relayCommands_keeps externals _

theorem handleMcc_reportsOnce : Ends ReportsOnce (handleMcc externals inputs message) := by
  refine reportsOnce_bind (.lift _) fun content => ?_
  dsimp only
  split
  · split
    · exact reportMalformed_reportsOnce
    · exact reportsOnce_of_sameCount (.lift _)
  · split
    · refine reportsOnce_bind (.lift _) fun level => ?_
      split
      · exact reportMalformed_reportsOnce
      · exact reportsOnce_of_sameCount <|
          .bind (.lift _) fun _ => .bind (relayVolume_keeps externals _) fun _ =>
            sendResponse_keeps _
    · split
      · exact reportsOnce_of_sameCount <|
          .bind (relayCommands_keeps externals _) fun _ =>
            sendResponse_keeps _
      · exact reportsOnce_of_sameCount handleMccBase_keeps

/-- A text that cannot be read is reported where it is found. -/
theorem handleTic_reportsOnce : Ends ReportsOnce (handleTic externals inputs message) := by
  refine reportsOnce_bind (.lift _) fun kind => ?_
  dsimp only
  split
  · exact reportsOnce_of_sameCount (.pure _)
  · split
    · exact reportMalformed_reportsOnce
    · refine reportsOnce_of_sameCount <|
        .bind (.read _) fun _ => .bind (.lift _) fun _ =>
          .bind (updateSession_keeps externals _) fun _ => ?_
      split
      · exact .pure _
      · exact .update fun connection => RelayRelation.sink externals connection _ _

/-- Reporting a message leaves the relay alone. -/
theorem malformedFrame_relay (connection : BridgeConnection) :
    connection.malformedFrame.1.relay = connection.relay := by
  unfold BridgeConnection.malformedFrame
  dsimp only
  split
  · rfl
  · rfl

/-- The relay's part of a touch never raises past the handler, and reports what it refuses. -/
theorem relayTouch_performs (externals : BridgeExternals) (inputs : BridgeInputs)
    (message : OpackValue) (connection : BridgeConnection) :
    ∃ after, (relayTouch externals inputs message).perform connection = (.ok (), after) ∧
      after.service.malformedFrames = connection.service.malformedFrames +
        (relayRefuses externals.text connection.relay message).toNat := by
  unfold relayTouch relayRefuses
  cases touchPoint message externals.text with
  | error error => exact ⟨_, rfl, connection.malformedFrame_count⟩
  | ok point =>
      obtain ⟨rawPhase, cx, cy⟩ := point
      dsimp only
      cases touchActionNames rawPhase with
      | none => exact ⟨connection, rfl, rfl⟩
      | some action =>
          have hsame : connection.SameCount
              (connection.relayed inputs.lane (connection.relay.onTouch inputs.nowMs action cx cy)) :=
            relayCommands_keeps externals
              (fun relay => relay.onTouch inputs.nowMs action cx cy) connection
          dsimp only
          rw [← CommandRelay.touchRaises_eq, perform_bind, perform_read]
          dsimp only
          rw [perform_bind, relayCommands, perform_update]
          dsimp only
          cases connection.relay.touchRaises action cx cy with
          | false => exact ⟨_, rfl, hsame.malformedFrames⟩
          | true =>
              refine ⟨_, rfl, ?_⟩
              rw [BridgeConnection.malformedFrame_count, hsame.malformedFrames]
              rfl

/-- The touch handler reports what its base decode refuses, and what its own part does. -/
theorem handleHidt_count (connection : BridgeConnection) :
    ∃ after, (handleHidt externals inputs message).perform connection = (.ok (), after) ∧
      after.service.malformedFrames = connection.service.malformedFrames +
        (isRaised (hidEvent message externals.text)).toNat +
        (relayRefuses externals.text connection.relay message).toNat := by
  unfold handleHidt decodeTouch
  rw [perform_bind]
  cases hidEvent message externals.text with
  | error refusal =>
      obtain ⟨after, hperform, hcount⟩ :=
        relayTouch_performs externals inputs message connection.malformedFrame.1
      refine ⟨after, hperform, ?_⟩
      rw [hcount, malformedFrame_relay, connection.malformedFrame_count]
      rfl
  | ok event =>
      obtain ⟨after, hperform, hcount⟩ := relayTouch_performs externals inputs message connection
      exact ⟨after, hperform, hcount⟩

/-- Every handler but that of touches has one `_malformed_frame` on each of its paths. -/
theorem call_reportsOnce {handler : MessageHandler} (htouch : handler ≠ .hidt) :
    Ends ReportsOnce (handler.call externals inputs message) := by
  cases hloud : handler.isLoud with
  | false => exact reportsOnce_of_sameCount (call_keeps_of_quiet hloud)
  | true =>
      cases handler with
      | hidc => exact handleHidc_reportsOnce
      | hidt => exact absurd rfl htouch
      | mcc => exact handleMcc_reportsOnce
      | mediaControlCommand =>
          exact reportsOnce_of_sameCount handleMediaControlCommand_keeps
      | tic => exact handleTic_reportsOnce
      | _ => exact absurd hloud (by decide)

/-- A message reports once, unless it is a touch that both parts refuse. -/
theorem dispatchMessage_reportsOnce (hstartup : isStartupResponse message = false)
    (connection : BridgeConnection)
    (hread : isUnreadTouch externals.text connection.relay message = false) :
    ReportsOnce connection
      (isRaised ((dispatchMessage externals inputs message).perform connection).1)
      ((dispatchMessage externals inputs message).perform connection).2 := by
  unfold dispatchMessage
  rw [perform_bind, perform_lift]
  cases hrequested : requestedHandler externals.text message with
  | error error =>
      have hsame : connection.SameCount connection := ⟨rfl, rfl⟩
      exact hsame.reportsOnce true
  | ok requested =>
      cases requested with
      | none => exact reportsOnce_of_sameCount (sendError_keeps _ _) connection
      | some handler =>
          by_cases htouch : handler = .hidt
          · subst htouch
            simp only [isUnreadTouch, hstartup, hrequested, Bool.not_false, Bool.true_and] at hread
            obtain ⟨after, hperform, hcount⟩ :=
              @handleHidt_count externals inputs message connection
            change ReportsOnce connection
              (isRaised ((handleHidt externals inputs message).perform connection).1)
              ((handleHidt externals inputs message).perform connection).2
            rw [hperform]
            unfold ReportsOnce
            rw [hcount]
            cases hbase : isRaised (hidEvent message externals.text) with
            | false =>
                have hpart := Bool.toNat_le (relayRefuses externals.text connection.relay message)
                simp only [isRaised, Bool.toNat_false]
                omega
            | true =>
                rw [hbase, Bool.true_and] at hread
                rw [hread]
                exact Nat.le_refl _
          · exact call_reportsOnce htouch connection

end Reports

/-! ## Reports of one frame -/

namespace BridgeConnection

variable {externals : BridgeExternals} {connection : BridgeConnection} {message : OpackValue}
variable {inputs : BridgeInputs} {header payload : Bytes}

/-- A message counts once, as long as it is no touch that is reported twice. -/
theorem handleMessage_count (hread : isUnreadTouch externals.text connection.relay message = false) :
    (connection.handleMessage externals message inputs).1.service.malformedFrames ≤
      connection.service.malformedFrames + 1 := by
  unfold handleMessage
  split
  · exact Nat.le_succ _
  · rename_i hstartup
    rw [Bool.not_eq_true] at hstartup
    have hreports := @dispatchMessage_reportsOnce externals inputs message hstartup
      connection.countHandled hread
    unfold ReportsOnce at hreports
    split
    · rename_i hperform
      rw [hperform] at hreports
      exact hreports
    · rename_i hperform
      rw [hperform] at hreports
      rw [malformedFrame_count]
      exact hreports

/-- Such a touch counts twice: its own handler reports it, then raises into the frame's. -/
theorem handleMessage_count_unread
    (hunread : isUnreadTouch externals.text connection.relay message = true) :
    (connection.handleMessage externals message inputs).1.service.malformedFrames =
      connection.service.malformedFrames + 2 := by
  unfold isUnreadTouch at hunread
  rw [Bool.and_eq_true, Bool.not_eq_true'] at hunread
  obtain ⟨hstartup, hunread⟩ := hunread
  split at hunread
  · rename_i hrequested
    rw [Bool.and_eq_true] at hunread
    obtain ⟨after, hperform, hcount⟩ :=
      @handleHidt_count externals inputs message connection.countHandled
    have hdispatch : (dispatchMessage externals inputs message).perform connection.countHandled =
        (.ok (), after) := by
      unfold dispatchMessage
      rw [perform_bind, perform_lift, hrequested]
      exact hperform
    have hrefuses : relayRefuses externals.text connection.countHandled.relay message = true :=
      hunread.2
    rw [hunread.1, hrefuses] at hcount
    unfold handleMessage
    rw [if_neg (by simp [hstartup]), hdispatch]
    exact hcount
  · exact absurd hunread (by simp)

/-- A frame without a message counts once at most. -/
theorem FrameEnd.count {ended : BridgeConnection × Bool} (hended : FrameEnd connection ended) :
    ended.1.service.malformedFrames ≤ connection.service.malformedFrames + 1 := by
  cases hended with
  | malformed middle hsame =>
      rw [malformedFrame_count, hsame.service.malformedFrames]
  | closed middle hsame =>
      rw [(closeConnection_sameCount middle).malformedFrames, hsame.service.malformedFrames]
      exact Nat.le_succ _
  | kept middle hsame =>
      rw [hsame.service.malformedFrames]
      exact Nat.le_succ _

/-- Decrypting leaves the relay alone. -/
theorem opened_relay (externals : BridgeExternals) (connection : BridgeConnection)
    (header payload : Bytes) :
    (connection.opened externals header payload).relay = connection.relay := by
  unfold opened
  split
  · rfl
  · rfl

/-- A frame counts at most once exactly when it is not a touch that both parts refuse. -/
theorem handleFrame_count :
    (connection.handleFrame externals header payload inputs).1.service.malformedFrames ≤
        connection.service.malformedFrames + 1 ↔
      (connection.inboundMessage? externals header payload inputs).any
        (isUnreadTouch externals.text connection.relay) = false := by
  cases hmessage : connection.inboundMessage? externals header payload inputs with
  | none => simp [(handleFrame_end hmessage).count]
  | some message =>
      have hopened := (opened_standing externals connection header payload).service.malformedFrames
      rw [handleFrame_message hmessage, Option.any_some, ← hopened,
        ← opened_relay externals connection header payload]
      cases hunread : isUnreadTouch externals.text
          (connection.opened externals header payload).relay message with
      | false => simp [handleMessage_count hunread]
      | true => simp [handleMessage_count_unread hunread]

/-! ## The limit -/

/-- The connection was closed as malformed exactly when the count is at the limit. -/
def FlagMatches (connection : BridgeConnection) : Prop :=
  connection.closedAsMalformed = decide (malformedFrameLimit ≤ connection.service.malformedFrames)

/-- The count does not fall, and the flag keeps matching it. -/
structure CountGrows (first second : BridgeConnection) : Prop where
  mono : first.service.malformedFrames ≤ second.service.malformedFrames
  flag : first.FlagMatches → second.FlagMatches

theorem CountGrows.trans {first second third : BridgeConnection}
    (hfirst : CountGrows first second) (hsecond : CountGrows second third) :
    CountGrows first third :=
  ⟨hfirst.mono.trans hsecond.mono, fun hflag => hsecond.flag (hfirst.flag hflag)⟩

theorem SameCount.countGrows {first second : BridgeConnection} (hsame : first.SameCount second) :
    CountGrows first second := by
  refine ⟨hsame.malformedFrames.ge, fun hflag => ?_⟩
  unfold FlagMatches at hflag ⊢
  rw [hsame.closedAsMalformed, hsame.malformedFrames, hflag]

theorem malformedFrame_countGrows (connection : BridgeConnection) :
    CountGrows connection connection.malformedFrame.1 := by
  have hcount := connection.malformedFrame_count
  refine ⟨hcount.ge.trans' (Nat.le_succ _), fun hflag => ?_⟩
  unfold FlagMatches at hflag ⊢
  unfold malformedFrame at hcount ⊢
  dsimp only at hcount ⊢
  split
  · rename_i hlimit
    rw [if_pos hlimit] at hcount
    exact (decide_eq_true (hlimit.trans_eq hcount.symm)).symm
  · rename_i hlimit
    have hbefore : ¬ malformedFrameLimit ≤ connection.service.malformedFrames := fun hle =>
      hlimit (Nat.le_succ_of_le hle)
    show connection.closedAsMalformed = _
    rw [hflag, decide_eq_false hbefore, decide_eq_false hlimit]

instance : Std.Refl CountGrows where
  refl := fun _ => SameCount.countGrows ⟨rfl, rfl⟩

instance : IsTrans BridgeConnection CountGrows where
  trans := fun _ _ _ => .trans

instance (externals : BridgeExternals) : LoudRelation externals CountGrows where
  send := fun connection sent =>
    (sendToClient_standing externals connection .eOpack sent).sameCount.countGrows
  session := fun _ _ => SameCount.countGrows ⟨rfl, rfl⟩
  state := fun _ _ => SameCount.countGrows ⟨rfl, rfl⟩
  owner := fun _ _ _ => SameCount.countGrows ⟨rfl, rfl⟩
  relay := fun _ _ => SameCount.countGrows ⟨rfl, rfl⟩
  sink := fun connection answer command =>
    (dispatchSink_sameCount connection answer command).countGrows
  report := malformedFrame_countGrows

/-- No frame takes a malformed frame off the count. -/
theorem handleFrame_countGrows (externals : BridgeExternals) (connection : BridgeConnection)
    (header payload : Bytes) (inputs : BridgeInputs) :
    CountGrows connection (connection.handleFrame externals header payload inputs).1 := by
  cases hmessage : connection.inboundMessage? externals header payload inputs with
  | none =>
      have hended := handleFrame_end hmessage
      generalize connection.handleFrame externals header payload inputs = ended at hended
      cases hended with
      | malformed middle hsame =>
          exact hsame.sameCount.countGrows.trans (malformedFrame_countGrows middle)
      | closed middle hsame =>
          exact (hsame.sameCount.trans (closeConnection_sameCount middle)).countGrows
      | kept middle hsame => exact hsame.sameCount.countGrows
  | some message =>
      rw [handleFrame_message hmessage]
      refine (opened_standing externals connection header payload).sameCount.countGrows.trans ?_
      generalize connection.opened externals header payload = decrypted
      unfold handleMessage
      split
      · exact SameCount.countGrows ⟨rfl, rfl⟩
      · have hcounted : CountGrows decrypted decrypted.countHandled :=
          SameCount.countGrows ⟨rfl, rfl⟩
        have hdispatch : CountGrows decrypted.countHandled
            ((dispatchMessage externals inputs message).perform decrypted.countHandled).2 :=
          dispatchMessage_keeps _
        split
        · rename_i hperform
          rw [hperform] at hdispatch
          exact hcounted.trans hdispatch
        · rename_i hperform
          rw [hperform] at hdispatch
          exact (hcounted.trans hdispatch).trans (malformedFrame_countGrows _)

end BridgeConnection

/-! ## Reports of a whole run -/

/-- The count goes from frame to frame, starting from `count` and ending at `final`. -/
def CountsFrom : Nat → List HandledFrame → Nat → Prop
  | count, [], final => final = count
  | count, frame :: rest, final =>
      frame.before.service.malformedFrames = count ∧
        CountsFrom frame.after.service.malformedFrames rest final

theorem CountsFrom.append {count middle final : Nat} {first second : List HandledFrame}
    (hfirst : CountsFrom count first middle) (hsecond : CountsFrom middle second final) :
    CountsFrom count (first ++ second) final := by
  induction first generalizing count with
  | nil =>
      rw [hfirst] at hsecond
      exact hsecond
  | cons frame rest ih => exact ⟨hfirst.1, ih hfirst.2⟩

/-- What a record of handled frames says of the connection before and after it. -/
structure FrameLog (externals : BridgeExternals) (connection : BridgeConnection)
    (received : BridgeConnection × List HandledFrame) : Prop where
  handled : ∀ frame ∈ received.2,
    frame.before.handleFrame externals frame.header frame.payload frame.inputs =
      (frame.after, frame.continued)
  counts : CountsFrom connection.service.malformedFrames received.2
    received.1.service.malformedFrames
  flags : connection.FlagMatches → received.1.FlagMatches ∧
    ∀ frame ∈ received.2, frame.before.FlagMatches

namespace BridgeConnection

variable {externals : BridgeExternals}

theorem frameLog_nil {connection next : BridgeConnection} (hsame : connection.SameCount next) :
    FrameLog externals connection (next, []) :=
  ⟨by simp, hsame.malformedFrames, fun hflag => ⟨hsame.countGrows.flag hflag, by simp⟩⟩

/-- Chunks one after the other, their frames in order. -/
theorem frameLog_append {connection middle final : BridgeConnection}
    {first second : List HandledFrame} (hfirst : FrameLog externals connection (middle, first))
    (hsecond : FrameLog externals middle (final, second)) :
    FrameLog externals connection (final, first ++ second) := by
  refine ⟨?_, hfirst.counts.append hsecond.counts, ?_⟩
  · intro frame hframe
    rcases List.mem_append.mp hframe with hmem | hmem
    · exact hfirst.handled frame hmem
    · exact hsecond.handled frame hmem
  · intro hflag
    obtain ⟨hmiddle, hbefore⟩ := hfirst.flags hflag
    obtain ⟨hfinal, hafter⟩ := hsecond.flags hmiddle
    refine ⟨hfinal, fun frame hframe => ?_⟩
    rcases List.mem_append.mp hframe with hmem | hmem
    · exact hbefore frame hmem
    · exact hafter frame hmem

/-- The log of one frame. -/
theorem frameLog_frame (connection : BridgeConnection) (parser : FrameParser)
    (header payload : Bytes) (inputs : BridgeInputs) :
    FrameLog externals connection
      (((connection.setParser parser).handleFrame externals header payload inputs).1,
        [⟨connection.setParser parser, header, payload, inputs,
          ((connection.setParser parser).handleFrame externals header payload inputs).1,
          ((connection.setParser parser).handleFrame externals header payload inputs).2⟩]) := by
  refine ⟨?_, ⟨rfl, rfl⟩, fun hflag => ⟨?_, ?_⟩⟩
  · intro frame hframe
    rw [List.mem_singleton] at hframe
    subst hframe
    rfl
  · have hgrows := handleFrame_countGrows externals (connection.setParser parser) header payload
      inputs
    exact hgrows.flag hflag
  · intro frame hframe
    rw [List.mem_singleton] at hframe
    subst hframe
    exact hflag

/-- The frames of one chunk, by induction on the fuel of the parser. -/
theorem receive_log (fuel : Nat) (connection : BridgeConnection) (incoming : Bytes)
    (inputs : Nat → BridgeInputs) :
    FrameLog externals connection (receive externals fuel connection incoming inputs) := by
  induction fuel generalizing connection incoming inputs with
  | zero => exact frameLog_nil ⟨rfl, rfl⟩
  | succ fuel ih =>
      unfold receive
      split
      · exact frameLog_nil ⟨rfl, rfl⟩
      · exact frameLog_nil ⟨rfl, rfl⟩
      · rename_i parser header payload rest hnext
        have hframe := @frameLog_frame externals connection parser header payload (inputs 0)
        dsimp only
        split
        · exact frameLog_append hframe (ih _ rest fun n => inputs (n + 1))
        · exact hframe

theorem setRtiFocusState_sameCount (connection : BridgeConnection) (value : KeyboardFocusState) :
    connection.SameCount ((setRtiFocusState externals value).perform connection).2 :=
  setRtiFocusState_keeps value connection

theorem pushSystemStatus_sameCount (connection : BridgeConnection) (status : Nat) :
    connection.SameCount (connection.pushSystemStatus externals status) := by
  unfold pushSystemStatus
  dsimp only
  split
  · have hchanged : connection.SameCount
        { connection with state := { connection.state with systemStatus := status } } := ⟨rfl, rfl⟩
    exact hchanged.trans (sendToClient_standing externals _ _ _).sameCount
  · exact ⟨rfl, rfl⟩

/-- One event and the frames it handles. -/
theorem step_log (connection : BridgeConnection) (event : BridgeEvent) :
    FrameLog externals connection (connection.step externals event) := by
  cases event with
  | dataReceived chunk inputs =>
      show FrameLog externals connection (connection.dataReceived externals chunk inputs)
      unfold dataReceived
      split
      · exact receive_log chunk.length connection chunk inputs
      · exact frameLog_nil ⟨rfl, rfl⟩
  | stateChanged state => exact frameLog_nil ⟨rfl, rfl⟩
  | systemStatus status => exact frameLog_nil (pushSystemStatus_sameCount connection status)
  -- events of the television handle no frame
  | imeStart =>
      apply frameLog_nil
      unfold imeStart
      split
      · have hcleared : connection.SameCount
            { connection with session := { connection.session with rtiText := some "" } } :=
          ⟨rfl, rfl⟩
        exact hcleared.trans (setRtiFocusState_sameCount _ .focused)
      · exact ⟨rfl, rfl⟩
  | imeEnd =>
      apply frameLog_nil
      unfold imeEnd
      split
      · exact setRtiFocusState_sameCount connection .unfocused
      · exact ⟨rfl, rfl⟩
  | closeConnection => exact frameLog_nil (closeConnection_sameCount connection)
  | authenticationTimedOut =>
      apply frameLog_nil
      unfold authenticationTimedOut
      split
      · exact closeConnection_sameCount connection
      · exact ⟨rfl, rfl⟩
  | connectionLost =>
      apply frameLog_nil
      unfold connectionLost
      split
      · exact ⟨rfl, rfl⟩
      · rename_i hopen
        refine ⟨?_, rfl⟩
        show connection.service.teardownConnection.malformedFrames = _
        unfold FakeCompanionService.teardownConnection
        rw [if_neg hopen]

/-- A run and all frames it handles, by induction on the events. -/
theorem run_log (connection : BridgeConnection) (events : List BridgeEvent) :
    FrameLog externals connection (connection.run externals events) := by
  induction events generalizing connection with
  | nil => exact frameLog_nil ⟨rfl, rfl⟩
  | cons event rest ih =>
      exact frameLog_append (step_log connection event) (ih (connection.step externals event).1)

end BridgeConnection

/-- What a frame that counts at most once adds to the count. -/
theorem HandledFrame.count_eq {externals : BridgeExternals} {frame : HandledFrame}
    (hhandled : frame.before.handleFrame externals frame.header frame.payload frame.inputs =
      (frame.after, frame.continued))
    (honce : frame.after.service.malformedFrames ≤ frame.before.service.malformedFrames + 1) :
    frame.after.service.malformedFrames =
      frame.before.service.malformedFrames + frame.isReported.toNat := by
  have hgrows := BridgeConnection.handleFrame_countGrows externals frame.before frame.header
    frame.payload frame.inputs
  rw [hhandled] at hgrows
  have hmono := hgrows.mono
  unfold HandledFrame.isReported
  by_cases hmore : frame.before.service.malformedFrames < frame.after.service.malformedFrames
  · rw [decide_eq_true hmore]
    exact Nat.le_antisymm honce hmore
  · rw [decide_eq_false hmore]
    exact Nat.le_antisymm (Nat.le_of_not_lt hmore) hmono

/-- Before each frame the count is that of the frames reported so far. -/
theorem CountsFrom.before {count final : Nat} {earlier later : List HandledFrame}
    {frame : HandledFrame} (hcounts : CountsFrom count (earlier ++ frame :: later) final)
    (hstep : ∀ handled ∈ earlier, handled.after.service.malformedFrames =
      handled.before.service.malformedFrames + handled.isReported.toNat) :
    frame.before.service.malformedFrames = count + earlier.countP HandledFrame.isReported := by
  induction earlier generalizing count with
  | nil => exact hcounts.1
  | cons first rest ih =>
      obtain ⟨hbefore, hrest⟩ := hcounts
      have hfirst := hstep first List.mem_cons_self
      rw [ih hrest fun handled hmem => hstep handled (List.mem_cons_of_mem first hmem), hfirst,
        hbefore, List.countP_cons]
      cases first.isReported with
      | false => simp
      | true =>
          simp
          omega

/-- With the count before a frame known, it closes the connection when it is the third. -/
theorem HandledFrame.isMalformedClose_iff {frame : HandledFrame} {reported : Nat}
    (hbefore : frame.before.FlagMatches) (hafter : frame.after.FlagMatches)
    (hcount : frame.before.service.malformedFrames = reported)
    (hstep : frame.after.service.malformedFrames =
      frame.before.service.malformedFrames + frame.isReported.toNat) :
    frame.isMalformedClose = true ↔ frame.isReported = true ∧ reported = 2 := by
  unfold BridgeConnection.FlagMatches malformedFrameLimit at hbefore hafter
  unfold HandledFrame.isMalformedClose
  rw [Bool.and_eq_true, Bool.not_eq_true', hbefore, hafter, decide_eq_false_iff_not,
    decide_eq_true_eq, hstep, hcount]
  cases frame.isReported with
  | false =>
      rw [Bool.toNat_false]
      constructor
      · omega
      · exact fun hreported => absurd hreported.1 (by decide)
  | true =>
      rw [Bool.toNat_true]
      constructor
      · exact fun hlimit => ⟨rfl, by omega⟩
      · rintro ⟨-, htwo⟩
        omega

theorem connectionMade_flagMatches (auth : CompanionServerAuth) (gestureConfig : GestureConfig)
    (holdConfig : DirectionalHoldConfig) (laneInstalled : Bool) (state : FakeCompanionState)
    (admitted : Bool) :
    (BridgeConnection.connectionMade auth gestureConfig holdConfig laneInstalled state
      admitted).FlagMatches := by
  cases admitted <;> rfl

theorem connectionMade_malformedFrames (auth : CompanionServerAuth)
    (gestureConfig : GestureConfig) (holdConfig : DirectionalHoldConfig) (laneInstalled : Bool)
    (state : FakeCompanionState) (admitted : Bool) :
    (BridgeConnection.connectionMade auth gestureConfig holdConfig laneInstalled state
      admitted).service.malformedFrames = 0 := by
  cases admitted <;> rfl

/-- In every run from an accepted or refused connection, the malformed-frame
budget holds exactly when no frame is a touch message that both decode and relay refuse. -/
theorem malformedBudget_iff (externals : BridgeExternals) (auth : CompanionServerAuth)
    (gestureConfig : GestureConfig) (holdConfig : DirectionalHoldConfig) (laneInstalled : Bool)
    (state : FakeCompanionState) (admitted : Bool) (events : List BridgeEvent) :
    let frames := ((BridgeConnection.connectionMade auth gestureConfig holdConfig laneInstalled
      state admitted).run externals events).2
    WithinMalformedBudget frames ↔ ∀ frame ∈ frames, frame.isUnreadTouch externals = false := by
  intro frames
  have hlog := @BridgeConnection.run_log externals (BridgeConnection.connectionMade
    auth gestureConfig holdConfig laneInstalled state admitted) events
  have hflags := (hlog.flags (connectionMade_flagMatches _ _ _ _ _ _)).2
  have hcounts := hlog.counts
  rw [connectionMade_malformedFrames] at hcounts
  have hcount : ∀ frame ∈ frames,
      frame.after.service.malformedFrames ≤ frame.before.service.malformedFrames + 1 ↔
        frame.isUnreadTouch externals = false := by
    intro frame hframe
    have hiff := @BridgeConnection.handleFrame_count externals frame.before frame.inputs
      frame.header frame.payload
    rw [hlog.handled frame hframe] at hiff
    exact hiff
  constructor
  · exact fun hbudget frame hframe => (hcount frame hframe).mp (hbudget.once frame hframe)
  · intro hread
    have honce : ∀ frame ∈ frames,
        frame.after.service.malformedFrames ≤ frame.before.service.malformedFrames + 1 :=
      fun frame hframe => (hcount frame hframe).mpr (hread frame hframe)
    have hstep : ∀ frame ∈ frames, frame.after.service.malformedFrames =
        frame.before.service.malformedFrames + frame.isReported.toNat :=
      fun frame hframe => HandledFrame.count_eq (hlog.handled frame hframe) (honce frame hframe)
    refine ⟨honce, fun earlier frame later hsplit => ?_⟩
    have hframe : frame ∈ frames := by
      rw [hsplit]
      exact List.mem_append_right earlier List.mem_cons_self
    have hearlier : ∀ handled ∈ earlier, handled ∈ frames := by
      intro handled hmem
      rw [hsplit]
      exact List.mem_append_left _ hmem
    -- before a frame the counter is the number of reports so far
    have hbefore : frame.before.service.malformedFrames =
        0 + earlier.countP HandledFrame.isReported := by
      have hsplitCounts := hcounts
      rw [show ((BridgeConnection.connectionMade auth gestureConfig holdConfig laneInstalled state
        admitted).run externals events).2 = earlier ++ frame :: later from hsplit] at hsplitCounts
      exact hsplitCounts.before fun handled hmem => hstep handled (hearlier handled hmem)
    have hafter : frame.after.FlagMatches := by
      have hgrows := BridgeConnection.handleFrame_countGrows externals frame.before frame.header
        frame.payload frame.inputs
      rw [hlog.handled frame hframe] at hgrows
      exact hgrows.flag (hflags frame hframe)
    rw [Nat.zero_add] at hbefore
    exact HandledFrame.isMalformedClose_iff (hflags frame hframe) hafter hbefore
      (hstep frame hframe)

/-- Two touch messages without a phase: each counts twice, and the second closes the connection. -/
theorem malformedBudget_fails :
    let touch : OpackValue := .dict [(.ofStr "_i", .ofStr "_hidT"), (.ofStr "_c", emptyDict)]
    let frames := (newConnection.run transparentBridge
      (pairVerifyEvents ++ [.dataReceived (sealedMessages 0 [touch, touch]) fun _ => {}])).2
    (frames.map fun frame =>
        (frame.before.service.malformedFrames, frame.after.service.malformedFrames,
          frame.isReported, frame.isMalformedClose)) =
      [(0, 0, false, false), (0, 0, false, false), (0, 2, true, false), (2, 4, true, true)] ∧
    ¬ WithinMalformedBudget frames := by
  intro touch frames
  have hcounts : (frames.map fun frame =>
      (frame.before.service.malformedFrames, frame.after.service.malformedFrames,
        frame.isReported, frame.isMalformedClose)) =
      [(0, 0, false, false), (0, 0, false, false), (0, 2, true, false), (2, 4, true, true)] := by
    decide +kernel
  refine ⟨hcounts, fun hbudget => ?_⟩
  have hmem : (0, 2, true, false) ∈ frames.map fun frame =>
      (frame.before.service.malformedFrames, frame.after.service.malformedFrames,
        frame.isReported, frame.isMalformedClose) := by
    rw [hcounts]
    decide
  obtain ⟨frame, hframe, hvalues⟩ := List.mem_map.mp hmem
  have honce := hbudget.once frame hframe
  simp only [Prod.mk.injEq] at hvalues
  omega

end CompanionBridge
