import CompanionBridge.Companion.BridgeFrames

/-!
# What the handlers do to a connection

Every handler is a composition of a few primitives. A reflexive and transitive
relation that holds across each of them therefore holds across every handler.
Most handlers neither report a message as malformed nor hand a command to the
relay; for these the relation need only allow frames to be sent and the session
to change.
-/

namespace CompanionBridge

open Handler

/-- A relation across which frames may be sent and the session may change. -/
class QuietRelation (externals : BridgeExternals)
    (relation : BridgeConnection → BridgeConnection → Prop) : Prop
    extends Std.Refl relation, IsTrans BridgeConnection relation where
  send : ∀ connection message,
    relation connection (connection.sendToClient externals .eOpack message).1
  session : ∀ (connection : BridgeConnection) session,
    relation connection { connection with session := session }
  state : ∀ (connection : BridgeConnection) state,
    relation connection { connection with state := state }
  owner : ∀ (connection : BridgeConnection) owned held,
    relation connection { connection with dispatchOwner := owned, repeating := held }

/-- A relation across which the relay may also decide and hand commands over. -/
class RelayRelation (externals : BridgeExternals)
    (relation : BridgeConnection → BridgeConnection → Prop) : Prop
    extends QuietRelation externals relation where
  relay : ∀ (connection : BridgeConnection) relay,
    relation connection { connection with relay := relay }
  sink : ∀ connection answer command, relation connection (connection.dispatchSink answer command)

/-- A relation across which a message may also be reported as malformed. -/
class LoudRelation (externals : BridgeExternals)
    (relation : BridgeConnection → BridgeConnection → Prop) : Prop
    extends RelayRelation externals relation where
  report : ∀ connection, relation connection connection.malformedFrame.1

section Quiet

variable {externals : BridgeExternals} {relation : BridgeConnection → BridgeConnection → Prop}
variable [QuietRelation externals relation] {inputs : BridgeInputs} {message : OpackValue}

/-- A relation that ignores the frames written and the messages sent survives every answer.
-/
theorem sendMessage_keeps (sent : OpackValue) : Keeps relation (sendMessage externals sent) :=
  fun connection => QuietRelation.send connection sent

theorem updateSession_keeps (externals : BridgeExternals) [QuietRelation externals relation]
    (change : FakeCompanionSessionState → FakeCompanionSessionState) :
    Keeps relation (updateSession change) :=
  .update fun connection => QuietRelation.session externals connection _

theorem updateState_keeps (externals : BridgeExternals) [QuietRelation externals relation]
    (change : FakeCompanionState → FakeCompanionState) : Keeps relation (updateState change) :=
  .update fun connection => QuietRelation.state externals connection _

/-- A response is a message. -/
theorem sendResponse_keeps (content : OpackValue) :
    Keeps relation (sendResponse externals message content) :=
  .bind (.lift _) fun _ => .bind (.lift _) fun _ => sendMessage_keeps _

theorem sendEvent_keeps (identifier : String) (xid content : OpackValue) :
    Keeps relation (sendEvent externals identifier xid content) :=
  sendMessage_keeps _

theorem sendError_keeps (text : String) (code : Nat) :
    Keeps relation (sendError externals message text code) :=
  .bind (.lift _) fun _ => .bind (.lift _) fun _ => sendMessage_keeps _

theorem volumeChanged_keeps (newVolume : Float) :
    Keeps relation (volumeChanged externals newVolume) :=
  .bind (updateState_keeps externals _) fun _ => .bind (.read _) fun _ => sendEvent_keeps _ _ _

/-- The pressed buttons are part of the session. -/
theorem handleHidcBase_keeps : Keeps relation (handleHidcBase externals message) := by
  refine .bind (.lift _) fun content => .bind (.lift _) fun buttonState => .bind (.lift _) ?_
  intro code
  cases HidCommand.ofValue? code with
  | none => exact .lift _
  | some buttonCode =>
      dsimp only
      split
      · exact .bind (updateSession_keeps externals _) fun _ => sendResponse_keeps _
      · split
        · exact .bind (updateSession_keeps externals _) fun _ => sendResponse_keeps _
        · split
          · exact sendResponse_keeps _
          · split
            · refine .bind (.read _) fun pressed => ?_
              split
              · exact sendError_keeps _ _
              · refine .bind (updateSession_keeps externals _) fun _ => .bind (.read _) ?_
                intro volume
                split
                · exact .bind (volumeChanged_keeps _) fun _ => sendResponse_keeps _
                · split
                  · exact .bind (volumeChanged_keeps _) fun _ => sendResponse_keeps _
                  · exact sendResponse_keeps _
            · exact .pure _

theorem handleTouchStart_keeps : Keeps relation (handleTouchStart externals message) := by
  refine .bind (.lift _) fun content => .bind (.lift _) fun width => .bind (.lift _) ?_
  refine fun height => .bind (.lift _) fun refused => ?_
  split
  · exact sendError_keeps _ _
  · exact sendResponse_keeps _

theorem invalidateRepeaters_keeps (externals : BridgeExternals)
    [QuietRelation externals relation] :
    Keeps relation (Handler.update BridgeConnection.invalidateRepeaters : HandlerM Unit) :=
  .update fun connection => QuietRelation.owner externals connection connection.dispatchOwner none

/-- Ending the session invalidates the hold first, then the owner. -/
theorem endSession_keeps (externals : BridgeExternals) [QuietRelation externals relation] :
    Keeps relation
      (Handler.update fun connection : BridgeConnection =>
        connection.invalidateRepeaters.endDispatchSession : HandlerM Unit) :=
  .update fun connection => QuietRelation.owner externals connection false none

theorem handleMccBase_keeps : Keeps relation (handleMccBase externals message) := by
  refine .bind (.lift _) fun content => .bind (.lift _) fun code => ?_
  split
  · exact .lift _
  · exact .bind (.lift _) fun _ => .bind (.lift _) fun _ => .bind (volumeChanged_keeps _) fun _ =>
      sendResponse_keeps _
  · exact .bind (.bind (.read _) fun _ => .pure _) fun _ => sendResponse_keeps _
  · exact .bind (.read _) fun _ => .bind (.lift _) fun _ => .bind (.lift _) fun _ =>
      .bind (updateState_keeps externals _) fun _ => sendResponse_keeps _
  · split
    · exact sendResponse_keeps _
    · exact .pure _

theorem beginDispatchSession_keeps (externals : BridgeExternals)
    [QuietRelation externals relation] : Keeps relation (beginDispatchSession inputs) := by
  refine .bind (endSession_keeps externals) fun _ => .bind (.read _) fun laneInstalled => ?_
  split
  · refine .bind (.update fun connection =>
      QuietRelation.owner externals connection true connection.repeating) fun _ => ?_
    split
    · exact .pure _
    · exact .lift _
  · exact .pure _

theorem handleTvrcSessionStart_keeps :
    Keeps relation (handleTvrcSessionStart externals inputs message) := by
  refine .bind (beginDispatchSession_keeps externals) fun _ => .bind ?_ fun _ =>
    .bind (.lift _) fun xid => .bind (sendEvent_keeps _ _ _) fun _ => sendEvent_keeps _ _ _
  exact .bind (.lift _) fun _ => .bind (.lift _) fun _ => .bind (.lift _) fun _ =>
    sendResponse_keeps _

theorem handleSessionStop_keeps : Keeps relation (handleSessionStop externals message) := by
  refine .bind (.lift _) fun content => .bind (.lift _) fun given => .bind (.read _) ?_
  refine fun sid => .bind (.lift _) fun joined => ?_
  split
  · exact .bind (updateSession_keeps externals _) fun _ => sendResponse_keeps _
  · exact sendError_keeps _ _

theorem addInterests_keeps (externals : BridgeExternals) [QuietRelation externals relation]
    (events : List OpackValue) : Keeps relation (addInterests events) := by
  induction events with
  | nil => exact .pure _
  | cons event rest ih =>
      exact .bind (.lift _) fun _ => .bind (updateSession_keeps externals _) fun _ => ih

theorem removeInterests_keeps (externals : BridgeExternals) [QuietRelation externals relation]
    (events : List OpackValue) : Keeps relation (removeInterests events) := by
  induction events with
  | nil => exact .pure _
  | cons event rest ih =>
      exact .bind (.lift _) fun _ => .bind (updateSession_keeps externals _) fun _ => ih

/-- Registering and deregistering, event by event. -/
theorem handleInterestBase_keeps : Keeps relation (handleInterestBase externals message) := by
  refine .bind (.lift _) fun content => .bind (.lift _) fun registers => ?_
  split
  · refine .bind (.lift _) fun events => .bind (.lift _) fun items =>
      .bind (addInterests_keeps externals _) fun _ => .bind (.read _) fun interests => ?_
    split
    · exact .bind (.lift _) fun _ => .bind (.read _) fun _ => sendEvent_keeps _ _ _
    · exact .pure _
  · refine .bind (.lift _) fun deregisters => ?_
    split
    · exact .bind (.lift _) fun _ => .bind (.lift _) fun _ => removeInterests_keeps externals _
    · exact .pure _

theorem pushInitialEvents_keeps (events : List OpackValue) :
    Keeps relation (pushInitialEvents externals message events) := by
  induction events with
  | nil => exact .pure _
  | cons event rest ih =>
      refine .bind (.lift _) fun scalar => ?_
      dsimp only
      split
      · exact ih
      · exact .bind (.lift _) fun _ => .bind (sendEvent_keeps _ _ _) fun _ => ih

theorem handleInterest_keeps : Keeps relation (handleInterest externals message) :=
  .bind handleInterestBase_keeps fun _ => .bind (.lift _) fun _ => .bind (.lift _) fun _ =>
    .bind (.lift _) fun _ => pushInitialEvents_keeps _

/-- The focus is part of the session, and its change sends an event. -/
theorem setRtiFocusState_keeps (value : KeyboardFocusState) :
    Keeps relation (setRtiFocusState externals value) := by
  refine .bind (.read _) fun session => ?_
  split
  · exact .pure _
  · refine .bind (updateSession_keeps externals _) fun _ => .bind (.read _) fun active => ?_
    split
    · exact .pure _
    · refine .bind (.attempt ?_) fun pushed => ?_
      · cases value with
        | focused => exact sendEvent_keeps _ _ _
        | unfocused => exact sendEvent_keeps _ _ _
        | unknown => exact .pure _
      · cases pushed with
        | ok _ => exact .pure _
        | error _ => exact updateSession_keeps externals _

theorem handleTiStart_keeps : Keeps relation (handleTiStart externals message) := by
  refine .bind (.lift _) fun kind => ?_
  dsimp only
  split
  · exact .pure _
  · exact .bind (updateSession_keeps externals _) fun _ => .bind (setRtiFocusState_keeps _) fun _ =>
      .bind (updateSession_keeps externals _) fun _ => sendResponse_keeps _

theorem handleTiStop_keeps : Keeps relation (handleTiStop externals message) := by
  refine .bind (.lift _) fun kind => ?_
  split
  · exact .pure _
  · refine .bind (.read _) fun session => ?_
    split
    · exact .pure _
    · exact .bind (updateSession_keeps externals _) fun _ => .bind (sendResponse_keeps _) fun _ =>
        updateSession_keeps externals _

theorem handleFetchAttentionState_keeps :
    Keeps relation (handleFetchAttentionState externals message) := by
  refine .bind (.read _) fun state => ?_
  split
  · exact sendResponse_keeps _
  · exact sendError_keeps _ _

/-- The handlers that may report a message or use the relay or the lane. -/
def MessageHandler.isLoud : MessageHandler → Bool
  | .hidc | .hidt | .mcc | .mediaControlCommand | .tic => true
  | _ => false

/-- A handler that neither reports nor relays stays within a quiet relation. -/
theorem call_keeps_of_quiet {handler : MessageHandler} (hquiet : handler.isLoud = false) :
    Keeps relation (handler.call externals inputs message) := by
  cases handler with
  -- the handlers that read a field first can raise before they answer
  | launchApp =>
      exact .bind (.lift _) fun _ => .bind (.lift _) fun _ => .bind (.lift _) fun _ =>
        sendResponse_keeps _
  | fetchLaunchableApplicationsEvent => exact .bind (.read _) fun _ => sendResponse_keeps _
  | switchUserAccountEvent =>
      exact .bind (.lift _) fun _ => .bind (.lift _) fun _ => sendResponse_keeps _
  | fetchUserAccountsEvent => exact .bind (.read _) fun _ => sendResponse_keeps _
  | touchStart => exact handleTouchStart_keeps
  | touchStop => exact .bind (invalidateRepeaters_keeps externals) fun _ => sendResponse_keeps _
  | sessionStart =>
      exact .bind (.lift _) fun _ => .bind (.lift _) fun _ =>
        .bind (updateSession_keeps externals _) fun _ => .bind (.lift _) fun _ =>
          sendResponse_keeps _
  | sessionStop => exact handleSessionStop_keeps
  | systemInfo => exact .bind (.lift _) fun _ => sendResponse_keeps _
  | tvrcSessionStart => exact handleTvrcSessionStart_keeps
  | tvrcSessionStop => exact .bind (endSession_keeps externals) fun _ => sendResponse_keeps _
  | interest => exact handleInterest_keeps
  | fetchAttentionState => exact handleFetchAttentionState_keeps
  | tiStart => exact handleTiStart_keeps
  | tiStop => exact handleTiStop_keeps
  | authFrame => exact .lift _
  | switchActiveUserAccountEvent => exact sendResponse_keeps _
  | fetchMediaControlStatus => exact sendResponse_keeps _
  | fetchSupportedActionsEvent => exact sendResponse_keeps _
  | publishPresenceEvent => exact sendResponse_keeps _
  | fetchUpNextInfoEvent => exact sendResponse_keeps _
  | fetchCurrentTopShelfItemsEvent => exact sendResponse_keeps _
  | fetchSiriRemoteInfo => exact sendResponse_keeps _
  | fetchCurrentNowPlayingInfoEvent => exact sendResponse_keeps _
  -- the loud handlers are the ones that reach the relay
  | hidc => exact absurd hquiet (by decide)
  | hidt => exact absurd hquiet (by decide)
  | mcc => exact absurd hquiet (by decide)
  | mediaControlCommand => exact absurd hquiet (by decide)
  | tic => exact absurd hquiet (by decide)

end Quiet

section Relay

variable {externals : BridgeExternals} {relation : BridgeConnection → BridgeConnection → Prop}
variable [RelayRelation externals relation] {inputs : BridgeInputs} {message : OpackValue}

theorem sinkAll_related (externals : BridgeExternals) [RelayRelation externals relation]
    (connection : BridgeConnection) (answers : Nat → LaneAnswer) (commands : List Command) :
    relation connection (connection.sinkAll answers commands) := by
  induction commands generalizing connection answers with
  | nil => exact Std.Refl.refl connection
  | cons command rest ih =>
      have hfirst : relation connection (connection.dispatchSink (answers 0) command) :=
        RelayRelation.sink externals connection (answers 0) command
      exact IsTrans.trans _ _ _ hfirst (ih _ _)

theorem relayCommands_keeps (externals : BridgeExternals) [RelayRelation externals relation]
    (decide : CommandRelay → CommandRelay × List Command) :
    Keeps relation (relayCommands inputs decide) := by
  refine .update fun connection => ?_
  have hrelay : relation connection
      { connection with relay := (decide connection.relay).1 } :=
    RelayRelation.relay externals connection _
  exact IsTrans.trans _ _ _ hrelay (sinkAll_related externals _ _ _)

theorem relayVolume_keeps (externals : BridgeExternals) [RelayRelation externals relation]
    (newLevel : Float) : Keeps relation (relayVolume inputs newLevel) :=
  .bind (.read _) fun _ => .bind (updateState_keeps externals _) fun _ =>
    relayCommands_keeps externals _

theorem handleMediaControlCommand_keeps :
    Keeps relation (handleMediaControlCommand externals inputs message) := by
  refine .bind (.lift _) fun content => .bind (.lift _) fun code => ?_
  split
  · exact .bind (.bind (.read _) fun _ => .pure _) fun _ => sendResponse_keeps _
  · refine .bind (.lift _) fun level => ?_
    dsimp only
    split
    · exact .bind (.lift _) fun _ => .bind (relayVolume_keeps externals _) fun _ =>
        sendResponse_keeps _
    · exact sendResponse_keeps _
  · exact sendResponse_keeps _
  · exact sendResponse_keeps _

end Relay

section Loud

variable {externals : BridgeExternals} {relation : BridgeConnection → BridgeConnection → Prop}
variable [LoudRelation externals relation] {inputs : BridgeInputs} {message : OpackValue}

theorem reportMalformed_keeps (externals : BridgeExternals) [LoudRelation externals relation] :
    Keeps relation reportMalformed :=
  .update fun connection => LoudRelation.report externals connection

theorem handleHidc_keeps : Keeps relation (handleHidc externals inputs message) := by
  unfold handleHidc
  split
  · exact reportMalformed_keeps externals
  · split
    · split
      · exact reportMalformed_keeps externals
      · exact .bind (updateSession_keeps externals _) fun _ => .bind (sendResponse_keeps _) fun _ =>
          relayCommands_keeps externals _
    · exact .bind handleHidcBase_keeps fun _ => relayCommands_keeps externals _

theorem handleHidt_keeps : Keeps relation (handleHidt externals inputs message) := by
  refine .bind ?_ fun _ => ?_
  · unfold decodeTouch
    split
    · exact reportMalformed_keeps externals
    · exact .pure _
  · unfold relayTouch
    split
    · exact reportMalformed_keeps externals
    · split
      · exact .pure _
      · refine .bind (.read _) fun raises => .bind (relayCommands_keeps externals _) fun _ => ?_
        split
        · exact reportMalformed_keeps externals
        · exact .pure _

theorem handleMcc_keeps : Keeps relation (handleMcc externals inputs message) := by
  refine .bind (.lift _) fun content => ?_
  dsimp only
  split
  · split
    · exact reportMalformed_keeps externals
    · exact .lift _
  · split
    · refine .bind (.lift _) fun level => ?_
      split
      · exact reportMalformed_keeps externals
      · exact .bind (.lift _) fun _ => .bind (relayVolume_keeps externals _) fun _ =>
          sendResponse_keeps _
    · split
      · exact .bind (relayCommands_keeps externals _) fun _ => sendResponse_keeps _
      · exact handleMccBase_keeps

/-- A text operation submits at most one command. -/
theorem handleTic_keeps : Keeps relation (handleTic externals inputs message) := by
  refine .bind (.lift _) fun kind => ?_
  dsimp only
  split
  · exact .pure _
  · split
    · exact reportMalformed_keeps externals
    · refine .bind (.read _) fun session => .bind (.lift _) fun text =>
        .bind (updateSession_keeps externals _) fun _ => ?_
      split
      · exact .pure _
      · exact .update fun connection => RelayRelation.sink externals connection _ _

/-- Every handler stays within a loud relation. -/
theorem call_keeps (handler : MessageHandler) :
    Keeps relation (handler.call externals inputs message) := by
  cases hloud : handler.isLoud with
  | false => exact call_keeps_of_quiet hloud
  | true =>
      cases handler with
      | hidc => exact handleHidc_keeps
      | hidt => exact handleHidt_keeps
      | mcc => exact handleMcc_keeps
      | mediaControlCommand => exact handleMediaControlCommand_keeps
      | tic => exact handleTic_keeps
      | _ => exact absurd hloud (by decide)

/-- One case for each handler, so a relation is checked against the primitives only once. -/
theorem dispatchMessage_keeps : Keeps relation (dispatchMessage externals inputs message) := by
  refine .bind (.lift _) fun requested => ?_
  cases requested with
  | none => exact sendError_keeps _ _
  | some handler => exact call_keeps handler

end Loud

end CompanionBridge
