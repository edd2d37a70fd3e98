import CompanionBridge.Companion.ButtonMessages
import CompanionBridge.Companion.FailStop

/-!
# Button responses and the pressed set

Over a run in which every frame is a button message: which frames that submit a
command are acknowledged, and what the session's set of pressed buttons is
afterwards.
-/

namespace CompanionBridge

open Handler

namespace HandledFrame

/-- The button message a frame carried. -/
def button? (externals : BridgeExternals) (frame : HandledFrame) : Option (HidCommand × Nat) :=
  (frame.message? externals).bind (buttonMessage? externals.text)

/-- The responses given to the transport while the frame was handled. -/
def responses (frame : HandledFrame) : List OpackValue :=
  (frame.after.messages.drop frame.before.messages.length).filter isResponse

/-- The commands the lane accepted while the frame was handled. -/
def submissions (frame : HandledFrame) : List Command :=
  frame.after.submitted.drop frame.before.submitted.length

/-- The frame was answered with one empty response that carries its transaction id. -/
def IsAcknowledged (externals : BridgeExternals) (frame : HandledFrame) : Prop :=
  ∃ message identifier xid, frame.message? externals = some message ∧
    message.getItem "_i" = .ok identifier ∧ message.getItem "_x" = .ok xid ∧
    frame.responses = [responseMessage identifier xid emptyDict]

end HandledFrame

/-- Every time the button goes down it comes up later. -/
def EveryDownReleased (buttons : List (HidCommand × Nat)) (button : HidCommand) : Prop :=
  ∀ before after, buttons = before ++ (button, 1) :: after →
    ∃ buttonState, buttonState ≠ 1 ∧ (button, buttonState) ∈ after

variable {externals : BridgeExternals} {inputs : BridgeInputs} {message : OpackValue}
variable {button : HidCommand} {buttonState : Nat}

/-! ## What an answer and a relayed command change -/

namespace BridgeConnection

/-- Neither the session nor the messages sent have changed. -/
structure SameRecord (connection next : BridgeConnection) : Prop where
  session : next.session = connection.session
  messages : next.messages = connection.messages

theorem SameRecord.trans {connection middle next : BridgeConnection}
    (hfirst : connection.SameRecord middle) (hsecond : middle.SameRecord next) :
    connection.SameRecord next :=
  ⟨hsecond.session.trans hfirst.session, hsecond.messages.trans hfirst.messages⟩

theorem submitDispatch_record (connection : BridgeConnection) (answer : LaneAnswer)
    (command : Command) : connection.SameRecord (connection.submitDispatch answer command).1 := by
  unfold submitDispatch
  split
  · exact ⟨rfl, rfl⟩
  · cases answer with
    | accepted => exact ⟨rfl, rfl⟩
    | dropped => exact ⟨rfl, rfl⟩
    | unauthorized => exact ⟨rfl, rfl⟩

/-- What the relay submits changes neither the pressed buttons nor the messages sent. -/
theorem dispatchSink_record (connection : BridgeConnection) (answer : LaneAnswer)
    (command : Command) : connection.SameRecord (connection.dispatchSink answer command) := by
  unfold dispatchSink
  split
  · split
    · exact ⟨rfl, rfl⟩
    · dsimp only
      split
      · exact (submitDispatch_record connection answer _).trans ⟨rfl, rfl⟩
      · exact submitDispatch_record connection answer _
  · split
    · exact ⟨rfl, rfl⟩
    · exact ⟨rfl, rfl⟩
  · exact submitDispatch_record connection answer command

/-- The same of all commands of one decision, by induction on them. -/
theorem sinkAll_record (connection : BridgeConnection) (answers : Nat → LaneAnswer)
    (commands : List Command) : connection.SameRecord (connection.sinkAll answers commands) := by
  induction commands generalizing connection answers with
  | nil => exact ⟨rfl, rfl⟩
  | cons command rest ih => exact (dispatchSink_record connection _ command).trans (ih _ _)

theorem relayed_record (connection : BridgeConnection) (answers : Nat → LaneAnswer)
    (decision : CommandRelay × List Command) :
    connection.SameRecord (connection.relayed answers decision) := by
  have hrelay : connection.SameRecord { connection with relay := decision.1 } := ⟨rfl, rfl⟩
  exact hrelay.trans (sinkAll_record _ answers decision.2)

/-- Frames may have been sent: nothing else of the connection's record has changed. -/
structure OnlyAnswered (connection next : BridgeConnection) : Prop where
  standing : connection.SameStanding next
  session : next.session = connection.session
  submitted : next.submitted = connection.submitted

instance : Std.Refl OnlyAnswered where
  refl := fun connection => ⟨.refl connection, rfl, rfl⟩

instance : IsTrans BridgeConnection OnlyAnswered where
  trans := fun _ _ _ hfirst hsecond =>
    ⟨hfirst.standing.trans hsecond.standing, hsecond.session.trans hfirst.session,
      hsecond.submitted.trans hfirst.submitted⟩

end BridgeConnection

open BridgeConnection

theorem sendMessage_onlyAnswered (sent : OpackValue) :
    Keeps OnlyAnswered (sendMessage externals sent) :=
  fun connection => ⟨sendToClient_standing externals connection .eOpack sent, rfl, rfl⟩

theorem sendResponse_onlyAnswered (content : OpackValue) :
    Keeps OnlyAnswered (sendResponse externals message content) :=
  .bind (.lift _) fun _ => .bind (.lift _) fun _ => sendMessage_onlyAnswered _

theorem volumeChanged_onlyAnswered (newVolume : Float) :
    Keeps OnlyAnswered (volumeChanged externals newVolume) :=
  .bind (.update fun _ => ⟨⟨⟨rfl, rfl, rfl, rfl⟩, rfl⟩, rfl, rfl⟩) fun _ =>
    .bind (.read _) fun _ => sendMessage_onlyAnswered _

/-- Answering a button leaves everything else in the session alone. -/
theorem answerButton_onlyAnswered (pressed : Finset HidCommand) :
    Keeps OnlyAnswered (answerButton externals message button buttonState pressed) := by
  unfold answerButton
  split
  · split
    · exact .pure _
    · split
      · exact .bind (.lift _) fun _ => .bind (.lift _) fun _ => sendMessage_onlyAnswered _
      · refine .bind (.read _) fun volume => ?_
        dsimp only
        split
        · exact .bind (volumeChanged_onlyAnswered _) fun _ => sendResponse_onlyAnswered _
        · split
          · exact .bind (volumeChanged_onlyAnswered _) fun _ => sendResponse_onlyAnswered _
          · exact sendResponse_onlyAnswered _
  · exact sendResponse_onlyAnswered _

/-- The response is the last message sent, and the only response. -/
def AddsResponse (response : OpackValue) (connection next : BridgeConnection) : Prop :=
  ∃ events, next.messages = connection.messages ++ events ++ [response] ∧
    ∀ event ∈ events, isResponse event = false

/-- A message that fits is sent, unless it raises. -/
theorem sendMessage_messages {connection after : BridgeConnection} {sent : OpackValue}
    (hup : connection.service.transport = .up)
    (hfits : ∀ encoded, pack externals.packDepth sent = some encoded →
      encoded.length ≤ maxApplicationPayload)
    (hperform : (sendMessage externals sent).perform connection = (.ok (), after)) :
    after.messages = connection.messages ++ [sent] := by
  have hafter : (connection.sendToClient externals .eOpack sent).1 = after :=
    congrArg Prod.snd hperform
  have hquiet : (connection.service.sendToClient externals.connection.crypto.aead .eOpack
      (pack externals.packDepth sent)).2 = false := by
    by_contra hraised
    rw [Bool.not_eq_false] at hraised
    have houtcome := congrArg Prod.fst hperform
    simp [sendMessage, perform, BridgeConnection.sendToClient, hraised] at houtcome
  have hwritten : (connection.service.sendToClient externals.connection.crypto.aead .eOpack
      (pack externals.packDepth sent)).1.written.length ≠ connection.service.written.length := by
    unfold FakeCompanionService.sendToClient at hquiet ⊢
    cases hpack : pack externals.packDepth sent with
    | none => simp [hpack] at hquiet
    | some encoded =>
        rw [hpack] at hquiet
        dsimp only at hquiet ⊢
        rw [if_neg (Nat.not_lt.mpr (hfits encoded hpack))] at hquiet ⊢
        split
        · simp [FakeCompanionService.write, hup]
        · rename_i hcipher
          rw [hcipher] at hquiet
          dsimp only at hquiet ⊢
          split
          · rename_i hnone
            simp [hnone] at hquiet
          · simp [FakeCompanionService.write, hup]
  rw [← hafter]
  unfold BridgeConnection.sendToClient
  dsimp only
  rw [if_neg hwritten]

theorem isResponse_event (identifier xid content : OpackValue) :
    isResponse (eventMessage identifier xid content) = false := by
  have hkind : (eventMessage identifier xid content).getItem "_t" = .ok (.ofInt 1) := by
    simp [eventMessage, OpackValue.getItem, OpackValue.lookup, OpackValue.ofStr]
  unfold isResponse
  rw [hkind]
  exact eqScalar_int 1 3 none

theorem isResponse_response (identifier xid content : OpackValue) :
    isResponse (responseMessage identifier xid content) = true := by
  have hkind : (responseMessage identifier xid content).getItem "_t" = .ok (.ofInt 3) := by
    simp [responseMessage, OpackValue.getItem, OpackValue.lookup, OpackValue.ofStr]
  unfold isResponse
  rw [hkind]
  exact eqScalar_int 3 3 none

/-- A volume change sends an event at most. -/
theorem volumeChanged_messages (newVolume : Float) (connection : BridgeConnection) :
    ∃ events, ((volumeChanged externals newVolume).perform connection).2.messages =
        connection.messages ++ events ∧ ∀ event ∈ events, isResponse event = false := by
  have hsent : ∀ (state : BridgeConnection) (sent : OpackValue), isResponse sent = false →
      ∃ events, (state.sendToClient externals .eOpack sent).1.messages =
        state.messages ++ events ∧ ∀ event ∈ events, isResponse event = false := by
    intro state sent hevent
    unfold BridgeConnection.sendToClient
    dsimp only
    split
    · exact ⟨[], by simp, by simp⟩
    · refine ⟨[sent], rfl, ?_⟩
      simpa using hevent
  exact hsent _ (eventMessage (.ofStr "_iMC") (.ofInt 1234) _) (isResponse_event _ _ _)

/-- What the response to a button message is made of. -/
theorem ButtonMessage.request (hshape : ButtonMessage externals.text message button buttonState) :
    ∃ identifier xid, message.getItem "_i" = .ok identifier ∧ message.getItem "_x" = .ok xid ∧
      ∀ encoded, pack externals.packDepth (responseMessage identifier xid emptyDict) =
        some encoded → encoded.length ≤ maxApplicationPayload := by
  obtain ⟨identifier, hidentifier, hname⟩ := hshape.identifier
  obtain ⟨xid, size, hxid⟩ := hshape.xid
  have hshort : identifier.length ≤ 5 := by
    have hlength := externals.text.length_le_lower identifier
    rw [hname] at hlength
    exact hlength
  exact ⟨_, _, hidentifier, hxid, fun encoded => response_length_le hshort⟩

section Answer

variable {identifier xid : OpackValue} (hidentifier : message.getItem "_i" = .ok identifier)
  (hxid : message.getItem "_x" = .ok xid)
  (hfits : ∀ encoded, pack externals.packDepth (responseMessage identifier xid emptyDict) =
    some encoded → encoded.length ≤ maxApplicationPayload)

include hidentifier hxid hfits

theorem sendResponse_messages {connection after : BridgeConnection}
    (hup : connection.service.transport = .up)
    (hperform : (sendResponse externals message emptyDict).perform connection = (.ok (), after)) :
    after.messages = connection.messages ++ [responseMessage identifier xid emptyDict] := by
  unfold sendResponse at hperform
  rw [perform_bind, perform_lift, hidentifier] at hperform
  dsimp only at hperform
  rw [perform_bind, perform_lift, hxid] at hperform
  exact sendMessage_messages hup hfits hperform

/-- Except for a stray release, a button message that does not raise is acknowledged. -/
theorem answerButton_addsResponse {pressed : Finset HidCommand}
    (hstray : isStrayRelease pressed button buttonState = false)
    {connection after : BridgeConnection} (hup : connection.service.transport = .up)
    (hperform : (answerButton externals message button buttonState pressed).perform connection =
      (.ok (), after)) :
    AddsResponse (responseMessage identifier xid emptyDict) connection after := by
  have hplain : ∀ {state}, state.service.transport = .up →
      (sendResponse externals message emptyDict).perform state = (.ok (), after) →
      AddsResponse (responseMessage identifier xid emptyDict) state after := by
    intro state hstate hsend
    have hmessages := sendResponse_messages hidentifier hxid hfits hstate hsend
    exact ⟨[], by simpa using hmessages, by simp⟩
  -- a volume change sends its event before the response
  have hvolume : ∀ newVolume, (do
      volumeChanged externals newVolume
      sendResponse externals message emptyDict).perform connection = (.ok (), after) →
      AddsResponse (responseMessage identifier xid emptyDict) connection after := by
    intro newVolume hsend
    obtain ⟨_, middle, hchanged, hsend⟩ := perform_bind_eq_ok hsend
    obtain ⟨events, hevents, hquiet⟩ := @volumeChanged_messages externals newVolume connection
    have hsame := @volumeChanged_onlyAnswered externals newVolume connection
    rw [hchanged] at hevents hsame
    have hmessages := sendResponse_messages hidentifier hxid hfits
      (hsame.standing.service.transport.trans hup) hsend
    exact ⟨events, by rw [hmessages, hevents], hquiet⟩
  -- Only a release of a named, pressed button looks at the volume.
  unfold answerButton at hperform
  split at hperform
  · rename_i hrelease
    have hnamed : button.buttonName?.isNone = false ∧ button ∈ pressed := by
      simpa [isStrayRelease, hrelease] using hstray
    rw [if_neg (by simp [hnamed.1]), if_neg (not_not.mpr hnamed.2)] at hperform
    obtain ⟨volume, _, hread, hperform⟩ := perform_bind_eq_ok hperform
    cases hread
    dsimp only at hperform
    split at hperform
    · exact hvolume _ hperform
    · split at hperform
      · exact hvolume _ hperform
      · exact hplain hup hperform
  · exact hplain hup hperform

end Answer

/-! ## One frame -/

namespace BridgeConnection

/-- Counting a malformed frame submits nothing and presses nothing. -/
theorem malformedFrame_record (connection : BridgeConnection) :
    connection.SameRecord connection.malformedFrame.1 ∧
      connection.malformedFrame.1.submitted = connection.submitted := by
  unfold malformedFrame
  dsimp only
  split
  · exact ⟨⟨rfl, rfl⟩, rfl⟩
  · exact ⟨⟨rfl, rfl⟩, rfl⟩

theorem opened_record (externals : BridgeExternals) (connection : BridgeConnection)
    (header payload : Bytes) :
    connection.SameRecord (connection.opened externals header payload) ∧
      (connection.opened externals header payload).submitted = connection.submitted := by
  unfold opened
  split
  · exact ⟨⟨rfl, rfl⟩, rfl⟩
  · exact ⟨⟨rfl, rfl⟩, rfl⟩

variable {connection : BridgeConnection}

/-- A button message is answered with the pressed set already changed; what
follows depends on whether the answer raised. -/
theorem handleMessage_button (hshape : ButtonMessage externals.text message button buttonState) :
    (connection.handleMessage externals message inputs).1 =
      match (answerButton externals message button buttonState
          connection.session.pressedButtons).perform
          (connection.countHandled.withPressed
            (pressedAfter connection.session.pressedButtons (button, buttonState))) with
      | (.ok _, answered) =>
          answered.relayed inputs.lane
            (answered.relay.onButton inputs.nowMs button.code buttonState)
      | (.error _, answered) => answered.malformedFrame.1 := by
  have hdispatch : (dispatchMessage externals inputs message).perform connection.countHandled =
      (handleHidc externals inputs message).perform connection.countHandled := by
    unfold dispatchMessage
    rw [perform_bind, perform_lift, hshape.handler]
    rfl
  unfold handleMessage
  have hsession : connection.countHandled.session.pressedButtons =
      connection.session.pressedButtons := rfl
  rw [if_neg (by simp [hshape.not_startup]), hdispatch, handleHidc_perform hshape, perform_bind,
    updatePressedButtons_perform]
  dsimp only
  rw [perform_bind, hsession]
  cases (answerButton externals message button buttonState
    connection.session.pressedButtons).perform (connection.countHandled.withPressed _) with
  | mk outcome answered =>
      cases outcome with
      | ok result => rfl
      | error error => rfl

/-- A button message changes the pressed set, whether or not it can be answered. -/
theorem handleMessage_pressed
    (hshape : ButtonMessage externals.text message button buttonState) :
    (connection.handleMessage externals message inputs).1.session.pressedButtons =
      pressedAfter connection.session.pressedButtons (button, buttonState) := by
  rw [handleMessage_button hshape]
  have hanswered := @answerButton_onlyAnswered externals message button buttonState
    connection.session.pressedButtons (connection.countHandled.withPressed
      (pressedAfter connection.session.pressedButtons (button, buttonState)))
  split
  · rename_i hperform
    rw [hperform] at hanswered
    rw [(relayed_record _ _ _).session, hanswered.session]
    rfl
  · rename_i hperform
    rw [hperform] at hanswered
    rw [(malformedFrame_record _).1.session, hanswered.session]
    rfl

/-- Except for a stray release, a button message that submits a command is acknowledged. -/
theorem handleMessage_addsResponse
    (hshape : ButtonMessage externals.text message button buttonState)
    (hstray : isStrayRelease connection.session.pressedButtons button buttonState = false)
    {identifier xid : OpackValue} (hidentifier : message.getItem "_i" = .ok identifier)
    (hxid : message.getItem "_x" = .ok xid)
    (hfits : ∀ encoded, pack externals.packDepth (responseMessage identifier xid emptyDict) =
      some encoded → encoded.length ≤ maxApplicationPayload)
    (hactive : connection.isConnectionActive = true)
    (hsubmits : (connection.handleMessage externals message inputs).1.submitted ≠
      connection.submitted) :
    AddsResponse (responseMessage identifier xid emptyDict) connection
      (connection.handleMessage externals message inputs).1 := by
  rw [handleMessage_button hshape] at hsubmits ⊢
  have hanswered := @answerButton_onlyAnswered externals message button buttonState
    connection.session.pressedButtons (connection.countHandled.withPressed
      (pressedAfter connection.session.pressedButtons (button, buttonState)))
  split at hsubmits
  · rename_i hperform
    have hup : (connection.countHandled.withPressed (pressedAfter
        connection.session.pressedButtons (button, buttonState))).service.transport = .up :=
      isConnectionActive_transport hactive
    obtain ⟨events, hmessages, hquiet⟩ :=
      answerButton_addsResponse hidentifier hxid hfits hstray hup hperform
    exact ⟨events, (relayed_record _ _ _).messages.trans hmessages, hquiet⟩
  · rename_i hperform
    rw [hperform] at hanswered
    rw [(malformedFrame_record _).2, hanswered.submitted] at hsubmits
    exact absurd rfl hsubmits

end BridgeConnection

namespace HandledFrame

/-- The log entry of a frame that was handled. -/
def IsHandled (externals : BridgeExternals) (frame : HandledFrame) : Prop :=
  frame.before.handleFrame externals frame.header frame.payload frame.inputs =
    (frame.after, frame.continued)

/-- The record that `handleFrame` leaves of its own call. -/
theorem isHandled_mk (connection : BridgeConnection) (header payload : Bytes)
    (inputs : BridgeInputs) :
    IsHandled externals ⟨connection, header, payload, inputs,
      (connection.handleFrame externals header payload inputs).1,
      (connection.handleFrame externals header payload inputs).2⟩ := by
  unfold IsHandled
  rfl

variable {frame : HandledFrame}

/-- A frame with a button message hands it to the button handler. -/
theorem button_cases (hhandled : frame.IsHandled externals)
    (hbutton : frame.button? externals = some (button, buttonState)) :
    ∃ message, frame.message? externals = some message ∧
      ButtonMessage externals.text message button buttonState ∧
      (frame.after, frame.continued) = (frame.before.opened externals frame.header
        frame.payload).handleMessage externals message frame.inputs := by
  unfold button? at hbutton
  rw [Option.bind_eq_some_iff] at hbutton
  obtain ⟨message, hmessage, hbutton⟩ := hbutton
  have hhands := handleFrame_message hmessage
  exact ⟨message, hmessage, buttonMessage?_eq_some hbutton, hhandled.symm.trans hhands⟩

/-- The pressed buttons after a frame are a fold over the button it carries. -/
theorem button_pressed (hhandled : frame.IsHandled externals)
    (hbutton : frame.button? externals = some (button, buttonState)) :
    frame.after.session.pressedButtons =
      pressedAfter frame.before.session.pressedButtons (button, buttonState) := by
  obtain ⟨message, -, hshape, hended⟩ := button_cases hhandled hbutton
  have hopened := (opened_record externals frame.before frame.header frame.payload).1
  have hafter := congrArg (fun ended => ended.1.session.pressedButtons) hended
  dsimp only at hafter
  rw [hafter, handleMessage_pressed hshape, hopened.session]

/-- A frame with a button message leaves a connection active after which the loop goes on. -/
theorem button_active (hhandled : frame.IsHandled externals)
    (hbutton : (frame.button? externals).isSome)
    (hactive : frame.before.isConnectionActive = true) (hcontinues : frame.continued = true) :
    frame.after.isConnectionActive = true := by
  rw [Option.isSome_iff_exists] at hbutton
  obtain ⟨⟨button, buttonState⟩, hbutton⟩ := hbutton
  obtain ⟨message, hmessage, hshape, -⟩ := button_cases hhandled hbutton
  have hrelays : relaysMedia externals.text message = false := by
    unfold relaysMedia
    rw [hshape.handler]
  have hgoes := @handleFrame_active externals frame.before frame.inputs frame.header frame.payload
    hactive
  rw [show frame.before.inboundMessage? externals frame.header frame.payload frame.inputs =
    some message from hmessage, hhandled, Option.any_some] at hgoes
  exact hgoes (by simp [CompanionBridge.isRevokedUnanswered, hrelays]) hcontinues

/-- Except for a stray release, a button message that submits a command is acknowledged. -/
theorem button_acknowledged (hhandled : frame.IsHandled externals)
    (hbutton : frame.button? externals = some (button, buttonState))
    (hstray : isStrayRelease frame.before.session.pressedButtons button buttonState = false)
    (hactive : frame.before.isConnectionActive = true) (hsubmits : frame.submissions ≠ []) :
    frame.IsAcknowledged externals := by
  obtain ⟨message, hmessage, hshape, hended⟩ := button_cases hhandled hbutton
  obtain ⟨identifier, xid, hidentifier, hxid, hfits⟩ := hshape.request
  obtain ⟨hopened, hunsubmitted⟩ := opened_record externals frame.before frame.header frame.payload
  have hstanding := opened_standing externals frame.before frame.header frame.payload
  have hafter : frame.after = ((frame.before.opened externals frame.header
      frame.payload).handleMessage externals message frame.inputs).1 := congrArg Prod.fst hended
  have hadds := @handleMessage_addsResponse externals frame.inputs message button buttonState
    (frame.before.opened externals frame.header frame.payload) hshape
    (by rwa [hopened.session]) identifier xid hidentifier hxid hfits
    (hstanding.isConnectionActive.trans hactive) (by
      intro hsame
      rw [← hafter, hunsubmitted] at hsame
      apply hsubmits
      unfold submissions
      rw [hsame, List.drop_length])
  obtain ⟨events, hmessages, hquiet⟩ := hadds
  refine ⟨message, identifier, xid, hmessage, hidentifier, hxid, ?_⟩
  rw [← hafter, hopened.messages, List.append_assoc] at hmessages
  have hevents : events.filter isResponse = [] :=
    List.filter_eq_nil_iff.mpr fun event hevent => by simp [hquiet event hevent]
  unfold responses
  rw [hmessages, List.drop_left, List.filter_append, hevents]
  simp [isResponse_response]

end HandledFrame

/-! ## The pressed set -/

/-- A button that comes up whenever it goes down is pressed afterwards when it
was pressed before and never came up. -/
theorem foldl_pressedAfter {buttons : List (HidCommand × Nat)} {button : HidCommand}
    (hdown : EveryDownReleased buttons button)
    (hsettles : button = .sleep ∨ button = .wake ∨ button = .pageUp → (button, 2) ∉ buttons)
    (pressed : Finset HidCommand) :
    button ∈ buttons.foldl pressedAfter pressed ↔
      button ∈ pressed ∧ ∀ buttonState, buttonState ≠ 1 → (button, buttonState) ∉ buttons := by
  induction buttons generalizing pressed with
  | nil => simp
  | cons first rest ih =>
      obtain ⟨other, buttonState⟩ := first
      have hrest : EveryDownReleased rest button := fun before after hsplit =>
        hdown ((other, buttonState) :: before) after (by rw [hsplit, List.cons_append])
      rw [List.foldl_cons, ih hrest fun hspecial hmem =>
        hsettles hspecial (List.mem_cons_of_mem _ hmem)]
      -- Only messages about this button move it in or out of the set.
      by_cases hother : other = button
      · subst hother
        by_cases hstate : buttonState = 1
        · -- the button goes down, so it comes up in the rest
          obtain ⟨released, hreleased, hmem⟩ := hdown [] rest (by rw [hstate]; rfl)
          constructor
          · exact fun hpressed => absurd hmem (hpressed.2 released hreleased)
          · exact fun hpressed =>
              absurd (List.mem_cons_of_mem _ hmem) (hpressed.2 released hreleased)
        · have herased : other ∉ pressedAfter pressed (other, buttonState) := by
            have hspecial : ¬ (buttonState = 2 ∧
                (other = .sleep ∨ other = .wake ∨ other = .pageUp)) := by
              rintro ⟨rfl, hnames⟩
              exact hsettles hnames List.mem_cons_self
            unfold pressedAfter
            dsimp only
            rw [if_neg (by simp [hstate]), if_neg hspecial]
            exact Finset.notMem_erase other pressed
          constructor
          · exact fun hpressed => absurd hpressed.1 herased
          · exact fun hpressed => absurd List.mem_cons_self (hpressed.2 buttonState hstate)
      · have hsame : button ∈ pressedAfter pressed (other, buttonState) ↔ button ∈ pressed := by
          unfold pressedAfter
          dsimp only
          split
          · simp [Ne.symm hother]
          · split
            · exact Iff.rfl
            · simp [Ne.symm hother]
        rw [hsame]
        simp [Ne.symm hother]

/-- Handling nothing but button messages folds them into the pressed set. -/
def FoldsButtons (externals : BridgeExternals) (connection : BridgeConnection)
    (received : BridgeConnection × List HandledFrame) : Prop :=
  ∀ buttons : List (HidCommand × Nat),
    received.2.map (HandledFrame.button? externals) = buttons.map some →
      received.1.session.pressedButtons =
        buttons.foldl pressedAfter connection.session.pressedButtons

/-- Nothing but button messages is handled on a connection that stays active. -/
def StaysActive (externals : BridgeExternals) (frames : List HandledFrame) : Prop :=
  (∀ frame ∈ frames, (frame.button? externals).isSome) →
    ∀ frame ∈ frames, frame.before.isConnectionActive = true

theorem StaysActive.append {first second : List HandledFrame} (hfirst : StaysActive externals first)
    (hsecond : StaysActive externals second) : StaysActive externals (first ++ second) := by
  intro hall frame hframe
  rcases List.mem_append.mp hframe with hmem | hmem
  · exact hfirst (fun held hheld => hall held (List.mem_append_left _ hheld)) frame hmem
  · exact hsecond (fun held hheld => hall held (List.mem_append_right _ hheld)) frame hmem

namespace BridgeConnection

theorem foldsButtons_nil {connection next : BridgeConnection}
    (hsame : next.session.pressedButtons = connection.session.pressedButtons) :
    FoldsButtons externals connection (next, []) := by
  intro buttons hbuttons
  have hnone : buttons = [] := by simpa using hbuttons.symm
  rw [hnone]
  exact hsame

theorem foldsButtons_append {connection middle final : BridgeConnection}
    {first second : List HandledFrame} (hfirst : FoldsButtons externals connection (middle, first))
    (hsecond : FoldsButtons externals middle (final, second)) :
    FoldsButtons externals connection (final, first ++ second) := by
  intro buttons hbuttons
  rw [List.map_append] at hbuttons
  obtain ⟨earlier, later, rfl, hearlier, hlater⟩ := List.map_eq_append_iff.mp hbuttons.symm
  rw [List.foldl_append, ← hfirst earlier hearlier.symm]
  exact hsecond later hlater.symm

/-- One frame, from the connection it was read on. -/
theorem foldsButtons_frame {connection : BridgeConnection} {frame : HandledFrame}
    (hhandled : frame.IsHandled externals)
    (hbefore : frame.before.session.pressedButtons = connection.session.pressedButtons) :
    FoldsButtons externals connection (frame.after, [frame]) := by
  intro buttons hbuttons
  cases buttons with
  | nil => exact absurd hbuttons (by simp)
  | cons pair rest =>
      simp only [List.map_cons, List.map_nil, List.cons.injEq] at hbuttons
      have hrest : rest = [] := by simpa using hbuttons.2.symm
      rw [hrest, List.foldl_cons, List.foldl_nil, ← hbefore]
      exact HandledFrame.button_pressed hhandled hbuttons.1

/-- All frames of one chunk fold, by induction on the fuel of the parser. -/
theorem receive_foldsButtons (fuel : Nat) (connection : BridgeConnection) (incoming : Bytes)
    (inputs : Nat → BridgeInputs) :
    FoldsButtons externals connection (receive externals fuel connection incoming inputs) := by
  induction fuel generalizing connection incoming inputs with
  | zero => exact foldsButtons_nil rfl
  | succ fuel ih =>
      unfold receive
      split
      · exact foldsButtons_nil rfl
      · exact foldsButtons_nil rfl
      · rename_i parser header payload rest hnext
        have hhandled := @HandledFrame.isHandled_mk externals (connection.setParser parser) header
          payload (inputs 0)
        have hframe := @foldsButtons_frame externals connection _ hhandled rfl
        dsimp only
        split
        · exact foldsButtons_append hframe (ih _ rest fun n => inputs (n + 1))
        · exact hframe

/-- The frames of a chunk, from a connection that is active. -/
theorem receive_staysActive (fuel : Nat) {connection : BridgeConnection}
    (hactive : connection.isConnectionActive = true) (incoming : Bytes)
    (inputs : Nat → BridgeInputs) :
    StaysActive externals (receive externals fuel connection incoming inputs).2 := by
  induction fuel generalizing connection incoming inputs with
  | zero => exact fun _ => by simp [receive]
  | succ fuel ih =>
      unfold receive
      split
      · exact fun _ => by simp
      · exact fun _ => by simp
      · rename_i parser header payload rest hnext
        dsimp only
        split
        · rename_i hcontinues
          intro hall
          have hbutton := hall _ List.mem_cons_self
          have hhandled := @HandledFrame.isHandled_mk externals (connection.setParser parser) header
            payload (inputs 0)
          have hnextActive := HandledFrame.button_active hhandled hbutton hactive hcontinues
          have hrest := ih hnextActive rest (fun n => inputs (n + 1)) fun frame hframe =>
            hall frame (List.mem_cons_of_mem _ hframe)
          intro frame hframe
          rcases List.mem_cons.mp hframe with rfl | hmem
          · exact hactive
          · exact hrest frame hmem
        · intro hall frame hframe
          rw [List.mem_singleton] at hframe
          subst hframe
          exact hactive

/-- The pressed set is untouched. -/
def SamePressed (connection next : BridgeConnection) : Prop :=
  next.session.pressedButtons = connection.session.pressedButtons

instance : Std.Refl SamePressed where
  refl := fun _ => rfl

instance : IsTrans BridgeConnection SamePressed where
  trans := fun _ _ _ hfirst hsecond => Eq.trans hsecond hfirst

theorem setRtiFocusState_samePressed (value : KeyboardFocusState) :
    Keeps SamePressed (setRtiFocusState externals value) := by
  refine .bind (.read _) fun session => ?_
  split
  · exact .pure _
  · refine .bind (.update fun _ => rfl) fun _ => .bind (.read _) fun active => ?_
    split
    · exact .pure _
    · refine .bind (.attempt ?_) fun pushed => ?_
      · cases value with
        | focused => exact fun connection => congrArg _ (sendMessage_onlyAnswered _ connection).session
        | unfocused =>
            exact fun connection => congrArg _ (sendMessage_onlyAnswered _ connection).session
        | unknown => exact .pure _
      · cases pushed with
        | ok _ => exact .pure _
        | error _ => exact .update fun _ => rfl

/-- Until the connection is lost, only handled frames change the pressed set. -/
theorem step_foldsButtons (connection : BridgeConnection) {event : BridgeEvent}
    (hevent : event ≠ .connectionLost) :
    FoldsButtons externals connection (connection.step externals event) := by
  cases event with
  | dataReceived chunk inputs =>
      -- The only event whose frames press or release anything.
      show FoldsButtons externals connection (connection.dataReceived externals chunk inputs)
      unfold dataReceived
      split
      · exact receive_foldsButtons chunk.length connection chunk inputs
      · exact foldsButtons_nil rfl
  | stateChanged state => exact foldsButtons_nil rfl
  | systemStatus status =>
      apply foldsButtons_nil
      unfold pushSystemStatus
      dsimp only
      split
      · rfl
      · rfl
  | imeStart =>
      apply foldsButtons_nil
      unfold imeStart
      split
      · exact setRtiFocusState_samePressed .focused _
      · rfl
  | imeEnd =>
      apply foldsButtons_nil
      unfold imeEnd
      split
      · exact setRtiFocusState_samePressed .unfocused connection
      · rfl
  | closeConnection => exact foldsButtons_nil rfl
  | authenticationTimedOut =>
      apply foldsButtons_nil
      unfold authenticationTimedOut
      split
      · rfl
      · rfl
  | connectionLost => exact absurd rfl hevent

/-- The pressed buttons of a run are the fold over all buttons it received. -/
theorem run_foldsButtons (connection : BridgeConnection) (events : List BridgeEvent)
    (hevents : ∀ event ∈ events, event ≠ .connectionLost) :
    FoldsButtons externals connection (connection.run externals events) := by
  induction events generalizing connection with
  | nil => exact foldsButtons_nil rfl
  | cons event rest ih =>
      have hfirst : FoldsButtons externals connection (connection.step externals event) :=
        step_foldsButtons connection (hevents event List.mem_cons_self)
      exact foldsButtons_append hfirst
        (ih _ fun held hheld => hevents held (List.mem_cons_of_mem event hheld))

/-- No event brings a connection back that has closed. -/
theorem step_staysActive (connection : BridgeConnection) (event : BridgeEvent) :
    StaysActive externals (connection.step externals event).2 := by
  cases event with
  | dataReceived chunk inputs =>
      show StaysActive externals (connection.dataReceived externals chunk inputs).2
      unfold dataReceived
      split
      · rename_i hactive
        exact receive_staysActive chunk.length hactive chunk inputs
      · exact fun _ => by simp
  | _ => exact fun _ frame hframe => absurd hframe (List.not_mem_nil)

/-- The frames of a run are handled on an active connection up to the one that closes it. -/
theorem run_staysActive (connection : BridgeConnection) (events : List BridgeEvent) :
    StaysActive externals (connection.run externals events).2 := by
  induction events generalizing connection with
  | nil => exact fun _ => by simp [run]
  | cons event rest ih =>
      exact (step_staysActive connection event).append (ih (connection.step externals event).1)

end BridgeConnection

/-- While the frames of a connection are button messages, a frame that submits a
command is acknowledged, unless it is a stray release; and a button that comes up
whenever it goes down is pressed afterwards when it was and never came up, unless
it is one whose release in state 2 the base handler does not record. -/
theorem button_responses (externals : BridgeExternals) (connection : BridgeConnection)
    (events : List BridgeEvent) (hevents : ∀ event ∈ events, event ≠ .connectionLost)
    (buttons : List (HidCommand × Nat))
    (hbuttons : (connection.run externals events).2.map (HandledFrame.button? externals) =
      buttons.map some) :
    (∀ frame ∈ (connection.run externals events).2, ∀ button buttonState,
      frame.button? externals = some (button, buttonState) →
      isStrayRelease frame.before.session.pressedButtons button buttonState = false →
      frame.submissions ≠ [] → frame.IsAcknowledged externals) ∧
    ∀ button, EveryDownReleased buttons button →
      (button = .sleep ∨ button = .wake ∨ button = .pageUp → (button, 2) ∉ buttons) →
      (button ∈ (connection.run externals events).1.session.pressedButtons ↔
        button ∈ connection.session.pressedButtons ∧
          ∀ buttonState, buttonState ≠ 1 → (button, buttonState) ∉ buttons) := by
  constructor
  · intro frame hframe button buttonState hbutton hstray hsubmits
    have hall : ∀ held ∈ (connection.run externals events).2, (held.button? externals).isSome := by
      intro held hheld
      have hmem : held.button? externals ∈ (connection.run externals events).2.map
          (HandledFrame.button? externals) := List.mem_map_of_mem hheld
      rw [hbuttons] at hmem
      obtain ⟨pair, -, hpair⟩ := List.mem_map.mp hmem
      rw [← hpair]
      rfl
    have hactive := BridgeConnection.run_staysActive connection events hall frame hframe
    have hhandled := (BridgeConnection.run_log connection events).handled frame hframe
    exact HandledFrame.button_acknowledged hhandled hbutton hstray hactive hsubmits
  · intro button hdown hsettles
    rw [BridgeConnection.run_foldsButtons connection events hevents buttons hbuttons]
    exact foldl_pressedAfter hdown hsettles connection.session.pressedButtons

/-! ## Two sessions -/

def buttonFrame (xid : Nat) (button : HidCommand) (buttonState : Nat) : OpackValue :=
  .dict [(.ofStr "_i", .ofStr "_hidC"), (.ofStr "_x", .ofInt xid),
    (.ofStr "_c", .dict [(.ofStr "_hidC", .ofInt button.code),
      (.ofStr "_hBtS", .ofInt buttonState)])]

/-- A connection with a dispatch session, on which Up has gone down. -/
def pressedConnection : BridgeConnection :=
  (newConnection.run transparentBridge (pairVerifyEvents ++
    [.dataReceived (sealedMessages 0 [sessionStart (some 1), buttonFrame 2 .up 1]) fun _ => {}])).1

def buttonEvents (buttons : List (HidCommand × Nat)) : List BridgeEvent :=
  [.dataReceived (sealedMessages 2 (buttons.map fun pair => buttonFrame 3 pair.1 pair.2))
    fun _ => {}]

/-- Down goes down and comes up, and Up, which was pressed before, comes up. -/
theorem button_responses_release :
    let buttons := [(HidCommand.down, 1), (HidCommand.up, 0), (HidCommand.down, 2)]
    let ended := pressedConnection.run transparentBridge (buttonEvents buttons)
    ended.2.map (fun frame => (frame.submissions.map Command.samsungKey, frame.responses.length)) =
        [([], 1), ([some "KEY_UP"], 1), ([some "KEY_DOWN"], 1)] ∧
      (∀ frame ∈ ended.2, ∀ button buttonState,
        frame.button? transparentBridge = some (button, buttonState) →
        isStrayRelease frame.before.session.pressedButtons button buttonState = false →
        frame.submissions ≠ [] → frame.IsAcknowledged transparentBridge) ∧
      HidCommand.up ∉ ended.1.session.pressedButtons := by
  intro buttons ended
  have hresponses := button_responses transparentBridge pressedConnection
    (buttonEvents buttons) (by simp [buttonEvents]) buttons (by decide +kernel)
  have hdown : EveryDownReleased buttons .up := by
    intro before after hsplit
    have hmem : (HidCommand.up, 1) ∈ buttons := by
      rw [hsplit]
      exact List.mem_append_right before List.mem_cons_self
    exact absurd hmem (by decide)
  refine ⟨by decide +kernel, hresponses.1, fun hpressed => ?_⟩
  have hreleased := ((hresponses.2 .up hdown (by decide)).mp hpressed).2 0 (by decide)
  exact hreleased (by decide)

/-- A release that follows no down of the sequence clears what was pressed before
it. A release refused for want of a down, and one the base table does not name,
are relayed all the same. -/
theorem button_responses_fails :
    let released := pressedConnection.run transparentBridge (buttonEvents [(.up, 0)])
    let stray := pressedConnection.run transparentBridge (buttonEvents [(.down, 2), (.pageUp, 2)])
    (released.2.map (HandledFrame.button? transparentBridge) = [some (.up, 0)] ∧
      (∀ button, EveryDownReleased [(.up, 0)] button) ∧
      pressedConnection.session.pressedButtons = {.up} ∧
      released.1.session.pressedButtons = ∅) ∧
    stray.2.map (fun frame =>
        (frame.button? transparentBridge, frame.submissions.map Command.samsungKey,
          frame.responses.map fun response => !isRaised (response.getItem "_em"))) =
      [(some (.down, 2), [some "KEY_DOWN"], [true]), (some (.pageUp, 2), [some "KEY_MUTE"], [])] := by
  intro released stray
  refine ⟨⟨by decide +kernel, ?_, by decide +kernel, by decide +kernel⟩, by decide +kernel⟩
  intro button before after hsplit
  have hmem : (button, 1) ∈ [(HidCommand.up, 0)] := by
    rw [hsplit]
    exact List.mem_append_right before List.mem_cons_self
  simp at hmem

end CompanionBridge
