import CompanionBridge.Companion.BridgeConnection

/-!
# The message handlers

One definition for each `handle_…` method of `BridgeCompanionService`, with the
base method where the override calls it. Fields that no handler reads are not
kept: the names of apps, accounts, versions and buttons last seen, the touchpad
size and the last touch event.
-/

namespace CompanionBridge

def emptyDict : OpackValue :=
  .dict []

/-- `MediaControlFlags.Volume`. -/
def mediaFlags : Nat := 256

def volumeStep : Float := 5.0

/-- `min(first, second)`. -/
def pyMin (first second : Float) : Float :=
  if second < first then second else first

/-- `max(first, second)`. -/
def pyMax (first second : Float) : Float :=
  if first < second then second else first

/-- Resolve a slider level to a discrete step and the new percentage. -/
def volumeKeyFor (prevVolumePct newLevel : Float) : String × Float :=
  (if prevVolumePct / 100.0 ≤ newLevel then "KEY_VOLUP" else "KEY_VOLDOWN",
    pyMax 0.0 (pyMin 100.0 (newLevel * 100.0)))

/-- `max(0, moved)`. -/
def notBelowZero (moved : Float) : PyReal :=
  if 0.0 < moved then .float moved else .int 0

/-- `max(0, duration + skip)`. A duration that is an integer is no less than zero. -/
def PyReal.skip : PyReal → OpackValue → Except PyError PyReal
  | .int duration, .scalar (.int value _) => .ok (.int (max 0 (duration + value)))
  | .int duration, .scalar (.bool value) => .ok (.int (max 0 (duration + if value then 1 else 0)))
  | .int duration, value => do
      let skip ← value.toFloat
      let held ← (OpackScalar.int duration.toNat none).toFloat
      return notBelowZero (held + skip)
  | .float duration, value => value.toFloat.map fun skip => notBelowZero (duration + skip)

section Handlers

variable (externals : BridgeExternals) (inputs : BridgeInputs) (message : OpackValue)

/-- The reply of the handlers that only acknowledge. -/
def acknowledge : HandlerM Unit :=
  sendResponse externals message emptyDict

def volumeChanged (newVolume : Float) : HandlerM Unit := do
  updateState fun state => { state with volume := pyMin (pyMax newVolume 0.0) 100.0 }
  let flags ← Handler.read fun connection => connection.state.mediaControlFlags
  sendEvent externals "_iMC" (.ofInt 1234)
    (.dict [(.ofStr "_mcF", .ofInt (flags ||| mediaFlags))])

/-! ## Apps and accounts -/

def handleLaunchApp : HandlerM Unit := do
  let content ← Handler.lift (message.getItem "_c")
  let _ ← Handler.lift (content.get "_bundleID")
  let _ ← Handler.lift (content.get "_urlS")
  sendResponse externals message emptyDict

def handleFetchLaunchableApplicationsEvent : HandlerM Unit := do
  let apps ← Handler.read fun connection => connection.state.installedApps
  sendResponse externals message (.dict apps)

def handleSwitchUserAccountEvent : HandlerM Unit := do
  let payload ← Handler.lift (message.getItem "_c")
  let _ ← Handler.lift (payload.get "SwitchAccountID")
  sendResponse externals message emptyDict

def handleFetchUserAccountsEvent : HandlerM Unit := do
  let accounts ← Handler.read fun connection => connection.state.availableAccounts
  sendResponse externals message (.dict accounts)

def handleSwitchActiveUserAccountEvent : HandlerM Unit :=
  acknowledge externals message

/-! ## Buttons -/

def updatePressedButtons (change : Finset HidCommand → Finset HidCommand) : HandlerM Unit :=
  updateSession fun session => { session with pressedButtons := change session.pressedButtons }

/-- `FakeCompanionService.handle__hidc`. -/
def handleHidcBase : HandlerM Unit := do
  let content ← Handler.lift (message.getItem "_c")
  let buttonState ← Handler.lift (content.getItem "_hBtS")
  let code ← Handler.lift (content.getItem "_hidC")
  match HidCommand.ofValue? code with
  | none => Handler.lift (.error .valueError)
  | some buttonCode =>
      if buttonCode = .siri then do
        updatePressedButtons fun pressed => pressed.erase buttonCode
        sendResponse externals message emptyDict
      else if buttonState.eqScalar (.int 1 none) then do
        updatePressedButtons fun pressed => insert buttonCode pressed
        sendResponse externals message emptyDict
      else if buttonState.eqScalar (.int 2 none) ∧ (buttonCode = .sleep ∨ buttonCode = .wake) then
        sendResponse externals message emptyDict
      else if buttonCode.buttonName?.isSome then do
        let pressed ← Handler.read fun connection => connection.session.pressedButtons
        if buttonCode ∉ pressed then
          sendError externals message s!"Missing button DOWN for {buttonCode.name}"
        else do
          updatePressedButtons fun pressed => pressed.erase buttonCode
          let volume ← Handler.read fun connection => connection.state.volume
          if buttonCode = .volumeUp then volumeChanged externals (volume + volumeStep)
          else if buttonCode = .volumeDown then volumeChanged externals (volume - volumeStep)
          else pure ()
          sendResponse externals message emptyDict
      else
        -- an unhandled command is neither answered nor refused
        pure ()

/-- The button code and state of a `_hidC` message. -/
def hidButton (text : PyText) : Except PyError (Int × Int) := do
  let content ← message.getItem "_c"
  let code ← content.getItem "_hidC"
  let hidCode ← code.toInt text
  let state ← content.getItem "_hBtS"
  let buttonState ← state.toInt text
  return (hidCode, buttonState)

def handleHidc : HandlerM Unit :=
  match hidButton message externals.text with
  | .error _ => reportMalformed
  | .ok (hidCode, buttonState) =>
      if buttonState = 0 then
        match HidCommand.all.find? fun command => (command.code : Int) = hidCode with
        | none => reportMalformed
        | some buttonCode => do
            updatePressedButtons fun pressed => pressed.erase buttonCode
            sendResponse externals message emptyDict
            relayCommands inputs fun relay => relay.onButton inputs.nowMs hidCode buttonState
      else do
        handleHidcBase externals message
        relayCommands inputs fun relay => relay.onButton inputs.nowMs hidCode buttonState

/-! ## Touch -/

/-- Whether a touchpad measure is refused. -/
def outOfTouchpad (measure : OpackValue) : Except PyError Bool := do
  if !measure.truthy then return true
  else if ← measure.lessThan 0 then return true
  else measure.moreThan 1000

def handleTouchStart : HandlerM Unit := do
  let content := (← Handler.lift (message.get "_c")).getD emptyDict
  let width := (← Handler.lift (content.get "_width")).getD (.scalar .null)
  let height := (← Handler.lift (content.get "_height")).getD (.scalar .null)
  let refused ← Handler.lift (do
    if ← outOfTouchpad width then return true else outOfTouchpad height)
  if refused then sendError externals message "Invalid touchpad width or height"
  else sendResponse externals message (.dict [(.ofStr "_i", .ofInt 1)])

def handleTouchStop : HandlerM Unit := do
  Handler.update BridgeConnection.invalidateRepeaters
  sendResponse externals message emptyDict

/-- The values of the protocol's `TouchAction`. -/
def touchActionValues : List Int := [1, 2, 3, 4, 5]

/-- `int(content.get(key, 0))`. -/
def optionalInt (text : PyText) (content : OpackValue) (key : String) : Except PyError Int := do
  let value ← content.get key
  (value.getD (.ofInt 0)).toInt text

/-- The touch event the base handler decodes: its action, point and time. -/
def hidEvent (text : PyText) : Except PyError (Int × Int × Int × Int) := do
  let content ← message.getItem "_c"
  let phase ← content.getItem "_tPh"
  let touchAction ← phase.toInt text
  if touchAction ∈ touchActionValues then
    let ns ← optionalInt text content "_ns"
    let cx ← optionalInt text content "_cx"
    let cy ← optionalInt text content "_cy"
    return (touchAction, cx, cy, ns)
  else throw .valueError

/-- The phase and the point the relay is given. -/
def touchPoint (text : PyText) : Except PyError (Int × Int × Int) := do
  let content := (← message.get "_c").getD emptyDict
  let phase ← content.getItem "_tPh"
  let rawPhase ← phase.toInt text
  let cx ← optionalInt text content "_cx"
  let cy ← optionalInt text content "_cy"
  return (rawPhase, cx, cy)

/-- The base decode, isolated from what follows it. -/
def decodeTouch : HandlerM Unit :=
  match hidEvent message externals.text with
  | .error _ => reportMalformed
  | .ok _ => pure ()

def relayTouch : HandlerM Unit :=
  match touchPoint message externals.text with
  | .error _ => reportMalformed
  | .ok (rawPhase, cx, cy) =>
      match touchActionNames rawPhase with
      | none => pure ()
      | some action => do
          let raises ← Handler.read fun connection => connection.relay.touchRaises action cx cy
          relayCommands inputs fun relay => relay.onTouch inputs.nowMs action cx cy
          -- What the relay raises is caught here, once its commands are handed over.
          if raises then reportMalformed else pure ()

def handleHidt : HandlerM Unit := do
  decodeTouch externals message
  relayTouch externals inputs message

/-! ## Media control -/

/-- Relay a volume level as one step, and mirror it. -/
def relayVolume (newLevel : Float) : HandlerM Unit := do
  let volume ← Handler.read fun connection => connection.state.volume
  let step := volumeKeyFor volume newLevel
  updateState fun state => { state with volume := step.2 }
  relayCommands inputs fun relay =>
    relay.emit inputs.nowMs
      { action := .sendKey, samsungKey := some step.1, source := "mcc:SetVolume" }

def volumeContent : HandlerM OpackValue := do
  let volume ← Handler.read fun connection => connection.state.volume
  return .dict [(.ofStr "_vol", .scalar (.float (volume / 100.0).toBits))]

/-- `FakeCompanionService.handle__mcc`. -/
def handleMccBase : HandlerM Unit := do
  let content ← Handler.lift (message.getItem "_c")
  let code ← Handler.lift (content.getItem "_mcc")
  match MediaControlCommand.ofValue? code with
  -- the enumeration's constructor raises for an unknown command
  | none => Handler.lift (.error .valueError)
  | some .setVolume => do
      let level ← Handler.lift (content.getItem "_vol")
      let newLevel ← Handler.lift level.toFloat
      -- `call_soon` gets the result of the call, so the change comes before the response
      volumeChanged externals (newLevel * 100.0)
      sendResponse externals message emptyDict
  | some .getVolume => do
      let args ← volumeContent
      sendResponse externals message args
  | some .skipBy => do
      let duration ← Handler.read fun connection => connection.state.duration
      let skip ← Handler.lift (content.getItem "_skpS")
      let moved ← Handler.lift (duration.skip skip)
      updateState fun state => { state with duration := moved }
      sendResponse externals message emptyDict
  | some command =>
      -- a command the base class does not map gets no answer
      if command.isMapped then sendResponse externals message emptyDict
      else pure ()

/-- The command of a `_mcc` message. -/
def legacyMediaCommand (text : PyText) (content : OpackValue) :
    Except PyError MediaControlCommand := do
  let code ← content.getItem "_mcc"
  let value ← code.toInt text
  (MediaControlCommand.ofInt? value).elim (.error .valueError) .ok

def handleMcc : HandlerM Unit := do
  let content := (← Handler.lift (message.get "_c")).getD emptyDict
  match legacyMediaCommand externals.text content with
  | .error error =>
      if error = .keyError ∨ error = .typeError ∨ error = .valueError then reportMalformed
      else Handler.lift (.error error)
  | .ok command =>
      if command = .setVolume then do
        let level := (← Handler.lift (content.get "_vol")).getD (.scalar .null)
        -- a level that is not a number counts as malformed, before any conversion
        if !level.isNumber then reportMalformed
        else do
          let newLevel ← Handler.lift level.toFloat
          relayVolume inputs newLevel
          sendResponse externals message emptyDict
      else if command = .play ∨ command = .pause then do
        relayCommands inputs fun relay =>
          relay.emit inputs.nowMs
            { action := .sendKey, samsungKey := some "KEY_PLAY_BACK"
              source := s!"mcc:{command.name}" }
        sendResponse externals message emptyDict
      else handleMccBase externals message

def handleMediaControlCommand : HandlerM Unit := do
  let content := (← Handler.lift (message.get "_c")).getD emptyDict
  let code ← Handler.lift (content.get "MediaControlCommand")
  match code.bind MediaControlCommand.ofValue? with
  | some .getVolume => do
      let args ← volumeContent
      sendResponse externals message args
  | some .setVolume => do
      let level := (← Handler.lift (content.get "_vol")).getD (.scalar .null)
      if level.isNumber then do
        -- an integer level is converted by the multiplication
        let newLevel ← Handler.lift level.toFloat
        relayVolume inputs newLevel
      else pure ()
      sendResponse externals message emptyDict
  | some .getCaptionSettings =>
      sendResponse externals message (.dict [(.ofStr "_cse", .scalar (.bool false))])
  | _ => sendResponse externals message emptyDict

def handleFetchMediaControlStatus : HandlerM Unit :=
  sendResponse externals message (.dict [(.ofStr "MediaControlFlags", .ofInt mediaFlags)])

/-! ## Sessions -/

def handleSessionStart : HandlerM Unit := do
  let content ← Handler.lift (message.getItem "_c")
  let sid ← Handler.lift (content.getItem "_sid")
  updateSession fun session => { session with sid := sid }
  let _ ← Handler.lift (content.getItem "_srvT")
  sendResponse externals message (.dict [(.ofStr "_sid", .ofInt 5555)])

/-- `5555 << 32 | sid`. -/
def joinedSid : OpackValue → Except PyError Nat
  | .scalar (.int value _) => .ok ((5555 <<< 32) ||| value)
  | .scalar (.bool value) => .ok ((5555 <<< 32) ||| if value then 1 else 0)
  | _ => .error .typeError

def handleSessionStop : HandlerM Unit := do
  let content ← Handler.lift (message.getItem "_c")
  let given ← Handler.lift (content.getItem "_sid")
  let sid ← Handler.read fun connection => connection.session.sid
  let joined ← Handler.lift (joinedSid sid)
  if given.eqScalar (.int joined none) then do
    updateSession fun session => { session with sid := .ofInt 0 }
    sendResponse externals message emptyDict
  else sendError externals message "Invalid SID"

def handleSystemInfo : HandlerM Unit := do
  let _ ← Handler.lift (message.getItem "_c")
  sendResponse externals message emptyDict

/-- `_begin_dispatch_session`: the owner is set also when a closed lane raises. -/
def beginDispatchSession : HandlerM Unit := do
  Handler.update fun connection => connection.invalidateRepeaters.endDispatchSession
  let laneInstalled ← Handler.read fun connection => connection.laneInstalled
  if laneInstalled then do
    Handler.update fun connection => { connection with dispatchOwner := true }
    if inputs.laneOpen then pure () else Handler.lift (.error .other)
  else pure ()

/-- `FakeCompanionService.handle_tvrcsessionstart`. -/
def handleTvrcSessionStartBase : HandlerM Unit := do
  let content ← Handler.lift (message.getItem "_c")
  let _ ← Handler.lift (content.get "ProtocolVersionKey")
  let echoed := (← Handler.lift (message.get "_c")).getD emptyDict
  sendResponse externals message echoed

def handleTvrcSessionStart : HandlerM Unit := do
  beginDispatchSession inputs
  handleTvrcSessionStartBase externals message
  let xid ← Handler.lift (message.getItem "_x")
  sendEvent externals "MediaControlStatus" xid
    (.dict [(.ofStr "MediaControlFlags", .ofInt mediaFlags)])
  sendEvent externals "_iMC" xid (.dict [(.ofStr "_mcF", .ofInt mediaFlags)])

def handleTvrcSessionStop : HandlerM Unit := do
  Handler.update fun connection => connection.invalidateRepeaters.endDispatchSession
  sendResponse externals message emptyDict

/-! ## Events -/

/-- `interests.update(events)`, as far as it gets. -/
def addInterests : List OpackValue → HandlerM Unit
  | [] => pure ()
  | event :: rest => do
      let event ← Handler.lift event.hashable
      updateSession fun session =>
        { session with
          interests :=
            if session.interests.any fun held => held.pyEq event then session.interests
            else session.interests ++ [event] }
      addInterests rest

def removeInterests : List OpackValue → HandlerM Unit
  | [] => pure ()
  | event :: rest => do
      let event ← Handler.lift event.hashable
      updateSession fun session =>
        { session with interests := session.interests.filter fun held => !held.pyEq event }
      removeInterests rest

/-- `FakeCompanionService.handle__interest`. -/
def handleInterestBase : HandlerM Unit := do
  let content ← Handler.lift (message.getItem "_c")
  if ← Handler.lift (content.contains "_regEvents") then do
    let events ← Handler.lift (content.getItem "_regEvents")
    let items ← Handler.lift events.iterate
    addInterests items
    let interests ← Handler.read fun connection => connection.session.interests
    -- a first interest in media control is answered with the flags at once
    if interests.any fun held => held.pyEq (.str "_iMC") then do
      let xid ← Handler.lift (message.getItem "_x")
      let flags ← Handler.read fun connection => connection.state.mediaControlFlags
      sendEvent externals "_iMC" xid (.dict [(.ofStr "_mcF", .ofInt flags)])
    else pure ()
  else if ← Handler.lift (content.contains "_deregEvents") then do
    let events ← Handler.lift (content.getItem "_deregEvents")
    let items ← Handler.lift events.iterate
    removeInterests items
  else pure ()

/-- `_INITIAL_EVENT_PAYLOADS`. -/
def initialEventPayload? (event : OpackScalar) : Option (String × OpackValue) :=
  if event.pyEq (.str "MediaControlStatus") then
    some ("MediaControlStatus", .dict [(.ofStr "MediaControlFlags", .ofInt mediaFlags)])
  else if event.pyEq (.str "NowPlayingInfo") then some ("NowPlayingInfo", emptyDict)
  else none

def pushInitialEvents : List OpackValue → HandlerM Unit
  | [] => pure ()
  | event :: rest => do
      let event ← Handler.lift event.hashable
      match initialEventPayload? event with
      | none => pure ()
      | some (identifier, payload) => do
          let xid ← Handler.lift (message.getItem "_x")
          sendEvent externals identifier xid payload
      pushInitialEvents rest

def handleInterest : HandlerM Unit := do
  handleInterestBase externals message
  let content := (← Handler.lift (message.get "_c")).getD emptyDict
  let events := (← Handler.lift (content.get "_regEvents")).getD (.list [])
  let items ← Handler.lift events.iterate
  pushInitialEvents externals message items

def handleFetchAttentionState : HandlerM Unit := do
  let state ← Handler.read fun connection => connection.state
  if state.systemStatusSupported then
    sendResponse externals message (.dict [(.ofStr "state", .ofInt state.systemStatus)])
  else sendHandlerNotSupported externals message

/-! ## Text input -/

/-- The `rti_focus_state` setter: a registered client is told of a change. -/
def setRtiFocusState (value : KeyboardFocusState) : HandlerM Unit := do
  let session ← Handler.read fun connection => connection.session
  if session.rtiFocusState = value then pure ()
  else do
    updateSession fun session => { session with rtiFocusState := value }
    let active ← Handler.read BridgeConnection.isConnectionActive
    -- the state is kept even where nothing can be pushed
    if !session.rtiRegistered || !active then pure ()
    else do
      let pushed ← Handler.attempt <|
        match value with
        | .focused =>
            sendEvent externals "_tiStarted" (.ofInt 1234)
              (.dict [(.ofStr "_tiD",
                .scalar (.bytes (externals.dumpRti session.rtiSessionUuid session.rtiText)))])
        | .unfocused => sendEvent externals "_tiStopped" (.ofInt 1234) emptyDict
        | .unknown => pure ()
      match pushed with
      | .ok _ => pure ()
      -- a push that fails ends the registration
      | .error _ => updateSession fun session => { session with rtiRegistered := false }

def handleTiStart : HandlerM Unit := do
  let kind := (← Handler.lift (message.get "_t")).getD (.scalar .null)
  if !kind.eqScalar (.int 2 none) then pure ()
  else do
    updateSession fun session =>
      { session with rtiSessionUuid := some (utf8 "0123456789abcdef"), rtiText := some "" }
    setRtiFocusState externals .unfocused
    updateSession fun session => { session with rtiRegistered := true }
    sendResponse externals message emptyDict

def handleTiStop : HandlerM Unit := do
  let kind ← Handler.lift (message.getItem "_t")
  if !kind.eqScalar (.int 2 none) then pure ()
  else do
    let session ← Handler.read fun connection => connection.session
    match session.rtiSessionUuid with
    | none => pure ()
    | some _ => do
        updateSession fun session => { session with rtiSessionUuid := none }
        sendResponse externals message emptyDict
        updateSession fun session => { session with rtiRegistered := false }

/-- `_RTI_MAX_TEXT`. -/
def rtiMaxText : Nat := 1024

/-- `int(deletion_count)`. -/
def PlistValue.toInt (text : PyText) : PlistValue → Except PyError Int
  | .bool value => .ok (if value then 1 else 0)
  | .int value => .ok value
  | .real bits => (OpackScalar.float bits).toInt text
  | .str value => (OpackScalar.str value).toInt text
  | .data bytes => (OpackScalar.bytes bytes).toInt text
  | .uid index => .ok index
  | _ => .error .typeError

/-- `str(value)`, which an integer of too many digits refuses. -/
def plistStr : PlistValue → Except PyError String
  | .null => .ok "None"
  | .str text => .ok text
  | .bool value => .ok (if value then "True" else "False")
  | .int value => (strOfInt value).elim (.error .valueError) .ok
  | .data bytes => .ok (reprOfBytes bytes)
  | .uid index => .ok ("UID(" ++ toString index ++ ")")
  | value => externals.plistText value

/-- The three properties of a text operation. -/
structure TextOperation where
  textToAssert : PlistValue
  insertionText : PlistValue
  deletionCount : PlistValue

/-- Decode the archive of a `_tiC` message. -/
def textOperation : Option TextOperation := do
  let content ← (message.getItem "_c").toOption
  let data ← (content.getItem "_tiD").toOption
  let archive ← externals.loadPlist data
  let properties ← readArchiveProperties archive
    [["textOperations", "textToAssert"],
      ["textOperations", "keyboardOutput", "insertionText"],
      ["textOperations", "keyboardOutput", "deletionCount"]]
  match properties with
  | [textToAssert, insertionText, deletionCount] =>
      return ⟨textToAssert, insertionText, deletionCount⟩
  | _ => failure

/-- The text without its last characters; a count outside it is clamped. -/
def deleteLast (text : String) (count : Int) : String :=
  let deleted := max 0 (min count text.length)
  String.ofList (text.toList.take (text.length - deleted.toNat))

/-- The field once the replacement is made. -/
def TextOperation.asserted (operation : TextOperation) (old : String) : Except PyError String :=
  match operation.textToAssert with
  | .null => .ok old
  | value => plistStr externals value

/-- The field once its end is deleted. -/
def TextOperation.shortened (operation : TextOperation) (asserted : String) :
    Except PyError String :=
  if operation.deletionCount.truthy then
    (operation.deletionCount.toInt externals.text).map fun count => deleteLast asserted count
  else .ok asserted

/-- The field once the insertion is made. -/
def TextOperation.appended (operation : TextOperation) (kept : String) : Except PyError String :=
  match operation.insertionText with
  | .null => .ok kept
  | value => (plistStr externals value).map (kept ++ ·)

/-- The field value after a text operation. -/
def TextOperation.apply (operation : TextOperation) (old : String) : Except PyError String := do
  let asserted ← operation.asserted externals old
  let kept ← operation.shortened externals asserted
  let inserted ← operation.appended externals kept
  return if rtiMaxText < inserted.length then String.ofList (inserted.toList.take rtiMaxText)
    else inserted

def handleTic : HandlerM Unit := do
  let kind := (← Handler.lift (message.get "_t")).getD (.scalar .null)
  if !kind.eqScalar (.int 1 none) then pure ()
  else
    match textOperation externals message with
    | none => reportMalformed
    | some operation => do
        let session ← Handler.read fun connection => connection.session
        let old := session.rtiText.getD ""
        let text ← Handler.lift (operation.apply externals old)
        -- the text is tracked before it is known whether the submit is accepted
        updateSession fun session => { session with rtiText := some text }
        -- unchanged text is not sent again
        if text = old then pure ()
        else
          Handler.update fun connection =>
            connection.dispatchSink (inputs.lane 0)
              { action := .sendText, text := some text, source := "rti" }

/-! ## Plain acknowledgements -/

def handleFetchSupportedActionsEvent : HandlerM Unit :=
  acknowledge externals message

def handlePublishPresenceEvent : HandlerM Unit :=
  acknowledge externals message

def handleFetchUpNextInfoEvent : HandlerM Unit :=
  acknowledge externals message

def handleFetchCurrentTopShelfItemsEvent : HandlerM Unit :=
  acknowledge externals message

def handleFetchSiriRemoteInfo : HandlerM Unit :=
  acknowledge externals message

def handleFetchCurrentNowPlayingInfoEvent : HandlerM Unit :=
  acknowledge externals message

end Handlers

/-! ## Dispatch -/

/-- The attributes of the service whose name starts with `handle_`. -/
inductive MessageHandler where
  | launchApp | fetchLaunchableApplicationsEvent | switchUserAccountEvent
  | fetchUserAccountsEvent | switchActiveUserAccountEvent
  | hidc | touchStart | touchStop | hidt | mcc | mediaControlCommand | fetchMediaControlStatus
  | sessionStart | sessionStop | systemInfo | tvrcSessionStart | tvrcSessionStop
  | interest | fetchAttentionState | tiStart | tiStop | tic
  | fetchSupportedActionsEvent | publishPresenceEvent | fetchUpNextInfoEvent
  | fetchCurrentTopShelfItemsEvent | fetchSiriRemoteInfo | fetchCurrentNowPlayingInfoEvent
  | authFrame
  deriving DecidableEq, Repr

namespace MessageHandler

/-- What follows `handle_` in the name of the method. -/
def name : MessageHandler → String
  | launchApp => "_launchapp"
  | fetchLaunchableApplicationsEvent => "fetchlaunchableapplicationsevent"
  | switchUserAccountEvent => "switchuseraccountevent"
  | fetchUserAccountsEvent => "fetchuseraccountsevent"
  | switchActiveUserAccountEvent => "switchactiveuseraccountevent"
  | hidc => "_hidc"
  | touchStart => "_touchstart"
  | touchStop => "_touchstop"
  | hidt => "_hidt"
  | mcc => "_mcc"
  | mediaControlCommand => "mediacontrolcommand"
  | fetchMediaControlStatus => "fetchmediacontrolstatus"
  | sessionStart => "_sessionstart"
  | sessionStop => "_sessionstop"
  | systemInfo => "_systeminfo"
  | tvrcSessionStart => "tvrcsessionstart"
  | tvrcSessionStop => "tvrcsessionstop"
  | interest => "_interest"
  | fetchAttentionState => "fetchattentionstate"
  | tiStart => "_tistart"
  | tiStop => "_tistop"
  | tic => "_tic"
  | fetchSupportedActionsEvent => "fetchsupportedactionsevent"
  | publishPresenceEvent => "publishpresenceevent"
  | fetchUpNextInfoEvent => "fetchupnextinfoevent"
  | fetchCurrentTopShelfItemsEvent => "fetchcurrenttopshelfitemsevent"
  | fetchSiriRemoteInfo => "fetchsiriremoteinfo"
  | fetchCurrentNowPlayingInfoEvent => "fetchcurrentnowplayinginfoevent"
  | authFrame => "auth_frame"

def all : List MessageHandler :=
  [launchApp, fetchLaunchableApplicationsEvent, switchUserAccountEvent, fetchUserAccountsEvent,
    switchActiveUserAccountEvent, hidc, touchStart, touchStop, hidt, mcc, mediaControlCommand,
    fetchMediaControlStatus, sessionStart, sessionStop, systemInfo, tvrcSessionStart,
    tvrcSessionStop, interest, fetchAttentionState, tiStart, tiStop, tic,
    fetchSupportedActionsEvent, publishPresenceEvent, fetchUpNextInfoEvent,
    fetchCurrentTopShelfItemsEvent, fetchSiriRemoteInfo, fetchCurrentNowPlayingInfoEvent,
    authFrame]

def ofName? (method : String) : Option MessageHandler :=
  all.find? fun handler => handler.name = method

/-- Call the method with a message. The authentication method takes another argument. -/
def call (externals : BridgeExternals) (inputs : BridgeInputs) (message : OpackValue) :
    MessageHandler → HandlerM Unit
  | launchApp => handleLaunchApp externals message
  | fetchLaunchableApplicationsEvent => handleFetchLaunchableApplicationsEvent externals message
  | switchUserAccountEvent => handleSwitchUserAccountEvent externals message
  | fetchUserAccountsEvent => handleFetchUserAccountsEvent externals message
  | switchActiveUserAccountEvent => handleSwitchActiveUserAccountEvent externals message
  | hidc => handleHidc externals inputs message
  | touchStart => handleTouchStart externals message
  | touchStop => handleTouchStop externals message
  | hidt => handleHidt externals inputs message
  | mcc => handleMcc externals inputs message
  | mediaControlCommand => handleMediaControlCommand externals inputs message
  | fetchMediaControlStatus => handleFetchMediaControlStatus externals message
  | sessionStart => handleSessionStart externals message
  | sessionStop => handleSessionStop externals message
  | systemInfo => handleSystemInfo externals message
  | tvrcSessionStart => handleTvrcSessionStart externals inputs message
  | tvrcSessionStop => handleTvrcSessionStop externals message
  | interest => handleInterest externals message
  | fetchAttentionState => handleFetchAttentionState externals message
  | tiStart => handleTiStart externals message
  | tiStop => handleTiStop externals message
  | tic => handleTic externals inputs message
  | fetchSupportedActionsEvent => handleFetchSupportedActionsEvent externals message
  | publishPresenceEvent => handlePublishPresenceEvent externals message
  | fetchUpNextInfoEvent => handleFetchUpNextInfoEvent externals message
  | fetchCurrentTopShelfItemsEvent => handleFetchCurrentTopShelfItemsEvent externals message
  | fetchSiriRemoteInfo => handleFetchSiriRemoteInfo externals message
  | fetchCurrentNowPlayingInfoEvent => handleFetchCurrentNowPlayingInfoEvent externals message
  -- the method the lookup finds under this name takes other arguments
  | authFrame => Handler.lift (.error .typeError)

end MessageHandler

/-- The method name an identifier asks for; bytes lower to a name no method has. -/
def requestedMethod (text : PyText) : OpackValue → Except PyError (Option String)
  | .scalar (.str identifier) => .ok (some (text.lower identifier))
  | .scalar (.bytes _) => .ok none
  | _ => .error .attributeError

/-- The handler a message is for, when there is one. -/
def requestedHandler (text : PyText) (message : OpackValue) :
    Except PyError (Option MessageHandler) := do
  let identifier ← message.getItem "_i"
  let method ← requestedMethod text identifier
  return method.bind MessageHandler.ofName?

/-- Look the handler of a message up and call it. -/
def dispatchMessage (externals : BridgeExternals) (inputs : BridgeInputs) (message : OpackValue) :
    HandlerM Unit := do
  match ← Handler.lift (requestedHandler externals.text message) with
  | some handler => handler.call externals inputs message
  | none => sendHandlerNotSupported externals message

/-- A response correlated by its transaction id alone, which needs no reply. -/
def isStartupResponse : OpackValue → Bool
  | .dict entries =>
      (OpackValue.lookup "_i" entries).isNone &&
        (match OpackValue.lookup "_t" entries with
          | some (.scalar (.int kind _)) => kind = 3
          | _ => false) &&
        (match OpackValue.lookup "_x" entries with
          | some (.scalar (.int _ _)) => true
          | _ => false)
  | _ => false

end CompanionBridge
