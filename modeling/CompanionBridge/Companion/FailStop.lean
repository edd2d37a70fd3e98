import CompanionBridge.Companion.MalformedBudget

/-!
# A closed connection reads nothing more

The frame loop asks after each frame whether the transport is closing. A handler
that raises skips that question: its frame is reported as malformed, and below
the limit the loop goes on. This matters where a handler can raise after the
connection was closed under it, and only the media-control handlers can: they
relay first and answer second, and the lane closes a connection whose
authorization was revoked.
-/

namespace CompanionBridge

open Handler

namespace BridgeConnection

/-- What nothing received after the close may change: the handlers run, the
authentication phase, the cipher counters, the commands submitted and the frames
written. -/
def effects (connection : BridgeConnection) :
    Nat × AuthenticationPhase × Option (Nat × Nat) × List Command × List WrittenFrame :=
  (connection.service.handled, connection.service.auth.authPhase,
    connection.service.chacha.map fun cipher => (cipher.inCounter, cipher.outCounter),
    connection.submitted, connection.service.written)

/-- A chunk has no effect after the connection is closed: not when it was closed
before, and not from the frame on under which it closed. -/
structure FailStop (externals : BridgeExternals) (connection : BridgeConnection) (chunk : Bytes)
    (inputs : Nat → BridgeInputs) : Prop where
  delivered : connection.isConnectionActive = false →
    connection.dataReceived externals chunk inputs = (connection, [])
  rest : ∀ earlier frame later,
    (connection.dataReceived externals chunk inputs).2 = earlier ++ frame :: later →
    frame.after.isConnectionActive = false →
      later = [] ∧
        (connection.dataReceived externals chunk inputs).1.effects = frame.after.effects

end BridgeConnection

/-! ## The frames that are handled past a close -/

/-- Whether the message is one the media-control handlers relay before they answer it. -/
def relaysMedia (text : PyText) (message : OpackValue) : Bool :=
  let content := ((message.get "_c").toOption.join).getD emptyDict
  let level := ((content.get "_vol").toOption.join).getD (.scalar .null)
  let readable := level.isNumber && !isRaised level.toFloat
  match requestedHandler text message with
  | .ok (some .mcc) =>
      match legacyMediaCommand text content with
      | .ok .setVolume => readable
      | .ok .play | .ok .pause => true
      | _ => false
  | .ok (some .mediaControlCommand) =>
      match ((content.get "MediaControlCommand").toOption.join).bind MediaControlCommand.ofValue? with
      | some .setVolume => readable
      | _ => false
  | _ => false

/-- Whether an empty response cannot be sent: the message has no identifier or
transaction id, the response cannot be encoded, or the cipher has no nonce left. -/
def cannotAnswer (externals : BridgeExternals) (connection : BridgeConnection)
    (message : OpackValue) : Bool :=
  match message.getItem "_i", message.getItem "_x" with
  | .ok identifier, .ok xid =>
      match pack externals.packDepth (responseMessage identifier xid emptyDict) with
      | none => true
      | some encoded =>
          encoded.length ≤ maxApplicationPayload &&
            connection.service.chacha.any fun cipher => (counterNonce cipher.outCounter).isNone
  | _, _ => true

/-- The lane refuses the session of a connection as unauthorized. -/
def laneRevokes (connection : BridgeConnection) (inputs : BridgeInputs) : Bool :=
  connection.laneInstalled && connection.dispatchOwner && inputs.lane 0 = .unauthorized

/-- A media-control message under which the lane closes the connection and which
cannot be answered, while the malformed budget is not used up. -/
def isRevokedUnanswered (externals : BridgeExternals) (connection : BridgeConnection)
    (message : OpackValue) (inputs : BridgeInputs) : Bool :=
  relaysMedia externals.text message && laneRevokes connection inputs &&
    cannotAnswer externals connection message &&
    connection.service.malformedFrames + 1 < malformedFrameLimit

def HandledFrame.isRevokedUnanswered (externals : BridgeExternals) (frame : HandledFrame) : Bool :=
  (frame.message? externals).any fun message =>
    CompanionBridge.isRevokedUnanswered externals frame.before message frame.inputs

/-! ## How handlers raise -/

namespace BridgeConnection

/-- Neither the standing nor what answers and submissions depend on has changed. -/
structure SameAuthority (connection next : BridgeConnection) : Prop where
  standing : connection.SameStanding next
  chacha : next.service.chacha = connection.service.chacha
  laneInstalled : next.laneInstalled = connection.laneInstalled
  dispatchOwner : next.dispatchOwner = connection.dispatchOwner

instance : Std.Refl SameAuthority where
  refl := fun connection => ⟨.refl connection, rfl, rfl, rfl⟩

instance : IsTrans BridgeConnection SameAuthority where
  trans := fun _ _ _ hfirst hsecond =>
    ⟨hfirst.standing.trans hsecond.standing, hsecond.chacha.trans hfirst.chacha,
      hsecond.laneInstalled.trans hfirst.laneInstalled,
      hsecond.dispatchOwner.trans hfirst.dispatchOwner⟩

/-- The transport stays as it is or begins to close; nothing else of the standing moves. -/
structure Lasting (connection next : BridgeConnection) : Prop where
  connectionClosed : next.service.connectionClosed = connection.service.connectionClosed
  admitted : next.service.admitted = connection.service.admitted
  transport : next.service.transport = connection.service.transport ∨
    next.service.transport = .closing

theorem SameStanding.lasting {connection next : BridgeConnection}
    (hsame : connection.SameStanding next) : connection.Lasting next :=
  ⟨hsame.service.connectionClosed, hsame.service.admitted, .inl hsame.service.transport⟩

/-- What lasts through two parts of a frame lasts through both. -/
theorem Lasting.trans {connection middle next : BridgeConnection}
    (hfirst : connection.Lasting middle) (hsecond : middle.Lasting next) :
    connection.Lasting next := by
  refine ⟨hsecond.connectionClosed.trans hfirst.connectionClosed,
    hsecond.admitted.trans hfirst.admitted, ?_⟩
  rcases hsecond.transport with hsame | hclosing
  · rw [hsame]
    exact hfirst.transport
  · exact .inr hclosing

theorem closeConnection_lasting (connection : BridgeConnection) :
    connection.Lasting connection.closeConnection := by
  refine ⟨rfl, rfl, ?_⟩
  have htransport : connection.closeConnection.service.transport =
      if connection.service.transport = .up then .closing else connection.service.transport := rfl
  rw [htransport]
  split
  · exact .inr rfl
  · exact .inl rfl

/-- A malformed frame may close the connection, and never opens it. -/
theorem malformedFrame_lasting (connection : BridgeConnection) :
    connection.Lasting connection.malformedFrame.1 := by
  unfold malformedFrame
  dsimp only
  have hcounted : ∀ count, connection.Lasting
      { connection with service := { connection.service with malformedFrames := count } } :=
    fun _ => ⟨rfl, rfl, .inl rfl⟩
  split
  · have hclosed := (hcounted (connection.service.malformedFrames + 1)).trans
      (closeConnection_lasting _)
    exact ⟨hclosed.connectionClosed, hclosed.admitted, hclosed.transport⟩
  · exact hcounted _

theorem submitDispatch_lasting (connection : BridgeConnection) (answer : LaneAnswer)
    (command : Command) : connection.Lasting (connection.submitDispatch answer command).1 := by
  unfold submitDispatch
  split
  · exact (SameStanding.refl connection).lasting
  · cases answer with
    | accepted => exact ⟨rfl, rfl, .inl rfl⟩
    | dropped => exact (SameStanding.refl connection).lasting
    | unauthorized => exact closeConnection_lasting connection

theorem dispatchSink_lasting (connection : BridgeConnection) (answer : LaneAnswer)
    (command : Command) : connection.Lasting (connection.dispatchSink answer command) := by
  unfold dispatchSink
  split
  · split
    · exact (SameStanding.refl connection).lasting
    · dsimp only
      split
      · exact (submitDispatch_lasting connection answer _).trans ⟨rfl, rfl, .inl rfl⟩
      · exact submitDispatch_lasting connection answer _
  · split
    · exact ⟨rfl, rfl, .inl rfl⟩
    · exact (SameStanding.refl connection).lasting
  · exact submitDispatch_lasting connection answer command

instance : Std.Refl Lasting where
  refl := fun connection => (SameStanding.refl connection).lasting

instance : IsTrans BridgeConnection Lasting where
  trans := fun _ _ _ => .trans

instance (externals : BridgeExternals) : LoudRelation externals Lasting where
  send := fun connection sent =>
    (sendToClient_standing externals connection .eOpack sent).lasting
  session := fun _ _ => ⟨rfl, rfl, .inl rfl⟩
  state := fun _ _ => ⟨rfl, rfl, .inl rfl⟩
  owner := fun _ _ _ => ⟨rfl, rfl, .inl rfl⟩
  relay := fun _ _ => ⟨rfl, rfl, .inl rfl⟩
  sink := dispatchSink_lasting
  report := malformedFrame_lasting

/-- An active connection that is still open afterwards is still active. -/
theorem Lasting.isConnectionActive {connection next : BridgeConnection}
    (hlasting : connection.Lasting next) (hactive : connection.isConnectionActive = true)
    (hopen : next.service.transport ≠ .closing) : next.isConnectionActive = true := by
  have htransport : next.service.transport = connection.service.transport := by
    rcases hlasting.transport with hsame | hclosing
    · exact hsame
    · exact absurd hclosing hopen
  have hsame : next.isConnectionActive = connection.isConnectionActive := by
    unfold BridgeConnection.isConnectionActive FakeCompanionService.isConnectionActive
    rw [hlasting.connectionClosed, hlasting.admitted, htransport]
  rw [hsame, hactive]

end BridgeConnection

/-- A handler that raises leaves the standing alone, unless it relayed, the lane
revoked the session and the answer failed. -/
def RaisesOpen (externals : BridgeExternals) (inputs : BridgeInputs) (message : OpackValue)
    (relays : Bool) (connection : BridgeConnection) (raised : Bool) (after : BridgeConnection) :
    Prop :=
  raised = true → connection.SameStanding after ∨
    (connection.SameCount after ∧ relays = true ∧ laneRevokes connection inputs = true ∧
      cannotAnswer externals connection message = true)

section Raises

variable {externals : BridgeExternals} {inputs : BridgeInputs} {message : OpackValue}
variable {relays : Bool}

/-- A handler that keeps the standing raises on an open connection, if at all. -/
theorem raisesOpen_of_standing {Result : Type} {handler : HandlerM Result}
    (hkeeps : Keeps BridgeConnection.SameStanding handler) :
    Ends (RaisesOpen externals inputs message relays) handler :=
  .of_keeps hkeeps fun _ _ _ hsame _ => .inl hsame

/-- Handlers one after the other, as long as the first keeps the authority. -/
theorem raisesOpen_bind {Result Other : Type} {handler : HandlerM Result}
    {next : Result → HandlerM Other} (hhandler : Keeps BridgeConnection.SameAuthority handler)
    (hnext : ∀ result, Ends (RaisesOpen externals inputs message relays) (next result)) :
    Ends (RaisesOpen externals inputs message relays) (handler >>= next) := by
  refine .bind hhandler ?_ ?_ hnext
  · exact fun _ _ hsame _ => .inl hsame.standing
  · intro connection middle raised after hsame hraises hraised
    rcases hraises hraised with hstanding | ⟨hcount, hrelays, hrevokes, hanswer⟩
    · exact .inl (hsame.standing.trans hstanding)
    · refine .inr ⟨hsame.standing.sameCount.trans hcount, hrelays, ?_, ?_⟩
      · unfold laneRevokes at hrevokes ⊢
        rwa [hsame.laneInstalled, hsame.dispatchOwner] at hrevokes
      · unfold cannotAnswer at hanswer ⊢
        rwa [hsame.chacha] at hanswer

/-- A message that raises cannot be encoded or sealed. -/
theorem sendMessage_raises {connection : BridgeConnection} {sent : OpackValue}
    (hraised : isRaised ((sendMessage externals sent).perform connection).1 = true) :
    (match pack externals.packDepth sent with
      | none => true
      | some encoded =>
          decide (encoded.length ≤ maxApplicationPayload) &&
            connection.service.chacha.any fun cipher =>
              (counterNonce cipher.outCounter).isNone) = true := by
  have hsent : (connection.service.sendToClient externals.connection.crypto.aead .eOpack
      (pack externals.packDepth sent)).2 = true := by
    by_contra hquiet
    rw [Bool.not_eq_true] at hquiet
    simp [sendMessage, perform, BridgeConnection.sendToClient, hquiet, isRaised] at hraised
  unfold FakeCompanionService.sendToClient at hsent
  cases hpack : pack externals.packDepth sent with
  | none => rfl
  | some encoded =>
      rw [hpack] at hsent
      dsimp only at hsent ⊢
      split at hsent
      · exact absurd hsent (by simp)
      · rename_i hsize
        cases hcipher : connection.service.chacha with
        | none => simp [hcipher] at hsent
        | some cipher =>
            rw [hcipher] at hsent
            dsimp only at hsent
            unfold Chacha20Cipher.encrypt at hsent
            cases hnonce : counterNonce cipher.outCounter with
            | none => simp [hnonce, Nat.le_of_not_lt hsize]
            | some nonce => simp [hnonce] at hsent

/-- A response that raises is one that cannot be sent. -/
theorem sendResponse_raises {connection : BridgeConnection}
    (hraised : isRaised ((sendResponse externals message emptyDict).perform connection).1 = true) :
    cannotAnswer externals connection message = true := by
  unfold cannotAnswer
  unfold sendResponse at hraised
  rw [perform_bind, perform_lift] at hraised
  cases hidentifier : message.getItem "_i" with
  | error error => rfl
  | ok identifier =>
      rw [hidentifier] at hraised
      dsimp only at hraised
      rw [perform_bind, perform_lift] at hraised
      cases hxid : message.getItem "_x" with
      | error error => rfl
      | ok xid =>
          rw [hxid] at hraised
          exact sendMessage_raises hraised

/-- A submission leaves the standing alone, unless the lane revokes the session. -/
theorem submitDispatch_cases (connection : BridgeConnection) (inputs : BridgeInputs)
    (command : Command) :
    let after := (connection.submitDispatch (inputs.lane 0) command).1
    connection.SameCount after ∧ after.service.chacha = connection.service.chacha ∧
      (connection.SameStanding after ∨ laneRevokes connection inputs = true) := by
  intro after
  refine ⟨connection.submitDispatch_sameCount _ command, ?_, ?_⟩
  · show (connection.submitDispatch (inputs.lane 0) command).1.service.chacha = _
    unfold BridgeConnection.submitDispatch
    split
    · rfl
    · split <;> rfl
  · show connection.SameStanding (connection.submitDispatch (inputs.lane 0) command).1 ∨ _
    unfold BridgeConnection.submitDispatch laneRevokes
    split
    · exact .inl (.refl connection)
    · rename_i howner
      split
      · exact .inl ⟨⟨rfl, rfl, rfl, rfl⟩, rfl⟩
      · exact .inl (.refl connection)
      · rename_i hanswer
        simp only [Bool.or_eq_true, Bool.not_eq_true', not_or, Bool.not_eq_false] at howner
        exact .inr (by simp [howner.1, howner.2, hanswer])

/-- Relaying a key and answering raises only where the answer fails. -/
theorem relayed_response {command : Command} (hrelays : relays = true)
    (hkey : command.samsungKey ≠ some "KEY_ENTER") (hplain : command.repeatPhase = none) :
    Ends (RaisesOpen externals inputs message relays) (do
      relayCommands inputs fun relay => relay.emit inputs.nowMs command
      sendResponse externals message emptyDict) := by
  intro connection hraised
  have hrelayed : (relayCommands inputs fun relay => relay.emit inputs.nowMs command).perform
      connection = (.ok (), (connection.submitDispatch (inputs.lane 0) command).1) := by
    unfold relayCommands BridgeConnection.relayed CommandRelay.emit
    rw [perform_update]
    dsimp only
    rw [if_neg hkey]
    unfold BridgeConnection.sinkAll BridgeConnection.dispatchSink
    rw [hplain]
    rfl
  obtain ⟨hcount, hchacha, hstanding⟩ := submitDispatch_cases connection inputs command
  rw [perform_bind, hrelayed] at hraised ⊢
  dsimp only at hraised ⊢
  have hsent : (connection.submitDispatch (inputs.lane 0) command).1.SameStanding
      ((sendResponse externals message emptyDict).perform
        (connection.submitDispatch (inputs.lane 0) command).1).2 :=
    sendResponse_keeps emptyDict _
  rcases hstanding with hsame | hrevokes
  · exact .inl (hsame.trans hsent)
  · have hanswer := sendResponse_raises hraised
    unfold cannotAnswer at hanswer ⊢
    rw [hchacha] at hanswer
    exact .inr ⟨hcount.trans hsent.sameCount, hrelays, hrevokes, hanswer⟩

theorem volumeKeyFor_ne_enter (prevVolumePct newLevel : Float) :
    some (volumeKeyFor prevVolumePct newLevel).1 ≠ some "KEY_ENTER" := by
  unfold volumeKeyFor
  dsimp only
  split
  · decide
  · decide

/-- The relays of the volume are answered where they are made. -/
theorem relayVolume_response (hrelays : relays = true) (newLevel : Float) :
    Ends (RaisesOpen externals inputs message relays) (do
      relayVolume inputs newLevel
      sendResponse externals message emptyDict) := by
  unfold relayVolume
  simp only [bind_assoc]
  refine raisesOpen_bind (.read _) fun volume => raisesOpen_bind ?_ fun _ => ?_
  · exact .update fun connection => ⟨⟨.refl connection.service, rfl⟩, rfl, rfl, rfl⟩
  · exact relayed_response hrelays (volumeKeyFor_ne_enter volume newLevel) rfl

/-- The volume branch of both media-control handlers, for a level that is a number. -/
theorem relayLevel_response {level : OpackValue}
    (hrelays : isRaised level.toFloat = false → relays = true) :
    Ends (RaisesOpen externals inputs message relays) (do
      let newLevel ← lift level.toFloat
      relayVolume inputs newLevel
      sendResponse externals message emptyDict) := by
  intro connection
  rw [perform_bind, perform_lift]
  cases hlevel : level.toFloat with
  | error error => exact fun _ => .inl (.refl connection)
  | ok newLevel =>
      rw [hlevel] at hrelays
      exact relayVolume_response (hrelays rfl) newLevel connection

theorem handleMcc_raisesOpen (hrequested : requestedHandler externals.text message = .ok (some .mcc)) :
    Ends (RaisesOpen externals inputs message (relaysMedia externals.text message))
      (handleMcc externals inputs message) := by
  intro connection
  unfold handleMcc
  rw [perform_bind, perform_lift]
  cases hget : message.get "_c" with
  | error error => exact fun _ => .inl (.refl connection)
  | ok found =>
      unfold relaysMedia
      rw [hrequested, hget]
      dsimp only [Except.toOption, Option.join_some]
      -- an error in reading the command is reported; only a relayed command can raise
      cases hcommand : legacyMediaCommand externals.text (found.getD emptyDict) with
      | error error =>
          dsimp only
          split
          · exact fun hraised => absurd hraised (by simp [reportMalformed, isRaised])
          · exact fun _ => .inl (.refl connection)
      | ok command =>
          dsimp only
          by_cases hvolume : command = .setVolume
          · subst hvolume
            rw [if_pos rfl, perform_bind, perform_lift]
            cases hlevel : (found.getD emptyDict).get "_vol" with
            | error error => exact fun _ => .inl (.refl connection)
            | ok level =>
                dsimp only [Option.join_some]
                split
                · exact fun hraised => absurd hraised (by simp [reportMalformed, isRaised])
                · rename_i hnumber
                  refine relayLevel_response (fun hread => ?_) connection
                  rw [hread]
                  simpa using hnumber
          · rw [if_neg hvolume]
            by_cases hplay : command = .play ∨ command = .pause
            · rw [if_pos hplay]
              refine relayed_response ?_ (by simp) rfl connection
              rcases hplay with rfl | rfl <;> rfl
            · rw [if_neg hplay]
              exact raisesOpen_of_standing handleMccBase_keeps connection

theorem handleMediaControlCommand_raisesOpen
    (hrequested : requestedHandler externals.text message = .ok (some .mediaControlCommand)) :
    Ends (RaisesOpen externals inputs message (relaysMedia externals.text message))
      (handleMediaControlCommand externals inputs message) := by
  intro connection
  unfold handleMediaControlCommand
  rw [perform_bind, perform_lift]
  cases hget : message.get "_c" with
  | error error => exact fun _ => .inl (.refl connection)
  | ok found =>
      unfold relaysMedia
      rw [hrequested, hget]
      dsimp only [Except.toOption, Option.join_some]
      rw [perform_bind, perform_lift]
      cases hcode : (found.getD emptyDict).get "MediaControlCommand" with
      | error error => exact fun _ => .inl (.refl connection)
      | ok code =>
          dsimp only [Option.join_some]
          -- a command without a level is answered and nothing is relayed
          have hrespond : ∀ relays content, Ends (RaisesOpen externals inputs message relays)
              (sendResponse externals message content) :=
            fun _ _ => raisesOpen_of_standing (sendResponse_keeps _)
          cases code.bind MediaControlCommand.ofValue? with
          | none => exact hrespond _ _ connection
          | some command =>
              cases command with
              | getVolume =>
                  exact raisesOpen_of_standing
                    (.bind (.bind (.read _) fun _ => .pure _) fun _ => sendResponse_keeps _)
                    connection
              | setVolume =>
                  dsimp only
                  rw [perform_bind, perform_lift]
                  cases hlevel : (found.getD emptyDict).get "_vol" with
                  | error error => exact fun _ => .inl (.refl connection)
                  | ok level =>
                      dsimp only [Option.join_some]
                      split
                      · rename_i hnumber
                        refine relayLevel_response (fun hread => ?_) connection
                        rw [hread, hnumber]
                        rfl
                      · exact hrespond _ _ connection
              | _ => exact hrespond _ _ connection

/-- A handler whose last part never raises raises in its quiet first part. -/
theorem raisesOpen_of_last {Result Other : Type} {handler : HandlerM Result}
    {next : Result → HandlerM Other} (hhandler : Keeps BridgeConnection.SameStanding handler)
    (hlast : ∀ result connection, isRaised ((next result).perform connection).1 = false) :
    Ends (RaisesOpen externals inputs message relays) (handler >>= next) := by
  intro connection hraised
  have hfirst := hhandler connection
  rw [perform_bind] at hraised ⊢
  cases hended : handler.perform connection with
  | mk outcome after =>
      rw [hended] at hraised hfirst
      cases outcome with
      | error error => exact .inl hfirst
      | ok result =>
          rw [hlast] at hraised
          exact absurd hraised (by simp)

theorem handleHidc_raisesOpen :
    Ends (RaisesOpen externals inputs message relays) (handleHidc externals inputs message) := by
  have hreport : Ends (RaisesOpen externals inputs message relays) reportMalformed :=
    fun _ hraised => absurd hraised (by simp [reportMalformed, isRaised])
  unfold handleHidc
  split
  · exact hreport
  · split
    · split
      · exact hreport
      · rw [← bind_assoc]
        refine raisesOpen_of_last ?_ fun _ _ => rfl
        exact .bind (updateSession_keeps externals _) fun _ => sendResponse_keeps _
    · exact raisesOpen_of_last handleHidcBase_keeps fun _ _ => rfl

theorem handleHidt_raisesOpen :
    Ends (RaisesOpen externals inputs message relays) (handleHidt externals inputs message) := by
  intro connection hraised
  unfold handleHidt decodeTouch at hraised
  rw [perform_bind] at hraised
  have hrelay : ∀ middle : BridgeConnection, isRaised
      ((relayTouch externals inputs message).perform middle).1 = false := by
    intro middle
    obtain ⟨after, hperform, -⟩ := relayTouch_performs externals inputs message middle
    rw [hperform]
    rfl
  cases hevent : hidEvent message externals.text with
  | error error =>
      rw [hevent] at hraised
      exact absurd ((hrelay connection.malformedFrame.1).symm.trans hraised) (by decide)
  | ok event =>
      rw [hevent] at hraised
      exact absurd ((hrelay connection).symm.trans hraised) (by decide)

theorem handleTic_raisesOpen :
    Ends (RaisesOpen externals inputs message relays) (handleTic externals inputs message) := by
  intro connection
  unfold handleTic
  rw [perform_bind, perform_lift]
  cases message.get "_t" with
  | error error => exact fun _ => .inl (.refl connection)
  | ok kind =>
      dsimp only
      split
      · exact fun _ => .inl (.refl connection)
      · split
        · exact fun hraised => absurd hraised (by simp [reportMalformed, isRaised])
        · rename_i operation hoperation
          rw [perform_bind, perform_read]
          dsimp only
          rw [perform_bind, perform_lift]
          cases operation.apply externals (connection.session.rtiText.getD "") with
          | error error => exact fun _ => .inl (.refl connection)
          | ok text =>
              refine raisesOpen_of_last (updateSession_keeps externals _) ?_ connection
              intro _ middle
              split <;> rfl

/-- Every handler of the table, by cases on the one requested. -/
theorem dispatchMessage_raisesOpen :
    Ends (RaisesOpen externals inputs message (relaysMedia externals.text message))
      (dispatchMessage externals inputs message) := by
  intro connection
  unfold dispatchMessage
  rw [perform_bind, perform_lift]
  cases hrequested : requestedHandler externals.text message with
  | error error => exact fun _ => .inl (.refl connection)
  | ok requested =>
      cases requested with
      | none => exact raisesOpen_of_standing (sendError_keeps _ _) connection
      | some handler =>
          cases hloud : handler.isLoud with
          | false => exact raisesOpen_of_standing (call_keeps_of_quiet hloud) connection
          | true =>
              cases handler with
              | hidc => exact handleHidc_raisesOpen connection
              | hidt => exact handleHidt_raisesOpen connection
              | mcc => exact handleMcc_raisesOpen hrequested connection
              | mediaControlCommand =>
                  exact handleMediaControlCommand_raisesOpen hrequested connection
              | tic => exact handleTic_raisesOpen connection
              | _ => exact absurd hloud (by decide)

end Raises

/-! ## From the handler to the loop -/

namespace BridgeConnection

variable {externals : BridgeExternals} {connection : BridgeConnection} {message : OpackValue}
variable {inputs : BridgeInputs} {header payload : Bytes}

/-- An active connection has its transport up. -/
theorem isConnectionActive_transport (hactive : connection.isConnectionActive = true) :
    connection.service.transport = .up :=
  FakeCompanionService.isConnectionActive_transport hactive

theorem stillOpen_transport (hopen : connection.stillOpen = true) :
    connection.service.transport ≠ .closing := by
  unfold stillOpen FakeCompanionService.stillOpen at hopen
  simpa using hopen

/-- Below the limit a report leaves the connection as active as it was. -/
theorem malformedFrame_active (hcontinues : connection.malformedFrame.2 = true) :
    connection.service.malformedFrames + 1 < malformedFrameLimit ∧
      connection.malformedFrame.1.isConnectionActive = connection.isConnectionActive := by
  unfold malformedFrame at hcontinues ⊢
  dsimp only at hcontinues ⊢
  split
  · rename_i hlimit
    rw [if_pos hlimit] at hcontinues
    exact absurd hcontinues (by simp)
  · rename_i hlimit
    exact ⟨Nat.lt_of_not_le hlimit, rfl⟩

/-- A message after which the loop goes on leaves an active connection active,
unless the lane revoked the session under it and the answer failed. -/
theorem handleMessage_active (hactive : connection.isConnectionActive = true)
    (hanswered : isRevokedUnanswered externals connection message inputs = false)
    (hcontinues : (connection.handleMessage externals message inputs).2 = true) :
    (connection.handleMessage externals message inputs).1.isConnectionActive = true := by
  unfold handleMessage at hcontinues ⊢
  split
  · exact hactive
  · rename_i hstartup
    rw [if_neg hstartup] at hcontinues
    have hlasting : connection.countHandled.Lasting
        ((dispatchMessage externals inputs message).perform connection.countHandled).2 :=
      dispatchMessage_keeps _
    have hraises := @dispatchMessage_raisesOpen externals inputs message connection.countHandled
    cases hended : (dispatchMessage externals inputs message).perform connection.countHandled with
    | mk outcome after =>
        rw [hended] at hlasting hraises hcontinues
        cases outcome with
        | ok result => exact hlasting.isConnectionActive hactive (stillOpen_transport hcontinues)
        | error error =>
            obtain ⟨hbudget, hsame⟩ := malformedFrame_active hcontinues
            rcases hraises rfl with hstanding | ⟨hcount, hrelays, hrevokes, hanswer⟩
            · rw [hsame, hstanding.isConnectionActive]
              exact hactive
            · have hrevoked : isRevokedUnanswered externals connection message inputs = true := by
                rw [hcount.malformedFrames] at hbudget
                unfold isRevokedUnanswered
                rw [hrelays, show laneRevokes connection inputs = true from hrevokes,
                  show cannotAnswer externals connection message = true from hanswer]
                exact decide_eq_true hbudget
              rw [hrevoked] at hanswered
              exact absurd hanswered (by simp)

/-- Decrypting a payload moves no counter that an answer depends on. -/
theorem opened_revokedUnanswered (externals : BridgeExternals) (connection : BridgeConnection)
    (header payload : Bytes) (message : OpackValue) (inputs : BridgeInputs) :
    isRevokedUnanswered externals (connection.opened externals header payload) message inputs =
      isRevokedUnanswered externals connection message inputs := by
  unfold opened
  cases hcipher : connection.service.chacha with
  | none => rfl
  | some cipher =>
      have hcounter : (cipher.decrypt externals.connection.crypto.aead payload header).1.outCounter =
          cipher.outCounter := by
        unfold Chacha20Cipher.decrypt
        split <;> rfl
      have hanswer : cannotAnswer externals
          (connection.openFrame externals cipher header payload).1 message =
          cannotAnswer externals connection message := by
        unfold cannotAnswer
        rw [hcipher, show (connection.openFrame externals cipher header payload).1.service.chacha =
          some (cipher.decrypt externals.connection.crypto.aead payload header).1 from rfl]
        simp only [Option.any_some, hcounter]
      unfold isRevokedUnanswered
      rw [hanswer]
      rfl

/-- A frame keeps the connection active unless it is malformed or its authority is gone. -/
theorem handleFrame_active (hactive : connection.isConnectionActive = true)
    (hanswered : (connection.inboundMessage? externals header payload inputs).any
      (fun message => isRevokedUnanswered externals connection message inputs) = false)
    (hcontinues : (connection.handleFrame externals header payload inputs).2 = true) :
    (connection.handleFrame externals header payload inputs).1.isConnectionActive = true := by
  cases hmessage : connection.inboundMessage? externals header payload inputs with
  | none =>
      have hended := handleFrame_end hmessage
      generalize connection.handleFrame externals header payload inputs = ended at hended hcontinues
      cases hended with
      | malformed middle hsame =>
          rw [(malformedFrame_active hcontinues).2, hsame.isConnectionActive, hactive]
      | closed middle hsame => exact absurd hcontinues (by simp)
      | kept middle hsame => rw [hsame.isConnectionActive, hactive]
  | some message =>
      rw [hmessage, Option.any_some, ← opened_revokedUnanswered externals connection header
        payload] at hanswered
      rw [handleFrame_message hmessage] at hcontinues ⊢
      have hopened := opened_standing externals connection header payload
      exact handleMessage_active (hopened.isConnectionActive.trans hactive) hanswered hcontinues

/-! ## From frames to chunks -/

/-- Reading on without a complete frame has no effect. -/
theorem receive_effects {fuel : Nat} {incoming : Bytes} {inputs : Nat → BridgeInputs}
    (hnone : (receive externals fuel connection incoming inputs).2 = []) :
    (receive externals fuel connection incoming inputs).1.effects = connection.effects := by
  cases fuel with
  | zero => rfl
  | succ fuel =>
      unfold receive at hnone ⊢
      split
      · rfl
      · rfl
      · rename_i hnext
        rw [hnext] at hnone
        dsimp only at hnone
        split at hnone
        · exact absurd hnone (by simp)
        · exact absurd hnone (by simp)

end BridgeConnection

/-- Only the last of the frames may be one that is revoked and unanswered. -/
def RevokedOnlyLast (externals : BridgeExternals) : List HandledFrame → Prop
  | [] => True
  | frame :: rest =>
      (frame.isRevokedUnanswered externals = true → rest = []) ∧ RevokedOnlyLast externals rest

namespace BridgeConnection

variable {externals : BridgeExternals} {connection : BridgeConnection}

/-- The frames of a chunk, from a connection that is active. -/
theorem receive_rest (fuel : Nat) (hactive : connection.isConnectionActive = true)
    (incoming : Bytes) (inputs : Nat → BridgeInputs)
    (hrevoked : RevokedOnlyLast externals (receive externals fuel connection incoming inputs).2)
    {earlier later : List HandledFrame} {frame : HandledFrame}
    (hsplit : (receive externals fuel connection incoming inputs).2 = earlier ++ frame :: later)
    (hclosed : frame.after.isConnectionActive = false) :
    later = [] ∧
      (receive externals fuel connection incoming inputs).1.effects = frame.after.effects := by
  induction fuel generalizing connection incoming inputs earlier with
  | zero => exact absurd hsplit (by simp [receive])
  | succ fuel ih =>
      unfold receive at hrevoked hsplit ⊢
      cases hnext : connection.service.frameParser.next incoming with
      | mk parser result =>
          rw [hnext] at hrevoked hsplit
          cases result with
          | needMore => exact absurd hsplit (by simp)
          | tooLarge size => exact absurd hsplit (by simp)
          | frame header payload rest =>
              dsimp only at hrevoked hsplit ⊢
              have hbefore : (connection.setParser parser).isConnectionActive = true := hactive
              split at hrevoked
              · rename_i hcontinues
                rw [if_pos hcontinues] at hsplit ⊢
                obtain ⟨hfirst, hlater⟩ := hrevoked
                -- the first frame leaves the connection active, or nothing follows it
                have hgoes := @handleFrame_active externals (connection.setParser parser) (inputs 0)
                  header payload hbefore
                cases earlier with
                | nil =>
                    obtain ⟨rfl, rfl⟩ := List.cons.inj hsplit
                    have hempty := hfirst (by
                      by_contra hanswered
                      rw [Bool.not_eq_true] at hanswered
                      rw [hgoes hanswered hcontinues] at hclosed
                      exact absurd hclosed (by simp))
                    exact ⟨hempty, receive_effects hempty⟩
                | cons first others =>
                    obtain ⟨rfl, hothers⟩ := List.cons.inj hsplit
                    refine ih ?_ rest (fun n => inputs (n + 1)) hlater hothers
                    apply hgoes _ hcontinues
                    by_contra hanswered
                    rw [Bool.not_eq_false] at hanswered
                    rw [hfirst hanswered] at hothers
                    exact absurd hothers (by simp)
              · rename_i hstops
                rw [if_neg hstops] at hsplit ⊢
                cases earlier with
                | nil =>
                    obtain ⟨rfl, rfl⟩ := List.cons.inj hsplit
                    exact ⟨rfl, rfl⟩
                | cons first others =>
                    obtain ⟨-, hothers⟩ := List.cons.inj hsplit
                    exact absurd hothers (by simp)

/-- The frames of one chunk, where only the last may be answered by a close. -/
theorem dataReceived_failStop {chunk : Bytes} {inputs : Nat → BridgeInputs}
    (hrevoked : RevokedOnlyLast externals (connection.dataReceived externals chunk inputs).2) :
    FailStop externals connection chunk inputs := by
  constructor
  · intro hclosed
    unfold dataReceived
    rw [if_neg (by simp [hclosed])]
  · intro earlier frame later hsplit hclosed
    unfold dataReceived at hrevoked hsplit ⊢
    by_cases hactive : connection.isConnectionActive = true
    · rw [if_pos hactive] at hrevoked hsplit ⊢
      exact receive_rest chunk.length hactive chunk inputs hrevoked hsplit hclosed
    · rw [if_neg hactive] at hsplit
      exact absurd hsplit (by simp)

/-- A property of every chunk of a run, in the state it is delivered in. -/
def EveryChunk (externals : BridgeExternals)
    (property : BridgeConnection → Bytes → (Nat → BridgeInputs) → Prop) :
    BridgeConnection → List BridgeEvent → Prop
  | _, [] => True
  | connection, event :: rest =>
      (match event with
        | .dataReceived chunk inputs => property connection chunk inputs
        | _ => True) ∧
      EveryChunk externals property (connection.step externals event).1 rest

/-- In every run in which a frame that is revoked and unanswered is the last of
its chunk, no chunk has an effect once the connection is closed. -/
theorem fail_stop (externals : BridgeExternals) (start : BridgeConnection)
    (events : List BridgeEvent)
    (hrevoked : EveryChunk externals (fun connection chunk inputs =>
      RevokedOnlyLast externals (connection.dataReceived externals chunk inputs).2) start events) :
    EveryChunk externals (FailStop externals) start events := by
  induction events generalizing start with
  | nil => exact trivial
  | cons event rest ih =>
      obtain ⟨hchunk, hrest⟩ := hrevoked
      refine ⟨?_, ih _ hrest⟩
      cases event with
      | dataReceived chunk inputs => exact dataReceived_failStop hchunk
      | _ => exact trivial

/-! ## Two runs -/

def sessionStart (xid : Option Nat) : OpackValue :=
  .dict ([(.ofStr "_i", .ofStr "TVRCSessionStart"), (.ofStr "_c", emptyDict)] ++
    (xid.map fun xid => (.ofStr "_x", .ofInt xid)).toList)

def playMessage (xid : Option Nat) : OpackValue :=
  .dict ([(.ofStr "_i", .ofStr "_mcc"), (.ofStr "_c", .dict [(.ofStr "_mcc", .ofInt 1)])] ++
    (xid.map fun xid => (.ofStr "_x", .ofInt xid)).toList)

/-- A session on an established connection; the lane refuses the first of `messages`
as unauthorized and accepts the others. -/
def revokedEvents (messages : List OpackValue) : List BridgeEvent :=
  pairVerifyEvents ++
    [.dataReceived (sealedMessages 0 [sessionStart (some 1)]) fun _ => {},
      .dataReceived (sealedMessages 1 messages)
        fun frame => { lane := fun _ => if frame = 0 then .unauthorized else .accepted }]

theorem revokedOnlyLast_of_all {externals : BridgeExternals} {frames : List HandledFrame}
    (hall : (frames.all fun frame => !frame.isRevokedUnanswered externals) = true) :
    RevokedOnlyLast externals frames := by
  induction frames with
  | nil => exact trivial
  | cons frame rest ih =>
      rw [List.all_cons, Bool.and_eq_true, Bool.not_eq_true'] at hall
      refine ⟨fun hrevoked => ?_, ih hall.2⟩
      rw [hall.1] at hrevoked
      exact absurd hrevoked (by simp)

/-- Answered, the revoked command is the last thing the connection does. -/
theorem fail_stop_answered :
    let events := revokedEvents [playMessage (some 2), playMessage (some 3)]
    ((newConnection.run transparentBridge events).2.map fun frame =>
        (frame.before.isConnectionActive, frame.after.isConnectionActive)) =
      [(true, true), (true, true), (true, true), (true, false)] ∧
    EveryChunk transparentBridge (FailStop transparentBridge) newConnection events := by
  intro events
  refine ⟨by decide +kernel, fail_stop transparentBridge newConnection events ?_⟩
  refine ⟨?_, ?_, ?_, ?_, trivial⟩
  · exact revokedOnlyLast_of_all (by decide +kernel)
  · exact revokedOnlyLast_of_all (by decide +kernel)
  · exact revokedOnlyLast_of_all (by decide +kernel)
  · exact revokedOnlyLast_of_all (by decide +kernel)

/-- A frame handled after the first one closed the connection. -/
theorem not_failStop {externals : BridgeExternals} {connection : BridgeConnection} {chunk : Bytes}
    {inputs : Nat → BridgeInputs}
    (hframes : ((connection.dataReceived externals chunk inputs).2.take 2).map (fun frame =>
      frame.after.isConnectionActive) = [false, false]) :
    ¬ FailStop externals connection chunk inputs := by
  intro hstop
  cases hlog : (connection.dataReceived externals chunk inputs).2 with
  | nil => exact absurd hframes (by simp [hlog])
  | cons first rest =>
      rw [hlog] at hframes
      cases rest with
      | nil => exact absurd hframes (by simp)
      | cons second others =>
          have hclosed : first.after.isConnectionActive = false := by
            simpa using (List.cons.inj hframes).1
          exact absurd (hstop.rest [] first (second :: others) hlog hclosed).1 (by simp)

/-- The revoked command has no transaction id, nor has the session start after it:
the third message of the chunk is submitted on the closed connection. -/
theorem fail_stop_fails :
    let events := revokedEvents [playMessage none, sessionStart none, playMessage (some 3)]
    ((newConnection.run transparentBridge events).2.map fun frame =>
        (frame.before.isConnectionActive, frame.after.isConnectionActive,
          frame.after.submitted.length)) =
      [(true, true, 0), (true, true, 0), (true, true, 0), (true, false, 0), (false, false, 0),
        (false, false, 1)] ∧
    ¬ EveryChunk transparentBridge (FailStop transparentBridge) newConnection events := by
  intro events
  refine ⟨by decide +kernel, ?_⟩
  rintro ⟨-, -, -, hstop, -⟩
  exact not_failStop (by decide +kernel) hstop

end BridgeConnection

end CompanionBridge
