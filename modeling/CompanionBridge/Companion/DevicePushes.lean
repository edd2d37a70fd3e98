import CompanionBridge.Companion.FrameEnds
import CompanionBridge.Protocol.PairingFrames

/-!
# Pushes to every connection

All connections of the server with the device state they share. What a
connection writes before its cipher is installed is pairing frames: messages
only reach their handlers on an encrypted connection, and the TV's text-field
events only reach registered text sessions. The status push asks for neither.
-/

namespace CompanionBridge

open Handler

/-- The connections made so far, in order, and the state they share. -/
structure DeviceServer where
  state : FakeCompanionState := {}
  connections : List BridgeConnection := []

/-- An event of one connection, known by its number, or one for the device. -/
inductive DeviceLabel where
  | connectionMade (auth : CompanionServerAuth) (gestureConfig : GestureConfig)
      (holdConfig : DirectionalHoldConfig) (laneInstalled admitted : Bool)
  | dataReceived (connection : Nat) (chunk : Bytes) (inputs : Nat → BridgeInputs)
  | closeConnection (connection : Nat)
  | authenticationTimedOut (connection : Nat)
  | connectionLost (connection : Nat)
  | stateChanged (state : FakeCompanionState)
  | systemStatus (status : Nat)
  | imeStart
  | imeEnd

namespace DeviceServer

variable (externals : BridgeExternals)

/-- Let every connection see the shared state. -/
def share (server : DeviceServer) (state : FakeCompanionState) : DeviceServer where
  state := state
  connections := server.connections.map fun connection => { connection with state := state }

/-- An event of one connection; what it changes in the device state, all see. -/
def onConnection (server : DeviceServer) (index : Nat) (event : BridgeEvent) : DeviceServer :=
  match server.connections[index]? with
  | none => server
  | some connection =>
      let next := (connection.step externals event).1
      { server with connections := server.connections.set index next }.share next.state

/-- An event every connection is shown. -/
def broadcast (server : DeviceServer) (event : BridgeEvent) : DeviceServer :=
  { server with
    connections := server.connections.map fun connection => (connection.step externals event).1 }

def step (server : DeviceServer) : DeviceLabel → DeviceServer
  | .connectionMade auth gestureConfig holdConfig laneInstalled admitted =>
      { server with
        connections := server.connections ++
          [BridgeConnection.connectionMade auth gestureConfig holdConfig laneInstalled
            server.state admitted] }
  | .dataReceived connection chunk inputs =>
      server.onConnection externals connection (.dataReceived chunk inputs)
  | .closeConnection connection => server.onConnection externals connection .closeConnection
  | .authenticationTimedOut connection =>
      server.onConnection externals connection .authenticationTimedOut
  | .connectionLost connection => server.onConnection externals connection .connectionLost
  -- the device's state is shared by all connections
  | .stateChanged state => server.share state
  | .systemStatus status =>
      (server.broadcast externals (.systemStatus status)).share
        { server.state with systemStatus := status }
  | .imeStart => (server.broadcast externals .imeStart).share server.state
  | .imeEnd => (server.broadcast externals .imeEnd).share server.state

def run (server : DeviceServer) (labels : List DeviceLabel) : DeviceServer :=
  labels.foldl (step externals) server

/-- Whatever a connection wrote in plaintext is a pairing frame. -/
def WritesPairingOnly (server : DeviceServer) : Prop :=
  ∀ connection ∈ server.connections, ∀ frame ∈ connection.service.plaintextFrames,
    frame.isPairing = true

end DeviceServer

namespace BridgeConnection

variable {externals : BridgeExternals} {connection next : BridgeConnection}

def statusMessage (status : Nat) : OpackValue :=
  eventMessage (.ofStr "SystemStatus") (.ofInt 1234) (.dict [(.ofStr "state", .ofInt status)])

/-- A status push would be written to the connection, and it has no cipher. -/
def PushedPlaintext (externals : BridgeExternals) (connection : BridgeConnection) (status : Nat) :
    Prop :=
  connection.state.systemStatusSupported = true ∧ connection.isConnectionActive = true ∧
    connection.service.chacha = none ∧
    ∃ encoded, pack externals.packDepth (statusMessage status) = some encoded ∧
      encoded.length ≤ maxApplicationPayload

/-! ## On an encrypted connection -/

/-- An encrypted connection stays encrypted and writes nothing in plaintext. -/
def StaysSealed (connection next : BridgeConnection) : Prop :=
  connection.service.chacha.isSome = true →
    next.service.chacha.isSome = true ∧
      next.service.plaintextFrames = connection.service.plaintextFrames

/-- Staying sealed is about the cipher and the frames written. -/
theorem StaysSealed.of_service (hcipher : next.service.chacha = connection.service.chacha)
    (hwritten : next.service.written = connection.service.written) :
    connection.StaysSealed next := by
  intro hsome
  unfold FakeCompanionService.plaintextFrames
  rw [hcipher, hwritten]
  exact ⟨hsome, rfl⟩

theorem submitDispatch_sealed (connection : BridgeConnection) (answer : LaneAnswer)
    (command : Command) : connection.StaysSealed (connection.submitDispatch answer command).1 := by
  unfold submitDispatch
  split
  · exact .of_service rfl rfl
  · cases answer <;> exact .of_service rfl rfl

/-- Submitting to the lane writes no frame. -/
theorem dispatchSink_sealed (connection : BridgeConnection) (answer : LaneAnswer)
    (command : Command) : connection.StaysSealed (connection.dispatchSink answer command) := by
  unfold dispatchSink
  split
  · split
    · exact .of_service rfl rfl
    · dsimp only
      split
      · exact submitDispatch_sealed connection answer _
      · exact submitDispatch_sealed connection answer _
  · split <;> exact .of_service rfl rfl
  · exact submitDispatch_sealed connection answer command

theorem malformedFrame_sealed (connection : BridgeConnection) :
    connection.StaysSealed connection.malformedFrame.1 := by
  unfold malformedFrame
  dsimp only
  split <;> exact .of_service rfl rfl

instance : Std.Refl StaysSealed where
  refl := fun _ => .of_service rfl rfl

instance : IsTrans BridgeConnection StaysSealed where
  trans := by
    intro first second third hfirst hsecond hsome
    obtain ⟨hmiddle, hframes⟩ := hfirst hsome
    obtain ⟨hlast, hframes'⟩ := hsecond hmiddle
    exact ⟨hlast, hframes'.trans hframes⟩

instance (externals : BridgeExternals) : LoudRelation externals StaysSealed where
  send := fun _ _ hsome => FakeCompanionService.sendToClient_sealed _ hsome _ _
  session := fun _ _ => .of_service rfl rfl
  state := fun _ _ => .of_service rfl rfl
  owner := fun _ _ _ => .of_service rfl rfl
  relay := fun _ _ => .of_service rfl rfl
  sink := dispatchSink_sealed
  report := malformedFrame_sealed

/-! ## What every connection keeps -/

/-- Only pairing frames were written in plaintext, and a text session is
registered only on an encrypted connection. -/
structure Guarded (connection : BridgeConnection) : Prop where
  pairing : ∀ frame ∈ connection.service.plaintextFrames, frame.isPairing = true
  registered : connection.session.rtiRegistered = true →
    connection.service.chacha.isSome = true ∨ connection.service.connectionClosed = true

/-- Nothing was written, and the cipher and the text session are as they were. -/
theorem Guarded.of_same (h : connection.Guarded)
    (hwritten : next.service.written = connection.service.written)
    (hcipher : next.service.chacha = connection.service.chacha)
    (hclosed : next.service.connectionClosed = connection.service.connectionClosed)
    (hregistered : next.session.rtiRegistered = connection.session.rtiRegistered) :
    next.Guarded where
  pairing := by
    unfold FakeCompanionService.plaintextFrames
    rw [hwritten]
    exact h.pairing
  registered := by
    rw [hregistered, hcipher, hclosed]
    exact h.registered

/-- On an encrypted connection the text session may change as well. -/
theorem Guarded.of_sealed (h : connection.Guarded)
    (hsome : connection.service.chacha.isSome = true) (hsealed : connection.StaysSealed next) :
    next.Guarded where
  pairing := by
    rw [(hsealed hsome).2]
    exact h.pairing
  registered := fun _ => Or.inl (hsealed hsome).1

/-- A malformed frame closes or goes on, and writes nothing. -/
theorem Guarded.malformedFrame (h : connection.Guarded) : connection.malformedFrame.1.Guarded := by
  unfold BridgeConnection.malformedFrame
  dsimp only
  split <;> exact h.of_same rfl rfl rfl rfl

theorem Guarded.closeConnection (h : connection.Guarded) : connection.closeConnection.Guarded :=
  h.of_same rfl rfl rfl rfl

/-- Messages are only handled behind the cipher, so their answers are sealed. -/
theorem Guarded.handleMessage (h : connection.Guarded)
    (hsome : connection.service.chacha.isSome = true) (message : OpackValue)
    (inputs : BridgeInputs) :
    (connection.handleMessage externals message inputs).1.Guarded := by
  unfold BridgeConnection.handleMessage
  split
  · exact h
  · have hcounted : connection.countHandled.Guarded := h.of_same rfl rfl rfl rfl
    have hsealed : connection.countHandled.StaysSealed _ :=
      @dispatchMessage_keeps externals StaysSealed _ inputs message connection.countHandled
    split
    · rename_i hperform
      rw [hperform] at hsealed
      exact hcounted.of_sealed hsome hsealed
    · rename_i hperform
      rw [hperform] at hsealed
      exact (hcounted.of_sealed hsome hsealed).malformedFrame

/-- Before the cipher is installed only pairing frames are written. -/
theorem Guarded.applyEffects (h : connection.Guarded) {effects : List AuthEffect}
    (heffects : effects.all AuthEffect.sendsPairing = true) :
    Guarded
      { connection with service := connection.service.applyEffects externals.connection effects }
    where
  pairing := FakeCompanionService.applyEffects_plaintext _ _ heffects h.pairing
  registered := by
    intro hregistered
    rcases h.registered hregistered with hcipher | hclosed
    · exact Or.inl (FakeCompanionService.applyEffects_cipher _ hcipher _)
    · refine Or.inr ?_
      rw [(FakeCompanionService.applyEffects_standing _ _ _).connectionClosed]
      exact hclosed

/-- An authentication frame is answered by pairing frames; the cipher it
installs stays. -/
theorem Guarded.handleAuth (h : connection.Guarded) (frameType : FrameType)
    (message : OpackValue) (inputs : AuthInputs) :
    (connection.handleAuth externals frameType message inputs).1.Guarded := by
  unfold BridgeConnection.handleAuth
  dsimp only
  have hauth : ∀ auth,
      Guarded { connection with service := { connection.service with auth := auth } } :=
    fun _ => h.of_same rfl rfl rfl rfl
  have hpairing := CompanionServerAuth.handleAuthFrame_sendsPairing
    externals.connection.crypto externals.connection.accessoryInfo connection.service.auth
    { inputs with cipherInstalled := connection.service.chacha.isSome } frameType
    (pairingBlob message)
  split
  · exact (hauth _).applyEffects hpairing
  · exact ((hauth _).applyEffects hpairing).closeConnection

theorem Guarded.handlePayload (h : connection.Guarded) (frameType : FrameType) (payload : Bytes)
    (inputs : BridgeInputs) :
    (connection.handlePayload externals frameType payload inputs).1.Guarded := by
  unfold BridgeConnection.handlePayload
  split
  · exact h.closeConnection
  · split
    · exact h.malformedFrame
    · split
      · exact h.handleAuth frameType _ inputs.auth
      · split
        · exact h.malformedFrame
        · rename_i hcipher
          rw [Option.isNone_iff_eq_none, ← ne_eq, Option.ne_none_iff_isSome] at hcipher
          exact h.handleMessage hcipher _ inputs

theorem Guarded.handleSealed (h : connection.Guarded) (cipher : Chacha20Cipher)
    (frameType : FrameType) (header payload : Bytes) (inputs : BridgeInputs) :
    (connection.handleSealed externals cipher frameType header payload inputs).1.Guarded := by
  have hreceived : ∀ frame, (connection.receiveFrame frame).Guarded :=
    fun frame => h.of_same rfl rfl rfl rfl
  unfold BridgeConnection.handleSealed
  split
  · exact (hreceived _).closeConnection
  · split
    · exact hreceived _
    · have hopened : (connection.openFrame externals cipher header payload).1.Guarded :=
        ⟨h.pairing, fun _ => Or.inl rfl⟩
      split
      · rename_i hplain
        rw [hplain] at hopened
        exact hopened.closeConnection
      · rename_i hplain
        rw [hplain] at hopened
        exact hopened.handlePayload frameType _ inputs

/-- A frame is answered as its phase allows. -/
theorem Guarded.handleFrame (h : connection.Guarded) (header payload : Bytes)
    (inputs : BridgeInputs) :
    (connection.handleFrame externals header payload inputs).1.Guarded := by
  unfold BridgeConnection.handleFrame
  split
  · exact h.malformedFrame
  · split
    · have hreceived : (connection.receiveFrame (.refused header payload)).Guarded :=
        h.of_same rfl rfl rfl rfl
      exact hreceived.closeConnection
    · split
      · exact h.closeConnection
      · split
        · exact h.handleSealed _ _ header payload inputs
        · exact h.handlePayload _ payload inputs

/-- All frames of one chunk, by induction on the fuel of the parser. -/
theorem Guarded.receive (h : connection.Guarded) (fuel : Nat) (incoming : Bytes)
    (inputs : Nat → BridgeInputs) :
    (connection.receive externals fuel incoming inputs).1.Guarded := by
  induction fuel generalizing connection incoming inputs with
  | zero => exact h
  | succ fuel ih =>
      have hparsed : ∀ parser, (connection.setParser parser).Guarded :=
        fun parser => h.of_same rfl rfl rfl rfl
      unfold BridgeConnection.receive
      split
      · exact hparsed _
      · exact (hparsed _).closeConnection
      · rename_i parser header payload rest _
        have hhandled : ((connection.setParser parser).handleFrame externals header payload
            (inputs 0)).1.Guarded := (hparsed parser).handleFrame header payload (inputs 0)
        dsimp only
        split
        · exact ih hhandled _ _
        · exact hhandled

/-- Focusing or leaving a text field writes only to an encrypted connection. -/
theorem Guarded.setRtiFocusState (h : connection.Guarded)
    (hactive : connection.isActiveRtiSession = true) (value : KeyboardFocusState) :
    ((setRtiFocusState externals value).perform connection).2.Guarded := by
  unfold isActiveRtiSession isConnectionActive FakeCompanionService.isConnectionActive at hactive
  simp only [Bool.and_eq_true, Bool.not_eq_true'] at hactive
  have hsome : connection.service.chacha.isSome = true := by
    rcases h.registered hactive.1.1 with hsome | hclosed
    · exact hsome
    · rw [hclosed] at hactive
      exact absurd hactive.2.1.1 (by simp)
  have hsealed : connection.StaysSealed _ :=
    @setRtiFocusState_keeps externals StaysSealed _ value connection
  exact h.of_sealed hsome hsealed

theorem Guarded.connectionLost (h : connection.Guarded) : connection.connectionLost.Guarded := by
  unfold BridgeConnection.connectionLost
  split
  · exact h
  · rename_i hopen
    refine ⟨?_, fun hregistered => absurd hregistered Bool.false_ne_true⟩
    simp only [FakeCompanionService.teardownConnection, if_neg hopen]
    exact h.pairing

/-- A status push is quiet, unless it is written to a connection without a cipher. -/
theorem Guarded.pushSystemStatus (h : connection.Guarded) {status : Nat}
    (hquiet : ¬ connection.PushedPlaintext externals status) :
    (connection.pushSystemStatus externals status).Guarded := by
  have hchanged : Guarded
      { connection with state := { connection.state with systemStatus := status } } :=
    h.of_same rfl rfl rfl rfl
  unfold BridgeConnection.pushSystemStatus
  dsimp only
  split
  · rename_i hpushed
    cases hcipher : connection.service.chacha with
    | some cipher =>
        refine hchanged.of_sealed (by simp [hcipher]) ?_
        exact fun hsome => FakeCompanionService.sendToClient_sealed _ hsome _ _
    | none =>
        refine hchanged.of_same ?_ ?_ ?_ rfl
        all_goals
          unfold BridgeConnection.sendToClient FakeCompanionService.sendToClient
          dsimp only
          cases hencoded : pack externals.packDepth (statusMessage status) with
          | none =>
              unfold statusMessage at hencoded
              rw [hencoded]
          | some encoded =>
              have hlarge : maxApplicationPayload < encoded.length := by
                by_contra hfits
                exact hquiet ⟨hpushed.1, hpushed.2, hcipher, encoded, hencoded, Nat.le_of_not_lt hfits⟩
              unfold statusMessage at hencoded
              rw [hencoded]
              simp only [hlarge, if_true]
  · exact hchanged

/-- Every event but a push of the system status keeps a connection guarded; that one does
when it meets the condition. -/
theorem Guarded.step (h : connection.Guarded) {event : BridgeEvent}
    (hquiet : ∀ status, event = .systemStatus status →
      ¬ connection.PushedPlaintext externals status) :
    (connection.step externals event).1.Guarded := by
  cases event with
  | dataReceived chunk inputs =>
      unfold BridgeConnection.step BridgeConnection.dataReceived
      dsimp only
      split
      · exact h.receive _ chunk inputs
      · exact h
  | stateChanged state => exact h.of_same rfl rfl rfl rfl
  | systemStatus status => exact h.pushSystemStatus (hquiet status rfl)
  | imeStart =>
      unfold BridgeConnection.step imeStart
      dsimp only
      split
      · rename_i hactive
        -- Clearing the text before the push is no frame.
        have hcleared : Guarded
            { connection with session := { connection.session with rtiText := some "" } } :=
          h.of_same rfl rfl rfl rfl
        exact hcleared.setRtiFocusState hactive.1 .focused
      · exact h
  | imeEnd =>
      unfold BridgeConnection.step imeEnd
      dsimp only
      split
      · rename_i hactive
        exact h.setRtiFocusState hactive .unfocused
      · exact h
  | closeConnection => exact h.closeConnection
  | authenticationTimedOut =>
      unfold BridgeConnection.step BridgeConnection.authenticationTimedOut
      dsimp only
      split
      · exact h.closeConnection
      · exact h
  | connectionLost => exact h.connectionLost

/-- A push to a connection without a cipher is no pairing frame. -/
theorem pushSystemStatus_plaintext {status : Nat}
    (hpushed : connection.PushedPlaintext externals status) :
    ∃ frame ∈ (connection.pushSystemStatus externals status).service.plaintextFrames,
      frame.isPairing = false := by
  obtain ⟨hsupported, hactive, hcipher, encoded, hencoded, hfits⟩ := hpushed
  have hup : connection.service.transport = .up := by
    unfold isConnectionActive FakeCompanionService.isConnectionActive at hactive
    rw [Bool.and_eq_true, decide_eq_true_eq] at hactive
    exact hactive.2
  refine ⟨⟨frameHeader .eOpack encoded.length, encoded, none⟩, ?_, by
    simp [WrittenFrame.isPairing, frameHeader, FrameType.code]⟩
  unfold statusMessage at hencoded
  have hsent : (connection.pushSystemStatus externals status).service =
      { connection.service with
        written := connection.service.written ++
          [⟨frameHeader .eOpack encoded.length, encoded, none⟩] } := by
    unfold pushSystemStatus
    dsimp only
    rw [if_pos ⟨hsupported, hactive⟩]
    simp only [sendToClient, FakeCompanionService.sendToClient, hencoded,
      if_neg (Nat.not_lt.mpr hfits), hcipher, FakeCompanionService.write, hup, if_true]
  rw [hsent]
  simp [FakeCompanionService.plaintextFrames]

end BridgeConnection

namespace DeviceServer

variable {externals : BridgeExternals} {server : DeviceServer}

/-- No status push of the step finds a connection that would be written to in plaintext. -/
def PushesSealed (externals : BridgeExternals) (server : DeviceServer) (label : DeviceLabel) :
    Prop :=
  ∀ status, label = .systemStatus status →
    ∀ connection ∈ server.connections, ¬ connection.PushedPlaintext externals status

def Guarded (server : DeviceServer) : Prop :=
  ∀ connection ∈ server.connections, connection.Guarded

theorem Guarded.share (h : server.Guarded) (state : FakeCompanionState) :
    (server.share state).Guarded := by
  intro connection hmem
  obtain ⟨held, hheld, rfl⟩ := List.mem_map.mp hmem
  exact (h held hheld).of_same rfl rfl rfl rfl

theorem Guarded.onConnection (h : server.Guarded) (index : Nat) {event : BridgeEvent}
    (hevent : ∀ status, event ≠ .systemStatus status) :
    (server.onConnection externals index event).Guarded := by
  unfold DeviceServer.onConnection
  split
  · exact h
  · rename_i connection hconnection
    have hmem := List.mem_of_getElem? hconnection
    have hnext : (connection.step externals event).1.Guarded :=
      (h connection hmem).step fun status hstatus => absurd hstatus (hevent status)
    have hset : ({ server with
        connections := server.connections.set index (connection.step externals event).1 } :
        DeviceServer).Guarded := by
      intro other hother
      rcases List.mem_or_eq_of_mem_set hother with hother | rfl
      · exact h other hother
      · exact hnext
    exact hset.share _

theorem Guarded.broadcast (h : server.Guarded) {event : BridgeEvent}
    (hevent : ∀ status, event = .systemStatus status →
      ∀ connection ∈ server.connections, ¬ connection.PushedPlaintext externals status) :
    (server.broadcast externals event).Guarded := by
  intro connection hmem
  obtain ⟨held, hheld, rfl⟩ := List.mem_map.mp hmem
  exact (h held hheld).step fun status hstatus => hevent status hstatus held hheld

theorem Guarded.connectionMade (h : server.Guarded) (auth : CompanionServerAuth)
    (gestureConfig : GestureConfig) (holdConfig : DirectionalHoldConfig)
    (laneInstalled admitted : Bool) :
    (server.step externals
      (.connectionMade auth gestureConfig holdConfig laneInstalled admitted)).Guarded := by
  intro connection hmem
  rcases List.mem_append.mp hmem with hmem | hmem
  · exact h connection hmem
  · rw [List.mem_singleton] at hmem
    subst hmem
    refine ⟨?_, fun hregistered => absurd hregistered Bool.false_ne_true⟩
    unfold BridgeConnection.connectionMade
    cases admitted <;> exact fun frame hframe => absurd hframe (List.not_mem_nil)

/-- A step whose status push finds no plaintext connection keeps every connection guarded. -/
theorem Guarded.step (h : server.Guarded) {label : DeviceLabel}
    (hsealed : server.PushesSealed externals label) : (server.step externals label).Guarded := by
  cases label with
  | connectionMade auth gestureConfig holdConfig laneInstalled admitted =>
      exact h.connectionMade auth gestureConfig holdConfig laneInstalled admitted
  | dataReceived connection chunk inputs => exact h.onConnection connection (by simp)
  | closeConnection connection => exact h.onConnection connection (by simp)
  | authenticationTimedOut connection => exact h.onConnection connection (by simp)
  | connectionLost connection => exact h.onConnection connection (by simp)
  | stateChanged state => exact h.share state
  | systemStatus status =>
      have hpushed : (server.broadcast externals (.systemStatus status)).Guarded :=
        h.broadcast fun other hother => hsealed other (by
          rw [BridgeEvent.systemStatus.injEq] at hother
          rw [hother])
      exact hpushed.share _
  | imeStart =>
      have hfocused : (server.broadcast externals .imeStart).Guarded := h.broadcast (by simp)
      exact hfocused.share _
  | imeEnd =>
      have hleft : (server.broadcast externals .imeEnd).Guarded := h.broadcast (by simp)
      exact hleft.share _

/-- The run theorem: induction on the labels, each step meeting the condition. -/
theorem Guarded.run (h : server.Guarded) {labels : List DeviceLabel}
    (hsealed : ∀ before label after, labels = before ++ label :: after →
      (server.run externals before).PushesSealed externals label) :
    (server.run externals labels).Guarded := by
  induction labels using List.reverseRecOn with
  | nil => exact h
  | append_singleton labels label ih =>
      have hbefore : (server.run externals labels).Guarded := by
        refine ih fun before held after hlabels => hsealed before held (after ++ [label]) ?_
        rw [hlabels, List.append_assoc, List.cons_append]
      have hstep := hbefore.step (hsealed labels label [] rfl)
      unfold DeviceServer.run at hstep ⊢
      rw [List.foldl_append]
      exact hstep

/-- A push to a plaintext connection shows in the state after it. -/
theorem writes_of_pushed {status : Nat} {connection : BridgeConnection}
    (hmem : connection ∈ server.connections)
    (hpushed : connection.PushedPlaintext externals status) :
    ¬ (server.step externals (.systemStatus status)).WritesPairingOnly := by
  intro honly
  obtain ⟨frame, hframe, hother⟩ := connection.pushSystemStatus_plaintext hpushed
  have hpairing := honly
    { (connection.pushSystemStatus externals status) with
      state := { server.state with systemStatus := status } }
    (List.mem_map.mpr ⟨_, List.mem_map.mpr ⟨connection, hmem, rfl⟩, rfl⟩) frame hframe
  rw [hother] at hpairing
  exact absurd hpairing (by simp)

end DeviceServer

/-- Over every interleaving of the connections and the device, only pairing
frames are ever written in plaintext exactly when no status assignment finds an
active connection without a cipher. -/
theorem plaintext_pairing_iff (externals : BridgeExternals) (state : FakeCompanionState)
    (labels : List DeviceLabel) :
    (∀ before after, labels = before ++ after →
      (({ state := state } : DeviceServer).run externals before).WritesPairingOnly) ↔
    ∀ before label after, labels = before ++ label :: after →
      (({ state := state } : DeviceServer).run externals before).PushesSealed externals label := by
  constructor
  · intro honly before label after hlabels status hstatus connection hmem hpushed
    refine DeviceServer.writes_of_pushed hmem hpushed ?_
    have hafter := honly (before ++ [label]) after (by simp [hlabels])
    unfold DeviceServer.run at hafter ⊢
    rw [List.foldl_append, hstatus] at hafter
    exact hafter
  · intro hsealed before after hlabels connection hmem
    have hstart : ({ state := state } : DeviceServer).Guarded :=
      fun connection hmem => absurd hmem (List.not_mem_nil)
    have hguarded := @DeviceServer.Guarded.run externals _ hstart before
      (fun early label late hbefore => hsealed early label (late ++ after) (by
        rw [hlabels, hbefore, List.append_assoc, List.cons_append]))
    exact (hguarded connection hmem).pairing

/-- A phone that has only just connected is written the device status in plaintext. -/
theorem plaintext_pairing_fails :
    let server := ({} : DeviceServer).run transparentBridge
      [.connectionMade { uniqueId := [3], privateKey := [4] } {} {} true true, .systemStatus 1]
    (server.connections.map fun connection =>
      connection.service.plaintextFrames.map fun frame => frame.header.head?) =
        [[some FrameType.eOpack.code]] ∧
      ¬ server.WritesPairingOnly := by
  intro server
  have hheaders : (server.connections.map fun connection =>
      connection.service.plaintextFrames.map fun frame => frame.header.head?) =
        [[some FrameType.eOpack.code]] := by
    decide +kernel
  refine ⟨hheaders, fun honly => ?_⟩
  have hmem : [some FrameType.eOpack.code] ∈ server.connections.map fun connection =>
      connection.service.plaintextFrames.map fun frame => frame.header.head? := by
    rw [hheaders]
    simp
  obtain ⟨connection, hconnection, hframes⟩ := List.mem_map.mp hmem
  have hhead : some FrameType.eOpack.code ∈
      connection.service.plaintextFrames.map fun frame => frame.header.head? := by
    rw [hframes]
    simp
  obtain ⟨frame, hframe, hcode⟩ := List.mem_map.mp hhead
  have hpairing := honly connection hconnection frame hframe
  rw [WrittenFrame.isPairing, hcode] at hpairing
  exact absurd hpairing (by decide)

end CompanionBridge
