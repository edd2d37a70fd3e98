import CompanionBridge.Companion.AdmissionServer
import CompanionBridge.Companion.FrameEnds

/-!
# The admission keeps count

Between being made and being torn down a connection gains a cipher only by
`enable_encryption`, which leaves a record, and it stays admitted. So the slots
the admission holds are those of the admitted connections that are not torn
down, and each is given back once.
-/

namespace CompanionBridge

open Handler

namespace FakeCompanionService

/-- The connection stays admitted and open, and it has a cipher afterwards if it
had one or one was installed. -/
structure Keys (service next : FakeCompanionService) : Prop where
  admitted : next.admitted = service.admitted
  connectionClosed : next.connectionClosed = service.connectionClosed
  installed : ∃ exchange, next.exchanges = service.exchanges ++ exchange ∧
    next.chacha.isSome = (service.chacha.isSome || exchange.any VerifyEvent.isInstalled)

variable {service middle next : FakeCompanionService}

/-- Only four fields matter to admission, and a step that leaves them alone keeps them. -/
theorem Keys.of_same (hadmitted : next.admitted = service.admitted)
    (hclosed : next.connectionClosed = service.connectionClosed)
    (hexchanges : next.exchanges = service.exchanges)
    (hchacha : next.chacha.isSome = service.chacha.isSome) : service.Keys next :=
  ⟨hadmitted, hclosed, [], by simp [hexchanges], by simp [hchacha]⟩

theorem Keys.refl (service : FakeCompanionService) : service.Keys service :=
  .of_same rfl rfl rfl rfl

theorem Keys.trans (hfirst : service.Keys middle) (hsecond : middle.Keys next) :
    service.Keys next := by
  obtain ⟨earlier, hearlier, hmiddle⟩ := hfirst.installed
  obtain ⟨later, hlater, hnext⟩ := hsecond.installed
  refine ⟨hsecond.admitted.trans hfirst.admitted,
    hsecond.connectionClosed.trans hfirst.connectionClosed, earlier ++ later, ?_, ?_⟩
  · rw [hlater, hearlier, List.append_assoc]
  · rw [hnext, hmiddle, List.any_append, Bool.or_assoc]

/-- Closing neither admits nor releases. -/
theorem closeConnection_keys (service : FakeCompanionService) :
    service.Keys service.closeConnection :=
  .of_same rfl rfl rfl rfl

theorem sendToClient_keys (aead : Aead) (service : FakeCompanionService) (frameType : FrameType)
    (encoded : Option Bytes) : service.Keys (service.sendToClient aead frameType encoded).1 := by
  have hcarries := sendToClient_carries aead service frameType encoded
  have hstanding := sendToClient_standing aead service frameType encoded
  exact .of_same hstanding.admitted hstanding.connectionClosed hcarries.exchanges hcarries.isSome

theorem applyEffect_keys (externals : ConnectionExternals) (service : FakeCompanionService)
    (effect : AuthEffect) : service.Keys (service.applyEffect externals effect) := by
  cases effect with
  | send message =>
      have hnoted : service.Keys
          { service with
            exchanges := service.exchanges ++ (AuthEffect.send message).verifyEvent?.toList } :=
        .of_same rfl rfl (List.append_nil _) rfl
      exact hnoted.trans (sendToClient_keys _ _ _ _)
  | enableEncryption outputKey inputKey =>
      refine ⟨rfl, rfl, [.installed outputKey inputKey], rfl, ?_⟩
      simp [applyEffect, VerifyEvent.isInstalled]
  | beginVerify material =>
      exact ⟨rfl, rfl, [.began material], rfl, by simp [applyEffect, VerifyEvent.isInstalled]⟩
  | useVerify material =>
      exact ⟨rfl, rfl, [.used material], rfl, by simp [applyEffect, VerifyEvent.isInstalled]⟩
  | _ => exact .of_same rfl rfl (List.append_nil _) rfl

theorem applyEffects_keys (externals : ConnectionExternals) (service : FakeCompanionService)
    (effects : List AuthEffect) : service.Keys (service.applyEffects externals effects) := by
  induction effects generalizing service with
  | nil => exact .refl service
  | cons effect rest ih =>
      exact (applyEffect_keys externals service effect).trans
        (ih (service.applyEffect externals effect))

end FakeCompanionService

namespace BridgeConnection

/-- The same, of the protocol connection underneath. -/
def Keys (connection next : BridgeConnection) : Prop :=
  connection.service.Keys next.service

variable {externals : BridgeExternals} {connection middle next : BridgeConnection}

theorem Keys.trans (hfirst : connection.Keys middle) (hsecond : middle.Keys next) :
    connection.Keys next :=
  FakeCompanionService.Keys.trans hfirst hsecond

theorem closeConnection_keys (connection : BridgeConnection) :
    connection.Keys connection.closeConnection :=
  FakeCompanionService.closeConnection_keys connection.service

theorem malformedFrame_keys (connection : BridgeConnection) :
    connection.Keys connection.malformedFrame.1 := by
  unfold malformedFrame
  dsimp only
  split <;> exact .of_same rfl rfl rfl rfl

theorem submitDispatch_keys (connection : BridgeConnection) (answer : LaneAnswer)
    (command : Command) : connection.Keys (connection.submitDispatch answer command).1 := by
  unfold submitDispatch
  split
  · exact .refl connection.service
  · cases answer <;> exact .of_same rfl rfl rfl rfl

theorem dispatchSink_keys (connection : BridgeConnection) (answer : LaneAnswer)
    (command : Command) : connection.Keys (connection.dispatchSink answer command) := by
  unfold dispatchSink
  split
  · split
    · exact .refl connection.service
    · dsimp only
      split
      · exact submitDispatch_keys connection answer _
      · exact submitDispatch_keys connection answer _
  · split <;> exact .of_same rfl rfl rfl rfl
  · exact submitDispatch_keys connection answer command

instance : Std.Refl Keys where
  refl := fun connection => .refl connection.service

instance : IsTrans BridgeConnection Keys where
  trans := fun _ _ _ => .trans

instance (externals : BridgeExternals) : LoudRelation externals Keys where
  send := fun _ _ => FakeCompanionService.sendToClient_keys _ _ _ _
  session := fun connection _ => .refl connection.service
  state := fun connection _ => .refl connection.service
  owner := fun connection _ _ => .refl connection.service
  relay := fun connection _ => .refl connection.service
  sink := dispatchSink_keys
  report := malformedFrame_keys

/-! ## Every event -/

theorem handleMessage_keys (connection : BridgeConnection) (message : OpackValue)
    (inputs : BridgeInputs) :
    connection.Keys (connection.handleMessage externals message inputs).1 := by
  unfold handleMessage
  split
  · exact .refl connection.service
  · have hcounted : connection.Keys connection.countHandled := .of_same rfl rfl rfl rfl
    have hhandled : connection.countHandled.Keys _ :=
      @dispatchMessage_keeps externals Keys _ inputs message connection.countHandled
    split
    · rename_i hperform
      rw [hperform] at hhandled
      exact hcounted.trans hhandled
    · rename_i hperform
      rw [hperform] at hhandled
      exact (hcounted.trans hhandled).trans (malformedFrame_keys _)

theorem handleAuth_keys (connection : BridgeConnection) (frameType : FrameType)
    (message : OpackValue) (inputs : AuthInputs) :
    connection.Keys (connection.handleAuth externals frameType message inputs).1 := by
  unfold handleAuth
  dsimp only
  have hstart : ∀ auth, connection.service.Keys { connection.service with auth := auth } :=
    fun _ => .of_same rfl rfl rfl rfl
  have happlied := fun auth effects => (hstart auth).trans
    (FakeCompanionService.applyEffects_keys externals.connection
      { connection.service with auth := auth } effects)
  split
  · exact happlied _ _
  · exact (happlied _ _).trans (FakeCompanionService.closeConnection_keys _)

theorem handlePayload_keys (connection : BridgeConnection) (frameType : FrameType)
    (payload : Bytes) (inputs : BridgeInputs) :
    connection.Keys (connection.handlePayload externals frameType payload inputs).1 := by
  unfold handlePayload
  split
  · exact closeConnection_keys connection
  · split
    · exact malformedFrame_keys connection
    · split
      · exact handleAuth_keys connection frameType _ inputs.auth
      · split
        · exact malformedFrame_keys connection
        · exact handleMessage_keys connection _ inputs

theorem handleSealed_keys {cipher : Chacha20Cipher}
    (hcipher : connection.service.chacha = some cipher) (frameType : FrameType)
    (header payload : Bytes) (inputs : BridgeInputs) :
    connection.Keys
      (connection.handleSealed externals cipher frameType header payload inputs).1 := by
  have hreceived : ∀ frame, connection.Keys (connection.receiveFrame frame) :=
    fun _ => .of_same rfl rfl rfl rfl
  have hopened : connection.Keys (connection.openFrame externals cipher header payload).1 :=
    .of_same rfl rfl rfl (by rw [hcipher]; rfl)
  unfold handleSealed
  split
  · exact (hreceived _).trans (closeConnection_keys _)
  · split
    · exact hreceived _
    · split
      · rename_i hplain
        rw [hplain] at hopened
        exact hopened.trans (closeConnection_keys _)
      · rename_i hplain
        rw [hplain] at hopened
        exact hopened.trans (handlePayload_keys _ frameType _ inputs)

/-- A frame may install the cipher, and changes nothing else that admission looks at. -/
theorem handleFrame_keys (connection : BridgeConnection) (header payload : Bytes)
    (inputs : BridgeInputs) :
    connection.Keys (connection.handleFrame externals header payload inputs).1 := by
  unfold handleFrame
  split
  · exact malformedFrame_keys connection
  · split
    · have hreceived : connection.Keys (connection.receiveFrame (.refused header payload)) :=
        .of_same rfl rfl rfl rfl
      exact hreceived.trans (closeConnection_keys _)
    · split
      · exact closeConnection_keys connection
      · split
        · rename_i cipher hcipher
          exact handleSealed_keys hcipher _ header payload inputs
        · exact handlePayload_keys connection _ payload inputs

/-- The same of all frames of one chunk, by induction on the fuel of the parser. -/
theorem receive_keys (fuel : Nat) (connection : BridgeConnection) (incoming : Bytes)
    (inputs : Nat → BridgeInputs) :
    connection.Keys (connection.receive externals fuel incoming inputs).1 := by
  induction fuel generalizing connection incoming inputs with
  | zero => exact .refl connection.service
  | succ fuel ih =>
      have hparsed : ∀ parser, connection.Keys (connection.setParser parser) :=
        fun _ => .of_same rfl rfl rfl rfl
      unfold receive
      split
      · exact hparsed _
      · exact (hparsed _).trans (closeConnection_keys _)
      · rename_i parser header payload rest _
        have hhandled : connection.Keys ((connection.setParser parser).handleFrame externals header
            payload (inputs 0)).1 := (hparsed parser).trans (handleFrame_keys _ header payload _)
        dsimp only
        split
        · exact hhandled.trans (ih _ rest fun n => inputs (n + 1))
        · exact hhandled

/-- Every event that does not tear the connection down. -/
theorem step_keys (connection : BridgeConnection) {event : BridgeEvent}
    (hevent : event ≠ .connectionLost) :
    connection.Keys (connection.step externals event).1 := by
  -- only the loss of the connection gives anything back
  cases event with
  | dataReceived chunk inputs =>
      unfold step dataReceived
      dsimp only
      split
      · exact receive_keys _ connection chunk inputs
      · exact .refl connection.service
  | stateChanged state => exact .refl connection.service
  | systemStatus status =>
      unfold step pushSystemStatus
      dsimp only
      split
      · exact FakeCompanionService.sendToClient_keys _ connection.service _ _
      · exact .refl connection.service
  | imeStart =>
      unfold step imeStart
      dsimp only
      split
      · exact @setRtiFocusState_keeps externals Keys _ .focused
          { connection with session := { connection.session with rtiText := some "" } }
      · exact .refl connection.service
  | imeEnd =>
      unfold step imeEnd
      dsimp only
      split
      · exact @setRtiFocusState_keeps externals Keys _ .unfocused connection
      · exact .refl connection.service
  | closeConnection => exact closeConnection_keys connection
  | authenticationTimedOut =>
      unfold step authenticationTimedOut
      dsimp only
      split
      · exact closeConnection_keys connection
      · exact .refl connection.service
  | connectionLost => exact absurd rfl hevent

/-- Frames are only handled on a connection that was admitted. -/
theorem step_frames {event : BridgeEvent} (hrefused : connection.service.admitted = false) :
    (connection.step externals event).2 = [] := by
  cases event with
  | dataReceived chunk inputs =>
      have hinactive : connection.isConnectionActive = false := by
        simp [isConnectionActive, FakeCompanionService.isConnectionActive, hrefused]
      simp [step, dataReceived, hinactive]
  | _ => rfl

/-- The record of an event tells whether it installed the cipher. -/
theorem Keys.encryptionEnabled (h : connection.Keys next) :
    next.service.chacha.isSome =
      (connection.service.chacha.isSome || encryptionEnabled connection next) := by
  obtain ⟨exchange, hexchanges, hchacha⟩ := h.installed
  rw [hchacha, CompanionBridge.encryptionEnabled, hexchanges, List.drop_left]

end BridgeConnection

/-! ## The accounts -/

/-- A set of indices has as many members as a list has items of its kind. -/
theorem card_indices {Item : Type} {items : List Item} {condition : Item → Bool}
    {indices : Finset Nat}
    (hindices : ∀ index, index ∈ indices ↔
      ∃ item, items[index]? = some item ∧ condition item = true) :
    indices.card = items.countP condition := by
  let chosen := (items.zipIdx.filter fun entry => condition entry.1).map Prod.snd
  have hnodup : chosen.Nodup := by
    refine List.Nodup.sublist (List.filter_sublist.map Prod.snd) ?_
    rw [List.zipIdx_map_snd]
    exact List.nodup_range'
  have hchosen : indices = chosen.toFinset := by
    ext index
    rw [hindices, List.mem_toFinset, List.mem_map]
    constructor
    · rintro ⟨item, hitem, hcondition⟩
      refine ⟨(item, index), List.mem_filter.mpr ⟨?_, hcondition⟩, rfl⟩
      exact List.mem_zipIdx_iff_getElem?.mpr hitem
    · rintro ⟨⟨item, index⟩, hentry, rfl⟩
      obtain ⟨hmem, hcondition⟩ := List.mem_filter.mp hentry
      exact ⟨item, List.mem_zipIdx_iff_getElem?.mp hmem, hcondition⟩
  rw [hchosen, List.toFinset_card_of_nodup hnodup, List.length_map, ← List.countP_eq_length_filter]
  have hfirst : items.zipIdx.map Prod.fst = items := List.zipIdx_map_fst 0 items
  conv_rhs => rw [← hfirst, List.countP_map]
  rfl

/-- What a connection keeps: it is admitted while it is served, it gave back its
slot when it was torn down, and it handles frames only if it was granted one. -/
structure AdmissionPeer.Kept (peer : AdmissionPeer) : Prop where
  admitted : peer.connection.service.admitted = peer.isServed
  released : peer.released =
    if peer.isGranted = true ∧ peer.connection.service.connectionClosed = true then 1 else 0
  handled : peer.isGranted = false → peer.handled = []

namespace AdmissionServer

structure AdmissionInvariant (server : AdmissionServer) : Prop where
  maxConnections : server.admission.maxConnections = maxConnections
  maxUnauthenticated : server.admission.maxUnauthenticated = maxUnauthenticatedConnections
  bounded : server.admission.Bounded
  connections : ∀ index, index ∈ server.admission.connections ↔
    ∃ peer, server.peers[index]? = some peer ∧ peer.isServed = true
  unauthenticated : ∀ index, index ∈ server.admission.unauthenticated ↔
    ∃ peer, server.peers[index]? = some peer ∧ peer.isUnauthenticated = true
  kept : ∀ peer ∈ server.peers, peer.Kept

variable {externals : BridgeExternals} {server : AdmissionServer} {index : Nat}
  {peer : AdmissionPeer}

/-- The two sets of the admission say of each peer whether it is served and whether it is
still unauthenticated. -/
theorem AdmissionInvariant.mem_iff (h : server.AdmissionInvariant)
    (hpeer : server.peers[index]? = some peer) :
    (index ∈ server.admission.connections ↔ peer.isServed = true) ∧
      (index ∈ server.admission.unauthenticated ↔ peer.isUnauthenticated = true) := by
  rw [h.connections, h.unauthenticated, hpeer]
  simp

/-- Membership in a list of connections one of which was replaced. -/
theorem exists_set_iff (hpeer : server.peers[index]? = some peer) (next : AdmissionPeer)
    (condition : AdmissionPeer → Bool) (other : Nat) :
    (∃ peer, (server.peers.set index next)[other]? = some peer ∧ condition peer = true) ↔
      if other = index then condition next = true
      else ∃ peer, server.peers[other]? = some peer ∧ condition peer = true := by
  have hlength : index < server.peers.length := (List.getElem?_eq_some_iff.mp hpeer).1
  by_cases hother : other = index
  · subst hother
    simp [hlength]
  · simp [Ne.symm hother, hother]

/-- Replacing one connection, with an admission that changed for it alone. -/
theorem AdmissionInvariant.set (h : server.AdmissionInvariant)
    (hpeer : server.peers[index]? = some peer) {next : AdmissionPeer}
    {admission : ConnectionAdmission} (hkept : next.Kept)
    (hmax : admission.maxConnections = server.admission.maxConnections)
    (hmaxUnauthenticated :
      admission.maxUnauthenticated = server.admission.maxUnauthenticated)
    (hbounded : admission.Bounded)
    (hconnections : ∀ other, other ∈ admission.connections ↔
      if other = index then next.isServed = true else other ∈ server.admission.connections)
    (hunauthenticated : ∀ other, other ∈ admission.unauthenticated ↔
      if other = index then next.isUnauthenticated = true
      else other ∈ server.admission.unauthenticated) :
    AdmissionInvariant { admission := admission, peers := server.peers.set index next } where
  maxConnections := hmax.trans h.maxConnections
  maxUnauthenticated := hmaxUnauthenticated.trans h.maxUnauthenticated
  bounded := hbounded
  connections := by
    intro other
    rw [exists_set_iff hpeer, hconnections, h.connections]
  unauthenticated := by
    intro other
    rw [exists_set_iff hpeer, hunauthenticated, h.unauthenticated]
  kept := by
    intro other hother
    rcases List.mem_or_eq_of_mem_set hother with hmem | rfl
    · exact h.kept other hmem
    · exact hkept

/-- A peer that has only been created holds no place. -/
theorem AdmissionInvariant.created (h : server.AdmissionInvariant) (auth : CompanionServerAuth)
    (gestureConfig : GestureConfig) (holdConfig : DirectionalHoldConfig) (laneInstalled : Bool)
    (state : FakeCompanionState) :
    (server.step externals
      (.created auth gestureConfig holdConfig laneInstalled state)).AdmissionInvariant := by
  -- The new peer is last in the list and neither served nor unauthenticated.
  have hsame : ∀ (condition : AdmissionPeer → Bool) (new : AdmissionPeer),
      condition new = false → ∀ index : Nat,
      (∃ peer, (server.peers ++ [new])[index]? = some peer ∧ condition peer = true) ↔
        ∃ peer, server.peers[index]? = some peer ∧ condition peer = true := by
    intro condition new hnew index
    constructor
    · rintro ⟨peer, hpeer, hcondition⟩
      rw [List.getElem?_append] at hpeer
      split at hpeer
      · exact ⟨peer, hpeer, hcondition⟩
      · have hlast := List.mem_of_getElem? hpeer
        rw [List.mem_singleton.mp hlast, hnew] at hcondition
        exact absurd hcondition Bool.false_ne_true
    · rintro ⟨peer, hpeer, hcondition⟩
      refine ⟨peer, ?_, hcondition⟩
      rw [List.getElem?_append_left (List.getElem?_eq_some_iff.mp hpeer).1]
      exact hpeer
  refine ⟨h.maxConnections, h.maxUnauthenticated, h.bounded, ?_, ?_, ?_⟩
  · exact fun index => (h.connections index).trans (hsame _ _ rfl index).symm
  · exact fun index => (h.unauthenticated index).trans (hsame _ _ rfl index).symm
  · intro peer hpeer
    rcases List.mem_append.mp hpeer with hearlier | hlast
    · exact h.kept peer hearlier
    · rw [List.mem_singleton.mp hlast]
      exact ⟨rfl, rfl, fun _ => rfl⟩

/-- `connection_made` answers a fresh peer once, and the sets follow the answer. -/
theorem AdmissionInvariant.connectionMade (h : server.AdmissionInvariant)
    (hpeer : server.peers[index]? = some peer) (hfresh : peer.answer = none) :
    (server.connectionMade index peer).AdmissionInvariant := by
  have hkept := h.kept peer (List.mem_of_getElem? hpeer)
  have hgranted : peer.isGranted = false := by simp [AdmissionPeer.isGranted, hfresh]
  have hreleased : peer.released = 0 := by simp [hkept.released, hgranted]
  obtain ⟨hserved, hplain⟩ := h.mem_iff hpeer
  have hnew : index ∉ server.admission.connections := by
    rw [hserved]
    simp [AdmissionPeer.isServed, hgranted]
  have hnew' : index ∉ server.admission.unauthenticated := by
    rw [hplain]
    simp [AdmissionPeer.isUnauthenticated, AdmissionPeer.isServed, hgranted]
  unfold AdmissionServer.connectionMade
  dsimp only
  -- Either a limit refuses the peer, and no set changes, or both sets take it in.
  rcases server.admission.acquire_cases hnew with ⟨reason, hacquire⟩ | ⟨-, -, hacquire⟩
  · rw [hacquire]
    refine h.set hpeer ⟨rfl, hreleased, fun _ => hkept.handled hgranted⟩ rfl rfl h.bounded ?_ ?_
    · intro other
      split
      · rename_i hother
        simp [hother, hnew, AdmissionPeer.isServed, AdmissionPeer.isGranted]
      · rfl
    · intro other
      split
      · rename_i hother
        simp [hother, hnew', AdmissionPeer.isUnauthenticated, AdmissionPeer.isServed,
          AdmissionPeer.isGranted]
      · rfl
  · have hbounded := h.bounded.acquire hnew
    rw [hacquire] at hbounded ⊢
    refine h.set hpeer ⟨rfl, hreleased, ?_⟩ rfl rfl hbounded ?_ ?_
    · simp [AdmissionPeer.isGranted]
    · intro other
      split
      · rename_i hother
        simp [hother, AdmissionPeer.isServed, AdmissionPeer.isGranted,
          BridgeConnection.connectionMade, FakeCompanionService.connectionMade]
      · rename_i hother
        simp [hother]
    · intro other
      split
      · rename_i hother
        simp [hother, AdmissionPeer.isUnauthenticated, AdmissionPeer.isServed,
          AdmissionPeer.isGranted, BridgeConnection.connectionMade,
          FakeCompanionService.connectionMade]
      · rename_i hother
        simp [hother]

/-- The first teardown gives the place back, and a second one does nothing. -/
theorem AdmissionInvariant.teardownConnection (h : server.AdmissionInvariant)
    (hpeer : server.peers[index]? = some peer) :
    (server.teardownConnection index peer).AdmissionInvariant := by
  unfold AdmissionServer.teardownConnection
  split
  · exact h
  · rename_i hopen
    have hkept := h.kept peer (List.mem_of_getElem? hpeer)
    have hclosed : peer.connection.connectionLost.service.connectionClosed = true := by
      simp [BridgeConnection.connectionLost, hopen, FakeCompanionService.teardownConnection]
    have hadmitted : peer.connection.connectionLost.service.admitted = false := by
      simp [BridgeConnection.connectionLost, hopen, FakeCompanionService.teardownConnection]
    refine h.set hpeer ⟨?_, ?_, hkept.handled⟩ rfl rfl (h.bounded.release index) ?_ ?_
    · simp [hadmitted, AdmissionPeer.isServed, hclosed]
    -- A connection that is still open has not given its place back.
    · have hbefore : peer.released = 0 := by simp [hkept.released, hopen]
      have hmember : index ∈ server.admission.connections ↔ peer.isGranted = true := by
        rw [(h.mem_iff hpeer).1]
        simp [AdmissionPeer.isServed, hopen]
      simp only [hbefore, hmember, hclosed, and_true, Nat.zero_add]
      rfl
    · intro other
      split
      · rename_i hother
        simp [hother, ConnectionAdmission.release, AdmissionPeer.isServed, hclosed]
      · rename_i hother
        simp [hother, ConnectionAdmission.release]
    · intro other
      split
      · rename_i hother
        simp [hother, ConnectionAdmission.release, AdmissionPeer.isUnauthenticated,
          AdmissionPeer.isServed, hclosed]
      · rename_i hother
        simp [hother, ConnectionAdmission.release]

/-- An event moves a peer from the unauthenticated to the authenticated exactly when it
installs the cipher. -/
theorem AdmissionInvariant.handle (h : server.AdmissionInvariant)
    (hpeer : server.peers[index]? = some peer) {event : BridgeEvent}
    (hevent : event ≠ .connectionLost) :
    (server.handle externals index peer event).AdmissionInvariant := by
  have hkept := h.kept peer (List.mem_of_getElem? hpeer)
  have hkeys : peer.connection.Keys (peer.connection.step externals event).1 :=
    BridgeConnection.step_keys peer.connection hevent
  have hcipher := hkeys.encryptionEnabled
  obtain ⟨hserved, hplain⟩ := h.mem_iff hpeer
  unfold AdmissionServer.handle
  dsimp only
  generalize hnext : ({ peer with
    connection := (peer.connection.step externals event).1
    handled := peer.handled ++ (peer.connection.step externals event).2 } : AdmissionPeer) = next
  have hgranted : next.isGranted = peer.isGranted := by
    rw [← hnext]
    rfl
  have hclosed : next.connection.service.connectionClosed =
      peer.connection.service.connectionClosed := by
    rw [← hnext]
    exact hkeys.connectionClosed
  have hservedNext : next.isServed = peer.isServed := by
    rw [AdmissionPeer.isServed, hgranted, hclosed, AdmissionPeer.isServed]
  have hkeptNext : next.Kept := by
    refine ⟨?_, ?_, ?_⟩
    · rw [hservedNext, ← hkept.admitted, ← hnext]
      exact hkeys.admitted
    · rw [hgranted, hclosed, ← hkept.released, ← hnext]
    · intro hnot
      -- A peer that was not granted is not served, so its frames are not looked at.
      have hrefused : peer.connection.service.admitted = false := by
        rw [hkept.admitted, AdmissionPeer.isServed, ← hgranted, hnot, Bool.false_and]
      rw [← hnext]
      show peer.handled ++ _ = []
      rw [hkept.handled (hgranted ▸ hnot), BridgeConnection.step_frames hrefused]
      rfl
  -- The cipher is there afterwards if it was there before or this event installed it.
  have hcipherNext : next.connection.service.chacha.isSome =
      (peer.connection.service.chacha.isSome ||
        encryptionEnabled peer.connection (peer.connection.step externals event).1) := by
    rw [← hnext]
    exact hcipher
  split
  · rename_i henabled
    rw [henabled, Bool.or_true] at hcipherNext
    refine h.set hpeer hkeptNext rfl rfl (h.bounded.authenticated index) ?_ ?_
    · intro other
      split
      · rename_i hother
        rw [hother, hservedNext]
        exact hserved
      · rfl
    · intro other
      split
      · rename_i hother
        simp [hother, ConnectionAdmission.authenticated, AdmissionPeer.isUnauthenticated,
          Option.isNone_eq_false_iff.mpr hcipherNext]
      · rename_i hother
        simp [hother, ConnectionAdmission.authenticated]
  · rename_i hquiet
    rw [Bool.not_eq_true] at hquiet
    rw [hquiet, Bool.or_false] at hcipherNext
    have hplainNext : next.isUnauthenticated = peer.isUnauthenticated := by
      rw [AdmissionPeer.isUnauthenticated, hservedNext, ← Option.not_isSome, hcipherNext,
        Option.not_isSome, AdmissionPeer.isUnauthenticated]
    refine h.set hpeer hkeptNext rfl rfl h.bounded ?_ ?_
    · intro other
      split
      · rename_i hother
        rw [hother, hservedNext]
        exact hserved
      · rfl
    · intro other
      split
      · rename_i hother
        rw [hother, hplainNext]
        exact hplain
      · rfl

/-- A shutdown ends the dispatch session and tears the connection down. -/
theorem AdmissionInvariant.shutdown (h : server.AdmissionInvariant)
    (hpeer : server.peers[index]? = some peer) :
    (server.shutdown index peer).AdmissionInvariant := by
  have hkept := h.kept peer (List.mem_of_getElem? hpeer)
  obtain ⟨hserved, hplain⟩ := h.mem_iff hpeer
  unfold AdmissionServer.shutdown
  dsimp only
  generalize hquieted : ({ peer with
    connection := peer.connection.invalidateRepeaters.endDispatchSession } : AdmissionPeer) =
      quieted
  have hkeptNext : quieted.Kept := by
    rw [← hquieted]
    exact ⟨hkept.admitted, hkept.released, hkept.handled⟩
  have hset : AdmissionInvariant { server with peers := server.peers.set index quieted } := by
    refine h.set hpeer hkeptNext rfl rfl h.bounded ?_ ?_
    · intro other
      split
      · rename_i hother
        rw [hother, ← hquieted]
        exact hserved
      · rfl
    · intro other
      split
      · rename_i hother
        rw [hother, ← hquieted]
        exact hplain
      · rfl
  apply hset.teardownConnection
  simp [(List.getElem?_eq_some_iff.mp hpeer).1]

/-- Each label keeps the invariant, with one case for each label. -/
theorem AdmissionInvariant.step (h : server.AdmissionInvariant) (label : AdmissionLabel) :
    (server.step externals label).AdmissionInvariant := by
  cases label with
  | created auth gestureConfig holdConfig laneInstalled state =>
      exact h.created auth gestureConfig holdConfig laneInstalled state
  | connectionMade index =>
      unfold AdmissionServer.step
      dsimp only
      split
      · exact h
      · rename_i peer hpeer
        split
        · exact h
        · rename_i hfresh
          exact h.connectionMade hpeer (by simpa using hfresh)
  | event index event =>
      unfold AdmissionServer.step
      dsimp only
      split
      · exact h
      · rename_i peer hpeer
        split
        · exact h.teardownConnection hpeer
        · rename_i hevent
          exact h.handle hpeer hevent
  | shutdown index =>
      unfold AdmissionServer.step
      dsimp only
      split
      · exact h
      · rename_i peer hpeer
        exact h.shutdown hpeer

/-- A server without peers. -/
theorem empty_invariant : AdmissionInvariant {} := by
  refine ⟨rfl, rfl, ⟨?_, ?_⟩, ?_, ?_, ?_⟩ <;>
    simp [ConnectionAdmission.connectionCount, ConnectionAdmission.unauthenticatedCount]

/-- The invariant holds in every state of every run. -/
theorem AdmissionInvariant.run (h : server.AdmissionInvariant) (labels : List AdmissionLabel) :
    (server.run externals labels).AdmissionInvariant := by
  induction labels generalizing server with
  | nil => exact h
  | cons label rest ih => exact ih (h.step label)

/-! ## What the counts say -/

/-- The admission accounts for the connections of a server, and the next event
gives back a slot only as it should. -/
structure Accounted (externals : BridgeExternals) (server : AdmissionServer) : Prop where
  total : server.admission.connectionCount = server.peers.countP AdmissionPeer.isServed
  unauthenticated :
    server.admission.unauthenticatedCount = server.peers.countP AdmissionPeer.isUnauthenticated
  totalBounded : server.admission.connectionCount ≤ 16
  unauthenticatedBounded : server.admission.unauthenticatedCount ≤ 8
  released : ∀ peer ∈ server.peers, peer.released =
    if peer.isGranted = true ∧ peer.connection.service.connectionClosed = true then 1 else 0
  tornDown : ∀ label index peer, label = .shutdown index ∨ label = .event index .connectionLost →
    (server.step externals label).peers[index]? = some peer →
    peer.connection.service.connectionClosed = true
  refused : ∀ peer ∈ server.peers, peer.isRefused = true → peer.handled = []
  unchanged : ∀ label index peer, label.peer? = some index →
    (server.step externals label).peers[index]? = some peer → peer.isRefused = true →
    (server.step externals label).admission = server.admission

theorem isGranted_of_refused (hrefused : peer.isRefused = true) : peer.isGranted = false := by
  unfold AdmissionPeer.isRefused at hrefused
  unfold AdmissionPeer.isGranted
  cases hanswer : peer.answer with
  | none => simp
  | some reason =>
      rw [hanswer] at hrefused
      cases reason with
      | none => exact absurd hrefused (by simp)
      | some reason => simp

/-- A refused connection has no slot to give back. -/
theorem AdmissionInvariant.outside (h : server.AdmissionInvariant)
    (hpeer : server.peers[index]? = some peer) (hrefused : peer.isRefused = true) :
    server.admission.release index = server.admission ∧
      server.admission.authenticated index = server.admission := by
  obtain ⟨hserved, hplain⟩ := h.mem_iff hpeer
  have hgranted := isGranted_of_refused hrefused
  have hconnections : index ∉ server.admission.connections := by
    rw [hserved]
    simp [AdmissionPeer.isServed, hgranted]
  have hunauthenticated : index ∉ server.admission.unauthenticated := by
    rw [hplain]
    simp [AdmissionPeer.isUnauthenticated, AdmissionPeer.isServed, hgranted]
  unfold ConnectionAdmission.release ConnectionAdmission.authenticated
  rw [Finset.erase_eq_of_notMem hconnections, Finset.erase_eq_of_notMem hunauthenticated]
  exact ⟨rfl, rfl⟩

theorem getElem?_set_same (hpeer : server.peers[index]? = some peer) (next : AdmissionPeer) :
    (server.peers.set index next)[index]? = some next := by
  simp [(List.getElem?_eq_some_iff.mp hpeer).1]

/-- What a teardown makes of its connection. -/
theorem teardownConnection_cases (hpeer : server.peers[index]? = some peer) :
    ∃ next, (server.teardownConnection index peer).peers[index]? = some next ∧
      next.connection.service.connectionClosed = true ∧ next.answer = peer.answer ∧
      ((server.teardownConnection index peer).admission = server.admission ∨
        (server.teardownConnection index peer).admission = server.admission.release index) := by
  unfold AdmissionServer.teardownConnection
  split
  · rename_i hclosed
    exact ⟨peer, hpeer, hclosed, rfl, Or.inl rfl⟩
  · rename_i hopen
    refine ⟨_, getElem?_set_same hpeer _, ?_, rfl, Or.inr rfl⟩
    simp [BridgeConnection.connectionLost, hopen, FakeCompanionService.teardownConnection]

/-- A shutdown closes the connection, keeps the answer it had and releases at most its own
place. -/
theorem shutdown_cases (hpeer : server.peers[index]? = some peer) :
    ∃ next, (server.shutdown index peer).peers[index]? = some next ∧
      next.connection.service.connectionClosed = true ∧ next.answer = peer.answer ∧
      ((server.shutdown index peer).admission = server.admission ∨
        (server.shutdown index peer).admission = server.admission.release index) := by
  let quieted : AdmissionPeer :=
    { peer with connection := peer.connection.invalidateRepeaters.endDispatchSession }
  have hquieted := getElem?_set_same hpeer quieted
  exact @teardownConnection_cases { server with peers := server.peers.set index quieted } index
    quieted hquieted

/-- A connection is closed once it was lost or shut down. -/
theorem step_tornDown {label : AdmissionLabel}
    (hlabel : label = .shutdown index ∨ label = .event index .connectionLost)
    (hnext : (server.step externals label).peers[index]? = some peer) :
    peer.connection.service.connectionClosed = true := by
  cases hserved : server.peers[index]? with
  | none =>
      have hsame : server.step externals label = server := by
        rcases hlabel with rfl | rfl <;> simp [AdmissionServer.step, hserved]
      rw [hsame, hserved] at hnext
      exact absurd hnext (by simp)
  | some served =>
      rcases hlabel with rfl | rfl
      · obtain ⟨next, hget, hclosed, -⟩ := shutdown_cases hserved
        simp only [AdmissionServer.step, hserved] at hnext
        rw [hget, Option.some.injEq] at hnext
        exact hnext ▸ hclosed
      · obtain ⟨next, hget, hclosed, -⟩ := teardownConnection_cases hserved
        simp only [AdmissionServer.step, hserved] at hnext
        rw [hget, Option.some.injEq] at hnext
        exact hnext ▸ hclosed

/-- An event of a refused connection leaves the admission as it is. -/
theorem AdmissionInvariant.unchanged (h : server.AdmissionInvariant) {label : AdmissionLabel}
    (hlabel : label.peer? = some index)
    (hnext : (server.step externals label).peers[index]? = some peer)
    (hrefused : peer.isRefused = true) :
    (server.step externals label).admission = server.admission := by
  have hcarried : ∀ served : AdmissionPeer, peer.answer = served.answer →
      served.isRefused = true := by
    intro served hanswer
    rw [AdmissionPeer.isRefused, ← hanswer]
    exact hrefused
  cases label with
  | created auth gestureConfig holdConfig laneInstalled state =>
      exact absurd hlabel (by simp [AdmissionLabel.peer?])
  | connectionMade other =>
      obtain rfl : other = index := Option.some.inj hlabel
      cases hserved : server.peers[other]? with
      | none => simp [AdmissionServer.step, hserved]
      | some served =>
          simp only [AdmissionServer.step, hserved] at hnext ⊢
          split at hnext
          · rename_i hanswered
            rw [if_pos hanswered]
          · rename_i hfresh
            rw [if_neg hfresh]
            have hnew : other ∉ server.admission.connections := by
              rw [(h.mem_iff hserved).1]
              simp [AdmissionPeer.isServed, AdmissionPeer.isGranted,
                Option.not_isSome_iff_eq_none.mp hfresh]
            unfold AdmissionServer.connectionMade at hnext ⊢
            -- A granted peer is not refused, so only the first case is left.
            rcases server.admission.acquire_cases hnew with
              ⟨reason, hacquire⟩ | ⟨-, -, hacquire⟩
            · rw [hacquire]
            · dsimp only at hnext
              rw [getElem?_set_same hserved, Option.some.injEq, hacquire] at hnext
              rw [← hnext] at hrefused
              exact absurd hrefused (by simp [AdmissionPeer.isRefused])
  | event other event =>
      obtain rfl : other = index := Option.some.inj hlabel
      cases hserved : server.peers[other]? with
      | none => simp [AdmissionServer.step, hserved]
      | some served =>
          simp only [AdmissionServer.step, hserved] at hnext ⊢
          split at hnext
          · obtain ⟨next, hget, -, hanswer, hadmission⟩ := teardownConnection_cases hserved
            rw [hget, Option.some.injEq] at hnext
            have hsame := (h.outside hserved (hcarried served (hnext ▸ hanswer))).1
            rw [hsame, or_self] at hadmission
            exact hadmission
          · unfold AdmissionServer.handle at hnext ⊢
            dsimp only at hnext ⊢
            rw [getElem?_set_same hserved, Option.some.injEq] at hnext
            have hsame := (h.outside hserved (hcarried served (by rw [← hnext]))).2
            rw [hsame, ite_self]
  | shutdown other =>
      obtain rfl : other = index := Option.some.inj hlabel
      cases hserved : server.peers[other]? with
      | none => simp [AdmissionServer.step, hserved]
      | some served =>
          simp only [AdmissionServer.step, hserved] at hnext ⊢
          obtain ⟨next, hget, -, hanswer, hadmission⟩ := shutdown_cases hserved
          rw [hget, Option.some.injEq] at hnext
          have hsame := (h.outside hserved (hcarried served (hnext ▸ hanswer))).1
          rw [hsame, or_self] at hadmission
          exact hadmission

/-- In every interleaving of the connections' events the admission accounts for
the admitted connections that are not torn down. -/
theorem admission_accounting (externals : BridgeExternals) (labels : List AdmissionLabel) :
    (run externals {} labels).Accounted externals := by
  have h : (run externals {} labels).AdmissionInvariant := empty_invariant.run labels
  refine ⟨card_indices h.connections, card_indices h.unauthenticated, ?_, ?_, ?_, ?_, ?_, ?_⟩
  · exact h.bounded.connections.trans_eq h.maxConnections
  · exact h.bounded.unauthenticated.trans_eq h.maxUnauthenticated
  · exact fun peer hpeer => (h.kept peer hpeer).released
  · exact fun label index peer hlabel hnext => step_tornDown hlabel hnext
  · exact fun peer hpeer hrefused => (h.kept peer hpeer).handled (isGranted_of_refused hrefused)
  · exact fun label index peer hlabel hnext hrefused => h.unchanged hlabel hnext hrefused

end AdmissionServer

end CompanionBridge
