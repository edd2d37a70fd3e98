import CompanionBridge.Protocol.AuthPhases
import CompanionBridge.Protocol.SetupAttempts
import CompanionBridge.Protocol.SetupSessions

/-!
# The PIN-guess budget

The connections of one server share the limiter of pair-setup starts. The answers
of the failure limiter, which can only refuse, are inputs of a frame like the
pairing window is. `log` and `sessions` are bookkeeping the source does not have:
what was spent, in order, and the number of the next SRP session.
-/

namespace CompanionBridge

inductive SetupEvent where
  | admitted (key : String) (time : ℚ)
  | allocated (serial : Nat)
  | proved (serial : Nat)
  deriving DecidableEq

/-- A connection, with the source its peer address names. -/
structure SetupPeer where
  source : Option String
  auth : CompanionServerAuth

structure SetupServer where
  attempts : PairSetupAttemptLimiter := {}
  peers : Nat → Option SetupPeer := fun _ => none
  /-- The last reading of the clock. -/
  clock : ℚ
  sessions : Nat := 0
  log : List SetupEvent := []

inductive SetupLabel where
  | connectionMade (peer : Nat) (source : Option String) (auth : CompanionServerAuth)
  /-- An authentication frame, and the salt of the SRP session if one can be made. -/
  | frame (peer : Nat) (now : ℚ) (frameType : FrameType) (pairingBlob : Option Bytes)
      (salt : Option Bytes) (inputs : AuthInputs)
  | connectionLost (peer : Nat)

namespace SetupServer

/-- What an effect of a frame is in the log. -/
def noted (source : Option String) (now : ℚ) (allowed : Bool) : AuthEffect → List SetupEvent
  | .takeAdmission => if allowed then [.admitted (sourceKey source) now] else []
  | .allocateSession serial => [.allocated serial]
  | .verifyProof serial => [.proved serial]
  | _ => []

/-- Hand an authentication frame to its connection. -/
def handleFrame (crypto : AuthCrypto) (info : Bytes) (server : SetupServer) (peer : Nat)
    (held : SetupPeer) (now : ℚ) (frameType : FrameType) (pairingBlob : Option Bytes)
    (salt : Option Bytes) (inputs : AuthInputs) : SetupServer :=
  let admission := server.attempts.admitAttempt held.source now
  let reply := held.auth.handleAuthFrame crypto info
    { inputs with
      admission := admission.2
      session := salt.map fun salt => (server.sessions, salt) } frameType pairingBlob
  { attempts := if .takeAdmission ∈ reply.effects then admission.1 else server.attempts
    peers := Function.update server.peers peer (some { held with auth := reply.auth })
    clock := now
    sessions := server.sessions + reply.effects.count (.allocateSession server.sessions)
    log := server.log ++ reply.effects.flatMap (noted held.source now admission.2.allowed) }

def step (crypto : AuthCrypto) (info : Bytes) (server : SetupServer) :
    SetupLabel → Option SetupServer
  | .connectionMade peer source auth =>
      if (server.peers peer).isSome then none
      else
        some
          { server with
            peers := Function.update server.peers peer
              (some { source := source, auth := auth.resetAuthenticationState false }) }
  | .frame peer now frameType pairingBlob salt inputs =>
      -- the clock does not go back
      if now < server.clock then none
      else
        (server.peers peer).map fun held =>
          server.handleFrame crypto info peer held now frameType pairingBlob salt inputs
  | .connectionLost peer =>
      if (server.peers peer).isSome then
        some { server with peers := Function.update server.peers peer none }
      else none

/-! ## The log -/

def admittedIn (log : List SetupEvent) : List (String × ℚ) :=
  log.filterMap fun event =>
    match event with
    | .admitted key time => some (key, time)
    | _ => none

def allocatedIn (log : List SetupEvent) : List Nat :=
  log.filterMap fun event =>
    match event with
    | .allocated serial => some serial
    | _ => none

def provedIn (log : List SetupEvent) : List Nat :=
  log.filterMap fun event =>
    match event with
    | .proved serial => some serial
    | _ => none

/-- Every session was allocated on an admitted start of its own. -/
def Paid (log : List SetupEvent) : Prop :=
  ∀ before serial after, log = before ++ .allocated serial :: after →
    ∃ earlier key time, before = earlier ++ [.admitted key time]

/-- What is spent stays within the budget, and starts stay counted. -/
structure PinGuessBudget (server : SetupServer) : Prop where
  paid : Paid server.log
  counted : ∃ cutoff ≤ server.clock - 60, server.attempts.Counts (admittedIn server.log) cutoff
  windows : PairSetupAttemptLimiter.WithinWindows (admittedIn server.log)
  proved : ∀ serial ∈ provedIn server.log, serial ∈ allocatedIn server.log
  provedOnce : (provedIn server.log).Nodup
  proofs : (provedIn server.log).length ≤ (allocatedIn server.log).length

/-- What a log admits, cut anywhere. -/
theorem admittedIn_append (early late : List SetupEvent) :
    admittedIn (early ++ late) = admittedIn early ++ admittedIn late :=
  List.filterMap_append

theorem allocatedIn_append (early late : List SetupEvent) :
    allocatedIn (early ++ late) = allocatedIn early ++ allocatedIn late :=
  List.filterMap_append

theorem provedIn_append (early late : List SetupEvent) :
    provedIn (early ++ late) = provedIn early ++ provedIn late :=
  List.filterMap_append

/-- A session is allocated right after its attempt was admitted. -/
theorem Paid.snoc {log : List SetupEvent} (hpaid : Paid log) {event : SetupEvent}
    (hevent : ∀ serial, event = .allocated serial →
      ∃ earlier key time, log = earlier ++ [.admitted key time]) : Paid (log ++ [event]) := by
  intro before serial after hsplit
  induction after using List.reverseRecOn with
  | nil =>
      obtain ⟨hbefore, hlast⟩ := List.append_inj' hsplit rfl
      rw [← hbefore]
      exact hevent serial (List.cons.inj hlast).1
  | append_singleton after last _ =>
      rw [← List.cons_append, ← List.append_assoc] at hsplit
      exact hpaid before serial after (List.append_inj' hsplit rfl).1

/-! ## One frame -/

/-- The start a frame of this source finds admitted. -/
def startEvents (server : SetupServer) (source : Option String) (now : ℚ) : List SetupEvent :=
  if (server.attempts.admitAttempt source now).2.allowed then [.admitted (sourceKey source) now]
  else []

/-- The server after a frame that left its connection with an exchange. -/
def answered (server : SetupServer) (peer : Nat) (held : SetupPeer) (now : ℚ)
    (auth : CompanionServerAuth) : SetupServer :=
  { server with
    peers := Function.update server.peers peer (some { held with auth := auth })
    clock := now }

/-- What a frame spends of the budget of its server. -/
inductive FrameStep (server : SetupServer) (peer : Nat) (held : SetupPeer) (now : ℚ)
    (auth : CompanionServerAuth) (next : SetupServer) : Prop
  | nothing (hnext : next = server.answered peer held now auth)
      (hopen : auth.openSession = none ∨ auth.openSession = held.auth.openSession)
  | start (hnext : next =
      { server.answered peer held now auth with
        attempts := (server.attempts.admitAttempt held.source now).1
        log := server.log ++ server.startEvents held.source now })
      (hopen : auth.openSession = none)
  | session (hallowed : (server.attempts.admitAttempt held.source now).2.allowed = true)
      (hnext : next =
        { server.answered peer held now auth with
          attempts := (server.attempts.admitAttempt held.source now).1
          sessions := server.sessions + 1
          log := server.log ++
            [.admitted (sourceKey held.source) now, .allocated server.sessions] })
      (hopen : auth.openSession = none ∨ auth.openSession = some server.sessions)
  | proof (serial : Nat) (hserial : held.auth.openSession = some serial)
      (hnext : next =
        { server.answered peer held now auth with log := server.log ++ [.proved serial] })
      (hopen : auth.openSession = none)

/-- Effects that spend nothing leave no trace in the log. -/
theorem flatMap_noted (source : Option String) (now : ℚ) (allowed : Bool)
    (effects : List AuthEffect) :
    effects.flatMap (noted source now allowed) =
      (effects.filter AuthEffect.isSpending).flatMap (noted source now allowed) := by
  induction effects with
  | nil => rfl
  | cons effect rest ih =>
      rw [List.flatMap_cons, ih, List.filter_cons]
      cases effect <;> rfl

/-- One frame of one peer, as a step of the server. -/
theorem handleFrame_step (crypto : AuthCrypto) (info : Bytes) (server : SetupServer) (peer : Nat)
    (held : SetupPeer) (now : ℚ) (frameType : FrameType) (pairingBlob salt : Option Bytes)
    (inputs : AuthInputs) :
    ∃ auth, FrameStep server peer held now auth
      (server.handleFrame crypto info peer held now frameType pairingBlob salt inputs) := by
  have hspending := CompanionServerAuth.handleAuthFrame_spending crypto info held.auth
    { inputs with
      admission := (server.attempts.admitAttempt held.source now).2
      session := salt.map fun salt => (server.sessions, salt) } frameType pairingBlob
  unfold handleFrame
  dsimp only
  -- the reply matters only through what it spends
  generalize held.auth.handleAuthFrame crypto info
    { inputs with
      admission := (server.attempts.admitAttempt held.source now).2
      session := salt.map fun salt => (server.sessions, salt) } frameType pairingBlob = reply
    at hspending ⊢
  have hcount : reply.effects.count (.allocateSession server.sessions) =
      reply.spent.count (.allocateSession server.sessions) := by
    rw [HandlerReply.spent, List.count_filter rfl]
  have htaken : AuthEffect.takeAdmission ∈ reply.effects ↔
      AuthEffect.takeAdmission ∈ reply.spent := by
    simp [HandlerReply.spent, AuthEffect.isSpending]
  rw [flatMap_noted, ← HandlerReply.spent, hcount]
  simp only [htaken]
  refine ⟨reply.auth, ?_⟩
  cases hspending with
  | nothing hspent hopen =>
      rw [hspent]
      refine .nothing ?_ hopen
      simp [answered]
  | start hspent hopen =>
      rw [hspent]
      refine .start ?_ hopen
      simp [answered, startEvents, noted]
  | session serial salt' hallowed hsession hspent hopen =>
      obtain ⟨_, _, hsame⟩ := Option.map_eq_some_iff.mp hsession
      obtain ⟨rfl, rfl⟩ := Prod.mk.inj hsame
      rw [hspent]
      refine .session hallowed ?_ hopen
      dsimp only at hallowed
      simp [answered, noted, hallowed]
  | proof serial hserial hspent hopen =>
      rw [hspent]
      refine .proof serial hserial ?_ hopen
      simp [answered, noted]

/-! ## Admitted starts -/

/-- The limiter counts the admitted starts of the last minute, which keep within
its limits. -/
structure Admitting (server : SetupServer) : Prop where
  counted : ∃ cutoff ≤ server.clock - 60, server.attempts.Counts (admittedIn server.log) cutoff
  past : ∀ record ∈ admittedIn server.log, record.2 ≤ server.clock
  windows : PairSetupAttemptLimiter.WithinWindows (admittedIn server.log)

variable {server next : SetupServer} {peer : Nat} {held : SetupPeer} {now : ℚ}
  {auth : CompanionServerAuth}

/-- Later, and with nothing admitted in between. -/
theorem Admitting.later (h : server.Admitting) (hnow : server.clock ≤ now)
    (hattempts : next.attempts = server.attempts) (hclock : next.clock = now)
    (hlog : admittedIn next.log = admittedIn server.log) : next.Admitting where
  counted := by
    obtain ⟨cutoff, hcutoff, hcounts⟩ := h.counted
    rw [hattempts, hclock, hlog]
    exact ⟨cutoff, by linarith, hcounts⟩
  past := by
    rw [hlog, hclock]
    exact fun record hrecord => (h.past record hrecord).trans hnow
  windows := by
    rw [hlog]
    exact h.windows

/-- A decision of the limiter, and the start it admits. -/
theorem Admitting.decided (h : server.Admitting) (hnow : server.clock ≤ now)
    {source : Option String}
    (hattempts : next.attempts = (server.attempts.admitAttempt source now).1)
    (hclock : next.clock = now)
    (hlog : admittedIn next.log =
      admittedIn server.log ++ server.attempts.admittedBy source now) : next.Admitting := by
  obtain ⟨cutoff, hcutoff, hcounts⟩ := h.counted
  have hpast : ∀ record ∈ admittedIn server.log, record.2 ≤ now :=
    fun record hrecord => (h.past record hrecord).trans hnow
  have hdecided := @PairSetupAttemptLimiter.Counts.admitAttempt _ _ _ now source hcounts h.windows
    (by linarith) hpast
  constructor
  · rw [hattempts, hclock, hlog]
    exact ⟨now - 60, le_refl _, hdecided.1⟩
  · rw [hlog, hclock]
    intro record hrecord
    obtain hearlier | hadmitted := List.mem_append.mp hrecord
    · exact hpast record hearlier
    · unfold PairSetupAttemptLimiter.admittedBy at hadmitted
      split at hadmitted
      · rw [List.mem_singleton.mp hadmitted]
      · cases hadmitted
  · rw [hlog]
    exact hdecided.2

/-- What starting a setup logs is what the limiter admits. -/
theorem admittedIn_startEvents (server : SetupServer) (source : Option String) (now : ℚ) :
    admittedIn (server.startEvents source now) = server.attempts.admittedBy source now := by
  unfold startEvents PairSetupAttemptLimiter.admittedBy
  split <;> rfl

/-- A frame moves the clock and records at most one attempt. -/
theorem Admitting.frame (h : server.Admitting) (hnow : server.clock ≤ now)
    (hstep : FrameStep server peer held now auth next) : next.Admitting := by
  cases hstep with
  | nothing hnext hopen =>
      subst hnext
      exact h.later hnow rfl rfl rfl
  | start hnext hopen =>
      subst hnext
      refine h.decided hnow rfl rfl ?_
      rw [admittedIn_append, admittedIn_startEvents]
  | session hallowed hnext hopen =>
      subst hnext
      refine h.decided hnow rfl rfl ?_
      rw [admittedIn_append, PairSetupAttemptLimiter.admittedBy, if_pos hallowed]
      rfl
  | proof serial hserial hnext hopen =>
      subst hnext
      refine h.later hnow rfl rfl ?_
      rw [admittedIn_append]
      exact List.append_nil _

/-! ## Sessions and proofs -/

/-- The session that a connection may still check a proof with. -/
def openAt (server : SetupServer) (peer : Nat) : Option Nat :=
  (server.peers peer).bind fun held => held.auth.openSession

/-- Each session was paid for, and its proof is checked once at most. -/
structure SessionsPaid (server : SetupServer) : Prop where
  paid : Paid server.log
  numbered : ∀ serial ∈ allocatedIn server.log, serial < server.sessions
  proved : ∀ serial ∈ provedIn server.log, serial ∈ allocatedIn server.log
  provedOnce : (provedIn server.log).Nodup
  opened : ∀ peer serial, server.openAt peer = some serial →
    serial ∈ allocatedIn server.log ∧ serial ∉ provedIn server.log
  apart : ∀ first second serial, server.openAt first = some serial →
    server.openAt second = some serial → first = second

/-- A frame may open or close the session of its own peer. -/
theorem openAt_update {peers : Nat → Option SetupPeer} {changed : Option SetupPeer}
    (hpeers : next.peers = Function.update peers peer changed) (other : Nat) :
    next.openAt other =
      if other = peer then changed.bind fun held => held.auth.openSession
      else (peers other).bind fun held => held.auth.openSession := by
  rw [openAt, hpeers, Function.update_apply]
  split_ifs <;> rfl

/-- Sessions are only dropped. -/
theorem SessionsPaid.dropped (h : server.SessionsPaid) (hpaid : Paid next.log)
    (hallocated : allocatedIn next.log = allocatedIn server.log)
    (hproved : provedIn next.log = provedIn server.log)
    (hsessions : next.sessions = server.sessions)
    (hopen : ∀ peer serial, next.openAt peer = some serial → server.openAt peer = some serial) :
    next.SessionsPaid where
  paid := hpaid
  numbered := by
    rw [hallocated, hsessions]
    exact h.numbered
  proved := by
    rw [hproved, hallocated]
    exact h.proved
  provedOnce := by
    rw [hproved]
    exact h.provedOnce
  opened := by
    intro peer serial hserial
    rw [hproved, hallocated]
    exact h.opened peer serial (hopen peer serial hserial)
  apart := fun first second serial hfirst hsecond =>
    h.apart first second serial (hopen first serial hfirst) (hopen second serial hsecond)

/-- What a frame leaves open at its own connection it found open there. -/
theorem openAt_answered (hheld : server.peers peer = some held)
    (hpeers : next.peers = Function.update server.peers peer (some { held with auth := auth }))
    (hopen : auth.openSession = none ∨ auth.openSession = held.auth.openSession) :
    ∀ other serial, next.openAt other = some serial → server.openAt other = some serial := by
  intro other serial hserial
  rw [openAt_update hpeers] at hserial
  split_ifs at hserial with hother
  · obtain hnone | hsame := hopen
    · rw [Option.bind_some, hnone] at hserial
      cases hserial
    · rw [Option.bind_some, hsame] at hserial
      rw [hother, openAt, hheld, Option.bind_some, hserial]
  · exact hserial

/-- A start leaves no session open, admitted or not. -/
theorem SessionsPaid.start (h : server.SessionsPaid) (hheld : server.peers peer = some held)
    (hlog : next.log = server.log ++ server.startEvents held.source now)
    (hsessions : next.sessions = server.sessions)
    (hpeers : next.peers = Function.update server.peers peer (some { held with auth := auth }))
    (hopen : auth.openSession = none) : next.SessionsPaid := by
  refine h.dropped ?_ ?_ ?_ hsessions (openAt_answered hheld hpeers (.inl hopen))
  all_goals
    rw [hlog]
    unfold startEvents
    split
  · apply h.paid.snoc
    intro serial hadmitted
    cases hadmitted
  · rw [List.append_nil]
    exact h.paid
  · rw [allocatedIn_append]
    exact List.append_nil _
  · rw [List.append_nil]
  · rw [provedIn_append]
    exact List.append_nil _
  · rw [List.append_nil]

/-- A new session is paid for by the start admitted just before it. -/
theorem SessionsPaid.session (h : server.SessionsPaid) {key : String} {time : ℚ}
    (hlog : next.log = server.log ++ [.admitted key time, .allocated server.sessions])
    (hsessions : next.sessions = server.sessions + 1)
    (hpeers : next.peers = Function.update server.peers peer (some { held with auth := auth }))
    (hopen : auth.openSession = none ∨ auth.openSession = some server.sessions) :
    next.SessionsPaid := by
  have hallocated : allocatedIn next.log = allocatedIn server.log ++ [server.sessions] := by
    rw [hlog, allocatedIn_append]
    rfl
  have hproved : provedIn next.log = provedIn server.log := by
    rw [hlog, provedIn_append]
    exact List.append_nil _
  have hfresh : server.sessions ∉ allocatedIn server.log :=
    fun hmem => Nat.lt_irrefl _ (h.numbered _ hmem)
  -- what is open is the new session of this connection, or was open before
  have hcases : ∀ other serial, next.openAt other = some serial →
      (other = peer ∧ serial = server.sessions) ∨ server.openAt other = some serial := by
    intro other serial hserial
    rw [openAt_update hpeers] at hserial
    split_ifs at hserial with hother
    · obtain hnone | hnew := hopen
      · rw [Option.bind_some, hnone] at hserial
        cases hserial
      · rw [Option.bind_some, hnew] at hserial
        exact .inl ⟨hother, (Option.some.inj hserial).symm⟩
    · exact .inr hserial
  have hnew : ∀ other, server.openAt other ≠ some server.sessions :=
    fun other hserial => hfresh (h.opened other _ hserial).1
  constructor
  · rw [hlog, ← List.singleton_append, ← List.append_assoc]
    apply Paid.snoc
    · apply h.paid.snoc
      intro serial hadmitted
      cases hadmitted
    · intro serial _
      exact ⟨server.log, key, time, rfl⟩
  · rw [hallocated, hsessions]
    intro serial hserial
    obtain hold | hlast := List.mem_append.mp hserial
    · exact Nat.lt_succ_of_lt (h.numbered serial hold)
    · rw [List.mem_singleton.mp hlast]
      exact Nat.lt_succ_self _
  · rw [hproved, hallocated]
    exact fun serial hserial => List.mem_append_left _ (h.proved serial hserial)
  · rw [hproved]
    exact h.provedOnce
  · intro other serial hserial
    rw [hproved, hallocated]
    obtain ⟨_, rfl⟩ | hold := hcases other serial hserial
    · refine ⟨List.mem_append_right _ (List.mem_singleton_self _), ?_⟩
      exact fun hmem => hfresh (h.proved _ hmem)
    · obtain ⟨hmem, hnotMem⟩ := h.opened other serial hold
      exact ⟨List.mem_append_left _ hmem, hnotMem⟩
  · intro first second serial hfirst hsecond
    obtain ⟨hfirstPeer, rfl⟩ | hfirstOld := hcases first serial hfirst
    · obtain ⟨hsecondPeer, _⟩ | hsecondOld := hcases second _ hsecond
      · rw [hfirstPeer, hsecondPeer]
      · exact absurd hsecondOld (hnew second)
    · obtain ⟨_, rfl⟩ | hsecondOld := hcases second serial hsecond
      · exact absurd hfirstOld (hnew first)
      · exact h.apart first second serial hfirstOld hsecondOld

/-- The proof of an open session closes it. -/
theorem SessionsPaid.proof (h : server.SessionsPaid) (hheld : server.peers peer = some held)
    {serial : Nat} (hserial : held.auth.openSession = some serial)
    (hlog : next.log = server.log ++ [.proved serial])
    (hsessions : next.sessions = server.sessions)
    (hpeers : next.peers = Function.update server.peers peer (some { held with auth := auth }))
    (hopen : auth.openSession = none) : next.SessionsPaid := by
  have hallocated : allocatedIn next.log = allocatedIn server.log := by
    rw [hlog, allocatedIn_append]
    exact List.append_nil _
  have hproved : provedIn next.log = provedIn server.log ++ [serial] := by
    rw [hlog, provedIn_append]
    rfl
  have hhere : server.openAt peer = some serial := by
    rw [openAt, hheld, Option.bind_some, hserial]
  have hopened := h.opened peer serial hhere
  have hkept := openAt_answered hheld hpeers (.inl hopen)
  constructor
  · rw [hlog]
    apply h.paid.snoc
    intro serial hproof
    cases hproof
  · rw [hallocated, hsessions]
    exact h.numbered
  · rw [hproved, hallocated]
    intro other hother
    obtain hold | hlast := List.mem_append.mp hother
    · exact h.proved other hold
    · rw [List.mem_singleton.mp hlast]
      exact hopened.1
  · rw [hproved]
    refine h.provedOnce.append (List.nodup_singleton serial) ?_
    rw [List.disjoint_singleton]
    exact hopened.2
  · intro other found hfound
    have hbefore := hkept other found hfound
    rw [hproved, hallocated]
    refine ⟨(h.opened other found hbefore).1, ?_⟩
    intro hmem
    obtain hold | hlast := List.mem_append.mp hmem
    · exact (h.opened other found hbefore).2 hold
    · rw [List.mem_singleton.mp hlast] at hbefore
      have hsame := h.apart other peer serial hbefore hhere
      -- the session that was proved is no longer open anywhere
      rw [openAt_update hpeers, if_pos hsame, Option.bind_some, hopen] at hfound
      cases hfound
  · exact fun first second found hfirst hsecond =>
      h.apart first second found (hkept first found hfirst) (hkept second found hsecond)

/-- A session is opened by an admitted attempt and proved at most once. -/
theorem SessionsPaid.frame (h : server.SessionsPaid) (hheld : server.peers peer = some held)
    (hstep : FrameStep server peer held now auth next) : next.SessionsPaid := by
  cases hstep with
  | nothing hnext hopen =>
      subst hnext
      exact h.dropped h.paid rfl rfl rfl (openAt_answered hheld rfl hopen)
  | start hnext hopen =>
      subst hnext
      exact h.start hheld rfl rfl rfl hopen
  | session hallowed hnext hopen =>
      subst hnext
      exact h.session rfl rfl rfl hopen
  | proof serial hserial hnext hopen =>
      subst hnext
      exact h.proof hheld hserial rfl rfl rfl hopen

/-! ## Runs -/

/-- Both invariants, for each label. -/
theorem step_invariant (crypto : AuthCrypto) (info : Bytes) (server : SetupServer)
    (label : SetupLabel) (next : SetupServer) (h : server.Admitting ∧ server.SessionsPaid)
    (hstep : server.step crypto info label = some next) :
    next.Admitting ∧ next.SessionsPaid := by
  obtain ⟨hadmitting, hpaid⟩ := h
  cases label with
  | connectionMade peer source auth =>
      rw [step] at hstep
      split_ifs at hstep with hmade
      cases hstep
      refine ⟨⟨hadmitting.counted, hadmitting.past, hadmitting.windows⟩, ?_⟩
      refine hpaid.dropped hpaid.paid rfl rfl rfl ?_
      intro other serial hserial
      rw [@openAt_update _ peer _ _ rfl] at hserial
      split_ifs at hserial
      · cases hserial
      · exact hserial
  | frame peer now frameType pairingBlob salt inputs =>
      rw [step] at hstep
      split_ifs at hstep with hnow
      obtain ⟨held, hheld, rfl⟩ := Option.map_eq_some_iff.mp hstep
      obtain ⟨auth, hframe⟩ := handleFrame_step crypto info server peer held now frameType
        pairingBlob salt inputs
      exact ⟨hadmitting.frame (not_lt.mp hnow) hframe, hpaid.frame hheld hframe⟩
  | connectionLost peer =>
      rw [step] at hstep
      split_ifs at hstep with hmade
      cases hstep
      refine ⟨⟨hadmitting.counted, hadmitting.past, hadmitting.windows⟩, ?_⟩
      refine hpaid.dropped hpaid.paid rfl rfl rfl ?_
      intro other serial hserial
      rw [@openAt_update _ peer _ _ rfl] at hserial
      split_ifs at hserial
      · cases hserial
      · exact hserial

theorem start_invariant (clock : ℚ) :
    ({ clock := clock } : SetupServer).Admitting ∧
      ({ clock := clock } : SetupServer).SessionsPaid := by
  constructor
  · exact ⟨⟨clock - 60, le_refl _, .empty _⟩, fun _ hmem => (by cases hmem), .nil⟩
  · refine ⟨?_, fun _ hmem => (by cases hmem), fun _ hmem => (by cases hmem), List.nodup_nil,
      fun _ _ hopen => (by cases hopen), fun _ _ _ hopen => (by cases hopen)⟩
    intro before serial after hsplit
    simp at hsplit

/-- In every run the guesses stay within the budget: five starts a minute of one
source and twenty of all, each session on a start of its own, each proof on a
session of its own. -/
theorem pin_guess_budget (crypto : AuthCrypto) (info : Bytes) {clock : ℚ}
    {labels : List SetupLabel} {server : SetupServer}
    (hrun : Machine.run (step crypto info) { clock := clock } labels = some server) :
    server.PinGuessBudget := by
  obtain ⟨hadmitting, hpaid⟩ := Machine.run_invariant
    (fun server : SetupServer => server.Admitting ∧ server.SessionsPaid)
    (step_invariant crypto info) (start_invariant clock) hrun
  exact
    { paid := hpaid.paid
      counted := hadmitting.counted
      windows := hadmitting.windows
      proved := hpaid.proved
      provedOnce := hpaid.provedOnce
      proofs := (hpaid.provedOnce.subperm hpaid.proved).length_le }

/-- Six connections of one phone start at once; the first guesses twice. -/
def guessingBurst : List SetupLabel :=
  let window : PairingWindow :=
    { pin := "4917", expiresAt := 300, generation := "g", serverIdentifier := "s"
      serverGeneration := "t" }
  let inputs : AuthInputs := { window := some window }
  let m1 := writeTlv [(TlvValue.seqNo, [1])]
  let m3 :=
    writeTlv [(TlvValue.seqNo, [3]), (TlvValue.publicKey, [9]), (TlvValue.proof, [8])]
  ((List.range 6).flatMap fun peer =>
    [.connectionMade peer (some "192.0.2.7") { uniqueId := [3], privateKey := [4] },
      .frame peer 0 .psStart (some m1) (some [5]) inputs]) ++
    [.frame 0 1 .psNext (some m3) none inputs, .frame 0 2 .psNext (some m3) none inputs]

theorem pin_guess_budget_burst :
    ∃ server, Machine.run (step FakeCompanionService.transparentCrypto []) { clock := 0 }
        guessingBurst = some server ∧
      (admittedIn server.log).length = 5 ∧ allocatedIn server.log = [0, 1, 2, 3, 4] ∧
      provedIn server.log = [0] ∧ server.PinGuessBudget := by
  have hrun : ((Machine.run (step FakeCompanionService.transparentCrypto []) { clock := 0 }
      guessingBurst).map fun server =>
        ((admittedIn server.log).length, allocatedIn server.log, provedIn server.log)) =
      some (5, [0, 1, 2, 3, 4], [0]) := by
    decide +kernel
  obtain ⟨server, hserver, hresult⟩ := Option.map_eq_some_iff.mp hrun
  simp only [Prod.mk.injEq] at hresult
  exact ⟨server, hserver, hresult.1, hresult.2.1, hresult.2.2,
    pin_guess_budget FakeCompanionService.transparentCrypto [] hserver⟩

end SetupServer

end CompanionBridge
