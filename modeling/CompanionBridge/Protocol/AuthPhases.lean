import CompanionBridge.Library.Machine
import CompanionBridge.Protocol.AuthHandlers
import CompanionBridge.Protocol.FrameStep

/-!
# The authentication phase machine

The cipher of a connection is installed once, by an M3 that proves possession of
a stored key over the ephemeral keys of the last M1, and what each phase does
not use has been erased. The primitives are ideal: an AEAD or a signature check
accepts exactly what its function says.
-/

namespace CompanionBridge

/-- Every use of verify material follows directly on the M1 that made it. -/
def UsedOnce (exchanges : List VerifyEvent) : Prop :=
  ∀ before material after, exchanges = before ++ .used material :: after →
    ∃ earlier, before = earlier ++ [.began material]

def VerifyEvent.isInstalled : VerifyEvent → Bool
  | .installed _ _ => true
  | _ => false

/-- Material may be used if it was the last to begin. -/
theorem UsedOnce.snoc {exchanges : List VerifyEvent} (honce : UsedOnce exchanges)
    {event : VerifyEvent}
    (hevent : ∀ material, event = .used material →
      ∃ earlier, exchanges = earlier ++ [.began material]) : UsedOnce (exchanges ++ [event]) := by
  intro before material after hsplit
  induction after using List.reverseRecOn with
  | nil =>
      obtain ⟨hbefore, hlast⟩ := List.append_inj' hsplit rfl
      rw [← hbefore]
      exact hevent material (List.cons.inj hlast).1
  | append_singleton after last _ =>
      rw [← List.cons_append, ← List.append_assoc] at hsplit
      exact honce before material after (List.append_inj' hsplit rfl).1

namespace FakeCompanionService

variable {externals : ConnectionExternals} {service next : FakeCompanionService}

/-- The cipher came from a frame that is a valid M3 for the last M1. -/
def InstalledBy (externals : ConnectionExternals) (service : FakeCompanionService)
    (label : FrameLabel) (next : FakeCompanionService) : Prop :=
  ∃ header payload inputs unpacked pairingData material client,
    label = .frame header payload inputs ∧
    FrameType.ofCode? (header.headD 0) = some .pvNext ∧
    service.auth.authPhase = .verifyM3 ∧
    inputs.unpacked = some unpacked ∧
    CompanionServerAuth.decodeAuthFrame externals.crypto unpacked.pairingBlob =
      some (pairingData, 3) ∧
    (∃ earlier, service.exchanges = earlier ++ [.began material]) ∧
    ValidProof externals.crypto inputs.auth.ltpk material pairingData client ∧
    next.auth.verifiedClient = some client ∧
    next.chacha = some { outKey := material.outputKey, inKey := material.inputKey } ∧
    next.exchanges =
      service.exchanges ++ [.used material, .installed material.outputKey material.inputKey]

/-- What holds between two frames. -/
structure ConnectionInvariant (service : FakeCompanionService) : Prop where
  phases : service.auth.PhaseInvariant
  cipher : service.connectionClosed = false →
    (service.chacha.isSome ↔ service.auth.authPhase = .encrypted)
  closed : service.connectionClosed = true → service.chacha = none
  pending : ∀ material, service.auth.verifyMaterial = some material →
    ∃ earlier, service.exchanges = earlier ++ [.began material]
  usedOnce : UsedOnce service.exchanges
  installs : service.exchanges.countP VerifyEvent.isInstalled ≤ 1
  notInstalled : service.connectionClosed = false → service.auth.authPhase ≠ .encrypted →
    service.exchanges.countP VerifyEvent.isInstalled = 0

/-- After an erasure there is no material left to use. -/
theorem verifyMaterial_erased {auth : CompanionServerAuth} (herased : auth.VerifyErased) :
    auth.verifyMaterial = none := by
  simp [CompanionServerAuth.verifyMaterial, herased.sessionKey]

theorem connectionMade_invariant (auth : CompanionServerAuth) :
    ConnectionInvariant (connectionMade auth) where
  phases := CompanionServerAuth.clearPendingAuthState_invariant (by decide)
  cipher := by simp [connectionMade, CompanionServerAuth.resetAuthenticationState]
  closed := by simp [connectionMade]
  pending := fun _ hmaterial => absurd hmaterial (by
    rw [verifyMaterial_erased ⟨rfl, rfl, rfl, rfl, rfl⟩]
    exact Option.some_ne_none _ |>.symm)
  usedOnce := by
    intro before material after hsplit
    simp [connectionMade] at hsplit
  installs := Nat.zero_le 1
  notInstalled := fun _ _ => rfl

/-- The invariant speaks only of what `Carries` keeps. -/
theorem ConnectionInvariant.carries (hinvariant : service.ConnectionInvariant)
    (hcarries : service.Carries next) : next.ConnectionInvariant where
  phases := by rw [hcarries.auth]; exact hinvariant.phases
  cipher := by
    rw [hcarries.auth, hcarries.connectionClosed, hcarries.isSome]
    exact hinvariant.cipher
  closed := by
    intro hclosed
    rw [hcarries.connectionClosed] at hclosed
    exact hcarries.none (hinvariant.closed hclosed)
  pending := by rw [hcarries.auth, hcarries.exchanges]; exact hinvariant.pending
  usedOnce := by rw [hcarries.exchanges]; exact hinvariant.usedOnce
  installs := by rw [hcarries.exchanges]; exact hinvariant.installs
  notInstalled := by
    rw [hcarries.auth, hcarries.exchanges, hcarries.connectionClosed]
    exact hinvariant.notInstalled

/-! ## An authentication frame -/

/-- The reply that the exchange gives to a frame on a connection without cipher. -/
def authReply (externals : ConnectionExternals) (service : FakeCompanionService)
    (frameType : FrameType) (unpacked : UnpackedFrame) (inputs : AuthInputs) : HandlerReply :=
  service.auth.handleAuthFrame externals.crypto externals.accessoryInfo
    { inputs with cipherInstalled := service.chacha.isSome } frameType unpacked.pairingBlob

/-- What `handleAuth` leaves behind, given the reply. -/
structure Answered (externals : ConnectionExternals) (service : FakeCompanionService)
    (reply : HandlerReply) (next : FakeCompanionService) : Prop where
  auth : next.auth = reply.auth
  exchanges : next.exchanges = service.exchanges ++ reply.exchange
  connectionClosed : next.connectionClosed = service.connectionClosed
  chacha : next.chacha =
    ({ service with auth := reply.auth }.applyEffects externals reply.effects).chacha

/-- What the connection does with an authentication frame is what the exchange replies. -/
theorem handleAuth_answered (externals : ConnectionExternals) (service : FakeCompanionService)
    (frameType : FrameType) (unpacked : UnpackedFrame) (inputs : AuthInputs) :
    Answered externals service (service.authReply externals frameType unpacked inputs)
      (service.handleAuth externals frameType unpacked inputs).1 := by
  obtain ⟨hauth, hclosed, hexchanges⟩ := applyEffects_auth externals
    { service with auth := (service.authReply externals frameType unpacked inputs).auth }
    (service.authReply externals frameType unpacked inputs).effects
  unfold handleAuth
  dsimp only
  split <;> exact ⟨hauth, hexchanges, hclosed, rfl⟩

/-- A reply without an installation leaves the connection without a cipher. -/
theorem Answered.noCipher {reply : HandlerReply} (hanswered : Answered externals service reply next)
    (hchacha : service.chacha = none)
    (hexchange : ∀ event ∈ reply.exchange, event.isInstalled = false) : next.chacha = none := by
  rw [hanswered.chacha]
  apply applyEffects_chacha
  · exact hchacha
  · intro outputKey inputKey hmem
    have hevent : VerifyEvent.installed outputKey inputKey ∈ reply.exchange :=
      List.mem_filterMap.mpr ⟨_, hmem, rfl⟩
    exact absurd (hexchange _ hevent) (by simp [VerifyEvent.isInstalled])

/-- The invariant after a reply that installed nothing. -/
theorem Answered.invariant {reply : HandlerReply} (hinvariant : service.ConnectionInvariant)
    (hopen : service.connectionClosed = false) (hplain : service.auth.authPhase ≠ .encrypted)
    (hanswered : Answered externals service reply next) (hchacha : service.chacha = none)
    (hphases : reply.auth.PhaseInvariant) (hphase : reply.auth.authPhase ≠ .encrypted)
    (hexchange : ∀ event ∈ reply.exchange, event.isInstalled = false)
    (hpending : ∀ material, reply.auth.verifyMaterial = some material →
      ∃ earlier, service.exchanges ++ reply.exchange = earlier ++ [.began material])
    (hused : UsedOnce (service.exchanges ++ reply.exchange)) : next.ConnectionInvariant := by
  have hnone := hanswered.noCipher hchacha hexchange
  have hcount : next.exchanges.countP VerifyEvent.isInstalled = 0 := by
    rw [hanswered.exchanges, List.countP_append, hinvariant.notInstalled hopen hplain,
      List.countP_eq_zero.mpr fun event hmem => by rw [hexchange event hmem]; decide]
  exact
    { phases := by rw [hanswered.auth]; exact hphases
      cipher := by
        intro _
        rw [hnone, hanswered.auth]
        exact ⟨fun hsome => absurd hsome (by decide), fun heq => absurd heq hphase⟩
      closed := fun _ => hnone
      pending := by rw [hanswered.auth, hanswered.exchanges]; exact hpending
      usedOnce := by rw [hanswered.exchanges]; exact hused
      installs := by omega
      notInstalled := fun _ _ => hcount }

/-- No material is pending outside the wait for an M3. -/
theorem PhaseInvariant.nothingPending {auth : CompanionServerAuth}
    (hphases : auth.PhaseInvariant) (hphase : auth.authPhase ≠ .verifyM3) :
    ∀ material, auth.verifyMaterial = some material → False := by
  intro material hmaterial
  rw [verifyMaterial_erased (hphases.verify hphase)] at hmaterial
  exact absurd hmaterial (by simp)

/-- The last M1 is the one whose material is held. -/
theorem ConnectionInvariant.lastBegan (hinvariant : service.ConnectionInvariant)
    {material used : VerifyMaterial} (hmaterial : service.auth.verifyMaterial = some material)
    (hused : VerifyEvent.used material = .used used) :
    ∃ earlier, service.exchanges = earlier ++ [.began used] := by
  rw [VerifyEvent.used.injEq] at hused
  subst hused
  exact hinvariant.pending material hmaterial

/-- The cipher that an accepted M3 leaves. -/
theorem Answered.installed {reply : HandlerReply} {material : VerifyMaterial}
    {message : AuthMessage} (hanswered : Answered externals service reply next)
    (heffects : reply.effects =
      [.useVerify material, .send message,
        .enableEncryption material.outputKey material.inputKey]) :
    next.chacha = some { outKey := material.outputKey, inKey := material.inputKey } ∧
      next.exchanges =
        service.exchanges ++
          [.used material, .installed material.outputKey material.inputKey] := by
  refine ⟨?_, ?_⟩
  · rw [hanswered.chacha, heffects]
    rfl
  · rw [hanswered.exchanges, HandlerReply.exchange, heffects]
    rfl

/-- An auth frame keeps the invariant, and what it installs it was allowed to. -/
theorem handleAuth_invariant (hinvariant : service.ConnectionInvariant)
    (hopen : service.connectionClosed = false) (hchacha : service.chacha = none)
    {frameType : FrameType} {header : Bytes} (payload : Bytes) {inputs : FrameInputs}
    {unpacked : UnpackedFrame} (htype : FrameType.ofCode? (header.headD 0) = some frameType)
    (hunpacked : inputs.unpacked = some unpacked) :
    (service.handleAuth externals frameType unpacked inputs.auth).1.ConnectionInvariant ∧
      ((service.handleAuth externals frameType unpacked inputs.auth).1.chacha ≠ none →
        InstalledBy externals service (.frame header payload inputs)
          (service.handleAuth externals frameType unpacked inputs.auth).1) := by
  have hplain : service.auth.authPhase ≠ .encrypted := by
    rw [Ne, ← hinvariant.cipher hopen, hchacha]
    decide
  have hanswered := handleAuth_answered externals service frameType unpacked
    inputs.auth
  obtain ⟨hphases, hstep⟩ := CompanionServerAuth.handleAuthFrame_step
    externals.crypto externals.accessoryInfo hinvariant.phases
    (by simpa [CompanionServerAuth.isEncrypted] using hplain)
    { inputs.auth with cipherInstalled := service.chacha.isSome } frameType unpacked.pairingBlob
  generalize (service.handleAuth externals frameType unpacked inputs.auth).1 = next
    at hanswered ⊢
  change (service.authReply externals frameType unpacked inputs.auth).auth.PhaseInvariant
    at hphases
  change CompanionServerAuth.ExchangeStep _ _ _ _ _
    (service.authReply externals frameType unpacked inputs.auth) at hstep
  generalize service.authReply externals frameType unpacked inputs.auth = reply
    at hanswered hphases hstep
  -- one case for each thing a frame of the exchange can do
  cases hstep with
  | silent hphase hreply hexchange =>
      have hinstalled : ∀ event ∈ reply.exchange, event.isInstalled = false := by
        simp [hexchange]
      refine ⟨hanswered.invariant hinvariant hopen hplain hchacha hphases hreply hinstalled ?_ ?_,
        fun hsome => absurd (hanswered.noCipher hchacha hinstalled) hsome⟩
      · intro material hmaterial
        exact absurd hmaterial (PhaseInvariant.nothingPending hphases hphase material)
      · rw [hexchange, List.append_nil]
        exact hinvariant.usedOnce
  | began material hphase hmaterial hexchange =>
      have hinstalled : ∀ event ∈ reply.exchange, event.isInstalled = false := by
        simp [hexchange, VerifyEvent.isInstalled]
      refine ⟨hanswered.invariant hinvariant hopen hplain hchacha hphases
        (by rw [hphase]; decide) hinstalled ?_ ?_,
        fun hsome => absurd (hanswered.noCipher hchacha hinstalled) hsome⟩
      · intro held hheld
        rw [hmaterial, Option.some.injEq] at hheld
        rw [hexchange, hheld]
        exact ⟨service.exchanges, rfl⟩
      · rw [hexchange]
        exact hinvariant.usedOnce.snoc (by simp)
  | failed material hphase hmaterial hfailed =>
      have hinstalled : ∀ event ∈ reply.exchange, event.isInstalled = false := by
        simp [hfailed.exchange, VerifyEvent.isInstalled]
      have hfailedPhase := hfailed.phase
      refine ⟨hanswered.invariant hinvariant hopen hplain hchacha hphases
        (by rw [hfailedPhase]; decide) hinstalled ?_ ?_,
        fun hsome => absurd (hanswered.noCipher hchacha hinstalled) hsome⟩
      · intro held hheld
        exact absurd hheld
          (PhaseInvariant.nothingPending hphases (by rw [hfailedPhase]; decide) held)
      · rw [hfailed.exchange]
        exact hinvariant.usedOnce.snoc fun used hused => hinvariant.lastBegan hmaterial hused
  -- the only frame that installs a cipher, and it ends the exchange
  | installed material pairingData client message hphase hmaterial hframe hdecode hvalid hcipher
      hencrypted hclient heffects =>
      obtain ⟨hcipherNext, hexchanges⟩ := hanswered.installed heffects
      have hnext : next.auth = reply.auth := hanswered.auth
      have hcount : next.exchanges.countP VerifyEvent.isInstalled = 1 := by
        rw [hexchanges, List.countP_append, hinvariant.notInstalled hopen hplain]
        rfl
      refine ⟨?_, fun _ => ⟨header, payload, inputs, unpacked, pairingData, material, client, rfl,
        hframe ▸ htype, hphase, hunpacked, hdecode, hinvariant.pending material hmaterial, hvalid,
        by rw [hnext]; exact hclient, hcipherNext, hexchanges⟩⟩
      exact
        { phases := by rw [hnext]; exact hphases
          cipher := by
            intro _
            rw [hcipherNext, hnext, hencrypted]
            simp
          closed := by
            intro hclosed
            rw [hanswered.connectionClosed, hopen] at hclosed
            exact absurd hclosed (by decide)
          pending := by
            intro held hheld
            rw [hnext] at hheld
            exact absurd hheld
              (PhaseInvariant.nothingPending hphases (by rw [hencrypted]; decide) held)
          usedOnce := by
            rw [hexchanges, ← List.singleton_append, ← List.append_assoc]
            exact (hinvariant.usedOnce.snoc
              fun used hused => hinvariant.lastBegan hmaterial hused).snoc (by simp)
          installs := hcount.le
          notInstalled := by
            intro _ hother
            rw [hnext] at hother
            exact absurd hencrypted hother }

/-! ## Steps and runs -/

theorem teardownConnection_invariant (hinvariant : service.ConnectionInvariant) :
    service.teardownConnection.ConnectionInvariant := by
  unfold teardownConnection
  split
  · exact hinvariant
  · exact
      { phases := CompanionServerAuth.clearPendingAuthState_invariant (by decide)
        cipher := fun hopen => absurd hopen (by simp)
        closed := fun _ => rfl
        pending := fun _ hmaterial => absurd hmaterial (by
          rw [verifyMaterial_erased ⟨rfl, rfl, rfl, rfl, rfl⟩]
          exact Option.some_ne_none _ |>.symm)
        usedOnce := hinvariant.usedOnce
        installs := hinvariant.installs
        notInstalled := fun hopen => absurd hopen (by simp) }

/-- What is not an authentication frame or the end of the connection carries the
exchange over. -/
theorem frameStep_cases {label : FrameLabel}
    (hstep : frameStep externals service label = some next) :
    (∃ header payload inputs frameType unpacked,
      label = .frame header payload inputs ∧ service.connectionClosed = false ∧
      FrameType.ofCode? (header.headD 0) = some frameType ∧ service.chacha = none ∧
      inputs.unpacked = some unpacked ∧
      next = (service.handleAuth externals frameType unpacked inputs.auth).1) ∨
    next = service.teardownConnection ∨ service.Carries next := by
  -- a frame runs an authentication handler or carries the state along
  cases label with
  | parsed parser =>
      simp only [frameStep, Option.some.injEq] at hstep
      subst hstep
      exact Or.inr (Or.inr ⟨rfl, rfl, rfl, continues_refl service.chacha⟩)
  | frame header payload inputs =>
      simp only [frameStep] at hstep
      split at hstep
      · exact absurd hstep (by simp)
      · rename_i hopen
        rw [Option.some.injEq] at hstep
        subst hstep
        rcases handleFrame_cases externals service header payload inputs with
          ⟨frameType, unpacked, htype, -, hchacha, -, hunpacked, heq⟩ | hcarries
        · exact Or.inl ⟨header, payload, inputs, frameType, unpacked, rfl,
            Bool.eq_false_iff.mpr hopen, htype, hchacha, hunpacked, by rw [heq]⟩
        · exact Or.inr (Or.inr hcarries)
  | push frameType encoded =>
      simp only [frameStep, Option.some.injEq] at hstep
      subst hstep
      exact Or.inr (Or.inr (sendToClient_carries _ service frameType encoded))
  | closeConnection =>
      simp only [frameStep, Option.some.injEq] at hstep
      subst hstep
      exact Or.inr (Or.inr (closeConnection_carries service))
  | authenticationTimedOut =>
      simp only [frameStep, Option.some.injEq] at hstep
      subst hstep
      unfold authenticationTimedOut
      split
      · exact Or.inr (Or.inr (closeConnection_carries service))
      · exact Or.inr (Or.inr (Carries.refl service))
  | teardownConnection =>
      simp only [frameStep, Option.some.injEq] at hstep
      exact Or.inr (Or.inl hstep.symm)

theorem teardownConnection_chacha (service : FakeCompanionService) :
    service.teardownConnection.chacha = none ∨
      service.teardownConnection.chacha = service.chacha := by
  unfold teardownConnection
  split
  · exact Or.inr rfl
  · exact Or.inl rfl

theorem frameStep_invariant (hinvariant : service.ConnectionInvariant) {label : FrameLabel}
    (hstep : frameStep externals service label = some next) : next.ConnectionInvariant := by
  rcases frameStep_cases hstep with
    ⟨header, payload, inputs, frameType, unpacked, -, hopen, htype, hchacha, hunpacked, rfl⟩ |
      rfl | hcarries
  · exact (handleAuth_invariant hinvariant hopen hchacha payload htype hunpacked).1
  · exact teardownConnection_invariant hinvariant
  · exact hinvariant.carries hcarries

open Machine in
/-- However the bytes of the frames are cut into chunks, the connection they make keeps
the invariant. -/
theorem chunks_invariant {auth : CompanionServerAuth} {labels : List ConnectionLabel}
    (hrun : run (step externals) (connectionMade auth) labels = some service) :
    service.ConnectionInvariant := by
  -- The loop over a chunk takes one frame step after another.
  obtain ⟨frames, hframes⟩ := run_frames hrun
  apply run_invariant ConnectionInvariant _ (connectionMade_invariant auth) hframes
  intro state label after hstate hstep
  exact frameStep_invariant hstate hstep

/-- A cipher is installed by a completed exchange and by nothing else. -/
theorem frameStep_installs (hinvariant : service.ConnectionInvariant) {label : FrameLabel}
    (hstep : frameStep externals service label = some next) (hbefore : service.chacha = none)
    (hafter : next.chacha ≠ none) : InstalledBy externals service label next := by
  rcases frameStep_cases hstep with
    ⟨header, payload, inputs, frameType, unpacked, rfl, hopen, htype, hchacha, hunpacked, rfl⟩ |
      rfl | hcarries
  · exact (handleAuth_invariant hinvariant hopen hchacha payload htype hunpacked).2
      hafter
  · rcases teardownConnection_chacha service with hnone | hsame
    · exact absurd hnone hafter
    · exact absurd (hsame.trans hbefore) hafter
  · exact absurd (hcarries.none hbefore) hafter

/-- A cipher is never replaced: it goes on, or the connection was torn down. -/
theorem frameStep_continues {label : FrameLabel}
    (hstep : frameStep externals service label = some next) {cipher : Chacha20Cipher}
    (hbefore : service.chacha = some cipher) :
    next.chacha = none ∨ ∃ later, next.chacha = some later ∧ cipher.Continues later := by
  rcases frameStep_cases hstep with
    ⟨header, payload, inputs, frameType, unpacked, -, -, -, hchacha, -, -⟩ | rfl | hcarries
  · rw [hbefore] at hchacha
    exact absurd hchacha (by simp)
  · rcases teardownConnection_chacha service with hnone | hsame
    · exact Or.inl hnone
    · exact Or.inr ⟨cipher, hsame.trans hbefore, Chacha20Cipher.Continues.refl cipher⟩
  · have hrel := hcarries.chacha
    rw [hbefore] at hrel
    generalize next.chacha = after at hrel
    cases hrel with
    | some hcontinues => exact Or.inr ⟨_, rfl, hcontinues⟩

/-- Only the transport is closed. -/
structure OnlyCloses (service next : FakeCompanionService) : Prop where
  auth : next.auth = service.auth
  chacha : next.chacha = service.chacha
  exchanges : next.exchanges = service.exchanges
  written : next.written = service.written
  transport : next.transport ≠ .up

open Machine in
/-- The phase machine, for every sequence of frames on a new connection. -/
theorem authentication_phases (externals : ConnectionExternals) (auth : CompanionServerAuth)
    {labels : List FrameLabel} {service : FakeCompanionService}
    (hrun : run (frameStep externals) (connectionMade auth) labels = some service) :
    -- the cipher is installed at most once, never replaced, and only by a valid M3
    service.exchanges.countP VerifyEvent.isInstalled ≤ 1 ∧
    (∀ label next, frameStep externals service label = some next →
      (service.chacha = none → next.chacha ≠ none →
        InstalledBy externals service label next) ∧
      ∀ cipher, service.chacha = some cipher →
        next.chacha = none ∨ ∃ later, next.chacha = some later ∧ cipher.Continues later) ∧
    -- cipher and secrets are present in their phases only
    (service.connectionClosed = false →
      (service.chacha.isSome ↔ service.auth.authPhase = .encrypted)) ∧
    (service.auth.authPhase ≠ .setupM3 → service.auth.authPhase ≠ .setupM5 →
      service.auth.SetupErased) ∧
    (service.auth.authPhase ≠ .verifyM3 → service.auth.VerifyErased) ∧
    -- each M1 is answered by at most one M3
    UsedOnce service.exchanges ∧
    -- an auth frame after encryption only closes the connection
    ∀ header payload inputs frameType next,
      FrameType.ofCode? (header.headD 0) = some frameType → frameType.isAuth = true →
      service.auth.authPhase = .encrypted →
      frameStep externals service (.frame header payload inputs) = some next →
      OnlyCloses service next := by
  have hinvariant : service.ConnectionInvariant :=
    run_invariant ConnectionInvariant
      (fun _ _ _ hstate hstep => frameStep_invariant hstate hstep)
      (connectionMade_invariant auth) hrun
  refine ⟨hinvariant.installs, ?_, hinvariant.cipher, ?_, hinvariant.phases.verify,
    hinvariant.usedOnce, ?_⟩
  · intro label next hstep
    exact ⟨frameStep_installs hinvariant hstep, fun _ hbefore => frameStep_continues hstep hbefore⟩
  · intro hfirst hsecond
    apply hinvariant.phases.setup
    rintro (hphase | hphase)
    · exact hfirst hphase
    · exact hsecond hphase
  · intro header payload inputs frameType next htype hauth hencrypted hstep
    simp only [frameStep] at hstep
    split at hstep
    · exact absurd hstep (by simp)
    rw [handleFrame_afterEncryption htype hauth
      (Or.inr (by simpa [CompanionServerAuth.isEncrypted] using hencrypted)),
      Option.some.injEq] at hstep
    subst hstep
    refine ⟨rfl, rfl, rfl, rfl, ?_⟩
    show (if service.transport = .up then Transport.closing else service.transport) ≠ .up
    split
    · decide
    · assumption

/-- Transparent primitives, for exchanges that can be evaluated. -/
def transparentCrypto : AuthCrypto where
  aead := Aead.tagged
  x25519Public privateKey := privateKey
  x25519Exchange privateKey publicKey := some (privateKey ++ publicKey)
  ed25519Public privateKey := privateKey
  ed25519Sign privateKey message := privateKey ++ message
  ed25519Verify publicKey signature message := signature = publicKey ++ message
  hkdfExpand _ _ secret := secret
  srpPublic serial := [UInt8.ofNat serial]
  srpProcess _ _ _ := true
  srpVerifyProof _ clientPublic proof := some (clientPublic = proof)
  srpKey _ clientPublic := clientPublic
  srpKeyProofHash _ clientPublic := clientPublic
  tlvDepth := 100

def transparentExternals : ConnectionExternals where
  crypto := transparentCrypto
  packMessage message := writeTlv message.pairingData
  accessoryInfo := []

/-- A paired phone verifies; the frame after it is another M1. -/
theorem authentication_phases_verify :
    let phone : Bytes := [112, 104, 111, 110, 101]
    let signature : Bytes := [1, 2] ++ ([9] ++ phone ++ [7])
    let proof := writeTlv [(TlvValue.identifier, phone), (TlvValue.signature, signature)]
    let encrypted := Aead.tagged.encrypt [7, 9] (padNonce "PV-Msg03".toUTF8.toList) proof []
    let m1 := writeTlv [(TlvValue.seqNo, [1]), (TlvValue.publicKey, [9])]
    let m3 := writeTlv [(TlvValue.seqNo, [3]), (TlvValue.encryptedData, encrypted)]
    let begin : FrameLabel :=
      .frame (frameHeader .pvStart m1.length) m1
        { unpacked := some { pairingBlob := some m1 }, auth := { verifyPrivate := [7] } }
    let finish : FrameLabel :=
      .frame (frameHeader .pvNext m3.length) m3
        { unpacked := some { pairingBlob := some m3 }
          auth := { ltpk := fun client => if client = "phone" then some [1, 2] else none } }
    ∃ service,
      Machine.run (frameStep transparentExternals)
        (connectionMade { uniqueId := [3], privateKey := [4] }) [begin, finish] = some service ∧
      service.chacha = some { outKey := [7, 9], inKey := [7, 9] } ∧
      service.exchanges.countP VerifyEvent.isInstalled ≤ 1 ∧
      (service.connectionClosed = false →
        (service.chacha.isSome ↔ service.auth.authPhase = .encrypted)) ∧
      ∀ next, frameStep transparentExternals service begin = some next →
        OnlyCloses service next := by
  intro phone signature proof encrypted m1 m3 begin finish
  have hrun : ((Machine.run (frameStep transparentExternals)
      (connectionMade { uniqueId := [3], privateKey := [4] }) [begin, finish]).map
        fun service => (service.chacha, service.auth.authPhase)) =
      some (some { outKey := [7, 9], inKey := [7, 9] }, .encrypted) := by
    decide +kernel
  obtain ⟨service, hservice, hresult⟩ := Option.map_eq_some_iff.mp hrun
  rw [Prod.mk.injEq] at hresult
  obtain ⟨hinstalls, -, hcipher, -, -, -, hcloses⟩ :=
    authentication_phases transparentExternals _ hservice
  refine ⟨service, hservice, hresult.1, hinstalls, hcipher, ?_⟩
  intro next hnext
  exact hcloses _ _ _ .pvStart next rfl rfl hresult.2 hnext

end FakeCompanionService

end CompanionBridge
