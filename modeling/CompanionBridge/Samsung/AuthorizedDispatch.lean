import CompanionBridge.Companion.ServerRefinement
import CompanionBridge.Samsung.Client
import CompanionBridge.State.PairedStore

/-!
# Samsung work is authorized when it is written

The server, the TV client and the paired-client store in one machine. Sessions
end, stores change and connections to the TV are made and lost at every
suspension point of a dispatch. A session-level check may be answered in any
way: the writes rest on the check the client makes itself. That they are made for
a session that is still there rests on the cancellation of the dispatch, which is
lost when it comes after the listener of a new connection is done.
-/

namespace CompanionBridge

open CommandDispatchLane

/-- A begun dispatch: the check its owner was registered with, and where it is suspended. -/
structure InFlight where
  owner : SessionOwner
  authorization : Option ConnectionId
  point : DispatchPoint

inductive WireEvent where
  | checked (owner : SessionOwner) (allowed : Bool)
  | wrote (owner : SessionOwner) (write : WireWrite)
  deriving DecidableEq

def ClientEvent.on (owner : SessionOwner) : ClientEvent → WireEvent
  | .checked allowed => .checked owner allowed
  | .wrote write => .wrote owner write

/-- A running bridge. `wire` records what its dispatches did, in order. -/
structure Bridge where
  server : CompanionServer
  client : SamsungFrameClient
  inFlight : Option InFlight := none
  verified : ConnectionId → Option VerifiedClient := fun _ => none
  authority : AuthorityState
  wire : List WireEvent := []

/-- A change of the store or of its recovery markers, by this process or another. -/
inductive StoreMutation where
  | enroll (identifier : String) (ltpk : Bytes)
  | revoke (identifier : String)
  | clearAll
  | publishClearAll
  | publishReset
  | recover
  | disturb (readable : Bool)

def StoreMutation.apply (authority : AuthorityState) : StoreMutation → AuthorityState
  | .enroll identifier ltpk =>
      { authority with clients := authority.clients.insert identifier ltpk.hex }
  | .revoke identifier => { authority with clients := authority.clients.erase identifier }
  | .clearAll => { authority with clients := ∅ }
  | .publishClearAll => { authority with legacyClearAll := true }
  | .publishReset => { authority with identityReset := true }
  | .recover => { authority with legacyClearAll := false, identityReset := false }
  | .disturb readable => { authority with readable := readable }

/-- One scheduling choice of the whole bridge. -/
inductive BridgeLabel where
  | server (label : ServerLabel)
  | resumeDispatch (resumption : Resumption) (inputs : SamsungInputs)
  | verify (connection : ConnectionId) (client : VerifiedClient)
  | mutate (mutation : StoreMutation)
  | imeEvent
  | othersAcquire
  | othersRelease (client : SamsungFrameClient)

def BridgeLabel.EndsSession : BridgeLabel → ConnectionId → Prop
  | .server label, connection => label.EndsSession connection
  | _, _ => False

namespace Bridge

/-- `verified_client_is_authorized` of a connection that requires pairing. -/
def verifiedClientIsAuthorized (bridge : Bridge) (connection : ConnectionId) : Bool :=
  (bridge.verified connection).any fun client =>
    client.identifier ≠ "" && bridge.authority.authorizes client.identifier client.ltpk

def initial (server : CompanionServer) (client : SamsungFrameClient)
    (authority : AuthorityState) : Bridge :=
  { server := server, client := client, authority := authority }

/-- `_dispatch_item` captures the check of the item the worker just began. -/
def begun (server : CompanionServer) : Option InFlight :=
  match server.lane.workerTask, server.lane.current with
  | some ⟨.dispatching _, _⟩, some item =>
      some
        { owner := item.owner
          authorization := (server.lane.owners item.owner).bind DispatchOwner.authorize
          point := .starting item.command }
  | _, _ => none

/-- A step of the server other than resuming the dispatch in flight. -/
def serverStep (bridge : Bridge) (label : ServerLabel) : Option Bridge :=
  match label with
  | .workerResume _ => none
  | .workerScan _ =>
      (bridge.server.step label).map fun next =>
        { bridge with server := next, inFlight := begun next }
  | .connectionLost connection | .shutdown connection =>
      (bridge.server.step label).map fun next =>
        { bridge with
          server := next
          verified := fun other =>
            if other = connection then none else bridge.verified other }
  | _ => (bridge.server.step label).map fun next => { bridge with server := next }

def progressOutcome : DispatchProgress → DispatchOutcome
  | .suspended _ => .suspended
  | .finished result => result.outcome

/-- Whether an `await` can come to this once the task is resumed. A requested
cancellation is what it sees; but on Python 3.11 `wait_for` hands over what its own
task came to when that is done, and the cancellation is lost. -/
def delivers (task : WorkerTask) (point : DispatchPoint) (resumption : Resumption) : Bool :=
  if task.cancelRequested then decide (resumption = .cancelled) || point.awaitsListener
  else decide (resumption ≠ .cancelled)

/-- Resume the dispatch in flight. -/
def resumeDispatch (bridge : Bridge) (resumption : Resumption) (inputs : SamsungInputs) :
    Option Bridge :=
  match bridge.inFlight, bridge.server.lane.workerTask with
  | some flight, some task =>
      if delivers task flight.point resumption then do
        -- the check is evaluated when the call resumes, not when it was submitted
        let check := flight.authorization.map fun connection =>
          some (bridge.verifiedClientIsAuthorized connection)
        let step ← bridge.client.resume flight.point resumption inputs check
        let next ← bridge.server.workerResume (progressOutcome step.progress)
        return { bridge with
          server := next
          client := step.client
          inFlight :=
            -- a call that suspends again stays in flight at its new point
            match step.progress with
            | .suspended point => some { flight with point := point }
            | .finished _ => none
          wire := bridge.wire ++ step.events.map (ClientEvent.on flight.owner) }
      else none
  | _, _ => none

def step (bridge : Bridge) : BridgeLabel → Option Bridge
  | .server label => bridge.serverStep label
  | .resumeDispatch resumption inputs => bridge.resumeDispatch resumption inputs
  | .verify connection client =>
      if (bridge.server.connections connection).connectionClosed = false ∧
          bridge.verified connection = none then
        some { bridge with
          verified := fun other =>
            if other = connection then some client else bridge.verified other }
      else none
  | .mutate mutation => some { bridge with authority := mutation.apply bridge.authority }
  -- a new input session on the television starts with a broadcast again
  | .imeEvent => some { bridge with client := { bridge.client with firstTextSent := false } }
  | .othersAcquire =>
      if bridge.client.lifecycleLock = .free then
        some { bridge with client := { bridge.client with lifecycleLock := .others } }
      else none
  | .othersRelease client =>
      if bridge.client.lifecycleLock = .others then
        some { bridge with
          client :=
            -- the other holder may leave the client in any state, its configuration apart
            { client with
              wolEnabled := bridge.client.wolEnabled
              reconnectMinInterval := bridge.client.reconnectMinInterval
              lifecycleLock := .free } }
      else none

/-! ## The invariant -/

/-- A dispatch that only closes the remote it was connecting, then ends. -/
def Unwinding : DispatchPoint → Prop
  | .waiting _ (.closingCandidate none) => True
  | _ => False

/-- The dispatch in flight carries the check of its owner's connection. -/
structure BridgeInvariant (bridge : Bridge) : Prop where
  registered : Registered bridge.server
  ended : Ended bridge.server
  attended : bridge.server.lane.Attended
  flight : ∀ interrupted cancelRequested item,
    bridge.server.lane.workerTask = some ⟨.dispatching interrupted, cancelRequested⟩ →
    bridge.server.lane.current = some item →
    ∃ flight, bridge.inFlight = some flight ∧ flight.owner = item.owner ∧
      flight.authorization = some item.owner.connection

/-- Once interrupted, the dispatch in flight only unwinds. -/
def Unwinds (bridge : Bridge) : Prop :=
  ∀ cancelRequested item flight,
    bridge.server.lane.workerTask = some ⟨.dispatching true, cancelRequested⟩ →
    bridge.server.lane.current = some item →
    bridge.inFlight = some flight → Unwinding flight.point

/-- A cancellation that was requested is what the dispatch sees when it is resumed. -/
def heeds (bridge : Bridge) : BridgeLabel → Bool
  | .resumeDispatch resumption _ =>
      bridge.server.lane.workerTask.all fun task =>
        !task.cancelRequested || decide (resumption = .cancelled)
  | _ => true

/-- What one step adds to the wire. A write follows a check that granted it, on
the store of that moment, to the client its connection verified. -/
inductive WireStep (bridge : Bridge) : List WireEvent → Prop where
  | silent : WireStep bridge []
  | refused (owner : SessionOwner)
      (hrefused : bridge.verifiedClientIsAuthorized owner.connection = false) :
      WireStep bridge [.checked owner false]
  | written (owner : SessionOwner) (client : VerifiedClient) (write : WireWrite)
      (hclient : bridge.verified owner.connection = some client)
      (hauthorized : bridge.authority.authorizes client.identifier client.ltpk = true) :
      WireStep bridge [.checked owner true, .wrote owner write]

/-- Every write is made for an owner the lane knows, the current one of its connection. -/
def ForCurrentSession (bridge : Bridge) (events : List WireEvent) : Prop :=
  ∀ owner write, .wrote owner write ∈ events →
    (bridge.server.lane.owners owner).isSome ∧
      (bridge.server.connections owner.connection).dispatchOwner = some owner

variable {bridge : Bridge}

/-- A step of the server writes nothing on the wire; it begins a dispatch or leaves the one
in flight. -/
theorem serverStep_cases {label : ServerLabel} {next : Bridge}
    (hstep : bridge.serverStep label = some next) :
    bridge.server.step label = some next.server ∧ next.wire = bridge.wire ∧
      ((label.dispatches = false ∧ next.inFlight = bridge.inFlight) ∨
        ∃ verdict, label = .workerScan verdict ∧ next.inFlight = begun next.server) := by
  cases label with
  | workerResume outcome => exact absurd hstep (by simp [serverStep])
  | workerScan verdict =>
      simp only [serverStep, Option.map_eq_some_iff] at hstep
      obtain ⟨server, hserver, rfl⟩ := hstep
      exact ⟨hserver, rfl, Or.inr ⟨verdict, rfl, rfl⟩⟩
  | sessionStart | sessionStop | touchStop | touch | button | mediaControl | text
  | closeConnection | connectionLost | shutdown | resumeRepeat | workerWake | laneClose
  | laneCloseFinished =>
      simp only [serverStep, Option.map_eq_some_iff] at hstep
      obtain ⟨server, hserver, rfl⟩ := hstep
      exact ⟨hserver, rfl, Or.inl ⟨rfl, rfl⟩⟩

/-- A step of the server leaves the dispatch in flight alone, or begins one that was
not interrupted and carries its owner's check. -/
theorem serverStep_flight (h : bridge.BridgeInvariant) {label : ServerLabel} {next : Bridge}
    (hstep : bridge.serverStep label = some next) {interrupted cancelRequested : Bool}
    {item : QueuedCommand SessionOwner}
    (htask : next.server.lane.workerTask = some ⟨.dispatching interrupted, cancelRequested⟩)
    (hitem : next.server.lane.current = some item) :
    (∃ requested earlier,
      bridge.server.lane.workerTask = some ⟨.dispatching interrupted, requested⟩ ∧
      bridge.server.lane.current = some earlier ∧ earlier.owner = item.owner ∧
      next.inFlight = bridge.inFlight) ∨
    (interrupted = false ∧ ∃ flight, next.inFlight = some flight ∧ flight.owner = item.owner ∧
      flight.authorization = some item.owner.connection) := by
  obtain ⟨hserver, -, hflight⟩ := serverStep_cases hstep
  have hsession := CompanionServer.step_sessionStep h.registered hserver
  obtain ⟨labels, hrun, hlabels⟩ := hsession.runs
  rcases hflight with ⟨hquiet, hsame⟩ | ⟨verdict, rfl, hbegun⟩
  · left
    have hkept := run_keepsFlight hrun fun lane hlane => by
      by_contra hdispatches
      rw [hlabels lane hlane (by simpa using hdispatches)] at hquiet
      exact absurd hquiet (by simp)
    obtain ⟨requested, earlier, hbefore, hcurrent, howner, -⟩ :=
      hkept interrupted cancelRequested item htask hitem
    exact ⟨requested, earlier, hbefore, hcurrent, howner, hsame⟩
  · right
    obtain ⟨reply, hscan, hreply⟩ := Option.map_eq_some_iff.mp hserver
    obtain ⟨callback, hlane, -⟩ := CompanionServer.settleReply_worker h.registered
      (fun _ _ => CompanionServer.workerScan_owners hscan)
    rw [hreply] at hlane
    rw [hlane] at htask hitem
    obtain ⟨rfl, hregistered⟩ := workerScan_flight hscan callback htask
    obtain ⟨registration, howner⟩ := Option.isSome_iff_exists.mp (hregistered item hitem)
    rw [← hlane] at htask hitem howner
    obtain ⟨hregistration, -⟩ := hsession.registered.current item.owner registration howner
    refine ⟨rfl, _, by rw [hbegun, begun, htask, hitem], rfl, ?_⟩
    simp [howner, hregistration]

/-- The dispatch in flight is the one the lane's worker is in. -/
theorem BridgeInvariant.serverStep (h : bridge.BridgeInvariant) {label : ServerLabel}
    {next : Bridge} (hstep : bridge.serverStep label = some next) :
    next.BridgeInvariant := by
  obtain ⟨hserver, -, -⟩ := serverStep_cases hstep
  have hsession := CompanionServer.step_sessionStep h.registered hserver
  obtain ⟨labels, hrun, -⟩ := hsession.runs
  refine ⟨hsession.registered, hsession.ended h.ended, ?_, ?_⟩
  · exact Machine.run_invariant Attended (fun _ _ _ hattended => hattended.step) h.attended hrun
  · intro interrupted cancelRequested item htask hitem
    rcases serverStep_flight h hstep htask hitem with
      ⟨requested, earlier, hbefore, hcurrent, howner, hsame⟩ | ⟨-, hbegun⟩
    · rw [hsame, ← howner]
      exact h.flight interrupted requested earlier hbefore hcurrent
    · exact hbegun

/-- A dispatch that is unwinding writes nothing more, whatever the server does. -/
theorem Unwinds.serverStep (h : bridge.BridgeInvariant) (hunwinds : bridge.Unwinds)
    {label : ServerLabel} {next : Bridge} (hstep : bridge.serverStep label = some next) :
    next.Unwinds := by
  intro cancelRequested item flight htask hitem hflight
  rcases serverStep_flight h hstep htask hitem with
    ⟨requested, earlier, hbefore, hcurrent, -, hsame⟩ | ⟨hfresh, -⟩
  · rw [hsame] at hflight
    exact hunwinds requested earlier flight hbefore hcurrent hflight
  · exact absurd hfresh Bool.true_eq_false.mp

/-- Resuming the worker keeps the item in flight while it suspends, and leaves
the dispatch otherwise. -/
theorem workerResume_cases {server next : CompanionServer} {outcome : DispatchOutcome}
    (hresume : server.workerResume outcome = some next) :
    ∃ interrupted cancelRequested item,
      server.lane.workerTask = some ⟨.dispatching interrupted, cancelRequested⟩ ∧
      server.lane.current = some item ∧
      ((outcome = .suspended ∧ next.lane.current = some item ∧
        next.lane.workerTask = some ⟨.dispatching (interrupted || cancelRequested), false⟩) ∨
      (outcome ≠ .suspended ∧ next.lane.current = none)) := by
  unfold CompanionServer.workerResume at hresume
  split at hresume
  · rename_i interrupted cancelRequested item htask hitem
    refine ⟨interrupted, cancelRequested, item, htask, hitem, ?_⟩
    split at hresume
    · rename_i hsuspended
      rw [← Option.some.inj hresume]
      exact Or.inl ⟨hsuspended, hitem, rfl⟩
    · rename_i hended
      split at hresume
      · exact absurd hresume (by simp)
      · rw [← Option.some.inj hresume]
        exact Or.inr ⟨hended, rfl⟩
  · exact absurd hresume (by simp)

theorem progressOutcome_eq_suspended {progress : DispatchProgress} :
    progressOutcome progress = .suspended ↔ ∃ point, progress = .suspended point := by
  cases progress with
  | suspended point => simp [progressOutcome]
  | finished result => cases result <;> simp [progressOutcome, DispatchEnd.outcome]

/-- A resumed dispatch takes one step of the client and tells the lane how it ended. -/
theorem resumeDispatch_cases {resumption : Resumption} {inputs : SamsungInputs} {next : Bridge}
    (hstep : bridge.resumeDispatch resumption inputs = some next) :
    ∃ flight task step, bridge.inFlight = some flight ∧
      bridge.server.lane.workerTask = some task ∧
      bridge.client.resume flight.point resumption inputs (flight.authorization.map
        fun connection => some (bridge.verifiedClientIsAuthorized connection)) = some step ∧
      bridge.server.workerResume (progressOutcome step.progress) = some next.server ∧
      (∀ point, step.progress = .suspended point →
        next.inFlight = some { flight with point := point }) ∧
      next.wire = bridge.wire ++ step.events.map (ClientEvent.on flight.owner) := by
  unfold resumeDispatch at hstep
  split at hstep
  · rename_i flight task hflight htask
    split at hstep
    · simp only [Option.bind_eq_bind, Option.bind_eq_some_iff, Option.pure_def,
        Option.some.injEq] at hstep
      obtain ⟨step, hresume, server, hserver, rfl⟩ := hstep
      refine ⟨flight, task, step, hflight, htask, hresume, hserver, ?_, rfl⟩
      intro point hpoint
      simp only [hpoint]
    · exact absurd hstep (by simp)
  · exact absurd hstep (by simp)

/-- What a resumed dispatch was, did and became. -/
structure ResumesFlight (bridge : Bridge) (resumption : Resumption) (inputs : SamsungInputs)
    (next : Bridge) (flight : InFlight) (interrupted cancelRequested : Bool)
    (item : QueuedCommand SessionOwner) (step : ClientStep) : Prop where
  inFlight : bridge.inFlight = some flight
  task : bridge.server.lane.workerTask = some ⟨.dispatching interrupted, cancelRequested⟩
  current : bridge.server.lane.current = some item
  owner : flight.owner = item.owner
  resume : bridge.client.resume flight.point resumption inputs
    (some (some (bridge.verifiedClientIsAuthorized flight.owner.connection))) = some step
  session : CompanionServer.SessionStep true bridge.server next.server
  authorization : flight.authorization = some item.owner.connection
  wire : next.wire = bridge.wire ++ step.events.map (ClientEvent.on flight.owner)
  progress : (∃ point, step.progress = .suspended point ∧
      next.server.lane.current = some item ∧
      next.server.lane.workerTask = some ⟨.dispatching (interrupted || cancelRequested), false⟩ ∧
      next.inFlight = some { flight with point := point }) ∨
    next.server.lane.current = none

/-- The item that is resumed is the one in flight, with its owner's check. -/
theorem BridgeInvariant.resumesFlight (h : bridge.BridgeInvariant) {resumption : Resumption}
    {inputs : SamsungInputs} {next : Bridge}
    (hstep : bridge.resumeDispatch resumption inputs = some next) :
    ∃ flight interrupted cancelRequested item step,
      bridge.ResumesFlight resumption inputs next flight interrupted cancelRequested item step := by
  obtain ⟨flight, task, step, hflight, htask, hresume, hserver, hpoint, hwire⟩ :=
    resumeDispatch_cases hstep
  obtain ⟨interrupted, cancelRequested, item, hdispatching, hitem, hprogress⟩ :=
    workerResume_cases hserver
  obtain ⟨other, hother, howner, hauthorization⟩ :=
    h.flight interrupted cancelRequested item hdispatching hitem
  obtain rfl : flight = other := Option.some.inj (hflight.symm.trans hother)
  refine ⟨flight, interrupted, cancelRequested, item, step, hflight, hdispatching, hitem, howner,
    ?_, CompanionServer.workerResume_step h.registered hserver, hauthorization, hwire, ?_⟩
  · rw [hauthorization, ← howner] at hresume
    exact hresume
  · rcases hprogress with ⟨hsuspended, hsame, hworker⟩ | ⟨-, hnone⟩
    · obtain ⟨point, hprogress⟩ := progressOutcome_eq_suspended.mp hsuspended
      exact .inl ⟨point, hprogress, hsame, hworker, hpoint point hprogress⟩
    · exact .inr hnone

/-- What it writes is written while its owner is authorized. -/
theorem BridgeInvariant.resumeDispatch (h : bridge.BridgeInvariant) {resumption : Resumption}
    {inputs : SamsungInputs} {next : Bridge}
    (hstep : bridge.resumeDispatch resumption inputs = some next) :
    next.BridgeInvariant ∧
      ∃ events, next.wire = bridge.wire ++ events ∧ WireStep bridge events := by
  obtain ⟨flight, interrupted, cancelRequested, item, step, hflight⟩ := h.resumesFlight hstep
  obtain ⟨labels, hrun, -⟩ := hflight.session.runs
  refine ⟨⟨hflight.session.registered, hflight.session.ended h.ended,
    Machine.run_invariant Attended (fun _ _ _ hattended => hattended.step) h.attended hrun, ?_⟩,
    step.events.map (ClientEvent.on flight.owner), hflight.wire, ?_⟩
  · intro again requested current hagain hcurrent
    rcases hflight.progress with ⟨point, -, hsame, -, hpoint⟩ | hnone
    · obtain rfl : item = current := Option.some.inj (hsame.symm.trans hcurrent)
      exact ⟨_, hpoint, hflight.owner, hflight.authorization⟩
    · exact absurd (hnone.symm.trans hcurrent) (by simp)
  · have hevents := SamsungFrameClient.resume_events hflight.resume
    generalize step.events = events at hevents
    cases hevents with
    | silent => exact .silent
    | refused hrefused => exact .refused flight.owner (by simpa [requireAuthorized] using hrefused)
    | unchecked write hnone => exact absurd hnone (by simp)
    | allowed write hallowed =>
        obtain ⟨client, hclient, hauthorized⟩ :=
          (Option.any_eq_true _ _).mp (Option.some.inj (Option.some.inj hallowed))
        rw [Bool.and_eq_true] at hauthorized
        exact .written flight.owner client write hclient hauthorized.2

/-- Only a dispatch that was never interrupted does anything on the wire, when its
cancellation is heeded. -/
theorem ResumesFlight.silent {resumption : Resumption} {inputs : SamsungInputs} {next : Bridge}
    {flight : InFlight} {interrupted cancelRequested : Bool} {item : QueuedCommand SessionOwner}
    {step : ClientStep}
    (h : bridge.ResumesFlight resumption inputs next flight interrupted cancelRequested item step)
    (hunwinds : bridge.Unwinds) (hheeds : bridge.heeds (.resumeDispatch resumption inputs) = true)
    (hinterrupted : (interrupted || cancelRequested) = true) :
    step.events = [] ∧ ∀ point, step.progress = .suspended point → Unwinding point := by
  cases interrupted with
  | true =>
      have hpoint := hunwinds cancelRequested item flight h.task h.current h.inFlight
      have hresume := h.resume
      unfold Unwinding at hpoint
      split at hpoint
      · rename_i request heq
        rw [heq] at hresume
        obtain ⟨hevents, hprogress⟩ := SamsungFrameClient.resume_unwinding hresume
        exact ⟨hevents, fun point hsuspended => absurd (hprogress.symm.trans hsuspended) (by simp)⟩
      · exact absurd hpoint id
  | false =>
      have hcancelled : resumption = .cancelled := by
        rw [heeds, h.task, Option.all_some] at hheeds
        simpa [show cancelRequested = true by simpa using hinterrupted] using hheeds
      have hresume := h.resume
      rw [hcancelled] at hresume
      obtain ⟨hevents, hprogress⟩ := SamsungFrameClient.resume_cancelled hresume
      refine ⟨hevents, ?_⟩
      intro point hsuspended
      rcases hprogress with hended | ⟨request, hclosing⟩
      · exact absurd (hended.symm.trans hsuspended) (by simp)
      · rw [hclosing, DispatchProgress.suspended.injEq] at hsuspended
        exact hsuspended ▸ trivial

/-- A cancellation that is heeded keeps the dispatch unwinding. -/
theorem Unwinds.resumeDispatch (h : bridge.BridgeInvariant) (hunwinds : bridge.Unwinds)
    {resumption : Resumption} {inputs : SamsungInputs} {next : Bridge}
    (hheeds : bridge.heeds (.resumeDispatch resumption inputs) = true)
    (hstep : bridge.resumeDispatch resumption inputs = some next) :
    next.Unwinds ∧
      ∀ events, next.wire = bridge.wire ++ events → ForCurrentSession bridge events := by
  obtain ⟨flight, interrupted, cancelRequested, item, step, hflight⟩ := h.resumesFlight hstep
  have hsilent := hflight.silent hunwinds hheeds
  constructor
  · intro requested current other htask hcurrent hother
    rcases hflight.progress with ⟨point, hprogress, -, hworker, hpoint⟩ | hnone
    · rw [hworker, Option.some.injEq, WorkerTask.mk.injEq, WorkerPhase.dispatching.injEq] at htask
      rw [hpoint, Option.some.injEq] at hother
      rw [← hother]
      exact (hsilent htask.1).2 point hprogress
    · exact absurd (hnone.symm.trans hcurrent) (by simp)
  · intro events hwire owner write hwrote
    have hadded : events = step.events.map (ClientEvent.on flight.owner) :=
      List.append_cancel_left (hwire.symm.trans hflight.wire)
    rw [hadded, List.mem_map] at hwrote
    obtain ⟨event, hevent, howner⟩ := hwrote
    have hclean : interrupted = false ∧ cancelRequested = false := by
      rw [← Bool.or_eq_false_iff, ← Bool.not_eq_true]
      intro hinterrupted
      rw [(hsilent hinterrupted).1] at hevent
      exact absurd hevent List.not_mem_nil
    obtain rfl : flight.owner = owner := by
      cases event with
      | checked allowed => cases howner
      | wrote written => exact (WireEvent.wrote.inj howner).1
    obtain ⟨rfl, rfl⟩ := hclean
    have hregistered := h.attended hflight.task item hflight.current
    obtain ⟨registration, hregistration⟩ := Option.isSome_iff_exists.mp hregistered
    obtain ⟨-, hcurrent⟩ := h.registered.current item.owner registration hregistration
    rw [← hflight.owner] at hcurrent hregistered
    exact ⟨hregistered, hcurrent⟩

/-- One case for each label. -/
theorem BridgeInvariant.step (h : bridge.BridgeInvariant) {label : BridgeLabel} {next : Bridge}
    (hstep : bridge.step label = some next) :
    next.BridgeInvariant ∧
      ∃ events, next.wire = bridge.wire ++ events ∧ WireStep bridge events := by
  cases label with
  | server label =>
      obtain ⟨-, hwire, -⟩ := serverStep_cases hstep
      exact ⟨h.serverStep hstep, [], by rw [hwire, List.append_nil], .silent⟩
  | resumeDispatch resumption inputs => exact h.resumeDispatch hstep
  | verify connection client =>
      simp only [Bridge.step] at hstep
      split at hstep
      · obtain rfl := Option.some.inj hstep
        exact ⟨⟨h.registered, h.ended, h.attended, h.flight⟩, [], by simp, .silent⟩
      · exact absurd hstep (by simp)
  | mutate mutation =>
      obtain rfl := Option.some.inj hstep
      exact ⟨⟨h.registered, h.ended, h.attended, h.flight⟩, [], by simp, .silent⟩
  | imeEvent =>
      obtain rfl := Option.some.inj hstep
      exact ⟨⟨h.registered, h.ended, h.attended, h.flight⟩, [], by simp, .silent⟩
  | othersAcquire | othersRelease client =>
      simp only [Bridge.step] at hstep
      split at hstep
      · obtain rfl := Option.some.inj hstep
        exact ⟨⟨h.registered, h.ended, h.attended, h.flight⟩, [], by simp, .silent⟩
      · exact absurd hstep (by simp)

/-- In a step whose cancellation is heeded only current sessions are written for. -/
theorem Unwinds.step (h : bridge.BridgeInvariant) (hunwinds : bridge.Unwinds)
    {label : BridgeLabel} {next : Bridge} (hheeds : bridge.heeds label = true)
    (hstep : bridge.step label = some next) :
    next.Unwinds ∧
      ∀ events, next.wire = bridge.wire ++ events → ForCurrentSession bridge events := by
  have hquiet : next.wire = bridge.wire →
      ∀ events, next.wire = bridge.wire ++ events → ForCurrentSession bridge events := by
    intro hsame events hwire owner write hwrote
    rw [hsame, List.self_eq_append_right] at hwire
    rw [hwire] at hwrote
    exact absurd hwrote List.not_mem_nil
  cases label with
  | server label =>
      obtain ⟨-, hwire, -⟩ := serverStep_cases hstep
      exact ⟨Unwinds.serverStep h hunwinds hstep, hquiet hwire⟩
  | resumeDispatch resumption inputs => exact Unwinds.resumeDispatch h hunwinds hheeds hstep
  | mutate | imeEvent =>
      obtain rfl := Option.some.inj hstep
      exact ⟨hunwinds, hquiet rfl⟩
  | verify connection client | othersAcquire | othersRelease client =>
      simp only [Bridge.step] at hstep
      split at hstep
      · obtain rfl := Option.some.inj hstep
        exact ⟨hunwinds, hquiet rfl⟩
      · exact absurd hstep (by simp)

/-- No command is queued and no dispatch is in flight when the server starts. -/
theorem initial_invariant {maxQueueSize : Nat} {gestureConfig : GestureConfig}
    {holdConfig : DirectionalHoldConfig} {server : CompanionServer}
    (hserve : CompanionServer.serve maxQueueSize gestureConfig holdConfig = some server)
    (client : SamsungFrameClient) (authority : AuthorityState) :
    (initial server client authority).BridgeInvariant ∧
      (initial server client authority).Unwinds := by
  simp only [CompanionServer.serve, Option.bind_eq_bind, Option.bind_eq_some_iff, Option.pure_def,
    Option.some.injEq] at hserve
  obtain ⟨lane, hnew, started, hstart, rfl⟩ := hserve
  have hlane : started.current = none ∧ ∀ owner, started.owners owner = none := by
    obtain ⟨-, task, -, rfl⟩ := start_eq_some hstart
    unfold CommandDispatchLane.new at hnew
    split at hnew
    · obtain rfl := Option.some.inj hnew
      exact ⟨rfl, fun _ => rfl⟩
    · exact absurd hnew (by simp)
  refine ⟨⟨⟨?_, ?_⟩, ?_, ?_, ?_⟩, fun _ _ _ _ _ hflight => absurd hflight (by simp [initial])⟩
  · intro owner registration howner
    exact absurd ((hlane.2 owner).symm.trans howner) (by simp)
  · intro connection owner howner
    exact absurd howner (by simp [initial])
  · intro connection hclosed
    rfl
  · intro _ item hitem
    exact absurd (hlane.1.symm.trans hitem) (by simp)
  · intro _ _ item _ hitem
    exact absurd (hlane.1.symm.trans hitem) (by simp)

/-! ## A session that was ended -/

/-- A step of the bridge is a session step of its server. -/
theorem step_session (h : bridge.BridgeInvariant) {label : BridgeLabel} {next : Bridge}
    (hstep : bridge.step label = some next) :
    ∃ dispatches, CompanionServer.SessionStep dispatches bridge.server next.server := by
  cases label with
  | server label =>
      exact ⟨_, CompanionServer.step_sessionStep h.registered (serverStep_cases hstep).1⟩
  | resumeDispatch resumption inputs =>
      obtain ⟨_, _, _, -, -, -, hserver, -⟩ := resumeDispatch_cases hstep
      exact ⟨_, CompanionServer.workerResume_step h.registered hserver⟩
  | mutate | imeEvent =>
      obtain rfl := Option.some.inj hstep
      exact ⟨false, .of_serves h.registered (.refl bridge.server)⟩
  | verify connection client | othersAcquire | othersRelease client =>
      simp only [step] at hstep
      split at hstep
      · obtain rfl := Option.some.inj hstep
        exact ⟨false, .of_serves h.registered (.refl bridge.server)⟩
      · exact absurd hstep (by simp)

/-- An owner that a connection's session was once given. -/
def Issued (bridge : Bridge) (owner : SessionOwner) : Prop :=
  owner.serial < (bridge.server.connections owner.connection).nextSerial

instance (owner : SessionOwner) : Decidable (bridge.Issued owner) :=
  inferInstanceAs (Decidable (_ < _))

/-- An owner whose session is over. -/
def Retired (bridge : Bridge) (owner : SessionOwner) : Prop :=
  bridge.Issued owner ∧
    (bridge.server.connections owner.connection).dispatchOwner ≠ some owner

/-- What holds along every continuation of a bridge in which an owner was retired,
as long as the cancellations are heeded. -/
structure Silenced (retired : Bridge) (owner : SessionOwner) (bridge : Bridge) : Prop where
  keeps : bridge.BridgeInvariant
  unwinds : bridge.Unwinds
  issued : bridge.Issued owner
  unregistered : bridge.server.lane.owners owner = none
  wire : ∃ events, bridge.wire = retired.wire ++ events ∧
    ∀ write, .wrote owner write ∉ events

/-- An owner that is retired and unwinding stays silent. -/
theorem Retired.silenced (h : bridge.BridgeInvariant) (hunwinds : bridge.Unwinds)
    {owner : SessionOwner} (hretired : bridge.Retired owner) : Silenced bridge owner bridge := by
  refine ⟨h, hunwinds, hretired.1, ?_, [], by simp, by simp⟩
  cases howner : bridge.server.lane.owners owner with
  | none => rfl
  | some registration =>
      exact absurd (h.registered.current owner registration howner).2 hretired.2

/-- An owner once retired is not registered again, and only registered owners are
written for. -/
theorem Silenced.step {retired : Bridge} {owner : SessionOwner}
    (h : Silenced retired owner bridge) {label : BridgeLabel} {next : Bridge}
    (hheeds : bridge.heeds label = true) (hstep : bridge.step label = some next) :
    Silenced retired owner next := by
  obtain ⟨hnext, late, hlate, -⟩ := h.keeps.step hstep
  obtain ⟨hunwinds, hcurrent⟩ := Unwinds.step h.keeps h.unwinds hheeds hstep
  obtain ⟨dispatches, hsession⟩ := step_session h.keeps hstep
  refine ⟨hnext, hunwinds, lt_of_lt_of_le h.issued (hsession.serial owner.connection), ?_, ?_⟩
  · by_contra hregistered
    rcases hsession.fresh owner (Option.isSome_iff_ne_none.mpr hregistered) with hbefore | hfresh
    · rw [h.unregistered] at hbefore
      exact absurd hbefore (by simp)
    · exact absurd h.issued (Nat.not_lt.mpr hfresh)
  · obtain ⟨early, hearly, hsilent⟩ := h.wire
    refine ⟨early ++ late, by rw [hlate, hearly, List.append_assoc], ?_⟩
    intro write hmem
    rcases List.mem_append.mp hmem with hmem | hmem
    · exact hsilent write hmem
    · obtain ⟨hregistered, -⟩ := hcurrent late hlate owner write hmem
      rw [h.unregistered] at hregistered
      exact absurd hregistered (by simp)

/-- A label that ends a session retires its owner. -/
theorem step_retires (h : bridge.BridgeInvariant) {label : BridgeLabel} {next : Bridge}
    (hstep : bridge.step label = some next) {connection : ConnectionId}
    (hends : label.EndsSession connection) {owner : SessionOwner}
    (hconnection : owner.connection = connection) (hissued : bridge.Issued owner) :
    next.Retired owner := by
  obtain ⟨dispatches, hsession⟩ := step_session h hstep
  refine ⟨lt_of_lt_of_le hissued (hsession.serial owner.connection), ?_⟩
  intro hcurrent
  rw [hconnection] at hcurrent
  unfold Issued at hissued
  rw [hconnection] at hissued
  cases label with
  | server label =>
      have hserial := CompanionServer.step_endsSession h.registered h.ended
        (serverStep_cases hstep).1 hends owner hcurrent
      omega
  | resumeDispatch | verify | mutate | imeEvent | othersAcquire | othersRelease =>
      exact absurd hends id

end Bridge

open Bridge

/-- Every write to the TV comes right after a check that granted it to the client its
connection verified, on the store as it then was. As long as each cancellation a
dispatch is resumed under is what it sees, a write is made for the current session
of its connection, and an owner whose session is over is never written for. Each of
the ways a session ends retires every owner its connection had. -/
theorem revocation_safety {maxQueueSize : Nat} {gestureConfig : GestureConfig}
    {holdConfig : DirectionalHoldConfig} {server : CompanionServer}
    (client : SamsungFrameClient) (authority : AuthorityState)
    {labels : List BridgeLabel} {label : BridgeLabel} {bridge next : Bridge}
    (hserve : CompanionServer.serve maxQueueSize gestureConfig holdConfig = some server)
    (hrun : Machine.run step (initial server client authority) labels = some bridge)
    (hstep : bridge.step label = some next) :
    (∃ events, next.wire = bridge.wire ++ events ∧ WireStep bridge events ∧
      (Machine.Throughout step (initial server client authority) (labels ++ [label])
        (fun state label => state.heeds label = true) → ForCurrentSession bridge events)) ∧
    (∀ owner, next.Retired owner → ∀ later final, Machine.run step next later = some final →
      Machine.Throughout step (initial server client authority) (labels ++ label :: later)
        (fun state label => state.heeds label = true) →
      ∃ events, final.wire = next.wire ++ events ∧ ∀ write, .wrote owner write ∉ events) ∧
    (∀ connection, label.EndsSession connection → ∀ owner, owner.connection = connection →
      bridge.Issued owner → next.Retired owner) ∧
    ∀ connection owner, (bridge.server.connections connection).dispatchOwner = some owner →
      owner.connection = connection ∧ bridge.Issued owner := by
  obtain ⟨hinitial, hunwinding⟩ := initial_invariant hserve client authority
  have hbridge : bridge.BridgeInvariant := Machine.run_invariant BridgeInvariant
    (fun _ _ _ h hstep => (h.step hstep).1) hinitial hrun
  obtain ⟨hnext, events, hwire, hwrites⟩ := hbridge.step hstep
  -- Both invariants, up to the step, in the runs whose cancellations are heeded.
  have hkept : Machine.Throughout step (initial server client authority) labels
      (fun state label => state.heeds label = true) → bridge.BridgeInvariant ∧ bridge.Unwinds :=
    Machine.run_throughout_invariant (fun bridge => bridge.BridgeInvariant ∧ bridge.Unwinds)
      (fun _ _ _ h hheeds hstep => ⟨(h.1.step hstep).1, (Unwinds.step h.1 h.2 hheeds hstep).1⟩)
      ⟨hinitial, hunwinding⟩ hrun
  refine ⟨⟨events, hwire, hwrites, ?_⟩, ?_, ?_, ?_⟩
  · intro hheeds
    exact (Unwinds.step hbridge (hkept hheeds.left).2 (hheeds.last hrun) hstep).2 events hwire
  · intro owner hretired later final hlater hheeds
    have hunwinds := (Unwinds.step hbridge (hkept hheeds.left).2
      (hheeds labels label later bridge rfl hrun) hstep).1
    have hcontinued := hheeds.right hrun hstep
    have hfinal := Machine.run_throughout_invariant (Bridge.Silenced next owner)
      (fun _ _ _ h hheeds hstep => h.step hheeds hstep) (hretired.silenced hnext hunwinds)
      hlater hcontinued
    exact hfinal.wire
  · intro connection hends owner hconnection hissued
    exact step_retires hbridge hstep hends hconnection hissued
  · intro connection owner howner
    obtain ⟨rfl, hissued⟩ := hbridge.registered.serial connection owner howner
    exact ⟨rfl, hissued⟩

/-- The session stops while its command, written once, is reconnecting to be
sent again; the cancelled attempt is closed and nothing more is written. -/
theorem revocation_safety_retry :
    let allow : Nat → Verdict := fun _ _ => some true
    let before : List BridgeLabel :=
      [.verify 0 ⟨"phone", [1, 2]⟩, .server (.sessionStart 0),
        .server (.mediaControl 0 0 "KEY_MUTE" "media" allow), .server .workerWake,
        .server (.workerScan (allow 0)), .resumeDispatch .returned {}, .resumeDispatch .returned {},
        .resumeDispatch (.raised .connection) {}, .resumeDispatch .returned {}]
    let after : List BridgeLabel :=
      [.resumeDispatch .cancelled {}, .resumeDispatch .returned {}]
    ∃ server bridge next final,
      CompanionServer.serve 64 {} {} = some server ∧
      Machine.run step (initial server {} { clients := (∅ : ClientMap).insert "phone" "0102" })
        before = some bridge ∧
      bridge.step (.server (.sessionStop 0)) = some next ∧
      Machine.run step next after = some final ∧
      bridge.wire =
        [.checked ⟨0, 0⟩ true, .wrote ⟨0, 0⟩ (.remoteKey "KEY_MUTE" "Click" none)] ∧
      ∃ events, final.wire = next.wire ++ events ∧ ∀ write, .wrote ⟨0, 0⟩ write ∉ events := by
  intro allow before after
  have hrun : ((CompanionServer.serve 64 {} {}).bind fun server =>
      (Machine.run step (initial server {} { clients := (∅ : ClientMap).insert "phone" "0102" })
        before).bind fun bridge =>
          (bridge.step (.server (.sessionStop 0))).bind fun next =>
            (Machine.run step next after).map fun final =>
              (bridge.wire, decide (bridge.Issued ⟨0, 0⟩),
                Machine.checkThroughout step heeds
                  (initial server {} { clients := (∅ : ClientMap).insert "phone" "0102" })
                  (before ++ .server (.sessionStop 0) :: after))) =
      some ([.checked ⟨0, 0⟩ true, .wrote ⟨0, 0⟩ (.remoteKey "KEY_MUTE" "Click" none)],
        true, true) := by
    decide +kernel
  simp only [Option.bind_eq_some_iff, Option.map_eq_some_iff, Prod.mk.injEq, decide_eq_true_eq]
    at hrun
  obtain ⟨server, hserve, bridge, hbefore, next, hstep, final, hafter, hwire, hissued, hheeds⟩ :=
    hrun
  obtain ⟨-, hsilent, hretires, -⟩ := revocation_safety _ _ hserve hbefore hstep
  exact ⟨server, bridge, next, final, hserve, hbefore, hstep, hafter, hwire,
    hsilent ⟨0, 0⟩ (hretires 0 rfl ⟨0, 0⟩ rfl hissued) after final hafter
      (Machine.throughout_of_check hheeds)⟩

/-- The session stops while its command waits for the first connection, whose listener
is done: `wait_for` hands that over, the cancellation is lost and the command is sent. -/
theorem revocation_safety_fails :
    let allow : Nat → Verdict := fun _ _ => some true
    let before : List BridgeLabel :=
      [.verify 0 ⟨"phone", [1, 2]⟩, .server (.sessionStart 0),
        .server (.mediaControl 0 0 "KEY_MUTE" "media" allow), .server .workerWake,
        .server (.workerScan (allow 0)), .resumeDispatch .returned {}]
    ∃ server bridge next final,
      CompanionServer.serve 64 {} {} = some server ∧
      Machine.run step (initial server {} { clients := (∅ : ClientMap).insert "phone" "0102" })
        before = some bridge ∧
      bridge.step (.server (.sessionStop 0)) = some next ∧
      (next.server.connections 0).dispatchOwner = none ∧
      next.wire = [] ∧
      next.step (.resumeDispatch .returned {}) = some final ∧
      final.wire =
        [.checked ⟨0, 0⟩ true, .wrote ⟨0, 0⟩ (.remoteKey "KEY_MUTE" "Click" none)] := by
  intro allow before
  have hrun : ((CompanionServer.serve 64 {} {}).bind fun server =>
      (Machine.run step (initial server {} { clients := (∅ : ClientMap).insert "phone" "0102" })
        before).bind fun bridge =>
          (bridge.step (.server (.sessionStop 0))).bind fun next =>
            (next.step (.resumeDispatch .returned {})).map fun final =>
              ((next.server.connections 0).dispatchOwner, next.wire, final.wire)) =
      some (none, [],
        [.checked ⟨0, 0⟩ true, .wrote ⟨0, 0⟩ (.remoteKey "KEY_MUTE" "Click" none)]) := by
    decide +kernel
  simp only [Option.bind_eq_some_iff, Option.map_eq_some_iff, Prod.mk.injEq] at hrun
  obtain ⟨server, hserve, bridge, hbefore, next, hstep, final, hafter, hended, hquiet, hwire⟩ :=
    hrun
  exact ⟨server, bridge, next, final, hserve, hbefore, hstep, hended, hquiet, hafter, hwire⟩

end CompanionBridge
