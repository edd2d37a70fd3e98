import CompanionBridge.Companion.DispatchFlight
import CompanionBridge.Companion.Server

/-!
# The server drives its lane by calls

Every operation of a connection reaches the lane through the calls of the lane
machine, so whatever holds of every run of that machine holds of the server.
The same walk over the operations shows which owners are registered: only the
owner of a connection's current TV-remote session.
-/

namespace CompanionBridge

open CommandDispatchLane

/-- A registered owner is the current session of its connection and names that
connection's check and callback. -/
structure Registered (server : CompanionServer) : Prop where
  current : ∀ owner registration, server.lane.owners owner = some registration →
    registration = ⟨some owner.connection, some owner.connection⟩ ∧
      (server.connections owner.connection).dispatchOwner = some owner
  serial : ∀ connection owner, (server.connections connection).dispatchOwner = some owner →
    owner.connection = connection ∧ owner.serial < (server.connections connection).nextSerial

/-- The worker begins or resumes a dispatch. -/
def ServerLabel.dispatches : ServerLabel → Bool
  | .workerScan _ | .workerResume _ => true
  | _ => false

/-- The steps after which the session a connection had is over. -/
def ServerLabel.EndsSession : ServerLabel → ConnectionId → Prop
  | .sessionStart other, connection
  | .sessionStop other, connection
  | .closeConnection other, connection
  | .connectionLost other, connection
  | .shutdown other, connection => other = connection
  | _, _ => False

/-- The session of a connection that was torn down is over. -/
def Ended (server : CompanionServer) : Prop :=
  ∀ connection, (server.connections connection).connectionClosed = true →
    (server.connections connection).dispatchOwner = none

def LaneCall.registers (call : LaneCall SessionOwner ConnectionId ConnectionId) : Bool :=
  match call with
  | .activate _ _ => true
  | _ => false

/-- An operation that performed calls on the lane, none of which registers an
owner, and that at most ended sessions together with their registration. -/
structure Serves (caller : Caller) (before after : CompanionServer) : Prop where
  calls : ∃ calls, after.lane = before.lane.performAll caller calls ∧
    ∀ call ∈ calls, call.registers = false
  sessions : ∀ connection,
    (after.connections connection).dispatchOwner = (before.connections connection).dispatchOwner ∨
      ((after.connections connection).dispatchOwner = none ∧
        ∀ owner, owner.connection = connection → after.lane.owners owner = none)
  serial : ∀ connection, (after.connections connection).nextSerial =
    (before.connections connection).nextSerial
  closed : ∀ connection, (after.connections connection).connectionClosed =
    (before.connections connection).connectionClosed

namespace CommandDispatchLane

variable (lane : ServerLane)

theorem deactivateOwner_owners (caller : Caller) (owner : SessionOwner) (cause : OwnerEnd)
    (other : SessionOwner) :
    (lane.deactivateOwner caller owner cause).owners other =
      if other = owner then none else lane.owners other := rfl

theorem place_owners (owner : SessionOwner) (command : Command)
    (holdGeneration completion : Option Nat) :
    (lane.place owner command holdGeneration completion).lane.owners = lane.owners := by
  rcases lane.place_cases owner command holdGeneration completion with
    ⟨front, tail, replaced, -, -, -, -, -, hreply⟩ | ⟨-, hreply⟩ | ⟨item, -, -, hreply⟩ <;>
  rw [hreply]

/-- A submission may end its own owner and no other. -/
theorem enqueue_owners (verdict : Verdict) (caller : Caller) (owner : SessionOwner)
    (command : Command) (holdGeneration completion : Option Nat) {other : SessionOwner}
    {registration : DispatchOwner ConnectionId ConnectionId}
    (hother : (lane.enqueue verdict caller owner command holdGeneration
      completion).lane.owners other = some registration) :
    lane.owners other = some registration := by
  rcases lane.enqueue_cases verdict caller owner command holdGeneration completion with
    hreply | ⟨_, _, -, -, -, hreply⟩ | ⟨-, -, hreply⟩
  · rwa [hreply] at hother
  · rw [hreply, deactivateOwner_owners] at hother
    split at hother
    · exact absurd hother (by simp)
    · exact hother
  · rwa [hreply, place_owners] at hother

/-- Calls that do not register only ever remove owners. -/
theorem perform_owners (caller : Caller)
    {call : LaneCall SessionOwner ConnectionId ConnectionId} (hcall : call.registers = false)
    {owner : SessionOwner} {registration : DispatchOwner ConnectionId ConnectionId}
    (howner : (lane.perform caller call).lane.owners owner = some registration) :
    lane.owners owner = some registration := by
  cases call with
  | activate other registered => exact absurd hcall (by simp [LaneCall.registers])
  | submit verdict other command => exact lane.enqueue_owners verdict caller other command _ _ howner
  | submitAndWait verdict other command holdGeneration =>
      simp only [perform, submitAndWait] at howner
      split at howner <;>
        exact enqueue_owners { lane with nextCompletion := lane.nextCompletion + 1 }
          verdict caller other command (some holdGeneration) (some lane.nextCompletion) howner
  | cancelOwner other =>
      simp only [perform, cancelOwner, deactivateOwner_owners] at howner
      split at howner
      · exact absurd howner (by simp)
      · exact howner
  | cancelGeneration other generation => exact howner

/-- A registration adds at most the owner it names. -/
theorem perform_activate_owners (caller : Caller) (owner : SessionOwner)
    (registration : DispatchOwner ConnectionId ConnectionId) (other : SessionOwner)
    (registered : DispatchOwner ConnectionId ConnectionId)
    (hother : (lane.perform caller (.activate owner registration)).lane.owners other =
      some registered) :
    (other = owner ∧ registered = registration) ∨ lane.owners other = some registered := by
  simp only [perform] at hother
  cases hactivate : lane.activate owner registration with
  | none =>
      rw [hactivate, Option.getD_none] at hother
      exact Or.inr hother
  | some activated =>
      obtain ⟨task, -, rfl⟩ := activate_eq_some hactivate
      rw [hactivate, Option.getD_some] at hother
      dsimp only at hother
      split at hother
      · rename_i hsame
        exact Or.inl ⟨hsame, (Option.some.inj hother).symm⟩
      · exact Or.inr hother

/-- Calls that register nobody leave at most the owners there were. -/
theorem performAll_owners (caller : Caller)
    {calls : List (LaneCall SessionOwner ConnectionId ConnectionId)}
    (hcalls : ∀ call ∈ calls, call.registers = false)
    {owner : SessionOwner} {registration : DispatchOwner ConnectionId ConnectionId}
    (howner : (lane.performAll caller calls).owners owner = some registration) :
    lane.owners owner = some registration := by
  induction calls generalizing lane with
  | nil => exact howner
  | cons call rest ih =>
      simp only [List.mem_cons, forall_eq_or_imp] at hcalls
      exact lane.perform_owners caller hcalls.1 (ih _ hcalls.2 howner)

end CommandDispatchLane

namespace Serves

variable {caller : Caller}

theorem refl (server : CompanionServer) : Serves caller server server :=
  ⟨⟨[], rfl, by simp⟩, fun _ => Or.inl rfl, fun _ => rfl, fun _ => rfl⟩

theorem owners {before after : CompanionServer} (h : Serves caller before after)
    {owner : SessionOwner} {registration : DispatchOwner ConnectionId ConnectionId}
    (howner : after.lane.owners owner = some registration) :
    before.lane.owners owner = some registration := by
  obtain ⟨calls, hlane, hcalls⟩ := h.calls
  rw [hlane] at howner
  exact performAll_owners before.lane caller hcalls howner

/-- What serves is a list of calls, and lists of calls compose. -/
theorem trans {first second third : CompanionServer} (hfirst : Serves caller first second)
    (hsecond : Serves caller second third) : Serves caller first third where
  calls := by
    obtain ⟨early, hearly, hnone⟩ := hfirst.calls
    obtain ⟨late, hlate, hnone'⟩ := hsecond.calls
    refine ⟨early ++ late, ?_, ?_⟩
    · rw [hlate, hearly, performAll, performAll, performAll, List.foldl_append]
    · intro call hcall
      exact (List.mem_append.mp hcall).elim (hnone call) (hnone' call)
  sessions connection := by
    rcases hsecond.sessions connection with hsame | hended
    · rcases hfirst.sessions connection with hsame' | ⟨hnone, howners⟩
      · exact Or.inl (hsame.trans hsame')
      · refine Or.inr ⟨hsame.trans hnone, ?_⟩
        intro owner howner
        cases hregistered : third.lane.owners owner with
        | none => rfl
        | some registration =>
            have hbefore := hsecond.owners hregistered
            rw [howners owner howner] at hbefore
            exact absurd hbefore (by simp)
    · exact Or.inr hended
  serial connection := (hsecond.serial connection).trans (hfirst.serial connection)
  closed connection := (hsecond.closed connection).trans (hfirst.closed connection)

/-- A change that touches neither the lane nor any session. -/
theorem of_sessions {before after : CompanionServer} (hlane : after.lane = before.lane)
    (hsession : ∀ connection, (after.connections connection).dispatchOwner =
      (before.connections connection).dispatchOwner)
    (hserial : ∀ connection, (after.connections connection).nextSerial =
      (before.connections connection).nextSerial)
    (hclosed : ∀ connection, (after.connections connection).connectionClosed =
      (before.connections connection).connectionClosed) : Serves caller before after :=
  ⟨⟨[], hlane, by simp⟩, fun connection => Or.inl (hsession connection), hserial, hclosed⟩

end Serves

/-- Registrations survive calls that register nobody. -/
theorem Registered.serves {caller : Caller} {before after : CompanionServer}
    (h : Registered before) (hserves : Serves caller before after) : Registered after where
  current owner registration howner := by
    obtain ⟨hregistration, hcurrent⟩ := h.current owner registration (hserves.owners howner)
    refine ⟨hregistration, ?_⟩
    rcases hserves.sessions owner.connection with hsame | ⟨-, hnone⟩
    · rw [hsame, hcurrent]
    · rw [hnone owner rfl] at howner
      exact absurd howner (by simp)
  serial connection owner howner := by
    rw [hserves.serial connection]
    rcases hserves.sessions connection with hsame | ⟨hnone, -⟩
    · rw [hsame] at howner
      exact h.serial connection owner howner
    · rw [hnone] at howner
      exact absurd howner (by simp)

/-- An owner that has ended is not registered by a call that registers nobody. -/
theorem Ended.serves {caller : Caller} {before after : CompanionServer} (h : Ended before)
    (hserves : Serves caller before after) : Ended after := by
  intro connection hclosed
  rcases hserves.sessions connection with hsame | ⟨hnone, -⟩
  · rw [hserves.closed connection] at hclosed
    rw [hsame, h connection hclosed]
  · exact hnone

/-- A change of the lane that removes at most owners keeps the registrations. -/
theorem Registered.setLane {server : CompanionServer} (h : Registered server)
    {lane : ServerLane}
    (howners : ∀ owner registration, lane.owners owner = some registration →
      server.lane.owners owner = some registration) : Registered (server.setLane lane) :=
  ⟨fun owner registration howner => h.current owner registration (howners _ _ howner), h.serial⟩

/-! ## The operations of a connection -/

variable {server : CompanionServer} {caller : Caller}

namespace CompanionServer

/-- Changing one service apart from its session. -/
theorem setService_serves {connection : ConnectionId} {service : BridgeCompanionService}
    (hsession : service.dispatchOwner = (server.connections connection).dispatchOwner)
    (hserial : service.nextSerial = (server.connections connection).nextSerial)
    (hclosed : service.connectionClosed = (server.connections connection).connectionClosed) :
    Serves caller server (server.setService connection service) := by
  refine .of_sessions rfl ?_ ?_ ?_
  all_goals
    intro other
    by_cases hother : other = connection
    · subst hother
      simp only [setService, if_true]
      assumption
    · simp only [setService, hother, if_false]

theorem setRepeater_serves (connection : ConnectionId) (repeater : HoldRepeater) :
    Serves caller server (server.setRepeater connection repeater) :=
  setService_serves rfl rfl rfl

theorem setLane_serves {lane : ServerLane}
    (calls : List (LaneCall SessionOwner ConnectionId ConnectionId))
    (hlane : lane = server.lane.performAll caller calls)
    (hcalls : ∀ call ∈ calls, call.registers = false) :
    Serves caller server (server.setLane lane) :=
  ⟨⟨calls, hlane, hcalls⟩, fun _ => Or.inl rfl, fun _ => rfl, fun _ => rfl⟩

/-- Cancelling a repeat is one call of the lane. -/
theorem cancelRepeatGeneration_serves (connection : ConnectionId) (generation : Nat) :
    Serves caller server (server.cancelRepeatGeneration caller connection generation) := by
  simp only [cancelRepeatGeneration]
  split
  · exact .refl server
  · rename_i owner _
    have hlane : Serves caller server
        (server.setLane (server.lane.cancelGeneration caller owner generation)) :=
      setLane_serves [.cancelGeneration owner generation] rfl
        (by simp [LaneCall.registers])
    exact hlane.trans (setService_serves rfl rfl rfl)

theorem notifyStop_serves (connection : ConnectionId) (generation : Option Nat) :
    Serves caller server (server.notifyStop caller connection generation) := by
  cases generation with
  | none => exact .refl server
  | some generation => exact cancelRepeatGeneration_serves connection generation

theorem cancelHold_serves (connection : ConnectionId) (key : String) :
    Serves caller server (server.cancelHold caller connection key) :=
  (setRepeater_serves connection _).trans (notifyStop_serves connection _)

theorem cancelHolds_serves (server : CompanionServer) (caller : Caller)
    (connection : ConnectionId) (keys : List String) :
    Serves caller server (server.cancelHolds caller connection keys) := by
  induction keys generalizing server with
  | nil => exact .refl server
  | cons key rest ih => exact (cancelHold_serves connection key).trans (ih _)

/-- The end of a session is a call that ends its owner. -/
theorem endDispatchSession_serves (h : Registered server) (caller : Caller)
    (connection : ConnectionId) :
    Serves caller server (server.endDispatchSession caller connection) ∧
      ((server.endDispatchSession caller connection).connections connection).dispatchOwner =
        none := by
  simp only [endDispatchSession]
  cases howner : (server.connections connection).dispatchOwner with
  | none => exact ⟨.refl server, howner⟩
  | some owner =>
      refine ⟨⟨⟨[.cancelOwner owner], rfl, by simp [LaneCall.registers]⟩, ?_, ?_, ?_⟩,
        by simp [setLane, setService]⟩
      · intro other
        by_cases hother : other = connection
        · subst hother
          refine Or.inr ⟨by simp [setLane, setService], ?_⟩
          intro registered hregistered
          cases hlane : server.lane.owners registered with
          | none => simp [setLane, cancelOwner, deactivateOwner_owners, hlane]
          | some registration =>
              have hcurrent := (h.current registered registration hlane).2
              rw [hregistered, howner, Option.some.injEq] at hcurrent
              simp [setLane, cancelOwner, deactivateOwner_owners, hcurrent]
        · exact Or.inl (by simp [setLane, setService, hother])
      all_goals
        intro other
        by_cases hother : other = connection
        · subst hother
          simp [setLane, setService]
        · simp [setLane, setService, hother]

/-- So a close is at most the cancels of its holds and the end of its owner. -/
theorem closeConnection_serves (h : Registered server) (caller : Caller)
    (connection : ConnectionId) :
    Serves caller server (server.closeConnection caller connection) ∧
      ((server.closeConnection caller connection).connections connection).dispatchOwner =
        none := by
  have hstopped := cancelHolds_serves server caller connection
    ((server.connections connection).repeater.held.map Prod.fst)
  obtain ⟨hended, hnone⟩ :=
    endDispatchSession_serves (h.serves hstopped) caller connection
  exact ⟨hstopped.trans hended, hnone⟩

/-- The handler of a refused owner is such a close. -/
theorem runHandler_serves (h : Registered server) (handler : Option ConnectionId) :
    Serves caller server (server.runHandler caller handler) := by
  cases handler with
  | none => exact .refl server
  | some connection => exact (closeConnection_serves h _ connection).1

/-- A call on the lane with the callback it leaves. -/
theorem settleCall_serves (h : Registered server)
    (call : LaneCall SessionOwner ConnectionId ConnectionId) (hcall : call.registers = false) :
    Serves caller server (server.settleReply caller (server.lane.perform caller call)) := by
  have hlane : Serves caller server (server.setLane (server.lane.perform caller call).lane) :=
    setLane_serves [call] rfl (by simpa using hcall)
  exact hlane.trans (runHandler_serves (h.serves hlane) _)

theorem submitDispatch_serves (h : Registered server) (verdict : Verdict)
    (connection : ConnectionId) (command : Command) :
    Serves .other server (server.submitDispatch verdict connection command).1 := by
  simp only [submitDispatch]
  split
  · exact .refl server
  · rename_i owner _
    exact settleCall_serves h (.submit verdict owner command) rfl

theorem startHold_serves (connection : ConnectionId) (owner : SessionOwner) (key : String)
    (clickTicket : Nat) :
    Serves .other server (server.startHold connection owner key clickTicket) := by
  simp only [startHold]
  split
  · exact setService_serves rfl rfl rfl
  · exact (cancelHolds_serves server .other connection _).trans (setService_serves rfl rfl rfl)

/-- A command that reaches the sink makes calls of the lane and nothing else. -/
theorem dispatchSink_serves (h : Registered server) (verdict : Verdict)
    (connection : ConnectionId) (command : Command) :
    Serves .other server (server.dispatchSink verdict connection command) := by
  simp only [dispatchSink]
  split
  · split
    · split
      · exact (submitDispatch_serves h verdict connection _).trans
          (startHold_serves connection _ _ _)
      · exact submitDispatch_serves h verdict connection _
    · exact .refl server
  · split
    · exact .refl server
    · exact cancelHold_serves connection _
  · exact submitDispatch_serves h verdict connection command

theorem sinkAll_serves (h : Registered server) (verdicts : Nat → Verdict)
    (connection : ConnectionId) (commands : List Command) :
    Serves .other server (server.sinkAll verdicts connection commands) := by
  induction commands generalizing server verdicts with
  | nil => exact .refl server
  | cons command rest ih =>
      have hfirst := dispatchSink_serves h (verdicts 0) connection command
      exact hfirst.trans (ih (h.serves hfirst) fun n => verdicts (n + 1))

/-- So does what a relay decides, command by command. -/
theorem relayed_serves (h : Registered server) (verdicts : Nat → Verdict)
    (connection : ConnectionId) (decision : CommandRelay × List Command) :
    Serves .other server (server.relayed verdicts connection decision) :=
  (sinkAll_serves h verdicts connection decision.2).trans (setService_serves rfl rfl rfl)

theorem setRepeatPoint_serves (connection : ConnectionId) (generation : Nat)
    (task : RepeatTask) :
    Serves .other server (server.setRepeatPoint connection generation task) :=
  setService_serves rfl rfl rfl

theorem finishRepeat_serves (connection : ConnectionId) (generation : Nat) (task : RepeatTask) :
    Serves .other server (server.finishRepeat connection generation task) :=
  ((setRepeater_serves connection _).trans (notifyStop_serves connection _)).trans
    (setRepeatPoint_serves connection generation _)

theorem sendRepeatKey_serves (h : Registered server) (verdicts : Nat → Verdict)
    (connection : ConnectionId) (key : String) (generation : Nat) :
    Serves .other server (server.sendRepeatKey verdicts connection key generation).1 := by
  simp only [sendRepeatKey]
  split
  · exact (closeConnection_serves h _ connection).1
  · split
    · exact .refl server
    · rename_i owner _
      exact settleCall_serves h (.submitAndWait (verdicts 1) owner _ generation) rfl

theorem repeatOnce_serves (h : Registered server) (verdicts : Nat → Verdict) (now : ℚ)
    (connection : ConnectionId) (generation : Nat) (task : RepeatTask) :
    Serves .other server (server.repeatOnce verdicts now connection generation task) := by
  simp only [repeatOnce]
  split
  · have hsent := sendRepeatKey_serves h verdicts connection task.key generation
    split
    · exact hsent.trans (finishRepeat_serves connection generation task)
    · exact hsent.trans (setRepeatPoint_serves connection generation _)
  · exact finishRepeat_serves connection generation task

theorem resumeRepeat_serves (h : Registered server) {verdicts : Nat → Verdict} {now : ℚ}
    {connection : ConnectionId} {generation : Nat} {next : CompanionServer}
    (hresume : server.resumeRepeat verdicts now connection generation = some next) :
    Serves .other server next := by
  simp only [resumeRepeat] at hresume
  split at hresume
  · exact absurd hresume (by simp)
  · rename_i task _
    split at hresume
    · exact absurd hresume (by simp)
    · exact Option.some.inj hresume ▸ setRepeatPoint_serves connection generation _
    · exact Option.some.inj hresume ▸ setRepeatPoint_serves connection generation _
    · exact Option.some.inj hresume ▸ finishRepeat_serves connection generation task
    · exact Option.some.inj hresume ▸ repeatOnce_serves h verdicts now connection generation task
    · exact Option.some.inj hresume ▸ repeatOnce_serves h verdicts now connection generation task
    · split at hresume
      · exact absurd hresume (by simp)
      · exact Option.some.inj hresume ▸ setRepeatPoint_serves connection generation _
      · exact Option.some.inj hresume ▸ finishRepeat_serves connection generation task

/-! ## Steps -/

/-- What one step of the server does to registrations: owners are registered
only with serial numbers that were never used. A step that does not dispatch is
a run of the lane that does not. -/
structure RegistrationStep (dispatches : Bool) (before after : CompanionServer) : Prop where
  registered : Registered after
  fresh : ∀ owner, (after.lane.owners owner).isSome → (before.lane.owners owner).isSome ∨
    (before.connections owner.connection).nextSerial ≤ owner.serial
  serial : ∀ connection, (before.connections connection).nextSerial ≤
    (after.connections connection).nextSerial
  runs : ∃ labels, Machine.run CommandDispatchLane.step before.lane labels = some after.lane ∧
    ∀ label ∈ labels, label.dispatches = true → dispatches = true

structure SessionStep (dispatches : Bool) (before after : CompanionServer) : Prop
    extends RegistrationStep dispatches before after where
  ended : Ended before → Ended after

variable {dispatches : Bool}

/-- The calls as labels of the lane, each without a callback. -/
theorem run_performAll (lane : ServerLane)
    (calls : List (LaneCall SessionOwner ConnectionId ConnectionId)) :
    Machine.run CommandDispatchLane.step lane (calls.map fun call => .call call []) =
      some (lane.performAll .other calls) := by
  induction calls generalizing lane with
  | nil => rfl
  | cons call rest ih =>
      have hcall : lane.step (.call call []) = some (lane.perform .other call).lane := by
        simp only [CommandDispatchLane.step, CommandDispatchLane.runHandler]
        split <;> rfl
      rw [List.map_cons, Machine.run_cons]
      exact ⟨_, hcall, ih _⟩

/-- Calls of a connection are a step of the server. -/
theorem SessionStep.of_serves {after : CompanionServer} (h : Registered server)
    (hserves : Serves .other server after) : SessionStep dispatches server after where
  registered := h.serves hserves
  fresh owner howner := by
    obtain ⟨registration, hregistration⟩ := Option.isSome_iff_exists.mp howner
    exact Or.inl (by rw [hserves.owners hregistration]; rfl)
  serial connection := le_of_eq (hserves.serial connection).symm
  runs := by
    obtain ⟨calls, hlane, -⟩ := hserves.calls
    refine ⟨_, hlane ▸ run_performAll server.lane calls, ?_⟩
    intro label hlabel hdispatches
    obtain ⟨call, -, rfl⟩ := List.mem_map.mp hlabel
    exact absurd hdispatches (by simp [LaneLabel.dispatches])
  ended hended := hended.serves hserves

/-- The worker takes a step of its own, makes calls, and takes another step of its own. -/
theorem SessionStep.of_worker {middle handled : CompanionServer} {lane : ServerLane}
    (h : Registered middle) (hserves : Serves .worker middle handled)
    (howners : ∀ owner registration, middle.lane.owners owner = some registration →
      server.lane.owners owner = some registration)
    (hservices : middle.connections = server.connections)
    (hlane : lane.owners = handled.lane.owners)
    (label : LaneLabel SessionOwner ConnectionId ConnectionId)
    (hlabel : label.dispatches = true → dispatches = true)
    (hstep : server.lane.step label = some lane) :
    SessionStep dispatches server (handled.setLane lane) where
  registered := (h.serves hserves).setLane fun _ _ howner => hlane ▸ howner
  fresh owner howner := by
    obtain ⟨registration, hregistration⟩ := Option.isSome_iff_exists.mp howner
    have hbefore : handled.lane.owners owner = some registration := hlane ▸ hregistration
    exact Or.inl (by rw [howners _ _ (hserves.owners hbefore)]; rfl)
  serial connection :=
    le_of_eq ((hserves.serial connection).trans (by rw [hservices])).symm
  runs := ⟨[label], (Machine.run_cons _ _ _ _).mpr ⟨_, hstep, rfl⟩, by simpa using hlabel⟩
  ended hended := by
    have hmiddle : Ended middle := fun connection => hservices ▸ hended connection
    have hhandled : Ended handled := hmiddle.serves hserves
    exact hhandled

/-- The only operation of the server that registers an owner. -/
theorem beginDispatchSession_step (h : Registered server) {connection : ConnectionId}
    (hopen : (server.connections connection).connectionClosed = false) :
    SessionStep dispatches server (server.beginDispatchSession connection) ∧
      ∀ owner, ((server.beginDispatchSession connection).connections connection).dispatchOwner =
        some owner → (server.connections connection).nextSerial ≤ owner.serial := by
  obtain ⟨hserves, hnone⟩ := closeConnection_serves h .other connection
  have hclosed := h.serves hserves
  have hended : SessionStep dispatches server _ := .of_serves h hserves
  have hserial := hserves.serial connection
  have hstill := hserves.closed connection
  simp only [beginDispatchSession]
  -- the earlier session is closed first; only its result matters below
  generalize server.closeConnection .other connection = ended at *
  have howners := ended.lane.perform_activate_owners .other
    ⟨connection, (ended.connections connection).nextSerial⟩ ⟨some connection, some connection⟩
  refine ⟨⟨⟨⟨?_, ?_⟩, ?_, ?_, ?_⟩, ?_⟩, ?_⟩
  · intro owner registration howner
    rcases howners owner registration howner with ⟨rfl, rfl⟩ | hbefore
    · exact ⟨rfl, by simp [setLane, setService]⟩
    · obtain ⟨hregistration, hcurrent⟩ := hclosed.current owner registration hbefore
      refine ⟨hregistration, ?_⟩
      by_cases hother : owner.connection = connection
      · rw [hother, hnone] at hcurrent
        exact absurd hcurrent (by simp)
      · simpa [setLane, setService, hother] using hcurrent
  · intro other owner howner
    by_cases hother : other = connection
    · subst hother
      simp only [setLane, setService, if_true, Option.some.injEq] at howner ⊢
      rw [← howner]
      exact ⟨rfl, Nat.lt_succ_self _⟩
    · simp only [setLane, setService, hother, if_false] at howner ⊢
      exact hclosed.serial other owner howner
  · intro owner howner
    obtain ⟨registration, hregistration⟩ := Option.isSome_iff_exists.mp howner
    rcases howners owner registration hregistration with ⟨rfl, -⟩ | hbefore
    · exact Or.inr (le_of_eq hserial.symm)
    · exact hended.fresh owner (by rw [hbefore]; rfl)
  · intro other
    by_cases hother : other = connection
    · subst hother
      simp only [setLane, setService, if_true]
      omega
    · simp only [setLane, setService, hother, if_false]
      exact hended.serial other
  · obtain ⟨labels, hrun, hquiet⟩ := hended.runs
    refine ⟨labels ++ [.call (.activate ⟨connection, (ended.connections connection).nextSerial⟩
      ⟨some connection, some connection⟩) []], ?_, ?_⟩
    · rw [Machine.run_append]
      refine ⟨_, hrun, (Machine.run_cons _ _ _ _).mpr ⟨_, rfl, ?_⟩⟩
      simp [CommandDispatchLane.runHandler, perform, setLane]
    · intro label hlabel
      rcases List.mem_append.mp hlabel with hcall | hactivate
      · exact hquiet label hcall
      · rw [List.mem_singleton.mp hactivate]
        exact fun hdispatches => absurd hdispatches (by simp [LaneLabel.dispatches])
  · intro hbefore other hother
    by_cases hsame : other = connection
    · subst hsame
      simp only [setLane, setService, if_true, hstill, hopen] at hother
      exact absurd hother (by simp)
    · simp only [setLane, setService, hsame, if_false] at hother ⊢
      exact hended.ended hbefore other hother
  · intro owner howner
    simp only [setLane, setService, if_true, Option.some.injEq] at howner
    rw [← howner]
    exact le_of_eq hserial.symm

/-- Marking a connection as torn down concerns no session. -/
theorem teardownConnection_step (h : Registered server) (connection : ConnectionId) :
    Registered (server.teardownConnection connection) := by
  have hsame : ∀ other, ((server.teardownConnection connection).connections other).dispatchOwner =
      (server.connections other).dispatchOwner ∧
      ((server.teardownConnection connection).connections other).nextSerial =
        (server.connections other).nextSerial := by
    intro other
    by_cases hother : other = connection
    · subst hother
      simp [teardownConnection, setService]
    · simp [teardownConnection, setService, hother]
  refine ⟨?_, ?_⟩
  · intro owner registration howner
    rw [(hsame owner.connection).1]
    exact h.current owner registration howner
  · intro other owner howner
    rw [(hsame other).1] at howner
    rw [(hsame other).2]
    exact h.serial other owner howner

theorem RegistrationStep.of_same {after : CompanionServer} (hregistered : Registered after)
    (hlane : after.lane = server.lane)
    (hserial : ∀ connection, (after.connections connection).nextSerial =
      (server.connections connection).nextSerial) : RegistrationStep dispatches server after :=
  ⟨hregistered, fun _ howner => Or.inl (hlane ▸ howner), fun connection =>
    le_of_eq (hserial connection).symm, ⟨[], by rw [hlane]; rfl, by simp⟩⟩

theorem RegistrationStep.trans {first second third : CompanionServer}
    (hfirst : RegistrationStep dispatches first second)
    (hsecond : RegistrationStep dispatches second third) :
    RegistrationStep dispatches first third where
  registered := hsecond.registered
  fresh owner howner := by
    rcases hsecond.fresh owner howner with hbefore | hserial
    · exact hfirst.fresh owner hbefore
    · exact Or.inr ((hfirst.serial owner.connection).trans hserial)
  serial connection := (hfirst.serial connection).trans (hsecond.serial connection)
  runs := by
    obtain ⟨early, hearly, hquiet⟩ := hfirst.runs
    obtain ⟨late, hlate, hquiet'⟩ := hsecond.runs
    refine ⟨early ++ late, (Machine.run_append _ _ _ _).mpr ⟨_, hearly, hlate⟩, ?_⟩
    intro label hlabel
    exact (List.mem_append.mp hlabel).elim (hquiet label) (hquiet' label)

theorem teardownConnection_registrationStep (h : Registered server) (connection : ConnectionId) :
    RegistrationStep dispatches server (server.teardownConnection connection) := by
  refine .of_same (teardownConnection_step h connection) rfl ?_
  intro other
  by_cases hother : other = connection
  · subst hother
    simp [teardownConnection, setService]
  · simp [teardownConnection, setService, hother]

/-- A lane step that removes at most owners is a step of the server. -/
theorem SessionStep.of_lane {lane : ServerLane} (h : Registered server)
    (howners : ∀ owner registration, lane.owners owner = some registration →
      server.lane.owners owner = some registration)
    (label : LaneLabel SessionOwner ConnectionId ConnectionId)
    (hlabel : label.dispatches = true → dispatches = true)
    (hstep : server.lane.step label = some lane) :
    SessionStep dispatches server (server.setLane lane) := by
  have hmiddle : Serves .worker (server.setLane lane) (server.setLane lane) := .refl _
  have hworker := SessionStep.of_worker (h.setLane howners) hmiddle howners rfl
    (Eq.refl lane.owners) label hlabel hstep
  exact hworker

/-- The callback of a worker step, as calls of the lane machine. -/
theorem settleReply_worker (h : Registered server)
    {reply : LaneReply SessionOwner ConnectionId ConnectionId}
    (howners : ∀ owner registration, reply.lane.owners owner = some registration →
      server.lane.owners owner = some registration) :
    ∃ callback, (server.settleReply .worker reply).lane =
        CommandDispatchLane.runHandler reply .worker callback ∧
      Serves .worker (server.setLane reply.lane) (server.settleReply .worker reply) := by
  have hserves : Serves .worker (server.setLane reply.lane) (server.settleReply .worker reply) :=
    runHandler_serves (h.setLane howners) reply.handler
  obtain ⟨calls, hlane, -⟩ := hserves.calls
  refine ⟨calls, ?_, hserves⟩
  unfold CommandDispatchLane.runHandler
  split
  · exact hlane
  · rename_i hnone
    simp [settleReply, Option.not_isSome_iff_eq_none.mp hnone, runHandler, setLane]

/-- A scan may end the owner of the head and no other. -/
theorem workerScan_owners {lane : ServerLane} {verdict : Verdict}
    {reply : LaneReply SessionOwner ConnectionId ConnectionId}
    (hscan : lane.workerScan verdict = some reply) {owner : SessionOwner}
    {registration : DispatchOwner ConnectionId ConnectionId}
    (howner : reply.lane.owners owner = some registration) :
    lane.owners owner = some registration := by
  obtain ⟨cancelRequested, -, ⟨-, rfl⟩ | ⟨item, rest, -, hcases⟩⟩ := workerScan_cases hscan
  · exact howner
  · rcases hcases with ⟨-, rfl⟩ | ⟨_, check, -, -, -, rfl⟩ | ⟨-, rfl⟩ | ⟨-, -, rfl⟩
    · exact howner
    · simp only [cancelCompletion, deactivateOwner_owners] at howner
      split at howner
      · exact absurd howner (by simp)
      · exact howner
    · exact howner
    · exact howner

/-- A revoked dispatch ends its own owner. -/
theorem settle_owners (lane : ServerLane) (item : QueuedCommand SessionOwner)
    (outcome : DispatchOutcome) {owner : SessionOwner}
    {registration : DispatchOwner ConnectionId ConnectionId}
    (howner : (lane.settle item outcome).lane.owners owner = some registration) :
    lane.owners owner = some registration := by
  cases outcome with
  | revoked =>
      simp only [settle, deactivateOwner_owners] at howner
      split at howner
      · exact absurd howner (by simp)
      · exact howner
  | suspended | returned | failed | cancelled => exact howner

/-- A step of the dispatching worker is a session step of the server. -/
theorem workerResume_step (h : Registered server) {outcome : DispatchOutcome}
    {next : CompanionServer} (hresume : server.workerResume outcome = some next) :
    SessionStep true server next := by
  unfold workerResume at hresume
  split at hresume
  · rename_i interrupted cancelRequested item htask hitem
    have hlane : ∀ callback, server.lane.workerResume outcome callback =
        if outcome = .suspended then
          some (server.lane.suspendAgain ⟨.dispatching interrupted, cancelRequested⟩ interrupted)
        else if outcome = .cancelled ∧
            !canBeCancelled ⟨.dispatching interrupted, cancelRequested⟩ then
          none
        else
          some ((CommandDispatchLane.runHandler (server.lane.settle item outcome) .worker
            callback).finishItem (server.lane.settle item outcome).accepted) := by
      intro callback
      simp only [CommandDispatchLane.workerResume, htask, hitem]
    split at hresume
    · rename_i hsuspended
      rw [Option.some.injEq] at hresume
      subst hresume
      exact .of_lane h (fun _ _ howner => howner) (.workerResume outcome [])
        (fun _ => rfl) (by rw [CommandDispatchLane.step, hlane, if_pos hsuspended])
    · rename_i hresumed
      split at hresume
      · exact absurd hresume (by simp)
      · rename_i hallowed
        rw [Option.some.injEq] at hresume
        subst hresume
        obtain ⟨callback, hsettled, hserves⟩ := settleReply_worker h
          (fun _ _ => settle_owners server.lane item outcome)
        refine .of_worker (h.setLane fun _ _ => settle_owners server.lane item outcome) hserves
          (fun _ _ => settle_owners server.lane item outcome) rfl rfl
          (.workerResume outcome callback) (fun _ => rfl) ?_
        rw [CommandDispatchLane.step, hlane, if_neg hresumed, if_neg hallowed, ← hsettled]
  · exact absurd hresume (by simp)

theorem workerWake_owners {lane next : ServerLane} (hwake : lane.workerWake = some next) :
    next.owners = lane.owners := by
  unfold workerWake at hwake
  split at hwake
  · split at hwake <;> · rw [← Option.some.inj hwake]; rfl
  · split at hwake
    · rw [← Option.some.inj hwake]
      rfl
    · split at hwake
      · rw [← Option.some.inj hwake]
        rfl
      · exact absurd hwake (by simp)
  · exact absurd hwake (by simp)

theorem close_owners {lane : ServerLane} {owner : SessionOwner}
    {registration : DispatchOwner ConnectionId ConnectionId}
    (howner : lane.close.owners owner = some registration) :
    lane.owners owner = some registration := by
  unfold close at howner
  split at howner
  · exact howner
  · have hnone : none = some registration := howner
    exact absurd hnone (by simp)

theorem closeFinished_owners {lane next : ServerLane}
    (hclose : lane.closeFinished = some next) : next.owners = lane.owners := by
  unfold closeFinished at hclose
  split at hclose
  · rw [← Option.some.inj hclose]
  · exact absurd hclose (by simp)

theorem teardownConnection_dispatchOwner (connection other : ConnectionId) :
    ((server.teardownConnection connection).connections other).dispatchOwner =
      (server.connections other).dispatchOwner := by
  by_cases hother : other = connection
  · subst hother
    simp [teardownConnection, setService]
  · simp [teardownConnection, setService, hother]

theorem teardownConnection_connectionClosed {connection other : ConnectionId}
    (hother : other ≠ connection) :
    ((server.teardownConnection connection).connections other).connectionClosed =
      (server.connections other).connectionClosed := by
  simp [teardownConnection, setService, hother]

/-- A connection that is lost is torn down, then its session is ended; a second
loss changes nothing. -/
theorem connectionLost_step (h : Registered server) (connection : ConnectionId) :
    SessionStep dispatches server (server.connectionLost connection) := by
  unfold connectionLost
  split
  · exact .of_serves h (.refl server)
  · have htorn : RegistrationStep dispatches server _ :=
      teardownConnection_registrationStep h connection
    obtain ⟨hserves, hnone⟩ := closeConnection_serves htorn.registered .other connection
    have hclose : SessionStep dispatches _ _ := .of_serves htorn.registered hserves
    refine ⟨htorn.trans hclose.toRegistrationStep, ?_⟩
    intro hended other hclosed
    by_cases hother : other = connection
    · rw [hother, hnone]
    · rw [hserves.closed, teardownConnection_connectionClosed hother] at hclosed
      rcases hserves.sessions other with hsame | ⟨hnone', -⟩
      · rw [hsame, teardownConnection_dispatchOwner, hended other hclosed]
      · exact hnone'

/-- A shutdown is an end of the session followed by a teardown. -/
theorem shutdown_step (h : Registered server) (connection : ConnectionId) :
    SessionStep dispatches server (server.shutdown connection) := by
  obtain ⟨hserves, hnone⟩ := closeConnection_serves h .other connection
  have hclose : SessionStep dispatches server _ := .of_serves h hserves
  refine ⟨hclose.trans
    (teardownConnection_registrationStep (h.serves hserves) connection), ?_⟩
  intro hended other hclosed
  rw [shutdown, teardownConnection_dispatchOwner]
  by_cases hother : other = connection
  · rw [hother, hnone]
  · rw [shutdown, teardownConnection_connectionClosed hother] at hclosed
    exact hended.serves hserves other hclosed

/-- Every step of the server is a run of its lane and registers fresh owners only. -/
theorem step_sessionStep (h : Registered server) {label : ServerLabel} {next : CompanionServer}
    (hstep : server.step label = some next) : SessionStep label.dispatches server next := by
  -- only a session start activates an owner
  cases label with
  | sessionStart connection =>
      obtain ⟨hopen, rfl⟩ := onFrame_eq_some hstep
      exact (beginDispatchSession_step h hopen).1
  | sessionStop connection =>
      obtain ⟨-, rfl⟩ := onFrame_eq_some hstep
      exact .of_serves h (closeConnection_serves h .other connection).1
  | touchStop connection =>
      obtain ⟨-, rfl⟩ := onFrame_eq_some hstep
      exact .of_serves h (cancelHolds_serves server .other connection _)
  | touch connection nowMs action cx cy verdicts =>
      obtain ⟨-, rfl⟩ := onFrame_eq_some hstep
      exact .of_serves h (relayed_serves h verdicts connection _)
  | button connection nowMs hidCode buttonState verdicts =>
      obtain ⟨-, rfl⟩ := onFrame_eq_some hstep
      exact .of_serves h (relayed_serves h verdicts connection _)
  | mediaControl connection nowMs key source verdicts =>
      obtain ⟨-, rfl⟩ := onFrame_eq_some hstep
      exact .of_serves h (relayed_serves h verdicts connection _)
  | text connection text verdict =>
      obtain ⟨-, rfl⟩ := onFrame_eq_some hstep
      exact .of_serves h (dispatchSink_serves h verdict connection _)
  | closeConnection connection =>
      rw [step, Option.some.injEq] at hstep
      exact hstep ▸ .of_serves h (closeConnection_serves h .other connection).1
  | connectionLost connection =>
      rw [step, Option.some.injEq] at hstep
      exact hstep ▸ connectionLost_step h connection
  | shutdown connection =>
      rw [step, Option.some.injEq] at hstep
      exact hstep ▸ shutdown_step h connection
  | resumeRepeat connection generation now verdicts =>
      exact .of_serves h (resumeRepeat_serves h hstep)
  | workerWake =>
      obtain ⟨lane, hwake, rfl⟩ := Option.map_eq_some_iff.mp hstep
      exact .of_lane h (fun _ _ howner => workerWake_owners hwake ▸ howner) .workerWake
        (fun hdispatches => hdispatches) hwake
  | workerScan verdict =>
      obtain ⟨reply, hscan, rfl⟩ := Option.map_eq_some_iff.mp hstep
      obtain ⟨callback, hsettled, hserves⟩ :=
        settleReply_worker h (fun _ _ => workerScan_owners hscan)
      refine .of_worker (h.setLane fun _ _ => workerScan_owners hscan) hserves
        (fun _ _ => workerScan_owners hscan) rfl rfl (.workerScan verdict callback)
        (fun _ => rfl) ?_
      rw [CommandDispatchLane.step, hscan, Option.map_some, ← hsettled]
      rfl
  | workerResume outcome => exact workerResume_step h hstep
  | laneClose =>
      rw [step, Option.some.injEq] at hstep
      exact hstep ▸ .of_lane h (fun _ _ => close_owners) .close
        (fun hdispatches => hdispatches) rfl
  | laneCloseFinished =>
      obtain ⟨lane, hclose, rfl⟩ := Option.map_eq_some_iff.mp hstep
      exact .of_lane h (fun _ _ howner => closeFinished_owners hclose ▸ howner) .closeFinished
        (fun hdispatches => hdispatches) hclose

/-- Whatever session a connection has after its session was ended is a new one. -/
theorem step_endsSession (h : Registered server) (hended : Ended server) {label : ServerLabel}
    {next : CompanionServer} (hstep : server.step label = some next) {connection : ConnectionId}
    (hends : label.EndsSession connection) (owner : SessionOwner)
    (howner : (next.connections connection).dispatchOwner = some owner) :
    (server.connections connection).nextSerial ≤ owner.serial := by
  have hnone : (next.connections connection).dispatchOwner = none →
      (server.connections connection).nextSerial ≤ owner.serial :=
    fun hnone => absurd (hnone.symm.trans howner) (by simp)
  cases label with
  | sessionStart other =>
      obtain rfl : other = connection := hends
      obtain ⟨hopen, rfl⟩ := onFrame_eq_some hstep
      have hbegun : SessionStep false server _ ∧ _ := beginDispatchSession_step h hopen
      -- the session that starts has a serial of its own
      exact hbegun.2 owner howner
  | sessionStop other =>
      obtain rfl : other = connection := hends
      obtain ⟨-, rfl⟩ := onFrame_eq_some hstep
      exact hnone (closeConnection_serves h .other other).2
  | closeConnection other =>
      obtain rfl : other = connection := hends
      obtain rfl := Option.some.inj hstep
      exact hnone (closeConnection_serves h .other other).2
  | connectionLost other =>
      obtain rfl : other = connection := hends
      obtain rfl := Option.some.inj hstep
      refine hnone ?_
      unfold connectionLost
      split
      · rename_i hclosed
        exact hended other hclosed
      · exact (closeConnection_serves (teardownConnection_step h other) .other other).2
  | shutdown other =>
      obtain rfl : other = connection := hends
      obtain rfl := Option.some.inj hstep
      refine hnone ?_
      rw [shutdown, teardownConnection_dispatchOwner]
      exact (closeConnection_serves h .other other).2
  | touchStop | touch | button | mediaControl | text | resumeRepeat | workerWake | workerScan
  | workerResume | laneClose | laneCloseFinished =>
      exact absurd hends (by simp [ServerLabel.EndsSession])

end CompanionServer

end CompanionBridge
