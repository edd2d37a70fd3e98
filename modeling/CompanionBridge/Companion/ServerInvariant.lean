import CompanionBridge.Companion.DispatchInvariant
import CompanionBridge.Companion.Server

/-!
# Invariant of the connections and their lane

A queued repeat is always tagged with a generation that its connection still
holds, under the owner that was current when the hold began. Every operation
keeps this, because a generation leaves the repeater together with its work in
the lane.
-/

namespace CompanionBridge

open CommandDispatchLane

/-- The immediate click recorded for a hold was accepted, untagged, under the hold's owner. -/
def FirstClick (log : List (LaneEvent SessionOwner)) (start : HoldStart) : Prop :=
  ∃ item, LaneEvent.accepted item ∈ log ∧ item.ticket = start.clickTicket ∧
    item.owner = start.owner ∧ item.holdGeneration = none ∧
    item.command.action = .sendKey ∧ item.command.samsungKey = some start.key

structure ServiceInvariant (connection : ConnectionId) (service : BridgeCompanionService) :
    Prop where
  session : ∀ owner, service.dispatchOwner = some owner → owner.connection = connection
  owners : ∀ generation owner, service.repeatOwners generation = some owner →
    owner.connection = connection ∧
      (∃ start, service.holdStarts generation = some start ∧ start.owner = owner) ∧
      ∃ key, (key, generation) ∈ service.repeater.held
  single : service.repeater.held.length ≤ 1
  numbered : ∀ entry ∈ service.repeater.held, entry.2 ≤ service.repeater.nextGeneration
  fresh : ∀ generation, service.repeater.nextGeneration < generation →
    service.holdStarts generation = none
  hold : service.relay.HoldInvariant

structure ServerInvariant (server : CompanionServer) : Prop where
  lane : server.lane.LaneInvariant
  service : ∀ connection, ServiceInvariant connection (server.connections connection)
  /-- A queued repeat belongs to a generation that is still held, and to its owner. -/
  tagged : ∀ item ∈ server.lane.queue, ∀ generation, item.holdGeneration = some generation →
    (server.connections item.owner.connection).repeatOwners generation = some item.owner
  submitted : ∀ item generation, LaneEvent.accepted item ∈ server.lane.log →
    item.holdGeneration = some generation →
    ∃ start, (server.connections item.owner.connection).holdStarts generation = some start ∧
      start.owner = item.owner
  clicked : ∀ connection generation start,
    (server.connections connection).holdStarts generation = some start →
    FirstClick server.lane.log start

/-- The lane only lost queued items, and neither accepted nor began any. -/
structure LaneQuiet (before after : ServerLane) : Prop where
  log : ∃ events, after.log = before.log ++ events ∧
    ∀ item, LaneEvent.begun item ∉ events ∧ LaneEvent.accepted item ∉ events
  queue : ∀ item ∈ after.queue, item ∈ before.queue

/-- Nothing was begun and no hold was started. -/
structure Quietly (before after : CompanionServer) : Prop where
  log : ∃ events, after.lane.log = before.lane.log ++ events ∧
    ∀ item, LaneEvent.begun item ∉ events
  held : ∀ connection, ∀ entry ∈ (after.connections connection).repeater.held,
    entry ∈ (before.connections connection).repeater.held
  generation : ∀ connection, (after.connections connection).repeater.nextGeneration =
    (before.connections connection).repeater.nextGeneration
  relay : ∀ connection, (after.connections connection).relay = (before.connections connection).relay
  closed : ∀ connection, (after.connections connection).connectionClosed =
    (before.connections connection).connectionClosed

/-- One event that is neither a begin nor an acceptance is quiet. -/
theorem LaneQuiet.of_event {before after : ServerLane} (event : LaneEvent SessionOwner)
    (hlog : after.log = before.log ++ [event]) (hbegun : ∀ item, event ≠ .begun item)
    (haccepted : ∀ item, event ≠ .accepted item)
    (hqueue : ∀ item ∈ after.queue, item ∈ before.queue) : LaneQuiet before after where
  log := by
    refine ⟨[event], hlog, ?_⟩
    intro item
    simp only [List.mem_singleton]
    exact ⟨fun h => hbegun item h.symm, fun h => haccepted item h.symm⟩
  queue := hqueue

theorem LaneQuiet.of_same {before after : ServerLane} (hlog : after.log = before.log)
    (hqueue : after.queue = before.queue) : LaneQuiet before after where
  log := ⟨[], by rw [hlog, List.append_nil], by simp⟩
  queue := by simp [hqueue]

/-- The end of an owner accepts and begins nothing. -/
theorem LaneQuiet.deactivateOwner (lane : ServerLane) (caller : Caller) (owner : SessionOwner)
    (cause : OwnerEnd) : LaneQuiet lane (lane.deactivateOwner caller owner cause) :=
  .of_event (.ownerEnded owner cause) rfl (by simp) (by simp)
    fun _ hitem => List.mem_of_mem_filter hitem

theorem LaneQuiet.cancelGeneration (lane : ServerLane) (caller : Caller) (owner : SessionOwner)
    (generation : Nat) : LaneQuiet lane (lane.cancelGeneration caller owner generation) :=
  .of_event (.generationEnded owner generation) rfl (by simp) (by simp)
    fun _ hitem => List.mem_of_mem_filter hitem

/-- The end of a dispatch resolves its completion and says nothing else. -/
theorem LaneQuiet.settle (lane : ServerLane) (item : QueuedCommand SessionOwner)
    (outcome : DispatchOutcome) : LaneQuiet lane (lane.settle item outcome).lane := by
  cases outcome with
  | revoked => exact .deactivateOwner lane .worker item.owner .revoked
  | suspended | returned | failed | cancelled => exact .of_same rfl rfl

/-- A command that was not accepted leaves no trace in the queue. -/
theorem LaneQuiet.enqueue_rejected {lane : ServerLane} {verdict : Verdict} {caller : Caller}
    {owner : SessionOwner} {command : Command} {holdGeneration completion : Option Nat}
    (hrejected :
      (lane.enqueue verdict caller owner command holdGeneration completion).accepted = false) :
    LaneQuiet lane
      (lane.enqueue verdict caller owner command holdGeneration completion).lane := by
  rcases lane.enqueue_cases verdict caller owner command holdGeneration completion with
    hreply | ⟨registration, check, -, -, -, hreply⟩ | ⟨-, -, hreply⟩
  · rw [hreply]
    exact .of_same rfl rfl
  · rw [hreply]
    exact .deactivateOwner lane caller owner .unauthorized
  · rw [hreply] at hrejected ⊢
    rcases lane.place_cases owner command holdGeneration completion with
      ⟨front, tail, replaced, -, -, -, -, -, hplace⟩ | ⟨-, hplace⟩ | ⟨item, -, -, hplace⟩
    · rw [hplace] at hrejected
      exact absurd hrejected (by simp)
    · rw [hplace]
      exact .of_same rfl rfl
    · rw [hplace] at hrejected
      exact absurd hrejected (by simp)

namespace Quietly

theorem refl (server : CompanionServer) : Quietly server server :=
  ⟨⟨[], by simp, by simp⟩, fun _ _ => id, fun _ => rfl, fun _ => rfl, fun _ => rfl⟩

/-- Quiet parts of a step are a quiet step. -/
theorem trans {first second third : CompanionServer} (hfirst : Quietly first second)
    (hsecond : Quietly second third) : Quietly first third where
  log := by
    obtain ⟨early, hearly, hnone⟩ := hfirst.log
    obtain ⟨late, hlate, hnone'⟩ := hsecond.log
    refine ⟨early ++ late, by rw [hlate, hearly, List.append_assoc], ?_⟩
    intro item
    simp [hnone item, hnone' item]
  held connection entry hentry := hfirst.held connection entry (hsecond.held connection entry hentry)
  generation connection := (hsecond.generation connection).trans (hfirst.generation connection)
  relay connection := (hsecond.relay connection).trans (hfirst.relay connection)
  closed connection := (hsecond.closed connection).trans (hfirst.closed connection)

/-- A quiet operation cannot bring back a hold. -/
theorem held_eq_nil {before after : CompanionServer} (h : Quietly before after)
    {connection : ConnectionId} (hheld : (before.connections connection).repeater.held = []) :
    (after.connections connection).repeater.held = [] := by
  apply List.eq_nil_iff_forall_not_mem.mpr
  intro entry hentry
  have hmem := h.held connection entry hentry
  rw [hheld] at hmem
  exact absurd hmem (by simp)

end Quietly

namespace CompanionServer

variable {server : CompanionServer}

@[simp] theorem setService_same (connection : ConnectionId) (service : BridgeCompanionService) :
    (server.setService connection service).connections connection = service := by
  simp [setService]

theorem setService_other {connection other : ConnectionId} (hother : other ≠ connection)
    (service : BridgeCompanionService) :
    (server.setService connection service).connections other = server.connections other := by
  simp [setService, hother]

@[simp] theorem setService_self (connection : ConnectionId) :
    server.setService connection (server.connections connection) = server := by
  unfold setService
  congr 1
  funext other
  split
  · rename_i hsame
    rw [hsame]
  · rfl

theorem setService_setLane_setService (connection : ConnectionId)
    (early late : BridgeCompanionService) (lane : ServerLane) :
    ((server.setService connection early).setLane lane).setService connection late =
      (server.setLane lane).setService connection late := by
  unfold setService setLane
  congr 1
  funext other
  split <;> simp [*]

/-- Cancelling a generation in the lane leaves every repeater alone. -/
theorem cancelRepeatGeneration_repeater (caller : Caller) (connection other : ConnectionId)
    (generation : Nat) :
    ((server.cancelRepeatGeneration caller connection generation).connections other).repeater =
      (server.connections other).repeater := by
  simp only [cancelRepeatGeneration]
  split
  · rfl
  · by_cases hother : other = connection
    · rw [hother, setService_same]
    · rw [setService_other hother]
      rfl

/-- A connection may let holds go, and must not reuse a generation. -/
theorem setService_quietly {connection : ConnectionId} {service : BridgeCompanionService}
    (hheld : ∀ entry ∈ service.repeater.held,
      entry ∈ (server.connections connection).repeater.held)
    (hgeneration : service.repeater.nextGeneration =
      (server.connections connection).repeater.nextGeneration)
    (hrelay : service.relay = (server.connections connection).relay)
    (hclosed : service.connectionClosed = (server.connections connection).connectionClosed) :
    Quietly server (server.setService connection service) := by
  refine ⟨⟨[], by simp [setService], by simp⟩, ?_, ?_, ?_, ?_⟩
  · intro other entry hentry
    by_cases hother : other = connection
    · rw [hother, setService_same] at hentry
      exact hother ▸ hheld entry hentry
    · rwa [setService_other hother] at hentry
  all_goals
    intro other
    by_cases hother : other = connection
    · subst hother
      rw [setService_same]
      assumption
    · rw [setService_other hother]

end CompanionServer

namespace ServerInvariant

variable {server : CompanionServer}

/-- The lane may lose queued items at any time. -/
theorem setLane (h : ServerInvariant server) {lane : ServerLane} (hlane : lane.LaneInvariant)
    (hquiet : LaneQuiet server.lane lane) :
    ServerInvariant (server.setLane lane) ∧ Quietly server (server.setLane lane) := by
  obtain ⟨events, hlog, hnone⟩ := hquiet.log
  refine ⟨⟨hlane, h.service, ?_, ?_, ?_⟩, ?_⟩
  · intro item hitem
    exact h.tagged item (hquiet.queue item hitem)
  · intro item generation hmem
    simp only [CompanionServer.setLane, hlog, List.mem_append, (hnone item).2, or_false] at hmem
    exact h.submitted item generation hmem
  · intro connection generation start hstart
    obtain ⟨item, hmem, hrest⟩ := h.clicked connection generation start hstart
    exact ⟨item, by simp [CompanionServer.setLane, hlog, hmem], hrest⟩
  · exact ⟨⟨events, hlog, fun item => (hnone item).1⟩, fun _ _ => id, fun _ => rfl, fun _ => rfl,
      fun _ => rfl⟩

/-- A change of one service that still owns the queued repeats and remembers its holds. -/
theorem setService (h : ServerInvariant server) {connection : ConnectionId}
    (service : BridgeCompanionService) (hservice : ServiceInvariant connection service)
    (htagged : ∀ item ∈ server.lane.queue, item.owner.connection = connection →
      ∀ generation, item.holdGeneration = some generation →
        service.repeatOwners generation = some item.owner)
    (hstarts : ∀ generation start,
      (server.connections connection).holdStarts generation = some start →
        service.holdStarts generation = some start)
    (hclicked : ∀ generation start, service.holdStarts generation = some start →
      FirstClick server.lane.log start) :
    ServerInvariant (server.setService connection service) where
  lane := h.lane
  service other := by
    by_cases hother : other = connection
    · subst hother
      rw [CompanionServer.setService_same]
      exact hservice
    · rw [CompanionServer.setService_other hother]
      exact h.service other
  tagged item hitem generation hgeneration := by
    by_cases hother : item.owner.connection = connection
    · rw [hother, CompanionServer.setService_same]
      exact htagged item hitem hother generation hgeneration
    · rw [CompanionServer.setService_other hother]
      exact h.tagged item hitem generation hgeneration
  submitted item generation hmem hgeneration := by
    obtain ⟨start, hstart, howner⟩ := h.submitted item generation hmem hgeneration
    refine ⟨start, ?_, howner⟩
    by_cases hother : item.owner.connection = connection
    · rw [hother] at hstart
      rw [hother, CompanionServer.setService_same]
      exact hstarts generation start hstart
    · rw [CompanionServer.setService_other hother]
      exact hstart
  clicked other generation start hstart := by
    by_cases hother : other = connection
    · rw [hother, CompanionServer.setService_same] at hstart
      exact hclicked generation start hstart
    · rw [CompanionServer.setService_other hother] at hstart
      exact h.clicked other generation start hstart

/-- A change of one service that does not concern the owners and starts of its holds. -/
theorem setService_holds (h : ServerInvariant server) {connection : ConnectionId}
    (service : BridgeCompanionService) (hservice : ServiceInvariant connection service)
    (howners : service.repeatOwners = (server.connections connection).repeatOwners)
    (hstarts : service.holdStarts = (server.connections connection).holdStarts) :
    ServerInvariant (server.setService connection service) := by
  refine h.setService service hservice ?_ ?_ ?_
  · intro item hitem hother generation hgeneration
    rw [howners, ← hother]
    exact h.tagged item hitem generation hgeneration
  · intro generation start hstart
    rw [hstarts]
    exact hstart
  · intro generation start hstart
    rw [hstarts] at hstart
    exact h.clicked connection generation start hstart

/-! ## Ending a hold -/

theorem held_of_lookup (h : ServerInvariant server) {connection : ConnectionId} {key : String}
    {generation : Nat}
    (hlookup : (server.connections connection).repeater.held.lookup key = some generation) :
    (server.connections connection).repeater.held = [(key, generation)] := by
  have hsingle := (h.service connection).single
  match hheld : (server.connections connection).repeater.held, hsingle with
  | [], _ => simp [hheld] at hlookup
  | [(other, number)], _ =>
      rw [hheld, List.lookup_cons] at hlookup
      by_cases hkey : key = other
      · simp only [hkey, beq_self_eq_true, Option.some.injEq] at hlookup
        rw [hkey, hlookup]
      · rw [beq_false_of_ne hkey] at hlookup
        exact absurd hlookup (by simp)

/-- A held generation leaves the repeater together with its work in the lane. -/
theorem stopHold (h : ServerInvariant server) (caller : Caller) {connection : ConnectionId}
    {key : String} {generation : Nat} (repeater : HoldRepeater)
    (hlookup : (server.connections connection).repeater.held.lookup key = some generation)
    (hheld : repeater.held = [])
    (hnext : repeater.nextGeneration =
      (server.connections connection).repeater.nextGeneration) :
    ServerInvariant ((server.setRepeater connection repeater).cancelRepeatGeneration caller
        connection generation) ∧
      Quietly server ((server.setRepeater connection repeater).cancelRepeatGeneration caller
        connection generation) := by
  have hbefore := h.held_of_lookup hlookup
  have hservice := h.service connection
  -- one hold at a time, so its generation is the only one with an owner
  have honly : ∀ other owner, (server.connections connection).repeatOwners other = some owner →
      other = generation := by
    intro other owner hother
    obtain ⟨-, -, heldKey, hmem⟩ := hservice.owners other owner hother
    rw [hbefore] at hmem
    simp only [List.mem_singleton, Prod.mk.injEq] at hmem
    exact hmem.2
  have hempty : ∀ owners closed, (∀ other, owners other = none) → ServiceInvariant connection
      { server.connections connection with
        repeater := repeater, repeatOwners := owners, connectionClosed := closed } := by
    intro owners closed howners
    refine ⟨hservice.session, ?_, by simp [hheld], by simp [hheld], ?_, hservice.hold⟩
    · intro other owner hother
      exact absurd hother (by simp [howners other])
    · intro other hother
      exact hservice.fresh other (hnext ▸ hother)
  simp only [CompanionServer.cancelRepeatGeneration, CompanionServer.setRepeater,
    CompanionServer.setService_same]
  cases howner : (server.connections connection).repeatOwners generation with
  | none =>
      have hnone : ∀ other, (server.connections connection).repeatOwners other = none := by
        intro other
        cases hother : (server.connections connection).repeatOwners other with
        | none => rfl
        | some owner =>
            rw [honly other owner hother, howner] at hother
            exact absurd hother (by simp)
      exact ⟨h.setService_holds _ (hempty _ _ hnone) rfl rfl,
        CompanionServer.setService_quietly (by simp [hheld]) hnext rfl rfl⟩
  | some owner =>
      have hpurged := h.setLane (h.lane.cancelGeneration caller owner generation)
        (.cancelGeneration server.lane caller owner generation)
      simp only []
      rw [CompanionServer.setService_setLane_setService]
      refine ⟨hpurged.1.setService _ (hempty _ _ ?_) ?_ (fun _ _ => id) ?_, hpurged.2.trans ?_⟩
      · intro other
        split
        · rfl
        · rename_i hne
          cases hother : (server.connections connection).repeatOwners other with
          | none => rfl
          | some otherOwner => exact absurd (honly other otherOwner hother) hne
      -- an item of the stopped generation would have been withdrawn
      · intro item hitem hconnection number hnumber
        have hkept := hpurged.1.tagged item hitem number hnumber
        simp only [CompanionServer.setLane, hconnection] at hkept
        have hsame := honly number item.owner hkept
        rw [hsame, howner, Option.some.injEq] at hkept
        have hdropped := (List.mem_filter.mp hitem).2
        simp [taggedWith, hnumber, hsame, hkept] at hdropped
      · exact hpurged.1.clicked connection
      · exact CompanionServer.setService_quietly (by simp [hheld]) hnext rfl rfl

/-- `HoldRepeater._cancel`, with the purge of the lane. -/
theorem cancelHold (h : ServerInvariant server) (caller : Caller) (connection : ConnectionId)
    (key : String) :
    ServerInvariant (server.cancelHold caller connection key) ∧
      Quietly server (server.cancelHold caller connection key) ∧
      ∀ entry ∈ ((server.cancelHold caller connection key).connections connection).repeater.held,
        entry.1 ≠ key := by
  simp only [CompanionServer.cancelHold, HoldRepeater.cancel]
  cases hlookup : (server.connections connection).repeater.held.lookup key with
  | none =>
      have hsame : server.setRepeater connection (server.connections connection).repeater = server :=
        CompanionServer.setService_self connection
      simp only [CompanionServer.notifyStop, hsame]
      refine ⟨h, .refl server, ?_⟩
      rintro ⟨other, number⟩ hentry rfl
      rw [List.lookup_eq_none_iff] at hlookup
      exact absurd (hlookup _ hentry) (by simp)
  | some generation =>
      have hheld := h.held_of_lookup hlookup
      have hempty : ((server.connections connection).repeater.held.filter
          fun entry => entry.1 ≠ key) = [] := by
        rw [hheld]
        simp
      obtain ⟨hkept, hquiet⟩ := h.stopHold caller
        { (server.connections connection).repeater with
          held := (server.connections connection).repeater.held.filter fun entry => entry.1 ≠ key
          tasks := fun other =>
            if other = generation then
              ((server.connections connection).repeater.tasks other).map RepeatTask.cancel
            else (server.connections connection).repeater.tasks other } hlookup hempty rfl
      refine ⟨hkept, hquiet, ?_⟩
      simp only [CompanionServer.notifyStop, CompanionServer.cancelRepeatGeneration_repeater,
        CompanionServer.setRepeater, CompanionServer.setService_same, hempty]
      simp

/-- Stopping every hold leaves none. -/
theorem invalidateRepeaters (h : ServerInvariant server) (caller : Caller)
    (connection : ConnectionId) :
    ServerInvariant (server.invalidateRepeaters caller connection) ∧
      Quietly server (server.invalidateRepeaters caller connection) ∧
      ((server.invalidateRepeaters caller connection).connections connection).repeater.held =
        [] := by
  have hsingle := (h.service connection).single
  unfold CompanionServer.invalidateRepeaters CompanionServer.cancelHolds
  match hheld : (server.connections connection).repeater.held, hsingle with
  | [], _ => exact ⟨h, .refl server, hheld⟩
  | [(key, generation)], _ =>
      obtain ⟨hkept, hquiet, hgone⟩ := h.cancelHold caller connection key
      refine ⟨hkept, hquiet, List.eq_nil_iff_forall_not_mem.mpr ?_⟩
      intro entry hentry
      have hmem := hquiet.held connection entry hentry
      rw [hheld, List.mem_singleton] at hmem
      exact hgone entry hentry (by rw [hmem])

/-- The end of a session is the end of its owner in the lane. -/
theorem endDispatchSession (h : ServerInvariant server) (caller : Caller)
    (connection : ConnectionId) :
    ServerInvariant (server.endDispatchSession caller connection) ∧
      Quietly server (server.endDispatchSession caller connection) := by
  simp only [CompanionServer.endDispatchSession]
  cases howner : (server.connections connection).dispatchOwner with
  | none => exact ⟨h, .refl server⟩
  | some owner =>
      have hservice := h.service connection
      have hended := h.setService_holds { server.connections connection with dispatchOwner := none }
        ⟨by simp, hservice.owners, hservice.single, hservice.numbered, hservice.fresh,
          hservice.hold⟩ rfl rfl
      have hcancelled := hended.setLane (h.lane.deactivateOwner caller owner .cancelled)
        (.deactivateOwner server.lane caller owner .cancelled)
      have hquiet : Quietly server (server.setService connection
          { server.connections connection with dispatchOwner := none }) :=
        CompanionServer.setService_quietly (fun _ => id) rfl rfl rfl
      exact ⟨hcancelled.1, hquiet.trans hcancelled.2⟩

theorem closeConnection (h : ServerInvariant server) (caller : Caller)
    (connection : ConnectionId) :
    ServerInvariant (server.closeConnection caller connection) ∧
      Quietly server (server.closeConnection caller connection) ∧
      ((server.closeConnection caller connection).connections connection).repeater.held = [] := by
  obtain ⟨hstopped, hquiet, hempty⟩ := h.invalidateRepeaters caller connection
  obtain ⟨hended, hquiet'⟩ := hstopped.endDispatchSession caller connection
  exact ⟨hended, hquiet.trans hquiet', hquiet'.held_eq_nil hempty⟩

/-- What the lane calls back when an owner is refused closes its connection. -/
theorem runHandler (h : ServerInvariant server) (caller : Caller)
    (handler : Option ConnectionId) :
    ServerInvariant (server.runHandler caller handler) ∧
      Quietly server (server.runHandler caller handler) := by
  cases handler with
  | none => exact ⟨h, .refl server⟩
  | some connection =>
      obtain ⟨hclosed, hquiet, -⟩ := h.closeConnection caller connection
      exact ⟨hclosed, hquiet⟩

/-- A lane operation that accepted and began nothing, with its callback. -/
theorem settleQuiet (h : ServerInvariant server) (caller : Caller)
    {reply : LaneReply SessionOwner ConnectionId ConnectionId}
    (hlane : reply.lane.LaneInvariant) (hquiet : LaneQuiet server.lane reply.lane) :
    ServerInvariant (server.settleReply caller reply) ∧
      Quietly server (server.settleReply caller reply) := by
  obtain ⟨hset, hbefore⟩ := h.setLane hlane hquiet
  obtain ⟨hhandled, hafter⟩ := hset.runHandler caller reply.handler
  exact ⟨hhandled, hbefore.trans hafter⟩

/-! ## Submitting commands -/

/-- Appending accepted items of one owner keeps the invariant when their tags are held. -/
theorem acceptItem (h : ServerInvariant server) {lane : ServerLane}
    (hlane : lane.LaneInvariant) (item : QueuedCommand SessionOwner)
    (events : List (LaneEvent SessionOwner))
    (hlog : lane.log = server.lane.log ++ events)
    (hnone : ∀ other, LaneEvent.begun other ∉ events)
    (haccepted : ∀ other, LaneEvent.accepted other ∈ events → other = item)
    (hqueue : ∀ other ∈ lane.queue, other ∈ server.lane.queue ∨ other = item)
    (htag : ∀ generation, item.holdGeneration = some generation →
      (server.connections item.owner.connection).repeatOwners generation = some item.owner) :
    ServerInvariant (server.setLane lane) ∧ Quietly server (server.setLane lane) := by
  refine ⟨⟨hlane, h.service, ?_, ?_, ?_⟩, ?_⟩
  · intro other hother generation hgeneration
    rcases hqueue other hother with hmem | rfl
    · exact h.tagged other hmem generation hgeneration
    · exact htag generation hgeneration
  · intro other generation hmem hgeneration
    simp only [CompanionServer.setLane, hlog, List.mem_append] at hmem
    rcases hmem with hmem | hmem
    · exact h.submitted other generation hmem hgeneration
    · have hsame := haccepted other hmem
      subst hsame
      exact ((h.service _).owners generation _ (htag generation hgeneration)).2.1
  · intro connection generation start hstart
    obtain ⟨click, hmem, hrest⟩ := h.clicked connection generation start hstart
    exact ⟨click, by simp [CompanionServer.setLane, hlog, hmem], hrest⟩
  · exact ⟨⟨events, hlog, hnone⟩, fun _ _ => id, fun _ => rfl, fun _ => rfl, fun _ => rfl⟩

/-- Submitting under an owner, with a tag that is held by it. -/
theorem enqueue (h : ServerInvariant server) (verdict : Verdict) (caller : Caller)
    (owner : SessionOwner) (command : Command) (holdGeneration completion : Option Nat)
    (htag : ∀ generation, holdGeneration = some generation →
      (server.connections owner.connection).repeatOwners generation = some owner) :
    let reply := server.lane.enqueue verdict caller owner command holdGeneration completion
    ServerInvariant (server.settleReply .other reply) ∧
      Quietly server (server.settleReply .other reply) ∧
      (reply.accepted = true → command.action ≠ .sendText → ∃ item,
        LaneEvent.accepted item ∈ (server.settleReply .other reply).lane.log ∧
        item.ticket = server.lane.nextTicket ∧ item.owner = owner ∧ item.command = command ∧
        item.holdGeneration = holdGeneration) := by
  intro reply
  have hlane : reply.lane.LaneInvariant :=
    h.lane.enqueue verdict caller owner command holdGeneration completion
  rcases server.lane.enqueue_cases verdict caller owner command holdGeneration completion with
    hreply | ⟨registration, check, -, -, -, hreply⟩ | ⟨-, -, hreply⟩
  · have hquiet : LaneQuiet server.lane reply.lane := by
      simp only [reply, hreply]
      exact .of_same rfl rfl
    obtain ⟨hkept, hquietly⟩ := h.settleQuiet .other hlane hquiet
    exact ⟨hkept, hquietly, fun haccepted => absurd haccepted (by simp [reply, hreply])⟩
  · have hquiet : LaneQuiet server.lane reply.lane := by
      simp only [reply, hreply]
      exact .deactivateOwner server.lane caller owner .unauthorized
    obtain ⟨hkept, hquietly⟩ := h.settleQuiet .other hlane hquiet
    exact ⟨hkept, hquietly, fun haccepted => absurd haccepted (by simp [reply, hreply])⟩
  · rcases server.lane.place_cases owner command holdGeneration completion with
      ⟨front, tail, replaced, hqueue, hcoalesces, hreplaced, htail, -, hplace⟩ | ⟨-, hplace⟩ |
      ⟨item, -, hitem, hplace⟩
    · have htailMem : tail ∈ server.lane.queue := by simp [hqueue]
      -- a coalesced text keeps the tag of the tail it replaces
      have hset := h.acceptItem hlane replaced
        [.superseded tail replaced, .accepted replaced]
        (by simp [reply, hreply, hplace]) (by simp) (by simp)
        (by
          intro other hother
          simp only [reply, hreply, hplace, List.mem_append, List.mem_singleton] at hother
          rcases hother with hother | hother
          · exact Or.inl (by simp [hqueue, hother])
          · exact Or.inr hother)
        (by
          intro generation hgeneration
          rw [hreplaced] at hgeneration ⊢
          exact h.tagged tail htailMem generation hgeneration)
      have hhandler : reply.handler = none := by simp [reply, hreply, hplace]
      simp only [CompanionServer.settleReply, hhandler, CompanionServer.runHandler]
      refine ⟨hset.1, hset.2, fun _ htext => absurd ?_ htext⟩
      have hnew := hcoalesces.2.2.1
      rw [hreplaced] at hnew
      exact hnew
    · have hquiet : LaneQuiet server.lane reply.lane := by
        simp only [reply, hreply, hplace]
        exact .of_same rfl rfl
      obtain ⟨hkept, hquietly⟩ := h.settleQuiet .other hlane hquiet
      exact ⟨hkept, hquietly, fun haccepted => absurd haccepted (by simp [reply, hreply, hplace])⟩
    · have hset := h.acceptItem hlane item [.accepted item]
        (by simp [reply, hreply, hplace]) (by simp) (by simp)
        (by
          intro other hother
          simpa [reply, hreply, hplace] using hother)
        (by
          intro generation hgeneration
          rw [hitem] at hgeneration ⊢
          exact htag generation hgeneration)
      have hhandler : reply.handler = none := by simp [reply, hreply, hplace]
      simp only [CompanionServer.settleReply, hhandler, CompanionServer.runHandler]
      refine ⟨hset.1, hset.2, fun _ _ => ⟨item, ?_, ?_, ?_, ?_, ?_⟩⟩
      · simp [CompanionServer.setLane, reply, hreply, hplace]
      all_goals rw [hitem]

/-- A submission is about the lane; the handler of a refused owner may close the connection.
-/
theorem submitDispatch (h : ServerInvariant server) (verdict : Verdict)
    (connection : ConnectionId) (command : Command) :
    let submitted := server.submitDispatch verdict connection command
    ServerInvariant submitted.1 ∧ Quietly server submitted.1 ∧
      (submitted.2 = true → command.action ≠ .sendText → ∃ owner item,
        (server.connections connection).dispatchOwner = some owner ∧
        LaneEvent.accepted item ∈ submitted.1.lane.log ∧
        item.ticket = server.lane.nextTicket ∧ item.owner = owner ∧ item.command = command ∧
        item.holdGeneration = none) := by
  simp only [CompanionServer.submitDispatch]
  cases howner : (server.connections connection).dispatchOwner with
  | none => exact ⟨h, .refl server, fun haccepted => absurd haccepted (by simp)⟩
  | some owner =>
      obtain ⟨hkept, hquiet, hclick⟩ := h.enqueue verdict .other owner command none none
        (by simp)
      refine ⟨hkept, hquiet, fun haccepted hkey => ?_⟩
      obtain ⟨item, hitem⟩ := hclick haccepted hkey
      exact ⟨owner, item, rfl, hitem⟩

/-! ## Starting a hold -/

/-- Starting a hold while none is held, after its first click was accepted. -/
theorem startHold (h : ServerInvariant server) {connection : ConnectionId} {owner : SessionOwner}
    {key : String} {clickTicket : Nat}
    (hheld : (server.connections connection).repeater.held = [])
    (howner : owner.connection = connection)
    (hclick : FirstClick server.lane.log ⟨owner, key, clickTicket⟩) :
    let started := server.startHold connection owner key clickTicket
    ServerInvariant started ∧ started.lane = server.lane ∧
      (∀ other, other ≠ connection → started.connections other = server.connections other) ∧
      (started.connections connection).repeater.held =
        [(key, (server.connections connection).repeater.nextGeneration + 1)] ∧
      (started.connections connection).repeater.nextGeneration =
        (server.connections connection).repeater.nextGeneration + 1 ∧
      (started.connections connection).relay = (server.connections connection).relay ∧
      (started.connections connection).connectionClosed =
        (server.connections connection).connectionClosed := by
  have hservice := h.service connection
  have hnone : ∀ generation,
      (server.connections connection).repeatOwners generation = none := by
    intro generation
    cases hother : (server.connections connection).repeatOwners generation with
    | none => rfl
    | some other =>
        obtain ⟨-, -, heldKey, hmem⟩ := hservice.owners generation other hother
        rw [hheld] at hmem
        exact absurd hmem (by simp)
  -- no item was ever queued under the number the hold is given
  have hfresh := hservice.fresh ((server.connections connection).repeater.nextGeneration + 1)
    (Nat.lt_succ_self _)
  simp only [CompanionServer.startHold, hheld, List.lookup_nil, List.map_nil,
    CompanionServer.cancelHolds, List.foldl_nil, HoldRepeater.create, HoldRepeater.setTask,
    List.nil_append, hnone, Option.getD_none]
  refine ⟨h.setService _ ⟨hservice.session, ?_, by simp, by simp, ?_, hservice.hold⟩ ?_ ?_ ?_,
    rfl, ?_, ?_, ?_, ?_, ?_⟩
  · intro generation other hother
    dsimp only at hother
    split at hother
    · rename_i hsame
      rw [Option.some.injEq] at hother
      subst hother
      exact ⟨howner, ⟨_, if_pos hsame, rfl⟩, key, by simp [hsame]⟩
    · exact absurd hother (by simp)
  · intro generation hgeneration
    dsimp only at hgeneration ⊢
    rw [if_neg (by omega)]
    exact hservice.fresh generation (by omega)
  · intro item hitem hconnection generation hgeneration
    have htagged := h.tagged item hitem generation hgeneration
    rw [hconnection, hnone generation] at htagged
    exact absurd htagged (by simp)
  · intro generation start hstart
    dsimp only
    rw [if_neg]
    · exact hstart
    · rintro rfl
      rw [hfresh] at hstart
      exact absurd hstart (by simp)
  · intro generation start hstart
    dsimp only at hstart
    split at hstart
    · rw [Option.some.injEq] at hstart
      exact hstart ▸ hclick
    · exact h.clicked connection generation start hstart
  · exact fun other hother => CompanionServer.setService_other hother _
  all_goals rw [CompanionServer.setService_same]

/-! ## Sessions and connections -/

/-- A new session has a new owner, and stops what the old one held. -/
theorem beginDispatchSession (h : ServerInvariant server) (connection : ConnectionId) :
    ServerInvariant (server.beginDispatchSession connection) ∧
      Quietly server (server.beginDispatchSession connection) ∧
      ((server.beginDispatchSession connection).connections connection).repeater.held = [] := by
  obtain ⟨hclosed, hquiet, hempty⟩ := h.closeConnection .other connection
  have hservice := hclosed.service connection
  simp only [CompanionServer.beginDispatchSession]
  generalize server.closeConnection .other connection = ended at hclosed hquiet hempty hservice
  have hfresh := hclosed.setService_holds
    { ended.connections connection with
      dispatchOwner := some ⟨connection, (ended.connections connection).nextSerial⟩
      nextSerial := (ended.connections connection).nextSerial + 1 }
    ⟨by simp, hservice.owners, hservice.single, hservice.numbered, hservice.fresh,
      hservice.hold⟩ rfl rfl
  have hset : Quietly ended (ended.setService connection
      { ended.connections connection with
        dispatchOwner := some ⟨connection, (ended.connections connection).nextSerial⟩
        nextSerial := (ended.connections connection).nextSerial + 1 }) :=
    CompanionServer.setService_quietly (fun _ => id) rfl rfl rfl
  cases hactivate : ended.lane.activate ⟨connection, (ended.connections connection).nextSerial⟩
      ⟨some connection, some connection⟩ with
  | none =>
      have hlane := hfresh.setLane hclosed.lane (.of_same rfl rfl)
      rw [Option.getD_none]
      exact ⟨hlane.1, (hquiet.trans hset).trans hlane.2,
        ((hset.trans hlane.2).held_eq_nil hempty)⟩
  | some lane =>
      have hactive : lane.LaneInvariant := hclosed.lane.activate hactivate
      obtain ⟨task, -, hsame⟩ := activate_eq_some hactivate
      have hlane := hfresh.setLane hactive (.of_same (by rw [hsame]; rfl) (by rw [hsame]; rfl))
      rw [Option.getD_some]
      exact ⟨hlane.1, (hquiet.trans hset).trans hlane.2,
        ((hset.trans hlane.2).held_eq_nil hempty)⟩

theorem teardownConnection (h : ServerInvariant server) (connection : ConnectionId) :
    ServerInvariant (server.teardownConnection connection) := by
  have hservice := h.service connection
  exact h.setService_holds _ ⟨hservice.session, hservice.owners, hservice.single,
    hservice.numbered, hservice.fresh, hservice.hold⟩ rfl rfl

/-! ## The repeat task -/

theorem setRepeatPoint (h : ServerInvariant server) (connection : ConnectionId)
    (generation : Nat) (task : RepeatTask) :
    ServerInvariant (server.setRepeatPoint connection generation task) ∧
      Quietly server (server.setRepeatPoint connection generation task) := by
  have hservice := h.service connection
  refine ⟨h.setService_holds _ ⟨hservice.session, hservice.owners, hservice.single,
    hservice.numbered, hservice.fresh, hservice.hold⟩ rfl rfl, ?_⟩
  exact CompanionServer.setService_quietly (fun _ => id) rfl rfl rfl

/-- A task that has ended leaves its slot only if it still has it. -/
theorem finishRepeat (h : ServerInvariant server) (connection : ConnectionId)
    (generation : Nat) (task : RepeatTask) :
    ServerInvariant (server.finishRepeat connection generation task) ∧
      Quietly server (server.finishRepeat connection generation task) := by
  simp only [CompanionServer.finishRepeat, HoldRepeater.release]
  by_cases hlookup :
      (server.connections connection).repeater.held.lookup task.key = some generation
  · rw [if_pos hlookup]
    have hempty : ((server.connections connection).repeater.held.filter
        fun entry => entry.1 ≠ task.key) = [] := by
      rw [h.held_of_lookup hlookup]
      simp
    obtain ⟨hstopped, hquiet⟩ := h.stopHold .other
      { (server.connections connection).repeater with
        held := (server.connections connection).repeater.held.filter
          fun entry => entry.1 ≠ task.key } hlookup hempty rfl
    obtain ⟨hset, hquiet'⟩ := hstopped.setRepeatPoint connection generation
      { task with point := .finished }
    exact ⟨hset, hquiet.trans hquiet'⟩
  · rw [if_neg hlookup]
    have hsame : server.setRepeater connection (server.connections connection).repeater = server :=
      CompanionServer.setService_self connection
    simp only [CompanionServer.notifyStop, hsame]
    exact h.setRepeatPoint connection generation { task with point := .finished }

/-- A repeat is submitted under the generation of its task. -/
theorem sendRepeatKey (h : ServerInvariant server) (verdicts : Nat → Verdict)
    (connection : ConnectionId) (key : String) (generation : Nat) :
    ServerInvariant (server.sendRepeatKey verdicts connection key generation).1 ∧
      Quietly server (server.sendRepeatKey verdicts connection key generation).1 := by
  simp only [CompanionServer.sendRepeatKey]
  split
  · obtain ⟨hclosed, hquiet, -⟩ := h.closeConnection .other connection
    exact ⟨hclosed, hquiet⟩
  · cases howner : (server.connections connection).repeatOwners generation with
    | none => exact ⟨h, .refl server⟩
    | some owner =>
        have hconnection := ((h.service connection).owners generation owner howner).1
        have hcreated := h.setLane (h.lane.withCompletions server.lane.completions
          (server.lane.nextCompletion + 1)) (.of_same rfl rfl)
        obtain ⟨hkept, hquiet, -⟩ := hcreated.1.enqueue (verdicts 1) .other owner
          { action := .sendKey, samsungKey := some key, source := "repeat", fast := true }
          (some generation) (some server.lane.nextCompletion) (by
            intro other hother
            rw [Option.some.injEq] at hother
            subst hother
            rw [hconnection]
            exact howner)
        simp only [submitAndWait]
        split
        · exact ⟨hkept, hcreated.2.trans hquiet⟩
        · rename_i hrejected
          have hlane := (h.lane.withCompletions server.lane.completions
            (server.lane.nextCompletion + 1)).enqueue (verdicts 1) .other owner
            { action := .sendKey, samsungKey := some key, source := "repeat", fast := true }
            (some generation) (some server.lane.nextCompletion)
          have hunplaced := LaneQuiet.enqueue_rejected (by simpa using hrejected)
          exact h.settleQuiet .other (hlane.withCompletions _ _)
            ⟨hunplaced.log, hunplaced.queue⟩

/-- A repeat that is no longer alive ends instead. -/
theorem repeatOnce (h : ServerInvariant server) (verdicts : Nat → Verdict) (now : ℚ)
    (connection : ConnectionId) (generation : Nat) (task : RepeatTask) :
    ServerInvariant (server.repeatOnce verdicts now connection generation task) ∧
      Quietly server (server.repeatOnce verdicts now connection generation task) := by
  simp only [CompanionServer.repeatOnce]
  split
  · obtain ⟨hsent, hquiet⟩ := h.sendRepeatKey verdicts connection task.key generation
    split
    · obtain ⟨hfinished, hquiet'⟩ := hsent.finishRepeat connection generation task
      exact ⟨hfinished, hquiet.trans hquiet'⟩
    · rename_i completion _
      obtain ⟨hset, hquiet'⟩ := hsent.setRepeatPoint connection generation
        { task with point := .sending completion }
      exact ⟨hset, hquiet.trans hquiet'⟩
  · exact h.finishRepeat connection generation task

/-- A resumed task enters, repeats or ends. -/
theorem resumeRepeat (h : ServerInvariant server) {verdicts : Nat → Verdict} {now : ℚ}
    {connection : ConnectionId} {generation : Nat} {next : CompanionServer}
    (hresume : server.resumeRepeat verdicts now connection generation = some next) :
    ServerInvariant next ∧ Quietly server next := by
  simp only [CompanionServer.resumeRepeat] at hresume
  split at hresume
  · exact absurd hresume (by simp)
  · rename_i task htask
    split at hresume
    · exact absurd hresume (by simp)
    · exact Option.some.inj hresume ▸ h.setRepeatPoint connection generation _
    · exact Option.some.inj hresume ▸ h.setRepeatPoint connection generation _
    · exact Option.some.inj hresume ▸ h.finishRepeat connection generation task
    · exact Option.some.inj hresume ▸ h.repeatOnce verdicts now connection generation task
    · exact Option.some.inj hresume ▸ h.repeatOnce verdicts now connection generation task
    · split at hresume
      · exact absurd hresume (by simp)
      · exact Option.some.inj hresume ▸ h.setRepeatPoint connection generation _
      · exact Option.some.inj hresume ▸ h.finishRepeat connection generation task

/-! ## The worker -/

/-- The lane's worker never starts a hold. -/
theorem workerResume (h : ServerInvariant server) {outcome : DispatchOutcome}
    {next : CompanionServer} (hresume : server.workerResume outcome = some next) :
    ServerInvariant next ∧ Quietly server next := by
  unfold CompanionServer.workerResume at hresume
  split at hresume
  · rename_i interrupted cancelRequested item htask hitem
    split at hresume
    · rw [Option.some.injEq] at hresume
      exact hresume ▸ h.setLane (h.lane.suspendAgain htask) (.of_same rfl rfl)
    · split at hresume
      · exact absurd hresume (by simp)
      · rename_i hallowed
        rw [Option.some.injEq] at hresume
        subst hresume
        obtain ⟨hsettled, hquiet⟩ := h.settleQuiet .worker (h.lane.settle item outcome)
          (.settle server.lane item outcome)
        have hstops : (server.lane.settle item outcome).accepted = false →
            (server.settleReply .worker (server.lane.settle item outcome)).lane.stopping = true := by
          intro hstops
          obtain ⟨hstopping, rfl⟩ := h.lane.settle_stops htask hitem hallowed hstops
          exact hstopping
        have hfinished := hsettled.setLane (hsettled.lane.finishItem hstops) (.of_same rfl rfl)
        exact ⟨hfinished.1, hquiet.trans hfinished.2⟩
  · exact absurd hresume (by simp)

theorem workerWake (h : ServerInvariant server) {lane : ServerLane}
    (hwake : server.lane.workerWake = some lane) :
    ServerInvariant (server.setLane lane) ∧ Quietly server (server.setLane lane) := by
  refine h.setLane (h.lane.workerWake hwake) ?_
  unfold CommandDispatchLane.workerWake at hwake
  split at hwake
  · split at hwake <;> exact Option.some.inj hwake ▸ .of_same rfl rfl
  · split at hwake
    · exact Option.some.inj hwake ▸ .of_same rfl rfl
    · split at hwake
      · exact Option.some.inj hwake ▸ .of_same rfl rfl
      · exact absurd hwake (by simp)
  · exact absurd hwake (by simp)

/-- One pass of the worker begins the head of the queue or begins nothing. -/
theorem workerScan (h : ServerInvariant server) {verdict : Verdict}
    {reply : LaneReply SessionOwner ConnectionId ConnectionId}
    (hscan : server.lane.workerScan verdict = some reply) :
    ServerInvariant (server.settleReply .worker reply) ∧
      (Quietly server (server.settleReply .worker reply) ∨
        ∃ item rest, server.lane.queue = item :: rest ∧ reply.handler = none ∧
          reply.lane.log = server.lane.log ++ [.begun item]) := by
  have hlane := h.lane.workerScan hscan
  obtain ⟨cancelRequested, -, ⟨hqueue, rfl⟩ | ⟨item, rest, hqueue, hcases⟩⟩ :=
    workerScan_cases hscan
  · have hquiet := h.settleQuiet .worker hlane (.of_same rfl rfl)
    exact ⟨hquiet.1, Or.inl hquiet.2⟩
  · have hpopped : ∀ other ∈ rest, other ∈ server.lane.queue := by
      intro other hother
      simp [hqueue, hother]
    rcases hcases with ⟨-, rfl⟩ | ⟨registration, check, -, -, -, rfl⟩ | ⟨-, rfl⟩ | ⟨-, -, rfl⟩
    · have hquiet := h.settleQuiet .worker hlane
        (.of_event (.skipped item) rfl (by simp) (by simp) hpopped)
      exact ⟨hquiet.1, Or.inl hquiet.2⟩
    · have hquiet := h.settleQuiet .worker hlane
        (.of_event (.ownerEnded item.owner .unauthorized) rfl (by simp) (by simp)
          fun other hother => hpopped other (List.mem_of_mem_filter hother))
      exact ⟨hquiet.1, Or.inl hquiet.2⟩
    · have hquiet := h.settleQuiet .worker hlane
        (.of_event (.skipped item) rfl (by simp) (by simp) hpopped)
      exact ⟨hquiet.1, Or.inl hquiet.2⟩
    · refine ⟨⟨hlane, h.service, ?_, ?_, ?_⟩, Or.inr ⟨item, rest, hqueue, rfl, rfl⟩⟩
      · exact fun other hother => h.tagged other (hpopped other hother)
      · intro other generation hmem
        exact h.submitted other generation
          (by simpa [CompanionServer.settleReply, CompanionServer.setLane,
            CompanionServer.runHandler, record, setWorker] using hmem)
      · intro connection generation start hstart
        obtain ⟨click, hmem, hrest⟩ := h.clicked connection generation start hstart
        exact ⟨click, List.mem_append_left _ hmem, hrest⟩

theorem laneClose (h : ServerInvariant server) :
    ServerInvariant (server.setLane server.lane.close) ∧
      Quietly server (server.setLane server.lane.close) := by
  refine h.setLane h.lane.close ?_
  unfold CommandDispatchLane.close
  split
  · exact .of_same rfl rfl
  · exact .of_event .closed rfl (by simp) (by simp) fun _ hitem => List.mem_of_mem_filter hitem

theorem laneCloseFinished (h : ServerInvariant server) {lane : ServerLane}
    (hclose : server.lane.closeFinished = some lane) :
    ServerInvariant (server.setLane lane) ∧ Quietly server (server.setLane lane) := by
  refine h.setLane (h.lane.closeFinished hclose) ?_
  unfold CommandDispatchLane.closeFinished at hclose
  split at hclose
  · exact Option.some.inj hclose ▸ .of_same rfl rfl
  · exact absurd hclose (by simp)

end ServerInvariant

end CompanionBridge
