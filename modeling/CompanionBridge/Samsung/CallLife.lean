import CompanionBridge.Samsung.RemoteLifecycle

/-!
# The life of a call

What one call may do to remotes, in order: connect unless there is a remote, send
on it, and when the send failed connect once more and send on the new remote. The
events of every call of the client are such a life, so a call sends at most twice.
-/

namespace CompanionBridge

/-- Where a call is in its life. In its first attempt an idle call may send on a
remote that is there; in the retry it needs one of its own. -/
inductive CallLife where
  | idle (attempt : Attempt)
  | attempting (attempt : Attempt)
  | candidate (attempt : Attempt) (remote : Nat)
  | sending (attempt : Attempt) (remote : Nat)
  | ending
  | finished
  deriving DecidableEq

/-- Whether an event is one of a call's own. -/
def LifecycleEvent.ofCall (number : Nat) : LifecycleEvent → Bool
  | .attempted call _ => call = number
  | .constructed call _ => call = number
  | .sent call _ => call = number
  | .sendFailed call => call = number
  | .revoked call => call = number
  | .ended call _ => call = number
  | _ => false

namespace CallLife

def step : CallLife → LifecycleEvent → Option CallLife
  | .idle attempt, .attempted _ _ => some (.attempting attempt)
  | .attempting attempt, .constructed _ remote => some (.candidate attempt remote)
  | .idle .first, .sent _ remote => some (.sending .first remote)
  | .candidate attempt remote, .sent _ target =>
      if target = remote then some (.sending attempt remote) else none
  | .sending .first _, .sendFailed _ => some (.idle .retry)
  | .sending .retry _, .sendFailed _ => some .ending
  | .sending _ _, .revoked _ => some .ending
  | .finished, _ => none
  | _, .ended _ _ => some .finished
  | _, _ => none

def isSent : LifecycleEvent → Bool
  | .sent _ _ => true
  | _ => false

/-- How often a call may still send. -/
def sendsLeft : CallLife → Nat
  | .idle .first | .attempting .first | .candidate .first _ => 2
  | .sending .first _ | .idle .retry | .attempting .retry | .candidate .retry _ => 1
  | .sending .retry _ | .ending | .finished => 0

/-- A second send follows a failed one, on a remote built in between. -/
def ResendsOnNewRemote (events : List LifecycleEvent) : Prop :=
  History.Always (fun before event => ∀ call remote, event = .sent call remote →
    (∃ earlier ∈ before, isSent earlier = true) →
    ∃ early failed late, before = early ++ .sendFailed failed :: late ∧
      (∃ earlier ∈ early, isSent earlier = true) ∧
      ∃ builder, .constructed builder remote ∈ late) events

/-- Nothing but the end follows a revocation. -/
def StopsWhenRevoked (events : List LifecycleEvent) : Prop :=
  History.Always (fun before event => (∃ call, .revoked call ∈ before) →
    ∃ call result, event = .ended call result) events

/-- The moves of a life. -/
inductive Moves : CallLife → LifecycleEvent → CallLife → Prop where
  | attempt (attempt : Attempt) (call : Nat) (startedAt : ℚ) :
      Moves (.idle attempt) (.attempted call startedAt) (.attempting attempt)
  | construct (attempt : Attempt) (call remote : Nat) :
      Moves (.attempting attempt) (.constructed call remote) (.candidate attempt remote)
  | sendReady (call remote : Nat) :
      Moves (.idle .first) (.sent call remote) (.sending .first remote)
  | sendCandidate (attempt : Attempt) (call remote : Nat) :
      Moves (.candidate attempt remote) (.sent call remote) (.sending attempt remote)
  | fail (remote call : Nat) : Moves (.sending .first remote) (.sendFailed call) (.idle .retry)
  | failAgain (remote call : Nat) : Moves (.sending .retry remote) (.sendFailed call) .ending
  | revoke (attempt : Attempt) (remote call : Nat) :
      Moves (.sending attempt remote) (.revoked call) .ending
  | finish (life : CallLife) (call : Nat) (result : DispatchEnd) :
      Moves life (.ended call result) .finished

variable {life next : CallLife} {event : LifecycleEvent} {events : List LifecycleEvent}

/-- The first send failed, and perhaps a remote was built since. -/
def FailedOnce (built : Option Nat) (events : List LifecycleEvent) : Prop :=
  ∃ early failed late, events = early ++ .sendFailed failed :: late ∧
    (∃ earlier ∈ early, isSent earlier = true) ∧
    ∀ remote, built = some remote → ∃ builder, .constructed builder remote ∈ late

/-- One more event, which is not the second failure. -/
theorem FailedOnce.snoc {built : Option Nat} (h : FailedOnce built events)
    (event : LifecycleEvent) : FailedOnce built (events ++ [event]) := by
  obtain ⟨early, failed, late, rfl, hsent, hbuilt⟩ := h
  refine ⟨early, failed, late ++ [event], by simp, hsent, fun remote hremote => ?_⟩
  obtain ⟨builder, hbuilder⟩ := hbuilt remote hremote
  exact ⟨builder, List.mem_append_left _ hbuilder⟩

/-- What the events of a life say, by where it has come to. -/
structure Lived (events : List LifecycleEvent) (life : CallLife) : Prop where
  sends : (events.filter isSent).length + life.sendsLeft ≤ 2
  waits : life = .idle .retry ∨ life = .attempting .retry → FailedOnce none events
  built : ∀ remote, life = .candidate .retry remote → FailedOnce (some remote) events
  sent : ∀ attempt remote, life = .sending attempt remote → ∃ earlier ∈ events,
    isSent earlier = true
  revoked : ∀ call, .revoked call ∈ events → life = .ending ∨ life = .finished
  resends : ResendsOnNewRemote events
  stops : StopsWhenRevoked events

theorem Lived.unsent (h : Lived events life) (hleft : life.sendsLeft = 2) :
    ¬ ∃ earlier ∈ events, isSent earlier = true := by
  rintro ⟨earlier, hmem, hsent⟩
  have hsends := h.sends
  have hfilter : earlier ∈ events.filter isSent := List.mem_filter.mpr ⟨hmem, hsent⟩
  have hpositive := List.length_pos_of_mem hfilter
  omega

theorem Lived.unrevoked (h : Lived events life) (hending : life ≠ .ending)
    (hfinished : life ≠ .finished) :
    ¬ ∃ call, .revoked call ∈ events := by
  rintro ⟨call, hmem⟩
  exact (h.revoked call hmem).elim hending hfinished

/-- An event that sends nothing leaves what was said of the sends. -/
theorem Lived.resends_quiet (h : Lived events life) (hquiet : isSent event = false) :
    ResendsOnNewRemote (events ++ [event]) :=
  h.resends.snoc fun call remote hevent => absurd hquiet (by simp [hevent, isSent])

/-- So whatever it does next comes before any revocation. -/
theorem Lived.stops_unrevoked (h : Lived events life) (hending : life ≠ .ending)
    (hfinished : life ≠ .finished) : StopsWhenRevoked (events ++ [event]) :=
  h.stops.snoc fun hrevoked => absurd hrevoked (h.unrevoked hending hfinished)

theorem Lived.sends_quiet (h : Lived events life) (hquiet : isSent event = false)
    (hleft : next.sendsLeft ≤ life.sendsLeft) :
    ((events ++ [event]).filter isSent).length + next.sendsLeft ≤ 2 := by
  have hsends := h.sends
  simp only [List.filter_append, List.filter_cons, hquiet, List.filter_nil, List.append_nil,
    Bool.false_eq_true, if_false]
  omega

theorem Lived.revoked_snoc (h : Lived events life) (hending : life ≠ .ending)
    (hfinished : life ≠ .finished) (hother : ∀ call, event ≠ .revoked call) (call : Nat) :
    .revoked call ∉ events ++ [event] := by
  rw [List.mem_append, List.mem_singleton]
  rintro (hmem | hmem)
  · exact h.unrevoked hending hfinished ⟨call, hmem⟩
  · exact hother call hmem.symm

theorem Lived.sends_sent (h : Lived events life) {call remote : Nat}
    (hleft : next.sendsLeft + 1 ≤ life.sendsLeft) :
    ((events ++ [LifecycleEvent.sent call remote]).filter isSent).length + next.sendsLeft ≤ 2 := by
  have hsends := h.sends
  simp only [List.filter_append, List.filter_cons, isSent, List.filter_nil, if_true,
    List.length_append, List.length_singleton]
  omega

/-- A send after the first one is on the remote built since the first one failed. -/
theorem Lived.resends_sent (h : Lived events life) {call remote : Nat}
    (hsend : (¬ ∃ earlier ∈ events, isSent earlier = true) ∨ FailedOnce (some remote) events) :
    ResendsOnNewRemote (events ++ [.sent call remote]) := by
  refine h.resends.snoc ?_
  rintro _ _ ⟨⟩ hearlier
  rcases hsend with hunsent | ⟨early, failed, late, hsplit, hsent, hbuilt⟩
  · exact absurd hearlier hunsent
  · exact ⟨early, failed, late, hsplit, hsent, hbuilt remote rfl⟩

theorem Lived.sending (h : Lived events life) {call remote : Nat} {attempt : Attempt}
    (hending : life ≠ .ending) (hfinished : life ≠ .finished)
    (hleft : (CallLife.sending attempt remote).sendsLeft + 1 ≤ life.sendsLeft)
    (hsend : (¬ ∃ earlier ∈ events, isSent earlier = true) ∨ FailedOnce (some remote) events) :
    Lived (events ++ [.sent call remote]) (.sending attempt remote) where
  sends := h.sends_sent hleft
  waits := by simp
  built := by simp
  sent := fun _ _ _ => ⟨.sent call remote, by simp, rfl⟩
  revoked := fun other hmem =>
    absurd hmem (h.revoked_snoc hending hfinished (by simp) other)
  resends := h.resends_sent hsend
  stops := h.stops_unrevoked hending hfinished

/-- A life that has stopped sending is not revoked before it has. -/
theorem Lived.stopped (h : Lived events life) (hquiet : isSent event = false)
    (hnext : next = .ending ∨ next = .finished)
    (hstops : StopsWhenRevoked (events ++ [event])) : Lived (events ++ [event]) next where
  sends := h.sends_quiet hquiet (by rcases hnext with rfl | rfl <;> exact Nat.zero_le _)
  waits := by rcases hnext with rfl | rfl <;> simp
  built := by rcases hnext with rfl | rfl <;> simp
  sent := by rcases hnext with rfl | rfl <;> simp
  revoked := fun _ _ => hnext
  resends := h.resends_quiet hquiet
  stops := hstops

/-- The facts about a life after one more event, one case for each. -/
theorem Lived.moves (h : Lived events life) (hmoves : Moves life event next) :
    Lived (events ++ [event]) next := by
  cases hmoves with
  | attempt attempt call startedAt =>
      refine ⟨h.sends_quiet rfl (by cases attempt <;> exact le_rfl), ?_, by simp, by simp, ?_,
        h.resends_quiet rfl, h.stops_unrevoked (by simp) (by simp)⟩
      -- only the retry has a failed write behind it
      · intro hretry
        have hidle : CallLife.idle attempt = .idle .retry := by
          simpa using hretry
        exact (h.waits (Or.inl hidle)).snoc _
      · intro other hmem
        exact absurd hmem (h.revoked_snoc (by simp) (by simp) (by simp) other)
  | construct attempt call remote =>
      refine ⟨h.sends_quiet rfl (by cases attempt <;> exact le_rfl), by simp, ?_, by simp, ?_,
        h.resends_quiet rfl, h.stops_unrevoked (by simp) (by simp)⟩
      · intro target hretry
        obtain ⟨rfl, rfl⟩ := CallLife.candidate.inj hretry
        obtain ⟨early, failed, late, rfl, hsent, -⟩ := h.waits (Or.inr rfl)
        refine ⟨early, failed, late ++ [.constructed call remote], by simp, hsent, ?_⟩
        rintro _ ⟨⟩
        exact ⟨call, by simp⟩
      · intro other hmem
        exact absurd hmem (h.revoked_snoc (by simp) (by simp) (by simp) other)
  | sendReady call remote =>
      exact h.sending (by simp) (by simp) le_rfl (Or.inl (h.unsent rfl))
  | sendCandidate attempt call remote =>
      refine h.sending (by simp) (by simp) (by cases attempt <;> exact le_rfl) ?_
      cases attempt with
      | first => exact Or.inl (h.unsent rfl)
      | retry => exact Or.inr (h.built remote rfl)
  -- a failed write is the one move that allows a second attempt
  | fail remote call =>
      refine ⟨h.sends_quiet rfl le_rfl, fun _ => ?_, by simp, by simp, ?_, h.resends_quiet rfl,
        h.stops_unrevoked (by simp) (by simp)⟩
      · exact ⟨events, call, [], rfl, h.sent .first remote rfl, by simp⟩
      · intro other hmem
        exact absurd hmem (h.revoked_snoc (by simp) (by simp) (by simp) other)
  | failAgain remote call =>
      exact h.stopped rfl (Or.inl rfl) (h.stops_unrevoked (by simp) (by simp))
  | revoke attempt remote call =>
      exact h.stopped rfl (Or.inl rfl) (h.stops_unrevoked (by simp) (by simp))
  | finish life call result =>
      exact h.stopped rfl (Or.inr rfl) (h.stops.snoc fun _ => ⟨call, result, rfl⟩)

end CallLife

/-! ## The calls of the client -/

/-- The events of one call. -/
def eventsOf (number : Nat) (log : List LifecycleEvent) : List LifecycleEvent :=
  log.filter (LifecycleEvent.ofCall number)

/-- Where a call has come to. -/
def lifeOf (log : List LifecycleEvent) (number : Nat) : Option CallLife :=
  Machine.run CallLife.step (.idle .first) (eventsOf number log)

/-- The life of a call that is suspended at a point. -/
def PointLife : HeldPoint → CallLife → Prop
  | .starting attempt remote _, life => life = .candidate attempt remote
  | .closingCandidate _, life => ∃ attempt remote, life = .candidate attempt remote
  | .broadcasting attempt remote _, life => life = .sending attempt remote
  | .sending attempt remote, life => life = .sending attempt remote
  | .closingDropped, life => life = .idle .retry
  | .closingReady, life => life = .idle .first

theorem lifeOf_append {log events : List LifecycleEvent} {number : Nat} {life next : CallLife}
    (hlife : lifeOf log number = some life)
    (hrun : Machine.run CallLife.step life (eventsOf number events) = some next) :
    lifeOf (log ++ events) number = some next := by
  unfold lifeOf eventsOf
  rw [List.filter_append]
  exact (Machine.run_append _ _ _ _).mpr ⟨life, hlife, hrun⟩

/-- And is not touched by those of another. -/
theorem lifeOf_other {log events : List LifecycleEvent} {number : Nat}
    (hother : ∀ event ∈ events, event.ofCall number = false) :
    lifeOf (log ++ events) number = lifeOf log number := by
  have hnone : eventsOf number events = [] := by
    unfold eventsOf
    rw [List.filter_eq_nil_iff]
    intro event hevent
    simp [hother event hevent]
  unfold lifeOf
  rw [show eventsOf number (log ++ events) = eventsOf number log ++ eventsOf number events from
    List.filter_append .., hnone, List.append_nil]

namespace FrameClient

/-- The events of every call are a life, which a call that waits for the lock or
was not made yet has not begun. -/
structure CallsLived (client : FrameClient) : Prop where
  waiting : ∀ number call, client.waiting number = some call →
    number < client.calls ∧ lifeOf client.log number = some (.idle .first)
  unmade : ∀ number, client.calls ≤ number → lifeOf client.log number = some (.idle .first)
  lived : ∀ number, ∃ life, lifeOf client.log number = some life

/-- A call that holds the lock has come to a life. -/
structure Calling (client : FrameClient) (number : Nat) (life : CallLife) : Prop where
  calls : client.CallsLived
  life : lifeOf client.log number = some life
  known : number < client.calls
  entered : client.waiting number = none

structure CallsTracked (client : FrameClient) : Prop where
  calls : client.CallsLived
  held : ∀ held, client.holder = some held →
    ∃ life, client.Calling held.number life ∧ PointLife held.point life

/-- The part of the state that tells the lives of the calls. -/
structure SameCalls (client next : FrameClient) : Prop where
  log : next.log = client.log
  waiting : next.waiting = client.waiting
  calls : next.calls = client.calls

variable {client next : FrameClient} {number : Nat} {life target : CallLife}

/-- What changes no call keeps their lives. -/
theorem CallsLived.same (h : client.CallsLived) (hsame : SameCalls client next) :
    next.CallsLived where
  waiting := by
    rw [hsame.log, hsame.waiting, hsame.calls]
    exact h.waiting
  unmade := by
    rw [hsame.log, hsame.calls]
    exact h.unmade
  lived := by
    rw [hsame.log]
    exact h.lived

theorem Calling.same (h : client.Calling number life) (hsame : SameCalls client next) :
    next.Calling number life where
  calls := h.calls.same hsame
  life := by
    rw [hsame.log]
    exact h.life
  known := by
    rw [hsame.calls]
    exact h.known
  entered := by
    rw [hsame.waiting]
    exact h.entered

/-- A running call goes on with its life; the others are where they were. -/
theorem Calling.record (h : client.Calling number life) {events : List LifecycleEvent}
    (hrun : Machine.run CallLife.step life (eventsOf number events) = some target)
    (hown : ∀ event ∈ events, ∀ other, other ≠ number → event.ofCall other = false) :
    (client.record events).Calling number target := by
  have hsame : ∀ other, other ≠ number →
      lifeOf (client.record events).log other = lifeOf client.log other :=
    fun other hother => lifeOf_other fun event hevent => hown event hevent other hother
  have hlife : lifeOf (client.record events).log number = some target := lifeOf_append h.life hrun
  refine ⟨⟨?_, ?_, ?_⟩, hlife, h.known, h.entered⟩
  · intro other call hwaiting
    have hother : other ≠ number := by
      rintro rfl
      exact absurd (hwaiting.symm.trans h.entered) (by simp)
    rw [hsame other hother]
    exact h.calls.waiting other call hwaiting
  · intro other hunmade
    have hother : other ≠ number := fun heq => absurd h.known (Nat.not_lt.mpr (heq ▸ hunmade))
    rw [hsame other hother]
    exact h.calls.unmade other hunmade
  · intro other
    by_cases hother : other = number
    · rw [hother]
      exact ⟨target, hlife⟩
    · rw [hsame other hother]
      exact h.calls.lived other

theorem Calling.finish (h : client.Calling number life) (hfinished : life ≠ .finished)
    (result : DispatchEnd) : (client.finish number result).CallsTracked := by
  have hended : Machine.run CallLife.step life
      (eventsOf number [.ended number result]) = some .finished := by
    have hevents : eventsOf number [LifecycleEvent.ended number result] =
        [.ended number result] := by
      simp [eventsOf, LifecycleEvent.ofCall]
    rw [hevents]
    cases life with
    | finished => exact absurd rfl hfinished
    | idle attempt | attempting attempt | candidate attempt remote | ending => rfl
    | sending attempt remote => cases attempt <;> rfl
  have hfinished := h.record hended (by
    intro event hevent other hother
    obtain rfl := List.mem_singleton.mp hevent
    simpa [LifecycleEvent.ofCall] using hother.symm)
  refine ⟨⟨hfinished.calls.waiting, hfinished.calls.unmade, hfinished.calls.lived⟩, ?_⟩
  intro held hheld
  exact absurd hheld (by simp [FrameClient.finish, FrameClient.record])

theorem Calling.suspend (h : client.Calling number life) (call : ClientCall) {point : HeldPoint}
    (hpoint : PointLife point life) : (client.suspend number call point).CallsTracked where
  calls := ⟨h.calls.waiting, h.calls.unmade, h.calls.lived⟩
  held := by
    intro held hheld
    obtain rfl := Option.some.inj hheld
    exact ⟨life, h.same ⟨rfl, rfl, rfl⟩, hpoint⟩

/-- An event that is no call's changes no life. -/
theorem Calling.quiet (h : client.Calling number life) (events : List LifecycleEvent)
    (hquiet : ∀ event ∈ events, ∀ other, event.ofCall other = false) :
    (client.record events).Calling number life := by
  refine h.record ?_ fun event hevent other _ => hquiet event hevent other
  have hnone : eventsOf number events = [] := by
    unfold eventsOf
    rw [List.filter_eq_nil_iff]
    intro event hevent
    simp [hquiet event hevent number]
  rw [hnone]
  rfl

/-- One event of the call that runs. -/
theorem Calling.own (h : client.Calling number life) (event : LifecycleEvent)
    (hstep : life.step event = some target) (hmine : event.ofCall number = true)
    (hown : ∀ other, other ≠ number → event.ofCall other = false) :
    (client.record [event]).Calling number target := by
  refine h.record ?_ ?_
  · have hevents : eventsOf number [event] = [event] := by simp [eventsOf, hmine]
    rw [hevents]
    exact (Machine.run_cons _ _ _ _).mpr ⟨target, hstep, rfl⟩
  · intro held hheld other hother
    obtain rfl := List.mem_singleton.mp hheld
    exact hown other hother

section Outcomes

variable {remote : Nat} {call : ClientCall} {attempt : Attempt}
variable {inputs : SamsungInputs} {check : AuthorizationResult}

theorem Calling.revoke (h : client.Calling number (.sending attempt remote)) :
    (client.revoke number).CallsTracked := by
  have hrevoked : (client.record [.revoked number]).Calling number .ending := by
    refine h.own _ ?_ (by simp [LifecycleEvent.ofCall]) ?_
    · cases attempt <;> rfl
    · intro other hother
      simpa [LifecycleEvent.ofCall] using hother.symm
  exact hrevoked.finish (by simp) .revoked

end Outcomes

/-! ### Every run -/

/-- A call that is made enters its life. -/
theorem CallsLived.made (h : client.CallsLived) :
    ({ client with calls := client.calls + 1 } : FrameClient).Calling client.calls
      (.idle .first) where
  calls :=
    { waiting := fun number call hwaiting =>
        ⟨Nat.lt_succ_of_lt (h.waiting number call hwaiting).1, (h.waiting number call hwaiting).2⟩
      unmade := fun number hnumber => h.unmade number (Nat.le_of_succ_le hnumber)
      lived := h.lived }
  life := h.unmade client.calls le_rfl
  known := Nat.lt_succ_self _
  entered := by
    show client.waiting client.calls = none
    cases hwaiting : client.waiting client.calls with
    | none => rfl
    | some call => exact absurd (h.waiting _ _ hwaiting).1 (lt_irrefl _)

/-- The call that holds the lock is as it was when another call comes or goes. -/
theorem CallsTracked.frame (h : client.CallsTracked) (hcalls : next.CallsLived)
    (hholder : next.holder = client.holder) (hmore : client.calls ≤ next.calls)
    (hkept : ∀ held life, client.holder = some held → client.Calling held.number life →
      lifeOf next.log held.number = lifeOf client.log held.number ∧
        next.waiting held.number = none) : next.CallsTracked where
  calls := hcalls
  held := by
    intro held hheld
    rw [hholder] at hheld
    obtain ⟨life, hcalling, hpoint⟩ := h.held held hheld
    obtain ⟨hlife, hentered⟩ := hkept held life hheld hcalling
    exact ⟨life, ⟨hcalls, hlife.trans hcalling.life, lt_of_lt_of_le hcalling.known hmore,
      hentered⟩, hpoint⟩

end FrameClient

end CompanionBridge
