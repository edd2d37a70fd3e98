import CompanionBridge.Samsung.CallLife
import Mathlib.Tactic.Linarith

/-!
# The life of a connection

After an attempt that failed, the next one waits for `reconnect_min_interval`.
The failure is noted only after its candidate was closed: a cancellation that
arrives in between leaves the failure unnoted. With that exception connections
live as they should, whatever fails and whoever is cancelled.
-/

namespace CompanionBridge

open History

/-- No attempt starts before the interval after a failed one is over. -/
def Throttled (interval : ℚ) (log : List LifecycleEvent) : Prop :=
  Always (fun before event => ∀ call startedAt, event = .attempted call startedAt →
    ∀ failedAt, .attemptFailed failedAt ∈ before → failedAt + interval ≤ startedAt) log

/-- An event that is about no attempt. -/
def concernsAttempts : LifecycleEvent → Bool
  | .attempted _ _ | .attemptFailed _ => true
  | _ => false

namespace FrameClient

/-- The interval is over after every failed attempt. -/
def Due (client : FrameClient) : Prop :=
  ∀ failedAt, .attemptFailed failedAt ∈ client.log →
    failedAt + client.reconnectMinInterval ≤ client.clock

/-- No failed attempt is later than the one the client remembers. -/
def Remembered (client : FrameClient) : Prop :=
  ∃ latest, client.lastConnectAttemptAt = some latest ∧
    ∀ failedAt, .attemptFailed failedAt ∈ client.log → failedAt ≤ latest

/-- Either an attempt may start, or the client knows that it may not. -/
def Paced (client : FrameClient) : Prop :=
  client.Due ∨ (client.lastConnectFailed = true ∧ client.Remembered)

structure ThrottleLogged (client : FrameClient) : Prop where
  throttled : Throttled client.reconnectMinInterval client.log
  past : ∀ failedAt, .attemptFailed failedAt ∈ client.log → failedAt ≤ client.clock

/-- What is known of the attempts while a call that holds the lock is suspended. -/
def PointPaced (client : FrameClient) : HeldPoint → Prop
  | .starting _ _ startedAt => client.Due ∧ client.lastConnectAttemptAt = some startedAt ∧
      startedAt ≤ client.clock ∧
      ∀ failedAt, .attemptFailed failedAt ∈ client.log → failedAt ≤ startedAt
  | .closingCandidate (some _) => client.Remembered
  | _ => client.Paced

structure ThrottleTracked (client : FrameClient) : Prop where
  logged : client.ThrottleLogged
  free : client.holder = none → client.Paced
  held : ∀ held, client.holder = some held → client.PointPaced held.point

/-- A running call knows of the attempts. -/
structure ThrottleRunning (client : FrameClient) : Prop where
  logged : client.ThrottleLogged
  paced : client.Paced

/-- The part of the state that tells of the attempts; the clock may go on. -/
structure SameAttempts (client next : FrameClient) : Prop where
  interval : next.reconnectMinInterval = client.reconnectMinInterval
  latest : next.lastConnectAttemptAt = client.lastConnectAttemptAt
  failed : next.lastConnectFailed = client.lastConnectFailed
  clock : client.clock ≤ next.clock
  log : ∃ events, next.log = client.log ++ events ∧
    ∀ event ∈ events, concernsAttempts event = false

variable {client next : FrameClient}

/-- Events that concern no attempt leave the attempts of the log alone. -/
theorem SameAttempts.mem_log (h : SameAttempts client next) (failedAt : ℚ) :
    .attemptFailed failedAt ∈ next.log ↔ .attemptFailed failedAt ∈ client.log := by
  obtain ⟨events, hlog, hevents⟩ := h.log
  rw [hlog, List.mem_append]
  refine ⟨fun hmem => hmem.resolve_right fun hnew => ?_, Or.inl⟩
  exact absurd (hevents _ hnew) (by simp [concernsAttempts])

theorem SameAttempts.due (h : SameAttempts client next) (hdue : client.Due) : next.Due := by
  intro failedAt hfailed
  rw [h.interval]
  exact le_trans (hdue failedAt ((h.mem_log failedAt).mp hfailed)) h.clock

theorem SameAttempts.remembered (h : SameAttempts client next) (hknown : client.Remembered) :
    next.Remembered := by
  obtain ⟨latest, hlatest, hall⟩ := hknown
  exact ⟨latest, h.latest.trans hlatest,
    fun failedAt hfailed => hall failedAt ((h.mem_log failedAt).mp hfailed)⟩

theorem SameAttempts.paced (h : SameAttempts client next) (hpaced : client.Paced) :
    next.Paced := by
  rcases hpaced with hdue | ⟨hfailed, hknown⟩
  · exact Or.inl (h.due hdue)
  · exact Or.inr ⟨h.failed.trans hfailed, h.remembered hknown⟩

theorem SameAttempts.logged (h : SameAttempts client next) (hlogged : client.ThrottleLogged) :
    next.ThrottleLogged where
  throttled := by
    obtain ⟨events, hlog, hevents⟩ := h.log
    rw [h.interval, hlog]
    refine hlogged.throttled.append fun early event late hsplit call startedAt hevent => ?_
    have hconcerns := hevents event (by rw [hsplit]; simp)
    rw [hevent] at hconcerns
    exact absurd hconcerns (by simp [concernsAttempts])
  past := fun failedAt hfailed =>
    le_trans (hlogged.past failedAt ((h.mem_log failedAt).mp hfailed)) h.clock

theorem SameAttempts.point (h : SameAttempts client next) {point : HeldPoint}
    (hpoint : client.PointPaced point) : next.PointPaced point := by
  cases point with
  | starting attempt remote startedAt =>
      obtain ⟨hdue, hlatest, hpast, hall⟩ := hpoint
      exact ⟨h.due hdue, h.latest.trans hlatest, le_trans hpast h.clock,
        fun failedAt hfailed => hall failedAt ((h.mem_log failedAt).mp hfailed)⟩
  | closingCandidate failure =>
      cases failure with
      | none => exact h.paced hpoint
      | some category => exact h.remembered hpoint
  | broadcasting attempt remote text => exact h.paced hpoint
  | sending attempt remote => exact h.paced hpoint
  | closingDropped => exact h.paced hpoint
  | closingReady => exact h.paced hpoint

theorem ThrottleRunning.same (h : client.ThrottleRunning) (hsame : SameAttempts client next) :
    next.ThrottleRunning :=
  ⟨hsame.logged h.logged, hsame.paced h.paced⟩

theorem ThrottleRunning.record (h : client.ThrottleRunning) (events : List LifecycleEvent)
    (hevents : ∀ event ∈ events, concernsAttempts event = false) :
    (client.record events).ThrottleRunning :=
  h.same ⟨rfl, rfl, rfl, le_rfl, events, rfl, hevents⟩

theorem ThrottleRunning.finish (h : client.ThrottleRunning) (number : Nat)
    (result : DispatchEnd) : (client.finish number result).ThrottleTracked := by
  have hend : (client.finish number result).ThrottleRunning :=
    h.same ⟨rfl, rfl, rfl, le_rfl, [.ended number result], rfl, by simp [concernsAttempts]⟩
  refine ⟨hend.logged, fun _ => hend.paced, ?_⟩
  intro held hheld
  exact absurd hheld (by simp [FrameClient.finish, FrameClient.record])

/-- A call that waits remembers what it has attempted. -/
theorem ThrottleLogged.suspend (h : client.ThrottleLogged) (number : Nat) (call : ClientCall)
    {point : HeldPoint} (hpoint : client.PointPaced point) :
    (client.suspend number call point).ThrottleTracked where
  logged := ⟨h.throttled, h.past⟩
  free := fun hnone => absurd hnone (by simp [FrameClient.suspend])
  held := by
    intro held hheld
    obtain rfl := Option.some.inj hheld
    have hsame : SameAttempts client (client.suspend number call point) :=
      ⟨rfl, rfl, rfl, le_rfl, [], (List.append_nil _).symm, by simp⟩
    exact hsame.point hpoint

section Outcomes

variable {number remote : Nat} {call : ClientCall} {attempt : Attempt}
variable {inputs : SamsungInputs} {check : AuthorizationResult}

theorem ThrottleRunning.revoke (h : client.ThrottleRunning) (number : Nat) :
    (client.revoke number).ThrottleTracked :=
  (h.record [.revoked number] (by simp [concernsAttempts])).finish number .revoked

/-- An attempt that is not held back starts when the interval is over. -/
theorem ThrottleRunning.due (h : client.ThrottleRunning)
    (hcool : client.coolingDown inputs.now = false) (hnow : inputs.now ≤ inputs.attemptAt)
    (hclock : client.clock = inputs.attemptAt) : client.Due := by
  rcases h.paced with hdue | ⟨hfailed, latest, hlatest, hall⟩
  · exact hdue
  · intro failedAt hmem
    have hover : ¬ 0 < client.reconnectMinInterval - (inputs.now - latest) := by
      simpa [coolingDown, hfailed, hlatest] using hcool
    have hlast := hall failedAt hmem
    rw [hclock]
    linarith

/-- Dropping the ready remote concerns no attempt. -/
theorem ThrottleRunning.dropRemote (h : client.ThrottleRunning) (remote : Nat) :
    ({ client with firstTextSent := false }.dropRemote remote).ThrottleRunning :=
  h.same ⟨rfl, rfl, rfl, le_rfl, [.closing remote], rfl, by simp [concernsAttempts]⟩

end Outcomes

/-! ## Every run -/

theorem ThrottleTracked.same (h : client.ThrottleTracked) (hsame : SameAttempts client next)
    (hholder : next.holder = client.holder) : next.ThrottleTracked where
  logged := hsame.logged h.logged
  free := fun hfree => hsame.paced (h.free (hholder ▸ hfree))
  held := fun held hheld => hsame.point (h.held held (hholder ▸ hheld))

/-- The clock only moves on. -/
theorem ThrottleTracked.ticked (h : client.ThrottleTracked) {inputs : SamsungInputs}
    (hclock : client.Monotonic inputs) : (client.ticked inputs).ThrottleTracked :=
  h.same ⟨rfl, rfl, rfl, hclock.1.trans hclock.2, [], (List.append_nil _).symm, by simp⟩ rfl

/-- A remote was published and is not closed. -/
def IsPublished (log : List LifecycleEvent) (remote : Nat) : Prop :=
  .published remote ∈ log ∧ .closing remote ∉ log

/-- The remote whose listener is being started. -/
def candidate? (client : FrameClient) : Option Nat :=
  match client.holder with
  | some ⟨_, _, .starting _ remote _⟩ => some remote
  | _ => none

/-- A remote that was built is published, closed or about to be. -/
theorem RemotesTracked.constructed (h : client.RemotesTracked) {call remote : Nat}
    (hbuilt : .constructed call remote ∈ client.log) :
    IsPublished client.log remote ∨ .closing remote ∈ client.log ∨
      client.candidate? = some remote := by
  have hbound := h.logged.built call remote hbuilt
  have hclosed : client.OthersClosed → IsPublished client.log remote ∨
      .closing remote ∈ client.log ∨ client.candidate? = some remote := by
    intro hothers
    rcases hothers remote hbound with hcurrent | hclosing
    · exact Or.inl (h.logged.current remote hcurrent)
    · exact Or.inr (Or.inl hclosing)
  cases hheld : client.holder with
  | none => exact hclosed (h.closed hheld)
  | some held =>
      have hpoint := h.held held hheld
      obtain ⟨number, call, point⟩ := held
      cases point with
      | starting attempt candidate startedAt =>
          obtain ⟨-, -, -, -, hothers⟩ := hpoint
          by_cases heq : remote = candidate
          · exact Or.inr (Or.inr (by simp [candidate?, hheld, heq]))
          · exact Or.inr (Or.inl (hothers remote hbound heq))
      | closingCandidate failure | broadcasting attempt remote text | sending attempt remote |
          closingDropped | closingReady => exact hclosed hpoint.2

end FrameClient

end CompanionBridge
