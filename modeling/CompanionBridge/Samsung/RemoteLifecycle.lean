import CompanionBridge.Library.Machine
import CompanionBridge.Samsung.Lifecycle

/-!
# Every remote is closed

While a call runs between two suspension points, every remote but the published
one has been closed; a call that awaits `start_listening` has one candidate more.
The invariant is stated of a client whose lock nobody holds and of one whose
holder is suspended, since a running call only reads the state and then ends or
suspends.
-/

namespace CompanionBridge

open History

namespace FrameClient

/-- What the log says of the remotes, whoever holds the lock. -/
structure RemotesLogged (client : FrameClient) : Prop where
  current : ∀ remote, client.remote = some remote →
    .published remote ∈ client.log ∧ .closing remote ∉ client.log
  replaced : ∀ remote, .published remote ∈ client.log →
    client.remote = some remote ∨ .closing remote ∈ client.log
  built : ∀ call remote, .constructed call remote ∈ client.log → remote < client.remotes
  known : ∀ remote, .published remote ∈ client.log ∨ .closing remote ∈ client.log →
    remote < client.remotes
  listened : Always (fun before event => ∀ remote, event = .published remote →
    .listening remote ∈ before) client.log

/-- Every remote but the published one has been closed. -/
def OthersClosed (client : FrameClient) : Prop :=
  ∀ remote < client.remotes, client.remote = some remote ∨ .closing remote ∈ client.log

/-- What holds of the remotes while a call that holds the lock is suspended. -/
def PointRemotes (client : FrameClient) : HeldPoint → Prop
  | .starting _ candidate _ => client.remote = none ∧ candidate < client.remotes ∧
      .published candidate ∉ client.log ∧ .closing candidate ∉ client.log ∧
      ∀ remote < client.remotes, remote ≠ candidate → .closing remote ∈ client.log
  | .broadcasting _ remote _ | .sending _ remote =>
      client.remote = some remote ∧ client.OthersClosed
  | _ => client.remote = none ∧ client.OthersClosed

structure RemotesTracked (client : FrameClient) : Prop where
  logged : client.RemotesLogged
  closed : client.holder = none → client.OthersClosed
  held : ∀ held, client.holder = some held → client.PointRemotes held.point

/-! ## Events that are not about remotes -/

/-- An event that no remote is published, built or closed by. -/
def concernsRemotes : LifecycleEvent → Bool
  | .published _ | .closing _ | .constructed _ _ => true
  | _ => false

/-- The part of the state the remotes are in, up to events that do not concern them. -/
structure SameRemotes (client next : FrameClient) : Prop where
  remote : next.remote = client.remote
  remotes : next.remotes = client.remotes
  log : ∃ events, next.log = client.log ++ events ∧ ∀ event ∈ events, concernsRemotes event = false

variable {client next : FrameClient}

/-- Events that concern no remote leave the remotes of the log alone. -/
theorem SameRemotes.mem_log (h : SameRemotes client next) {event : LifecycleEvent}
    (hevent : concernsRemotes event = true) : event ∈ next.log ↔ event ∈ client.log := by
  obtain ⟨events, hlog, hevents⟩ := h.log
  rw [hlog, List.mem_append]
  refine ⟨fun hmem => hmem.resolve_right fun hnew => ?_, Or.inl⟩
  rw [hevents event hnew] at hevent
  exact Bool.false_ne_true hevent

theorem SameRemotes.logged (h : SameRemotes client next) (hlogged : client.RemotesLogged) :
    next.RemotesLogged where
  current := by
    intro remote hremote
    rw [h.remote] at hremote
    obtain ⟨hpublished, hclosing⟩ := hlogged.current remote hremote
    exact ⟨(h.mem_log rfl).mpr hpublished, fun hmem => hclosing ((h.mem_log rfl).mp hmem)⟩
  replaced := by
    intro remote hpublished
    rw [h.remote, h.mem_log rfl]
    exact hlogged.replaced remote ((h.mem_log rfl).mp hpublished)
  built := by
    intro call remote hbuilt
    rw [h.remotes]
    exact hlogged.built call remote ((h.mem_log rfl).mp hbuilt)
  known := by
    intro remote hknown
    rw [h.mem_log rfl, h.mem_log rfl] at hknown
    rw [h.remotes]
    exact hlogged.known remote hknown
  listened := by
    obtain ⟨events, hlog, hevents⟩ := h.log
    rw [hlog]
    refine hlogged.listened.append fun early event late hsplit remote hevent => ?_
    have hconcerns := hevents event (by rw [hsplit]; simp)
    rw [hevent] at hconcerns
    exact absurd hconcerns (by simp [concernsRemotes])

theorem SameRemotes.othersClosed (h : SameRemotes client next) (hclosed : client.OthersClosed) :
    next.OthersClosed := by
  intro remote hremote
  rw [h.remotes] at hremote
  rw [h.remote, h.mem_log rfl]
  exact hclosed remote hremote

theorem SameRemotes.point (h : SameRemotes client next) {point : HeldPoint}
    (hpoint : client.PointRemotes point) : next.PointRemotes point := by
  cases point with
  | starting attempt candidate startedAt =>
      obtain ⟨hnone, hcandidate, hpublished, hclosing, hothers⟩ := hpoint
      refine ⟨h.remote.trans hnone, by rw [h.remotes]; exact hcandidate, ?_, ?_, ?_⟩
      · rw [h.mem_log rfl]
        exact hpublished
      · rw [h.mem_log rfl]
        exact hclosing
      · intro remote hremote hother
        rw [h.remotes] at hremote
        exact (h.mem_log rfl).mpr (hothers remote hremote hother)
  | broadcasting attempt remote text => exact ⟨h.remote.trans hpoint.1, h.othersClosed hpoint.2⟩
  | sending attempt remote => exact ⟨h.remote.trans hpoint.1, h.othersClosed hpoint.2⟩
  | closingCandidate failure => exact ⟨h.remote.trans hpoint.1, h.othersClosed hpoint.2⟩
  | closingDropped => exact ⟨h.remote.trans hpoint.1, h.othersClosed hpoint.2⟩
  | closingReady => exact ⟨h.remote.trans hpoint.1, h.othersClosed hpoint.2⟩

/-! ## A running call -/

/-- The remotes of a client whose lock is held by a call that is running. -/
structure RemotesRunning (client : FrameClient) : Prop where
  logged : client.RemotesLogged
  closed : client.OthersClosed

theorem RemotesRunning.same (h : client.RemotesRunning) (hsame : SameRemotes client next) :
    next.RemotesRunning :=
  ⟨hsame.logged h.logged, hsame.othersClosed h.closed⟩

theorem RemotesRunning.record (h : client.RemotesRunning) {events : List LifecycleEvent}
    (hevents : ∀ event ∈ events, concernsRemotes event = false) :
    (client.record events).RemotesRunning :=
  h.same ⟨rfl, rfl, events, rfl, hevents⟩

theorem RemotesRunning.finish (h : client.RemotesRunning) (number : Nat) (result : DispatchEnd) :
    (client.finish number result).RemotesTracked := by
  have hend : (client.finish number result).RemotesRunning :=
    h.same ⟨rfl, rfl, [.ended number result], rfl, by simp [concernsRemotes]⟩
  refine ⟨hend.logged, fun _ => hend.closed, ?_⟩
  intro held hheld
  exact absurd hheld (by simp [FrameClient.finish, FrameClient.record])

theorem RemotesRunning.revoke (h : client.RemotesRunning) (number : Nat) :
    (client.revoke number).RemotesTracked := by
  have hrevoked : (client.record [.revoked number]).RemotesRunning :=
    h.record (by simp [concernsRemotes])
  exact hrevoked.finish number .revoked

theorem RemotesLogged.suspend (h : client.RemotesLogged) (number : Nat) (call : ClientCall)
    {point : HeldPoint} (hpoint : client.PointRemotes point) :
    (client.suspend number call point).RemotesTracked where
  logged := ⟨h.current, h.replaced, h.built, h.known, h.listened⟩
  closed := fun hnone => absurd hnone (by simp [FrameClient.suspend])
  held := by
    intro held hheld
    obtain rfl := Option.some.inj hheld
    cases point <;> exact hpoint

section Outcomes

variable {number remote : Nat} {call : ClientCall} {attempt : Attempt}
variable {inputs : SamsungInputs} {check : AuthorizationResult}

theorem SendOutcome.remotesTracked (h : SendOutcome client number call attempt remote next)
    (hrunning : client.RemotesRunning) (hremote : client.remote = some remote) :
    next.RemotesTracked := by
  cases h with
  | refused flag hflag =>
      have hcleared : ({ client with firstTextSent := flag } : FrameClient).RemotesRunning :=
        hrunning.same ⟨rfl, rfl, [], (List.append_nil _).symm, by simp⟩
      exact hcleared.revoke number
  | wrote write hwrite htext =>
      have hwrote : (client.record [.wrote remote write]).RemotesRunning :=
        hrunning.record (by simp [concernsRemotes])
      exact hwrote.logged.suspend number call ⟨hremote, hwrote.closed⟩
  | broadcast text hflag =>
      have hwrote : (client.record [.wrote remote .textReceived]).RemotesRunning :=
        hrunning.record (by simp [concernsRemotes])
      exact hwrote.logged.suspend number call ⟨hremote, hwrote.closed⟩

theorem ready_remotesTracked (hrunning : client.RemotesRunning)
    (hremote : client.remote = some remote) :
    (client.ready number call attempt remote check).RemotesTracked := by
  rcases @ready_outcome client number remote call attempt check with heq | houtcome
  · rw [heq]
    exact hrunning.finish number .returned
  · exact houtcome.remotesTracked (hrunning.record (by simp [concernsRemotes])) hremote

/-- A new candidate is the only remote that is neither published nor closed. -/
theorem RemotesRunning.construct (h : client.RemotesRunning) (hremote : client.remote = none)
    (number : Nat) (startedAt : ℚ) (attempt : Attempt) :
    let built := ({ client with
      lastConnectAttemptAt := some startedAt, remotes := client.remotes + 1 } : FrameClient).record
        [.attempted number startedAt, .constructed number client.remotes]
    built.RemotesLogged ∧
      built.PointRemotes (.starting attempt client.remotes startedAt) := by
  intro built
  -- the constructed candidate is new, so no earlier event is about it
  have hmem : ∀ event, concernsRemotes event = true →
      (∀ call remote, event ≠ .constructed call remote) →
      (event ∈ built.log ↔ event ∈ client.log) := by
    intro event hconcerns hother
    simp only [built, FrameClient.record, List.mem_append, List.mem_cons, List.not_mem_nil,
      or_false]
    refine ⟨fun hevent => hevent.resolve_right ?_, Or.inl⟩
    rintro (rfl | rfl)
    · exact absurd hconcerns (by simp [concernsRemotes])
    · exact hother _ _ rfl
  have hpublished : ∀ remote, .published remote ∈ built.log ↔ .published remote ∈ client.log :=
    fun remote => hmem _ rfl (by simp)
  have hclosing : ∀ remote, .closing remote ∈ built.log ↔ .closing remote ∈ client.log :=
    fun remote => hmem _ rfl (by simp)
  constructor
  · refine ⟨?_, ?_, ?_, ?_, ?_⟩
    · intro remote hcurrent
      rw [hpublished, hclosing]
      exact h.logged.current remote hcurrent
    · intro remote hold
      rw [hclosing]
      exact h.logged.replaced remote ((hpublished remote).mp hold)
    · intro call remote hbuilt
      simp only [built, FrameClient.record, List.mem_append, List.mem_cons, List.not_mem_nil,
        or_false] at hbuilt ⊢
      rcases hbuilt with hold | hattempted | hnew
      · exact Nat.lt_succ_of_lt (h.logged.built call remote hold)
      · exact absurd hattempted (by simp)
      · cases hnew
        exact Nat.lt_succ_self _
    · intro remote hknown
      rw [hpublished, hclosing] at hknown
      exact Nat.lt_succ_of_lt (h.logged.known remote hknown)
    · refine h.logged.listened.append fun early event late hsplit remote hevent => ?_
      have hnew : event ∈ [LifecycleEvent.attempted number startedAt,
          .constructed number client.remotes] := by
        rw [hsplit]
        simp
      rw [hevent] at hnew
      exact absurd hnew (by simp)
  · refine ⟨hremote, Nat.lt_succ_self _, ?_, ?_, ?_⟩
    · rw [hpublished]
      exact fun hold => absurd (h.logged.known _ (Or.inl hold)) (lt_irrefl _)
    · rw [hclosing]
      exact fun hold => absurd (h.logged.known _ (Or.inr hold)) (lt_irrefl _)
    · intro remote hbound hother
      rw [hclosing]
      have hold : remote < client.remotes :=
        lt_of_le_of_ne (Nat.le_of_lt_succ hbound) hother
      exact (h.closed remote hold).resolve_left (by simp [hremote])

/-- A connect builds one remote, and only where there is none. -/
theorem ConnectOutcome.remotesTracked
    (h : ConnectOutcome client number call attempt inputs next)
    (hrunning : client.RemotesRunning) (hremote : client.remote = none) :
    next.RemotesTracked := by
  cases h with
  | refused category => exact hrunning.finish number _
  | failed hcool category =>
      have hfailed : (({ client with
          lastConnectAttemptAt := some inputs.attemptAt, lastConnectFailed := true } :
            FrameClient).record
          [.attempted number inputs.attemptAt,
            .attemptFailed inputs.attemptAt]).RemotesRunning :=
        hrunning.same ⟨rfl, rfl, _, rfl, by simp [concernsRemotes]⟩
      exact hfailed.finish number _
  | starting hcool =>
      obtain ⟨hlogged, hpoint⟩ := hrunning.construct hremote number inputs.attemptAt attempt
      exact hlogged.suspend number call hpoint

theorem ensureConnected_remotesTracked (hrunning : client.RemotesRunning) :
    (client.ensureConnected number call inputs check).RemotesTracked := by
  unfold ensureConnected
  split
  · rename_i remote hremote
    exact ready_remotesTracked hrunning hremote
  · rename_i hremote
    exact connectUnlessCooling_outcome.remotesTracked hrunning hremote

/-- The published remote is dropped and closed. -/
theorem RemotesRunning.dropRemote (h : client.RemotesRunning)
    (hremote : client.remote = some remote) : (client.dropRemote remote).RemotesRunning := by
  have hmem : ∀ event, event ≠ .closing remote →
      (event ∈ (client.dropRemote remote).log ↔ event ∈ client.log) := by
    intro event hother
    simp only [FrameClient.dropRemote, FrameClient.record, List.mem_append, List.mem_singleton]
    exact ⟨fun hevent => hevent.resolve_right hother, Or.inl⟩
  have hclosing : ∀ other, .closing other ∈ (client.dropRemote remote).log ↔
      .closing other ∈ client.log ∨ other = remote := by
    intro other
    simp [FrameClient.dropRemote, FrameClient.record]
  refine ⟨⟨?_, ?_, ?_, ?_, ?_⟩, ?_⟩
  · intro other hcurrent
    exact absurd hcurrent (by simp [FrameClient.dropRemote, FrameClient.record])
  · intro other hpublished
    rw [hclosing]
    rw [hmem _ (by simp)] at hpublished
    rcases h.logged.replaced other hpublished with hcurrent | hclosed
    · exact Or.inr (Or.inr (Option.some.inj (hcurrent.symm.trans hremote)))
    · exact Or.inr (Or.inl hclosed)
  · intro call other hbuilt
    exact h.logged.built call other ((hmem _ (by simp)).mp hbuilt)
  · intro other hknown
    rw [hclosing, hmem _ (by simp)] at hknown
    rcases hknown with hpublished | hclosed | rfl
    · exact h.logged.known other (Or.inl hpublished)
    · exact h.logged.known other (Or.inr hclosed)
    · exact h.logged.known other (Or.inl (h.logged.current other hremote).1)
  · exact h.logged.listened.snoc fun other hevent => absurd hevent (by simp)
  · intro other hother
    rw [hclosing]
    rcases h.closed other hother with hcurrent | hclosed
    · exact Or.inr (Or.inr (Option.some.inj (hcurrent.symm.trans hremote)))
    · exact Or.inr (Or.inl hclosed)

/-- A close drops the remote before it waits for it. -/
theorem closeLocked_remotesTracked (hrunning : client.RemotesRunning) :
    (client.closeLocked number).RemotesTracked := by
  have hreset : ({ client with firstTextSent := false } : FrameClient).RemotesRunning :=
    hrunning.same ⟨rfl, rfl, [], (List.append_nil _).symm, by simp⟩
  unfold closeLocked
  dsimp only
  split
  · exact hreset.finish number .returned
  · rename_i remote hremote
    have hdropped := hreset.dropRemote hremote
    exact hdropped.logged.suspend number .close ⟨rfl, hdropped.closed⟩

theorem enter_remotesTracked (hrunning : client.RemotesRunning) :
    (client.enter number call inputs check).RemotesTracked := by
  unfold enter
  split
  · exact ensureConnected_remotesTracked hrunning
  · split
    · exact hrunning.finish number _
    · exact ensureConnected_remotesTracked hrunning
  · exact closeLocked_remotesTracked hrunning

/-- A send that failed closes its remote before another is built. -/
theorem sendFailed_remotesTracked {held : HeldCall} {category : DispatchFailureCategory}
    (hrunning : client.RemotesRunning) :
    (client.sendFailed held attempt inputs category).RemotesTracked := by
  have hfailed : (client.record [.sendFailed held.number]).RemotesRunning :=
    hrunning.record (by simp [concernsRemotes])
  unfold sendFailed
  dsimp only
  split
  · have hreset : ({ client.record [.sendFailed held.number] with firstTextSent := false } :
        FrameClient).RemotesRunning :=
      hfailed.same ⟨rfl, rfl, [], (List.append_nil _).symm, by simp⟩
    split
    · rename_i remote hremote
      have hdropped := hreset.dropRemote hremote
      exact hdropped.logged.suspend held.number held.call ⟨rfl, hdropped.closed⟩
    · rename_i hremote
      exact connectUnlessCooling_outcome.remotesTracked hreset hremote
  · exact hfailed.finish held.number _

/-- The candidate whose listener runs is published. -/
theorem publish_remotesRunning {startedAt : ℚ} (hlogged : client.RemotesLogged)
    (hpoint : client.PointRemotes (.starting attempt remote startedAt)) :
    (({ client with remote := some remote, lastConnectFailed := false } : FrameClient).record
      [.listening remote, .published remote]).RemotesRunning := by
  obtain ⟨hremote, hbuilt, hpublished, hclosing, hothers⟩ := hpoint
  have hnew : ∀ other, .published other ∈ client.log ++
      [.listening remote, .published remote] ↔ .published other ∈ client.log ∨ other = remote := by
    simp
  have hclosed : ∀ other, .closing other ∈ client.log ++
      [.listening remote, .published remote] ↔ .closing other ∈ client.log := by
    simp
  refine ⟨⟨?_, ?_, ?_, ?_, ?_⟩, ?_⟩
  · intro other hcurrent
    obtain rfl := Option.some.inj hcurrent
    exact ⟨(hnew remote).mpr (Or.inr rfl), fun hmem => hclosing ((hclosed remote).mp hmem)⟩
  · intro other hmem
    rcases (hnew other).mp hmem with hold | rfl
    · have hgone := (hlogged.replaced other hold).resolve_left (by simp [hremote])
      exact Or.inr ((hclosed other).mpr hgone)
    · exact Or.inl rfl
  · intro call other hmem
    refine hlogged.built call other ?_
    simpa [record] using hmem
  · intro other hmem
    rcases hmem with hmem | hmem
    · rcases (hnew other).mp hmem with hold | rfl
      · exact hlogged.known other (Or.inl hold)
      · exact hbuilt
    · exact hlogged.known other (Or.inr ((hclosed other).mp hmem))
  -- the remote listened before it was published
  · have hfirst : Always (fun before event => ∀ other, event = .published other →
        .listening other ∈ before) (client.log ++ [.listening remote]) :=
      hlogged.listened.snoc fun other hevent => absurd hevent (by simp)
    have hlistening : ∀ other, LifecycleEvent.published remote = .published other →
        .listening other ∈ client.log ++ [.listening remote] := by
      rintro other ⟨⟩
      simp
    have hboth := hfirst.snoc hlistening
    rw [List.append_assoc] at hboth
    exact hboth
  · intro other hother
    by_cases heq : other = remote
    · exact Or.inl (by rw [heq]; rfl)
    · exact Or.inr ((hclosed other).mpr (hothers other hother heq))

/-- A candidate that is not published is closed, and no other remote is open. -/
theorem closeCandidate_remotesRunning {startedAt : ℚ} (hlogged : client.RemotesLogged)
    (hpoint : client.PointRemotes (.starting attempt remote startedAt))
    (events : List LifecycleEvent) (hevents : ∀ event ∈ events, concernsRemotes event = false) :
    ((client.record events).record [.closing remote]).RemotesRunning := by
  obtain ⟨hremote, hbuilt, hpublished, hclosing, hothers⟩ := hpoint
  have hsame : SameRemotes client (client.record events) := ⟨rfl, rfl, events, rfl, hevents⟩
  have hkept := hsame.logged hlogged
  have hmem : ∀ event, event ≠ .closing remote → concernsRemotes event = true →
      (event ∈ ((client.record events).record [.closing remote]).log ↔ event ∈ client.log) := by
    intro event hother hconcerns
    rw [← hsame.mem_log hconcerns]
    simp only [FrameClient.record, List.mem_append, List.mem_singleton]
    exact ⟨fun hevent => hevent.resolve_right hother, Or.inl⟩
  -- the candidate joins the remotes that are closed
  have hclosed : ∀ other, .closing other ∈
      ((client.record events).record [.closing remote]).log ↔
        .closing other ∈ client.log ∨ other = remote := by
    intro other
    rw [← hsame.mem_log rfl]
    simp [FrameClient.record, or_assoc]
  refine ⟨⟨?_, ?_, ?_, ?_, ?_⟩, ?_⟩
  · intro other hcurrent
    exact absurd (hcurrent.symm.trans hremote) (by simp)
  · intro other hold
    rw [hclosed]
    rw [hmem _ (by simp) rfl] at hold
    exact Or.inr (Or.inl ((hlogged.replaced other hold).resolve_left (by simp [hremote])))
  · intro call other hold
    exact hlogged.built call other ((hmem _ (by simp) rfl).mp hold)
  · intro other hknown
    rw [hclosed, hmem _ (by simp) rfl] at hknown
    rcases hknown with hold | hold | rfl
    · exact hlogged.known other (Or.inl hold)
    · exact hlogged.known other (Or.inr hold)
    · exact hbuilt
  · exact hkept.listened.snoc fun other hevent => absurd hevent (by simp)
  · intro other hother
    rw [hclosed]
    by_cases heq : other = remote
    · exact Or.inr (Or.inr heq)
    · exact Or.inr (Or.inl (hothers other hother heq))

/-- A call that is not starting a remote runs with the current one. -/
theorem RemotesTracked.running (h : client.RemotesTracked) {held : HeldCall}
    (hheld : client.holder = some held)
    (hstarted : ∀ attempt remote startedAt, held.point ≠ .starting attempt remote startedAt) :
    client.RemotesRunning := by
  have hpoint := h.held held hheld
  refine ⟨h.logged, ?_⟩
  cases hcase : held.point with
  | starting attempt remote startedAt => exact absurd hcase (hstarted attempt remote startedAt)
  | closingCandidate failure | broadcasting attempt remote text | sending attempt remote |
      closingDropped | closingReady =>
      rw [hcase] at hpoint
      exact hpoint.2

/-- The call that holds the lock goes on. -/
theorem resumeHeld_remotesTracked (h : client.RemotesTracked) {held : HeldCall}
    (hheld : client.holder = some held) (resumption : Resumption) :
    (client.resumeHeld held resumption inputs check).RemotesTracked := by
  have hpoint := h.held held hheld
  have hrunning := h.running hheld
  obtain ⟨number, call, point⟩ := held
  -- only the points around a connect touch the remote
  cases point with
  | starting attempt remote startedAt =>
      cases resumption with
      | returned => exact ready_remotesTracked (publish_remotesRunning h.logged hpoint) rfl
      | raised category =>
          have hclosed := closeCandidate_remotesRunning h.logged hpoint
            [.attemptFailed startedAt] (by simp [concernsRemotes])
          rw [record_record] at hclosed
          exact hclosed.logged.suspend number call ⟨hpoint.1, hclosed.closed⟩
      | cancelled =>
          have hclosed := closeCandidate_remotesRunning h.logged hpoint [] (by simp)
          rw [record_record] at hclosed
          exact hclosed.logged.suspend number call ⟨hpoint.1, hclosed.closed⟩
  | closingCandidate failure =>
      have hran := hrunning (by simp)
      cases failure with
      | none => cases resumption <;> exact hran.finish number _
      | some category =>
          have hfailed : ({ client with lastConnectFailed := true } :
              FrameClient).RemotesRunning :=
            hran.same ⟨rfl, rfl, [], (List.append_nil _).symm, by simp⟩
          cases resumption with
          | returned => exact hfailed.finish number _
          | raised _ => exact hfailed.finish number _
          | cancelled => exact hran.finish number _
  | broadcasting attempt remote text =>
      have hran := hrunning (by simp)
      cases resumption with
      | returned =>
          have hsent : ({ client with firstTextSent := true } : FrameClient).RemotesRunning :=
            hran.same ⟨rfl, rfl, [], (List.append_nil _).symm, by simp⟩
          exact (sendInput_outcome text rfl).remotesTracked hsent hpoint.1
      | raised category => exact sendFailed_remotesTracked hran
      | cancelled => exact hran.finish number _
  | sending attempt remote =>
      have hran := hrunning (by simp)
      cases resumption with
      | returned => exact hran.finish number _
      | raised category => exact sendFailed_remotesTracked hran
      | cancelled => exact hran.finish number _
  | closingDropped =>
      have hran := hrunning (by simp)
      cases resumption with
      | returned => exact connectUnlessCooling_outcome.remotesTracked hran hpoint.1
      | raised category => exact connectUnlessCooling_outcome.remotesTracked hran hpoint.1
      | cancelled => exact hran.finish number _
  | closingReady =>
      have hran := hrunning (by simp)
      cases resumption <;> exact hran.finish number _

end Outcomes

/-! ## Every run -/

theorem RemotesTracked.same (h : client.RemotesTracked) (hsame : SameRemotes client next)
    (hholder : next.holder = client.holder) : next.RemotesTracked where
  logged := hsame.logged h.logged
  closed := fun hfree => hsame.othersClosed (h.closed (hholder ▸ hfree))
  held := fun held hheld => hsame.point (h.held held (hholder ▸ hheld))

theorem RemotesTracked.free (h : client.RemotesTracked) (hfree : client.holder = none) :
    client.RemotesRunning :=
  ⟨h.logged, h.closed hfree⟩

theorem step_remotesTracked (h : client.RemotesTracked) {label : LifecycleLabel}
    (hstep : client.step label = some next) : next.RemotesTracked := by
  cases step_outcome hstep with
  | rejected hclock =>
      exact h.same ⟨rfl, rfl, [_], rfl, by simp [concernsRemotes]⟩ rfl
  | waits hclock hheld =>
      exact h.same ⟨rfl, rfl, [], (List.append_nil _).symm, by simp⟩ rfl
  | begins hclock hfree =>
      exact enter_remotesTracked
        ((h.free hfree).same ⟨rfl, rfl, [], (List.append_nil _).symm, by simp⟩)
  | acquires hclock hfree hwaiting =>
      exact enter_remotesTracked
        ((h.free hfree).same ⟨rfl, rfl, [], (List.append_nil _).symm, by simp⟩)
  | abandons hwaiting =>
      exact h.same ⟨rfl, rfl, [_], rfl, by simp [concernsRemotes]⟩ rfl
  | @resumes resumption inputs check held hclock hheld =>
      have hticked : (client.ticked inputs).RemotesTracked :=
        h.same ⟨rfl, rfl, [], (List.append_nil _).symm, by simp⟩ rfl
      exact resumeHeld_remotesTracked hticked hheld resumption
  | event => exact h.same ⟨rfl, rfl, [.imeEvent], rfl, by simp [concernsRemotes]⟩ rfl

theorem initial_remotesTracked (interval clock : ℚ) :
    ({ reconnectMinInterval := interval, clock := clock } : FrameClient).RemotesTracked where
  logged := ⟨by simp, by simp, by simp, by simp, always_nil⟩
  closed := fun _ remote hremote => absurd hremote (Nat.not_lt_zero remote)
  held := fun held hheld => absurd hheld (by simp)

end FrameClient

end CompanionBridge
