import CompanionBridge.Samsung.RemoteLifecycle

/-!
# A broadcast before each text

`SendInputString` follows a `text_received` broadcast on the same remote, unless
an IME event arrives while the broadcast is awaited: the flag the event clears is
set once the broadcast returns.
-/

namespace CompanionBridge

open History

/-- A broadcast was written to the remote and no IME event came after it. -/
def BroadcastSince (remote : Nat) (log : List LifecycleEvent) : Prop :=
  ∃ early late, log = early ++ .wrote remote .textReceived :: late ∧ .imeEvent ∉ late

/-- Each text is written to a remote that got a broadcast since the last IME event. -/
def TextFollowsBroadcast (log : List LifecycleEvent) : Prop :=
  Always (fun before event => ∀ remote text, event = .wrote remote (.inputString text) →
    BroadcastSince remote before) log

/-- Whether an IME event came after the last broadcast. -/
def imeSinceBroadcast (log : List LifecycleEvent) : Bool :=
  log.foldl (fun since event =>
    match event with
    | .imeEvent => true
    | .wrote _ .textReceived => false
    | _ => since) false

theorem BroadcastSince.append {remote : Nat} {log events : List LifecycleEvent}
    (h : BroadcastSince remote log) (hevents : .imeEvent ∉ events) :
    BroadcastSince remote (log ++ events) := by
  obtain ⟨early, late, rfl, hlate⟩ := h
  refine ⟨early, late ++ events, by simp, ?_⟩
  rw [List.mem_append]
  exact fun hmem => hmem.elim hlate hevents

theorem imeSinceBroadcast_snoc_ime (log : List LifecycleEvent) :
    imeSinceBroadcast (log ++ [.imeEvent]) = true := by
  simp [imeSinceBroadcast]

/-- After a broadcast only an IME event sets it back. -/
theorem BroadcastSince.imeSinceBroadcast {remote : Nat} {log : List LifecycleEvent}
    (h : BroadcastSince remote log) : imeSinceBroadcast log = false := by
  obtain ⟨early, late, rfl, hlate⟩ := h
  induction late using List.reverseRecOn with
  | nil => simp [CompanionBridge.imeSinceBroadcast]
  | append_singleton late event ih =>
      rw [List.mem_append, not_or] at hlate
      have hbefore := ih hlate.1
      rw [← List.cons_append, ← List.append_assoc]
      unfold CompanionBridge.imeSinceBroadcast at hbefore ⊢
      rw [List.foldl_append, hbefore]
      simp only [List.foldl_cons, List.foldl_nil]
      split
      · exact absurd (List.mem_singleton.mpr rfl) hlate.2
      · rfl
      · rfl

/-- An event that no text and no IME event is. -/
def concernsText : LifecycleEvent → Bool
  | .wrote _ _ | .imeEvent => true
  | _ => false

namespace FrameClient

/-- What is known of the broadcasts, whoever holds the lock. -/
structure TextLogged (client : FrameClient) : Prop where
  ordered : TextFollowsBroadcast client.log
  sent : client.firstTextSent = true →
    ∃ remote, client.remote = some remote ∧ BroadcastSince remote client.log

structure TextTracked (client : FrameClient) : Prop where
  logged : client.TextLogged
  pending : ∀ held attempt remote text, client.holder = some held →
    held.point = .broadcasting attempt remote text →
      imeSinceBroadcast client.log = false → BroadcastSince remote client.log

/-- The part of the state that tells of the broadcasts. The flag may be cleared;
the remote matters while it is set. -/
structure SameBroadcasts (client next : FrameClient) : Prop where
  flag : next.firstTextSent = true →
    client.firstTextSent = true ∧ next.remote = client.remote
  log : ∃ events, next.log = client.log ++ events ∧ ∀ event ∈ events, concernsText event = false

variable {client next : FrameClient}

theorem TextLogged.same (hlogged : client.TextLogged) (h : SameBroadcasts client next) :
    next.TextLogged where
  ordered := by
    obtain ⟨events, hlog, hevents⟩ := h.log
    rw [hlog]
    refine hlogged.ordered.append fun early event late hsplit remote text hevent => ?_
    have hconcerns := hevents event (by rw [hsplit]; simp)
    rw [hevent] at hconcerns
    exact absurd hconcerns (by simp [concernsText])
  sent := by
    intro hflag
    obtain ⟨hset, hremote⟩ := h.flag hflag
    obtain ⟨remote, hcurrent, hsince⟩ := hlogged.sent hset
    obtain ⟨events, hlog, hevents⟩ := h.log
    refine ⟨remote, hremote.trans hcurrent, ?_⟩
    rw [hlog]
    exact hsince.append fun hime => absurd (hevents _ hime) (by simp [concernsText])

theorem TextLogged.record (h : client.TextLogged) (events : List LifecycleEvent)
    (hevents : ∀ event ∈ events, concernsText event = false) :
    (client.record events).TextLogged :=
  h.same ⟨fun hflag => ⟨hflag, rfl⟩, events, rfl, hevents⟩

theorem TextLogged.finish (h : client.TextLogged) (number : Nat) (result : DispatchEnd) :
    (client.finish number result).TextTracked := by
  have hend : (client.finish number result).TextLogged :=
    h.same ⟨fun hflag => ⟨hflag, rfl⟩, [.ended number result], rfl,
      by simp [concernsText]⟩
  refine ⟨hend, ?_⟩
  intro held attempt remote text hheld
  exact absurd hheld (by simp [FrameClient.finish, FrameClient.record])

/-- A call that broadcasts has broadcast on its remote. -/
theorem TextLogged.suspend (h : client.TextLogged) (number : Nat) (call : ClientCall)
    {point : HeldPoint}
    (hpoint : ∀ attempt remote text, point = .broadcasting attempt remote text →
      BroadcastSince remote client.log) : (client.suspend number call point).TextTracked where
  logged := ⟨h.ordered, h.sent⟩
  pending := by
    intro held attempt remote text hheld hbroadcasting _
    obtain rfl := Option.some.inj hheld
    exact hpoint attempt remote text hbroadcasting

section Outcomes

variable {number remote : Nat} {call : ClientCall} {attempt : Attempt}
variable {inputs : SamsungInputs} {check : AuthorizationResult}

theorem TextLogged.revoke (h : client.TextLogged) (number : Nat) :
    (client.revoke number).TextTracked :=
  (h.record [.revoked number] (by simp [concernsText])).finish number .revoked

/-- Forgetting the broadcast only makes the next text wait for one. -/
theorem TextLogged.cleared (h : client.TextLogged) :
    ({ client with firstTextSent := false } : FrameClient).TextLogged :=
  h.same ⟨fun hflag => absurd hflag Bool.false_ne_true, [],
    (List.append_nil _).symm, by simp⟩

/-- A write that is allowed keeps the order. -/
theorem TextLogged.wrote (h : client.TextLogged) {write : SocketWrite}
    (htext : ∀ text, write = .inputString text → BroadcastSince remote client.log) :
    (client.record [.wrote remote write]).TextLogged where
  ordered := by
    refine h.ordered.snoc ?_
    rintro _ _ ⟨⟩
    exact htext _ rfl
  sent := by
    intro hflag
    obtain ⟨current, hcurrent, hsince⟩ := h.sent hflag
    exact ⟨current, hcurrent, hsince.append (by simp)⟩

theorem SendOutcome.textTracked (h : SendOutcome client number call attempt remote next)
    (hlogged : client.TextLogged) (hremote : client.remote = some remote) :
    next.TextTracked := by
  cases h with
  | refused flag hflag =>
      have hcleared : ({ client with firstTextSent := flag } : FrameClient).TextLogged :=
        hlogged.same ⟨fun hset => ⟨hflag hset, rfl⟩, [], (List.append_nil _).symm,
          by simp⟩
      exact hcleared.revoke number
  | wrote write hwrite htext =>
      refine (hlogged.wrote fun text heq => ?_).suspend number call (by simp)
      obtain ⟨current, hcurrent, hsince⟩ := hlogged.sent (htext text heq)
      obtain rfl := Option.some.inj (hcurrent.symm.trans hremote)
      exact hsince
  | broadcast text hflag =>
      have hwrote : (client.record [.wrote remote .textReceived]).TextLogged :=
        hlogged.wrote (by simp)
      refine hwrote.suspend number call ?_
      rintro _ _ _ ⟨⟩
      exact ⟨client.log, [], rfl, by simp⟩

theorem ready_textTracked (hlogged : client.TextLogged) (hremote : client.remote = some remote) :
    (client.ready number call attempt remote check).TextTracked := by
  rcases @ready_outcome client number remote call attempt check with heq | houtcome
  · rw [heq]
    exact hlogged.finish number .returned
  · exact houtcome.textTracked (hlogged.record _ (by simp [concernsText])) hremote

/-- A new remote has broadcast nothing. -/
theorem ConnectOutcome.textTracked
    (h : ConnectOutcome client number call attempt inputs next)
    (hlogged : client.TextLogged) : next.TextTracked := by
  cases h with
  | refused category => exact hlogged.finish number _
  | failed hcool category =>
      have hfailed : (({ client with
          lastConnectAttemptAt := some inputs.attemptAt, lastConnectFailed := true } :
            FrameClient).record
          [.attempted number inputs.attemptAt,
            .attemptFailed inputs.attemptAt]).TextLogged :=
        hlogged.same ⟨fun hflag => ⟨hflag, rfl⟩, _, rfl, by simp [concernsText]⟩
      exact hfailed.finish number _
  | starting hcool =>
      have hbuilt : (({ client with
          lastConnectAttemptAt := some inputs.attemptAt, remotes := client.remotes + 1 } :
            FrameClient).record
          [.attempted number inputs.attemptAt,
            .constructed number client.remotes]).TextLogged :=
        hlogged.same ⟨fun hflag => ⟨hflag, rfl⟩, _, rfl, by simp [concernsText]⟩
      exact hbuilt.suspend number call (by simp)

theorem ensureConnected_textTracked (hlogged : client.TextLogged) :
    (client.ensureConnected number call inputs check).TextTracked := by
  unfold ensureConnected
  split
  · rename_i remote hremote
    exact ready_textTracked hlogged hremote
  · exact connectUnlessCooling_outcome.textTracked hlogged

/-- The flag is cleared before the ready remote is dropped. -/
theorem TextLogged.dropRemote (h : client.TextLogged) (remote : Nat) :
    ({ client with firstTextSent := false }.dropRemote remote).TextLogged :=
  h.same ⟨fun hflag => absurd hflag Bool.false_ne_true, [.closing remote], rfl,
    by simp [concernsText]⟩

theorem enter_textTracked (hlogged : client.TextLogged) :
    (client.enter number call inputs check).TextTracked := by
  unfold enter
  split
  · exact ensureConnected_textTracked hlogged
  · split
    · exact hlogged.finish number _
    · exact ensureConnected_textTracked hlogged
  · unfold closeLocked
    dsimp only
    split
    · exact hlogged.cleared.finish number _
    · exact (hlogged.dropRemote _).suspend number .close (by simp)

theorem sendFailed_textTracked {held : HeldCall} {category : DispatchFailureCategory}
    (hlogged : client.TextLogged) :
    (client.sendFailed held attempt inputs category).TextTracked := by
  have hfailed := hlogged.record [.sendFailed held.number] (by simp [concernsText])
  unfold sendFailed
  dsimp only
  split
  · split
    · exact (hfailed.dropRemote _).suspend held.number held.call (by simp)
    · exact connectUnlessCooling_outcome.textTracked hfailed.cleared
  · exact hfailed.finish held.number _

/-- Whether a broadcast is awaited. -/
def broadcasts (client : FrameClient) : Bool :=
  match client.holder with
  | some ⟨_, _, .broadcasting _ _ _⟩ => true
  | _ => false

/-- Whether a broadcast returns that an IME event has overtaken, and the
authorization still holds. -/
def overtaken (client : FrameClient) : LifecycleLabel → Bool
  | .resumed .returned _ check =>
      requireAuthorized check && client.broadcasts && imeSinceBroadcast client.log
  | _ => false

/-- A call that was not overtaken has broadcast since the last session began. -/
theorem resumeHeld_textTracked (h : client.TextTracked) (hremotes : client.RemotesTracked)
    {held : HeldCall} (hheld : client.holder = some held) {resumption : Resumption}
    (hkept : client.overtaken (.resumed resumption inputs check) = false) :
    (client.resumeHeld held resumption inputs check).TextTracked := by
  have hpoint := hremotes.held held hheld
  have hpending := h.pending held
  have hlogged := h.logged
  obtain ⟨number, call, point⟩ := held
  cases point with
  | starting attempt remote startedAt =>
      cases resumption with
      | returned =>
          -- no remote while a candidate connects, so no broadcast counts yet
          have hunset : client.firstTextSent = false := by
            by_contra hset
            obtain ⟨current, hcurrent, -⟩ := hlogged.sent (by simpa using hset)
            exact absurd (hcurrent.symm.trans hpoint.1) (by simp)
          have hpublished : (({ client with
              remote := some remote, lastConnectFailed := false } : FrameClient).record
              [.listening remote, .published remote]).TextLogged :=
            hlogged.same ⟨fun hflag => absurd (hflag.symm.trans hunset) (by simp), _, rfl,
              by simp [concernsText]⟩
          exact ready_textTracked hpublished rfl
      | raised category =>
          exact (hlogged.record _ (by simp [concernsText])).suspend number call (by simp)
      | cancelled =>
          exact (hlogged.record _ (by simp [concernsText])).suspend number call (by simp)
  | closingCandidate failure =>
      cases failure with
      | none => cases resumption <;> exact hlogged.finish number _
      | some category =>
          have hnoted : ({ client with lastConnectFailed := true } : FrameClient).TextLogged :=
            ⟨hlogged.ordered, hlogged.sent⟩
          cases resumption with
          | returned => exact hnoted.finish number _
          | raised _ => exact hnoted.finish number _
          | cancelled => exact hlogged.finish number _
  | broadcasting attempt remote text =>
      cases resumption with
      | returned =>
          rcases @sendInput_cases { client with firstTextSent := true } number remote call attempt
            check text with ⟨hallowed, heq⟩ | ⟨-, heq⟩
          -- no new input session began while the broadcast was awaited
          · have hfresh : imeSinceBroadcast client.log = false := by
              simpa [overtaken, broadcasts, hheld, hallowed] using hkept
            have hsince := hpending attempt remote text hheld rfl hfresh
            have hset : ({ client with firstTextSent := true } : FrameClient).TextLogged :=
              ⟨hlogged.ordered, fun _ => ⟨remote, hpoint.1, hsince⟩⟩
            have hwrote := @TextLogged.wrote _ remote hset (.inputString text) fun _ _ => hsince
            show (FrameClient.sendInput _ _ _ _ _ _ _).TextTracked
            rw [heq]
            exact hwrote.suspend number call (by simp)
          · show (FrameClient.sendInput _ _ _ _ _ _ _).TextTracked
            rw [heq]
            exact hlogged.cleared.revoke number
      | raised category => exact sendFailed_textTracked hlogged
      | cancelled => exact hlogged.finish number _
  | sending attempt remote =>
      cases resumption with
      | returned => exact hlogged.finish number _
      | raised category => exact sendFailed_textTracked hlogged
      | cancelled => exact hlogged.finish number _
  | closingDropped =>
      cases resumption with
      | returned => exact connectUnlessCooling_outcome.textTracked hlogged
      | raised category => exact connectUnlessCooling_outcome.textTracked hlogged
      | cancelled => exact hlogged.finish number _
  | closingReady => cases resumption <;> exact hlogged.finish number _

end Outcomes

/-! ## Every run -/

theorem TextTracked.frame (h : client.TextTracked) (hsame : SameBroadcasts client next)
    (hholder : next.holder = client.holder) : next.TextTracked where
  logged := h.logged.same hsame
  pending := by
    intro held attempt remote text hheld hpoint hfresh
    obtain ⟨events, hlog, hevents⟩ := hsame.log
    have hquiet : ∀ events : List LifecycleEvent, (∀ event ∈ events, concernsText event = false) →
        imeSinceBroadcast (client.log ++ events) = imeSinceBroadcast client.log := by
      intro events hevents
      unfold imeSinceBroadcast
      rw [List.foldl_append]
      generalize client.log.foldl _ false = since
      induction events generalizing since with
      | nil => rfl
      | cons event rest ih =>
          rw [List.forall_mem_cons] at hevents
          rw [List.foldl_cons, ih hevents.2]
          cases event <;> simp_all [concernsText]
    rw [hlog, hquiet events hevents] at hfresh
    rw [hlog]
    exact (h.pending held attempt remote text (hholder ▸ hheld) hpoint hfresh).append
      fun hime => absurd (hevents _ hime) (by simp [concernsText])

/-- One case for each label that overtakes no broadcast. -/
theorem step_textTracked (h : client.TextTracked) (hremotes : client.RemotesTracked)
    {label : LifecycleLabel} (hkept : client.overtaken label = false)
    (hstep : client.step label = some next) : next.TextTracked := by
  have hticked : ∀ inputs, (client.ticked inputs).TextTracked := fun inputs =>
    h.frame ⟨fun hflag => ⟨hflag, rfl⟩, [], (List.append_nil _).symm, by simp⟩ rfl
  cases step_outcome hstep with
  | rejected hclock =>
      exact h.frame ⟨fun hflag => ⟨hflag, rfl⟩, [_], rfl, by simp [concernsText]⟩ rfl
  | waits hclock hheld =>
      exact h.frame ⟨fun hflag => ⟨hflag, rfl⟩, [], (List.append_nil _).symm, by simp⟩ rfl
  | @begins call inputs check hclock hfree =>
      have hlogged : ({ client.ticked inputs with calls := client.calls + 1 } :
          FrameClient).TextLogged := ⟨h.logged.ordered, h.logged.sent⟩
      exact enter_textTracked hlogged
  | @acquires number call inputs check hclock hfree hwaiting =>
      have hlogged : ({ client.ticked inputs with
          waiting := Function.update client.waiting number none } : FrameClient).TextLogged :=
        ⟨h.logged.ordered, h.logged.sent⟩
      exact enter_textTracked hlogged
  | abandons hwaiting =>
      exact h.frame ⟨fun hflag => ⟨hflag, rfl⟩, [_], rfl, by simp [concernsText]⟩ rfl
  | @resumes resumption inputs check held hclock hheld =>
      have hsame : (client.ticked inputs).RemotesTracked :=
        hremotes.same ⟨rfl, rfl, [], (List.append_nil _).symm, by simp⟩ rfl
      exact resumeHeld_textTracked (hticked inputs) hsame hheld
        (by cases resumption <;> exact hkept)
  | event =>
      have hordered : TextFollowsBroadcast client.handleTvEvent.log :=
        h.logged.ordered.snoc (by simp)
      refine ⟨⟨hordered, fun hflag => absurd hflag Bool.false_ne_true⟩, ?_⟩
      intro held attempt remote text hheld hpoint hfresh
      have hime : imeSinceBroadcast client.handleTvEvent.log = true :=
        imeSinceBroadcast_snoc_ime client.log
      exact absurd (hfresh.symm.trans hime) (by simp)

/-- A broadcast that an IME event has overtaken is followed by a text at once. -/
theorem overtaken_text {label : LifecycleLabel} (hovertaken : client.overtaken label = true)
    (hstep : client.step label = some next) :
    imeSinceBroadcast client.log = true ∧
      ∃ remote text, next.log = client.log ++ [.wrote remote (.inputString text)] := by
  cases step_outcome hstep with
  | @resumes resumption inputs check held hclock hheld =>
      obtain ⟨number, call, point⟩ := held
      cases resumption with
      | raised category => exact absurd hovertaken (by simp [overtaken])
      | cancelled => exact absurd hovertaken (by simp [overtaken])
      | returned =>
          simp only [overtaken, broadcasts, hheld, Bool.and_eq_true] at hovertaken
          cases point with
          | broadcasting attempt remote text =>
              refine ⟨hovertaken.2, remote, text, ?_⟩
              show (FrameClient.sendInput _ _ _ _ _ _ _).log = _
              unfold sendInput
              rw [if_pos hovertaken.1.1]
              rfl
          | starting | closingCandidate | sending | closingDropped | closingReady =>
              exact absurd hovertaken.1.2 Bool.false_ne_true
  | rejected | waits | begins | acquires | abandons | event =>
      exact absurd hovertaken (by simp [overtaken])

/-- Every text follows a broadcast on its remote with no IME event in between,
just where no broadcast that an IME event has overtaken returns with its
authorization still granted. -/
theorem text_follows_broadcast_iff {interval clock : ℚ} {labels : List LifecycleLabel}
    (hrun : Machine.run step { reconnectMinInterval := interval, clock := clock } labels =
      some client) :
    TextFollowsBroadcast client.log ↔
      Machine.Throughout step { reconnectMinInterval := interval, clock := clock } labels
        fun client label => client.overtaken label = false := by
  constructor
  · refine Machine.run_snoc_induction (fun labels client => TextFollowsBroadcast client.log →
      Machine.Throughout step { reconnectMinInterval := interval, clock := clock } labels
        fun client label => client.overtaken label = false) ?_ ?_ hrun
    · intro _ before label after state hsplit
      exact absurd hsplit.symm (List.append_ne_nil_of_right_ne_nil _ (List.cons_ne_nil _ _))
    · intro labels state label next hlabels hbefore hstep hordered
      obtain ⟨events, hlog⟩ := (step_extends hstep).log
      rw [hlog] at hordered
      refine (hbefore hordered.left).snoc hlabels ?_
      by_contra hovertaken
      rw [Bool.not_eq_false] at hovertaken
      obtain ⟨hime, remote, text, hwrote⟩ := overtaken_text hovertaken hstep
      rw [← hlog, hwrote] at hordered
      have hsince := hordered.last remote text rfl
      exact absurd (hime.symm.trans hsince.imeSinceBroadcast) (by simp)
  · intro hkept
    have htracked := Machine.run_throughout_invariant
      (fun client => client.TextTracked ∧ client.RemotesTracked)
      (fun _ _ _ h hlabel hstep =>
        ⟨step_textTracked h.1 h.2 hlabel hstep, step_remotesTracked h.2 hstep⟩)
      ⟨⟨⟨always_nil, by simp⟩, by simp⟩, initial_remotesTracked interval clock⟩ hrun hkept
    exact htracked.1.logged.ordered

/-- A text is sent after an IME event, and again after another one. -/
def broadcastLabels : List LifecycleLabel :=
  [.ime, .called (.send (.text "a")) (inputsAt 1) none, .resumed .returned (inputsAt 1) none,
    .resumed .returned (inputsAt 1) none, .resumed .returned (inputsAt 1) none, .ime,
    .called (.send (.text "b")) (inputsAt 2) (some (some true)),
    .resumed .returned (inputsAt 2) (some (some true)),
    .resumed .returned (inputsAt 2) (some (some true))]

theorem text_follows_broadcast_twice :
    ∃ client, Machine.run step { reconnectMinInterval := 3, clock := 0 } broadcastLabels =
        some client ∧
      .wrote 0 (.inputString "b") ∈ client.log ∧ TextFollowsBroadcast client.log := by
  obtain ⟨client, hrun⟩ := Option.isSome_iff_exists.mp
    (show (Machine.run step { reconnectMinInterval := 3, clock := 0 } broadcastLabels).isSome =
      true by decide +kernel)
  have hwrote : (Machine.run step { reconnectMinInterval := 3, clock := 0 } broadcastLabels).map
      (fun client => decide (.wrote 0 (.inputString "b") ∈ client.log)) = some true := by
    decide +kernel
  rw [hrun] at hwrote
  refine ⟨client, hrun, of_decide_eq_true (Option.some.inj hwrote),
    (text_follows_broadcast_iff hrun).mpr ?_⟩
  intro before label after state hsplit hstate
  have hchecked := Machine.throughout_of_check
    (show Machine.checkThroughout step (fun client label => !client.overtaken label)
      { reconnectMinInterval := 3, clock := 0 } broadcastLabels = true by decide +kernel)
    before label after state hsplit hstate
  simpa using hchecked

/-- An IME event arrives while the broadcast is awaited. -/
def overtakenLabels : List LifecycleLabel :=
  [.called (.send (.text "a")) (inputsAt 1) none, .resumed .returned (inputsAt 1) none, .ime,
    .resumed .returned (inputsAt 1) none]

theorem text_follows_broadcast_fails :
    ∃ client, Machine.run step { reconnectMinInterval := 3, clock := 0 } overtakenLabels =
        some client ∧ ¬ TextFollowsBroadcast client.log := by
  obtain ⟨client, hrun⟩ := Option.isSome_iff_exists.mp
    (show (Machine.run step { reconnectMinInterval := 3, clock := 0 } overtakenLabels).isSome =
      true by decide +kernel)
  have hlog : (Machine.run step { reconnectMinInterval := 3, clock := 0 } overtakenLabels).map
      FrameClient.log = some [.attempted 0 1, .constructed 0 0, .listening 0, .published 0,
        .sent 0 0, .wrote 0 .textReceived, .imeEvent, .wrote 0 (.inputString "a")] := by
    decide +kernel
  rw [hrun] at hlog
  refine ⟨client, hrun, fun hordered => ?_⟩
  have hsince := hordered [.attempted 0 1, .constructed 0 0, .listening 0, .published 0,
    .sent 0 0, .wrote 0 .textReceived, .imeEvent] (.wrote 0 (.inputString "a")) []
    (Option.some.inj hlog) 0 "a" rfl
  exact absurd hsince.imeSinceBroadcast (by decide)

end FrameClient

end CompanionBridge
