import CompanionBridge.Library.Simulation
import CompanionBridge.Samsung.ClientAgreement

/-!
# One send call among others

Every step of the client is, to one of its send calls, a step of a dispatch of the bridge or
what others do between its steps: they take the lifecycle lock, leave it with the client
changed, and the TV ends its text input at any time.
-/

namespace CompanionBridge

namespace FrameClient

/-! ## What other calls leave alone -/

/-- What a call does that holds the lock is no concern of the other calls. -/
structure Settles (number : Nat) (client next : FrameClient) : Prop where
  calls : next.calls = client.calls
  waiting : next.waiting = client.waiting
  interval : next.reconnectMinInterval = client.reconnectMinInterval
  holder : ∀ held, next.holder = some held → held.number = number

section Settles

variable {number remote : Nat} {call : ClientCall} {client next : FrameClient}
variable {inputs : SamsungInputs} {check : AuthorizationResult} {attempt : Attempt}

theorem finish_settles (result : DispatchEnd) :
    Settles number client (client.finish number result) :=
  ⟨rfl, rfl, rfl, nofun⟩

theorem suspend_settles (point : HeldPoint) :
    Settles number client (client.suspend number call point) :=
  ⟨rfl, rfl, rfl, fun _ hheld => Option.some.inj hheld ▸ rfl⟩

/-- The fields that no other call has a part in may have changed before. -/
theorem Settles.after {before : FrameClient} (hsettles : Settles number client next)
    (hcalls : client.calls = before.calls) (hwaiting : client.waiting = before.waiting)
    (hinterval : client.reconnectMinInterval = before.reconnectMinInterval) :
    Settles number before next :=
  ⟨hsettles.calls.trans hcalls, hsettles.waiting.trans hwaiting,
    hsettles.interval.trans hinterval, hsettles.holder⟩

/-- A send leaves its call settled: ended, or holding the lock at a point. -/
theorem SendOutcome.settles (houtcome : SendOutcome client number call attempt remote next) :
    Settles number client next := by
  cases houtcome with
  | refused flag _ => exact ⟨rfl, rfl, rfl, nofun⟩
  | wrote write _ _ => exact ⟨rfl, rfl, rfl, fun _ hheld => Option.some.inj hheld ▸ rfl⟩
  | broadcast text _ => exact ⟨rfl, rfl, rfl, fun _ hheld => Option.some.inj hheld ▸ rfl⟩

theorem ready_settles :
    Settles number client (client.ready number call attempt remote check) := by
  rcases @ready_outcome client number remote call attempt check with heq | houtcome
  · rw [heq]
    exact finish_settles .returned
  · exact houtcome.settles.after rfl rfl rfl

theorem ConnectOutcome.settles (houtcome : ConnectOutcome client number call attempt inputs next) :
    Settles number client next := by
  cases houtcome with
  | refused category => exact finish_settles (.failed category)
  | failed _ category => exact ⟨rfl, rfl, rfl, nofun⟩
  | starting _ => exact ⟨rfl, rfl, rfl, fun _ hheld => Option.some.inj hheld ▸ rfl⟩

theorem ensureConnected_settles :
    Settles number client (client.ensureConnected number call inputs check) := by
  unfold ensureConnected
  cases client.remote with
  | some remote => exact ready_settles
  | none => exact connectUnlessCooling_outcome.settles

theorem enter_settles : Settles number client (client.enter number call inputs check) := by
  unfold enter
  cases call with
  | connect => exact ensureConnected_settles
  | send request =>
      dsimp only
      cases request.commandFailure inputs with
      | some category => exact finish_settles (.failed category)
      | none => exact ensureConnected_settles
  | close =>
      unfold closeLocked
      dsimp only
      cases client.remote with
      | some remote => exact ⟨rfl, rfl, rfl, fun _ hheld => Option.some.inj hheld ▸ rfl⟩
      | none => exact ⟨rfl, rfl, rfl, nofun⟩

theorem sendFailed_settles {held : HeldCall} {category : DispatchFailureCategory} :
    Settles held.number client (client.sendFailed held attempt inputs category) := by
  unfold sendFailed
  dsimp only
  cases attempt with
  | retry => exact ⟨rfl, rfl, rfl, nofun⟩
  | first =>
      dsimp only
      cases client.remote with
      | some remote => exact ⟨rfl, rfl, rfl, fun _ hheld => Option.some.inj hheld ▸ rfl⟩
      | none => exact connectUnlessCooling_outcome.settles.after rfl rfl rfl

theorem resumeHeld_settles {held : HeldCall} {resumption : Resumption} :
    Settles held.number client (client.resumeHeld held resumption inputs check) := by
  unfold resumeHeld
  split
  · exact ready_settles.after rfl rfl rfl
  · exact (suspend_settles _).after rfl rfl rfl
  · exact (suspend_settles _).after rfl rfl rfl
  · exact finish_settles _
  · exact finish_settles _
  · exact (finish_settles _).after rfl rfl rfl
  · exact (sendInput_outcome _ rfl).settles.after rfl rfl rfl
  · exact finish_settles _
  · exact sendFailed_settles
  · exact sendFailed_settles
  · exact finish_settles _
  · exact finish_settles _
  · exact finish_settles _
  · exact finish_settles _
  · exact connectUnlessCooling_outcome.settles
  · exact finish_settles _

end Settles

end FrameClient

/-! ## The steps that a call sees -/

/-- `send_key` and `send_text`. -/
def SamsungFrameClient.send (client : SamsungFrameClient) (request : SamsungRequest)
    (inputs : SamsungInputs) (check : AuthorizationResult) : ClientStep :=
  match request with
  | .key key cmd keyPressDelay => client.sendKey key cmd keyPressDelay inputs check
  | .text text => client.acquire (.text text) inputs check

/-- The client and a dispatch, which may not have begun. -/
structure SeenClient where
  client : SamsungFrameClient
  progress : Option DispatchProgress

/-- A step of the dispatch, or one that the bridge allows between its steps, and what it
writes. -/
inductive SeenStep (request : SamsungRequest) : SeenClient → List SocketWrite → SeenClient → Prop
  | begun {client : SamsungFrameClient} (inputs : SamsungInputs) (check : AuthorizationResult) :
      SeenStep request ⟨client, none⟩
        ((client.send request inputs check).events.filterMap ClientEvent.onSocket)
        ⟨(client.send request inputs check).client,
          some (client.send request inputs check).progress⟩
  | resumed {client : SamsungFrameClient} {point : DispatchPoint} (resumption : Resumption)
      (inputs : SamsungInputs) (check : AuthorizationResult) {step : ClientStep}
      (hresume : client.resume point resumption inputs check = some step) :
      SeenStep request ⟨client, some (.suspended point)⟩
        (step.events.filterMap ClientEvent.onSocket) ⟨step.client, some step.progress⟩
  | ime {client : SamsungFrameClient} {progress : Option DispatchProgress} :
      SeenStep request ⟨client, progress⟩ [] ⟨{ client with firstTextSent := false }, progress⟩
  | othersAcquire {client : SamsungFrameClient} {progress : Option DispatchProgress}
      (hfree : client.lifecycleLock = .free) :
      SeenStep request ⟨client, progress⟩ [] ⟨{ client with lifecycleLock := .others }, progress⟩
  | othersRelease {client : SamsungFrameClient} {progress : Option DispatchProgress}
      (left : SamsungFrameClient) (hothers : client.lifecycleLock = .others) :
      SeenStep request ⟨client, progress⟩ []
        ⟨{ left with
            wolEnabled := client.wolEnabled
            reconnectMinInterval := client.reconnectMinInterval
            lifecycleLock := .free }, progress⟩

/-- Some steps, which write this together. -/
def SeenRuns (request : SamsungRequest) (seen : SeenClient) (writes : List SocketWrite)
    (next : SeenClient) : Prop :=
  ∃ labels, Simulation.Runs (SeenStep request) seen labels next ∧ labels.flatten = writes

namespace FrameClient

/-- The lifecycle lock, as a call sees it. -/
def lockSeenBy (client : FrameClient) (number : Nat) : LockHolder :=
  match client.holder with
  | none => .free
  | some held => if held.number = number then .dispatch else .others

/-- How far a call is, from the first step after it was made. -/
inductive Reached (client : FrameClient) (number : Nat) (request : SamsungRequest) :
    DispatchProgress → Prop
  | acquiring (hwaiting : client.waiting number = some (.send request.sent))
      (hother : ∀ held, client.holder = some held → held.number ≠ number) :
      Reached client number request (.suspended (.waiting request .acquiring))
  | holding (held : HeldPoint) (point : SendPoint)
      (hholder : client.holder = some ⟨number, .send request.sent, held⟩)
      (hwaiting : client.waiting number = none) (hseen : held.SeenAs request point) :
      Reached client number request (.suspended (.waiting request point))
  | finished (result : DispatchEnd) (hwaiting : client.waiting number = none)
      (hother : ∀ held, client.holder = some held → held.number ≠ number) :
      Reached client number request (.finished result)

/-- Whether a step is one of a call that was made. -/
def isStepOf (client : FrameClient) (number : Nat) : LifecycleLabel → Bool
  | .called _ _ _ => client.calls = number
  | .acquired call _ _ => call = number
  | .abandoned call => call = number
  | .resumed _ _ _ => client.holder.any fun held => held.number = number
  | .ime => false

/-- What a call writes in a step. -/
def writesOf (client next : FrameClient) (number : Nat) (label : LifecycleLabel) :
    List SocketWrite :=
  if client.isStepOf number label then
    (next.log.drop client.log.length).filterMap LifecycleEvent.onSocket
  else []

/-- A step of the client, with what the call for a request writes in it. -/
def StepSeen (number : Nat) (request : SamsungRequest) (client : FrameClient)
    (writes : List SocketWrite) (next : FrameClient) : Prop :=
  ∃ label, client.step label = some next ∧ writes = client.writesOf next number label ∧
    ∀ call inputs check, label = .called call inputs check → client.calls = number →
      call = .send request.sent

/-- How far the call is, made or not. -/
inductive Progressed (client : FrameClient) (number : Nat) (request : SamsungRequest) :
    Option DispatchProgress → Prop
  | uncalled (hcalls : client.calls ≤ number) (hwaiting : client.waiting number = none)
      (hother : ∀ held, client.holder = some held → held.number ≠ number) :
      Progressed client number request none
  | called {progress : DispatchProgress} (hcalls : number < client.calls)
      (hreached : client.Reached number request progress) :
      Progressed client number request (some progress)

/-- The client as the call sees it: while another call holds the lock, only that it does. -/
structure Sees (number : Nat) (request : SamsungRequest) (wolEnabled : Bool)
    (client : FrameClient) (seen : SeenClient) : Prop where
  lock : seen.client.lifecycleLock = client.lockSeenBy number
  wakes : seen.client.wolEnabled = wolEnabled
  interval : seen.client.reconnectMinInterval = client.reconnectMinInterval
  fields : client.lockSeenBy number ≠ .others →
    seen.client = client.shown wolEnabled (client.lockSeenBy number)
  progress : client.Progressed number request seen.progress

section Steps

variable {number : Nat} {request : SamsungRequest} {wolEnabled : Bool} {seen : SeenClient}
variable {client before next : FrameClient} {step : ClientStep} {inputs : SamsungInputs}
variable {check : AuthorizationResult} {label : LifecycleLabel}

/-- A lock that nobody holds is free to everybody. -/
theorem lockSeenBy_free (hfree : client.holder = none) : client.lockSeenBy number = .free := by
  unfold lockSeenBy
  rw [hfree]

theorem lockSeenBy_own {held : HeldCall} (hheld : client.holder = some held)
    (hown : held.number = number) : client.lockSeenBy number = .dispatch := by
  unfold lockSeenBy
  rw [hheld]
  exact if_pos hown

theorem lockSeenBy_other {held : HeldCall} (hheld : client.holder = some held)
    (hother : held.number ≠ number) : client.lockSeenBy number = .others := by
  unfold lockSeenBy
  rw [hheld]
  exact if_neg hother

theorem lockSeenBy_cases (hother : ∀ held, client.holder = some held → held.number ≠ number) :
    client.lockSeenBy number = .free ∨ client.lockSeenBy number = .others := by
  cases hholder : client.holder with
  | none => exact .inl (lockSeenBy_free hholder)
  | some held => exact .inr (lockSeenBy_other hholder (hother held hholder))

theorem Sees.view_free (hsees : client.Sees number request wolEnabled seen)
    (hfree : client.holder = none) : seen.client = client.shown wolEnabled .free := by
  have hlock : client.lockSeenBy number = .free := lockSeenBy_free hfree
  have hfields := hsees.fields (by rw [hlock]; decide)
  rw [hlock] at hfields
  exact hfields

theorem Sees.view_own {held : HeldCall} (hsees : client.Sees number request wolEnabled seen)
    (hheld : client.holder = some held) (hown : held.number = number) :
    seen.client = client.shown wolEnabled .dispatch := by
  have hlock : client.lockSeenBy number = .dispatch := lockSeenBy_own hheld hown
  have hfields := hsees.fields (by rw [hlock]; decide)
  rw [hlock] at hfields
  exact hfields

theorem seenRuns_single {writes : List SocketWrite} {after : SeenClient}
    (hstep : SeenStep request seen writes after) : SeenRuns request seen writes after :=
  ⟨[writes], .cons hstep (.nil after), by simp⟩

theorem seenRuns_none : SeenRuns request seen [] seen :=
  ⟨[], .nil seen, rfl⟩

/-! ### Steps of the call itself -/

/-- What the call did when it was suspended or ended is what the dispatch did. -/
theorem Goes.sees (hgoes : Goes number request wolEnabled client next step)
    (hcalls : number < client.calls) (hwaiting : client.waiting number = none) :
    next.Sees number request wolEnabled ⟨step.client, some step.progress⟩ := by
  have hlater : number < next.calls := hgoes.calls.symm ▸ hcalls
  have hgone : next.waiting number = none := by rw [hgoes.waiting, hwaiting]
  rcases hgoes.goes with ⟨result, hprogress, hholder, hclient⟩ |
    ⟨held, point, hprogress, hholder, hseen, hclient⟩
  · have hfree : next.lockSeenBy number = .free := lockSeenBy_free hholder
    have hother (held : HeldCall) (hheld : next.holder = some held) : held.number ≠ number := by
      rw [hholder] at hheld
      cases hheld
    rw [hprogress, hclient]
    exact ⟨hfree.symm, rfl, rfl, fun _ => by rw [hfree],
      .called hlater (.finished result hgone hother)⟩
  · have hown : next.lockSeenBy number = .dispatch := lockSeenBy_own hholder rfl
    rw [hprogress, hclient]
    exact ⟨hown.symm, rfl, rfl, fun _ => by rw [hown],
      .called hlater (.holding held point hholder hgone hseen)⟩

/-- The writes of a step are those of the dispatch. -/
theorem Goes.writesOf (hgoes : Goes number request wolEnabled before next step)
    (hlog : before.log = client.log) (hown : client.isStepOf number label = true) :
    client.writesOf next number label = step.events.filterMap ClientEvent.onSocket := by
  obtain ⟨events, hevents, hwrites⟩ := hgoes.writes
  rw [FrameClient.writesOf, if_pos hown, hevents, hlog, List.drop_left, hwrites]

/-- A call with a value that does not validate ends at once. -/
theorem invoke_rejected {call : ClientCall} (hvalid : call.validates = false) :
    client.invoke call inputs check =
      { client with calls := client.calls + 1 }.record [.ended client.calls (.failed .value)] := by
  unfold invoke
  rw [hvalid]
  rfl

theorem invoke_waits {call : ClientCall} {held : HeldCall} (hvalid : call.validates = true)
    (hheld : client.holder = some held) :
    client.invoke call inputs check =
      { client with
        calls := client.calls + 1
        waiting := Function.update client.waiting client.calls (some call) } := by
  unfold invoke
  dsimp only
  rw [hvalid, hheld]
  rfl

theorem invoke_begins {call : ClientCall} (hvalid : call.validates = true)
    (hfree : client.holder = none) :
    client.invoke call inputs check =
      { client with calls := client.calls + 1 }.enter client.calls call inputs check := by
  unfold invoke
  dsimp only
  rw [hvalid, hfree]
  rfl

/-- A call whose key command is valid waits for the lock. -/
theorem send_eq (seen : SamsungFrameClient) :
    seen.send request inputs check =
      if (ClientCall.send request.sent).validates then seen.acquire request inputs check
      else seen.done (.failed .value) := by
  cases request with
  | text text => rfl
  | key key cmd keyPressDelay =>
      unfold SamsungFrameClient.send SamsungFrameClient.sendKey ClientCall.validates
      simp only [SamsungRequest.sent, decide_eq_true_eq]

/-- The call of the dispatch is its first step. -/
theorem called_sees (hsees : client.Sees number request wolEnabled seen)
    (hcalls : client.calls = number)
    (hstep : client.step (.called (.send request.sent) inputs check) = some next) :
    ∃ after, SeenRuns request seen
        (client.writesOf next number (.called (.send request.sent) inputs check)) after ∧
      next.Sees number request wolEnabled after := by
  obtain ⟨view, progress⟩ := seen
  have hown : client.isStepOf number (.called (.send request.sent) inputs check) = true := by
    simpa [isStepOf] using hcalls
  simp only [FrameClient.step, Option.bind_eq_bind, Option.bind_eq_some_iff] at hstep
  obtain ⟨ticked, hadvance, hnext⟩ := hstep
  obtain ⟨-, rfl⟩ := advance_eq_some hadvance
  obtain rfl := Option.some.inj hnext
  cases hsees.progress with
  | called hlater _ => omega
  | uncalled _ hwaiting hother =>
      suffices hsent : client.writesOf ((client.ticked inputs).invoke (.send request.sent) inputs
            check) number (.called (.send request.sent) inputs check) =
              (view.send request inputs check).events.filterMap ClientEvent.onSocket ∧
          ((client.ticked inputs).invoke (.send request.sent) inputs check).Sees number request
            wolEnabled ⟨(view.send request inputs check).client,
              some (view.send request inputs check).progress⟩ by
        refine ⟨_, seenRuns_single ?_, hsent.2⟩
        rw [hsent.1]
        exact .begun inputs check
      have hmade : number < client.calls + 1 := by omega
      rw [send_eq]
      cases hvalid : (ClientCall.send request.sent).validates with
      | false =>
          -- the key command is refused before the lock
          rw [invoke_rejected hvalid, if_neg Bool.false_ne_true]
          refine ⟨?_, hsees.lock, hsees.wakes, hsees.interval, hsees.fields, ?_⟩
          · rw [FrameClient.writesOf, if_pos hown]
            simp [ticked, record, LifecycleEvent.onSocket, SamsungFrameClient.done]
          · exact .called hmade (.finished _ hwaiting hother)
      | true =>
          rw [if_pos rfl]
          cases hholder : client.holder with
          | some held =>
              have hlock : view.lifecycleLock = .others :=
                hsees.lock.trans (lockSeenBy_other hholder (hother held hholder))
              have hacquire : view.acquire request inputs check = view.suspend request .acquiring :=
                if_neg (by rw [hlock]; decide)
              have hheld : (client.ticked inputs).holder = some held := hholder
              rw [invoke_waits hvalid hheld, hacquire]
              refine ⟨?_, hsees.lock, hsees.wakes, hsees.interval, hsees.fields, ?_⟩
              · rw [FrameClient.writesOf, if_pos hown]
                simp [ticked, SamsungFrameClient.suspend]
              · refine .called hmade (.acquiring ?_ hother)
                simp [ticked, hcalls]
          | none =>
              have hview : view = client.shown wolEnabled .free := hsees.view_free hholder
              let begun := { client.ticked inputs with calls := client.calls + 1 }
              have hgoes : Goes number request wolEnabled begun
                  (begun.enter number (.send request.sent) inputs check)
                  ((begun.shown wolEnabled .dispatch).enter request inputs check) := enter_goes
              have hacquire : view.acquire request inputs check =
                  (begun.shown wolEnabled .dispatch).enter request inputs check := by
                rw [hview]
                exact if_pos rfl
              have hunheld : (client.ticked inputs).holder = none := hholder
              rw [invoke_begins hvalid hunheld, hacquire]
              subst hcalls
              exact ⟨hgoes.writesOf rfl hown, hgoes.sees hmade hwaiting⟩

/-- A call that waited gets the lock. -/
theorem acquired_sees (hsees : client.Sees number request wolEnabled seen)
    (hstep : client.step (.acquired number inputs check) = some next) :
    ∃ after, SeenRuns request seen (client.writesOf next number (.acquired number inputs check))
        after ∧
      next.Sees number request wolEnabled after := by
  cases step_outcome hstep with
  | acquires _ hholder hcall =>
      obtain ⟨view, progress⟩ := seen
      cases hsees.progress with
      | uncalled _ hwaiting _ =>
          rw [hwaiting] at hcall
          cases hcall
      | called hmade hreached =>
          cases hreached with
          -- a call that holds the lock does not acquire it again
          | holding _ _ hheld _ _ =>
              rw [hholder] at hheld
              cases hheld
          | finished _ hwaiting _ =>
              rw [hwaiting] at hcall
              cases hcall
          | acquiring hwaiting _ =>
              obtain rfl := Option.some.inj (hwaiting.symm.trans hcall)
              have hview : view = client.shown wolEnabled .free := hsees.view_free hholder
              let taken := { client.ticked inputs with
                waiting := Function.update client.waiting number none }
              have hgoes : Goes number request wolEnabled taken
                  (taken.enter number (.send request.sent) inputs check)
                  ((taken.shown wolEnabled .dispatch).enter request inputs check) := enter_goes
              have hresume : view.resume (.waiting request .acquiring) .returned inputs check =
                  some ((taken.shown wolEnabled .dispatch).enter request inputs check) := by
                rw [hview, SamsungFrameClient.resume]
                exact if_pos rfl
              have hown : client.isStepOf number (.acquired number inputs check) = true :=
                decide_eq_true rfl
              have hlog : taken.log = client.log := rfl
              have hseen : SeenStep request ⟨view, some (.suspended (.waiting request .acquiring))⟩
                  (client.writesOf (taken.enter number (.send request.sent) inputs check) number
                    (.acquired number inputs check))
                  ⟨((taken.shown wolEnabled .dispatch).enter request inputs check).client,
                    some ((taken.shown wolEnabled .dispatch).enter request inputs
                      check).progress⟩ := by
                rw [hgoes.writesOf hlog hown]
                exact .resumed .returned inputs check hresume
              exact ⟨_, seenRuns_single hseen, hgoes.sees hmade (Function.update_self ..)⟩

/-- A call that waited is cancelled. -/
theorem abandoned_sees (hsees : client.Sees number request wolEnabled seen)
    (hstep : client.step (.abandoned number) = some next) :
    ∃ after, SeenRuns request seen (client.writesOf next number (.abandoned number)) after ∧
      next.Sees number request wolEnabled after := by
  cases step_outcome hstep with
  | abandons hcall =>
      obtain ⟨view, progress⟩ := seen
      cases hsees.progress with
      | uncalled _ hwaiting _ =>
          rw [hwaiting] at hcall
          cases hcall
      | called hmade hreached =>
          cases hreached with
          | holding _ _ _ hwaiting _ =>
              rw [hwaiting] at hcall
              cases hcall
          | finished _ hwaiting _ =>
              rw [hwaiting] at hcall
              cases hcall
          | acquiring _ hother =>
              have hresume : view.resume (.waiting request .acquiring) .cancelled {} none =
                  some (view.done .cancelled) := rfl
              have hown : client.isStepOf number (.abandoned number) = true := decide_eq_true rfl
              refine ⟨⟨view, some (.finished .cancelled)⟩, seenRuns_single ?_, hsees.lock,
                hsees.wakes, hsees.interval, hsees.fields, ?_⟩
              · rw [FrameClient.writesOf, if_pos hown]
                simp only [record, List.drop_left]
                exact .resumed .cancelled {} none hresume
              · exact .called hmade (.finished _ (Function.update_self ..) hother)

/-- The call that holds the lock is resumed. -/
theorem resumed_sees {held : HeldCall} {resumption : Resumption}
    (hsees : client.Sees number request wolEnabled seen) (hheld : client.holder = some held)
    (hnumber : held.number = number)
    (hstep : client.step (.resumed resumption inputs check) = some next) :
    ∃ after, SeenRuns request seen
        (client.writesOf next number (.resumed resumption inputs check)) after ∧
      next.Sees number request wolEnabled after := by
  obtain ⟨view, progress⟩ := seen
  have hview : view = client.shown wolEnabled .dispatch := hsees.view_own hheld hnumber
  have hown : client.isStepOf number (.resumed resumption inputs check) = true := by
    simp [isStepOf, hheld, hnumber]
  cases step_outcome hstep with
  | resumes _ hresumed =>
      rename_i other
      obtain rfl := Option.some.inj (hheld.symm.trans hresumed)
      cases hsees.progress with
      | uncalled _ _ hother => exact absurd hnumber (hother held hheld)
      | called hmade hreached =>
          cases hreached with
          | acquiring _ hother => exact absurd hnumber (hother held hheld)
          | finished _ _ hother => exact absurd hnumber (hother held hheld)
          | holding point waiting hholds hwaiting hseenAs =>
              obtain rfl := Option.some.inj (hheld.symm.trans hholds)
              obtain ⟨step, hresume, hgoes⟩ := @resumeHeld_goes number request wolEnabled
                (client.ticked inputs) inputs check point waiting resumption hseenAs
              have hresumes : view.resume (.waiting request waiting) resumption inputs check =
                  some step := by
                rw [hview]
                exact hresume
              have hlog : (client.ticked inputs).log = client.log := rfl
              refine ⟨_, seenRuns_single ?_, hgoes.sees hmade hwaiting⟩
              rw [hgoes.writesOf hlog hown]
              exact .resumed resumption inputs check hresumes

/-! ### Steps of others -/

/-- Steps of others leave the call where it is. -/
theorem Progressed.kept {progress : Option DispatchProgress}
    (hprogress : client.Progressed number request progress) (hcalls : client.calls ≤ next.calls)
    (hmore : client.calls ≤ number → next.calls ≤ number)
    (hwaiting : next.waiting number = client.waiting number)
    (hholder : ∀ held, held.number = number →
      (next.holder = some held ↔ client.holder = some held)) :
    next.Progressed number request progress := by
  have hothers (hother : ∀ held, client.holder = some held → held.number ≠ number)
      (held : HeldCall) (hheld : next.holder = some held) : held.number ≠ number := by
    intro hnumber
    exact hother held ((hholder held hnumber).mp hheld) hnumber
  cases hprogress with
  | uncalled huncalled hnone hother =>
      exact .uncalled (hmore huncalled) (hwaiting.trans hnone) (hothers hother)
  | called hmade hreached =>
      apply Progressed.called (Nat.lt_of_lt_of_le hmade hcalls)
      cases hreached with
      | acquiring hcall hother => exact .acquiring (hwaiting.trans hcall) (hothers hother)
      | finished result hnone hother => exact .finished result (hwaiting.trans hnone) (hothers hother)
      | holding point waiting hheld hnone hseen =>
          exact .holding point waiting ((hholder _ rfl).mpr hheld) (hwaiting.trans hnone) hseen

/-- While the call does not hold the lock, others may take it, change the client and leave. -/
theorem Sees.others (hsees : client.Sees number request wolEnabled seen)
    (hbefore : ∀ held, client.holder = some held → held.number ≠ number)
    (hafter : ∀ held, next.holder = some held → held.number ≠ number)
    (hinterval : next.reconnectMinInterval = client.reconnectMinInterval)
    (hprogress : next.Progressed number request seen.progress) :
    ∃ after, SeenRuns request seen [] after ∧ next.Sees number request wolEnabled after := by
  obtain ⟨view, progress⟩ := seen
  let taken : SamsungFrameClient := { view with lifecycleLock := .others }
  let left : SamsungFrameClient := next.shown wolEnabled .free
  have hleft : { left with
      wolEnabled := view.wolEnabled
      reconnectMinInterval := view.reconnectMinInterval
      lifecycleLock := .free } = left := by
    have hwakes : view.wolEnabled = wolEnabled := hsees.wakes
    have hsame : view.reconnectMinInterval = next.reconnectMinInterval :=
      hsees.interval.trans hinterval.symm
    rw [hwakes, hsame]
    rfl
  have hheldBy (hlock : next.lockSeenBy number = .others) :
      next.Sees number request wolEnabled ⟨taken, progress⟩ :=
    ⟨hlock.symm, hsees.wakes, hsees.interval.trans hinterval.symm,
      fun hother => absurd hlock hother, hprogress⟩
  have hfreed (hlock : next.lockSeenBy number = .free) :
      next.Sees number request wolEnabled ⟨left, progress⟩ :=
    ⟨hlock.symm, rfl, rfl, fun _ => by rw [hlock], hprogress⟩
  -- what others did under the lock is seen when they release it
  have hrelease {view : SamsungFrameClient} (hlock : view.lifecycleLock = .others)
      (hview : { left with
        wolEnabled := view.wolEnabled
        reconnectMinInterval := view.reconnectMinInterval
        lifecycleLock := .free } = left) :
      SeenStep request ⟨view, progress⟩ [] ⟨left, progress⟩ := by
    have hstep := @SeenStep.othersRelease request view progress left hlock
    rw [hview] at hstep
    exact hstep
  have hheld : view.lifecycleLock = client.lockSeenBy number := hsees.lock
  rcases lockSeenBy_cases hbefore with hfree | hothers
  · have htake : SeenStep request ⟨view, progress⟩ [] ⟨taken, progress⟩ :=
      .othersAcquire (hheld.trans hfree)
    rcases lockSeenBy_cases hafter with hlock | hlock
    · exact ⟨_, ⟨[[], []], .cons htake (.cons (hrelease rfl hleft) (.nil _)), rfl⟩, hfreed hlock⟩
    · exact ⟨_, seenRuns_single htake, hheldBy hlock⟩
  · rcases lockSeenBy_cases hafter with hlock | hlock
    · exact ⟨_, seenRuns_single (hrelease (hheld.trans hothers) hleft), hfreed hlock⟩
    · refine ⟨_, seenRuns_none, hlock.symm ▸ hheld.trans hothers, hsees.wakes,
        hsees.interval.trans hinterval.symm, fun hother => absurd hlock hother, hprogress⟩

/-- Another call, once it has the lock. -/
theorem Settles.passes {other : Nat} {middle : FrameClient} (hsettles : Settles other middle next)
    (hother : other ≠ number) (hsees : client.Sees number request wolEnabled seen)
    (hbefore : ∀ held, client.holder = some held → held.number ≠ number)
    (hcalls : client.calls ≤ middle.calls)
    (hmore : client.calls ≤ number → middle.calls ≤ number)
    (hwaiting : middle.waiting number = client.waiting number)
    (hinterval : middle.reconnectMinInterval = client.reconnectMinInterval) :
    ∃ after, SeenRuns request seen [] after ∧ next.Sees number request wolEnabled after := by
  have hafter (held : HeldCall) (hheld : next.holder = some held) : held.number ≠ number :=
    (hsettles.holder held hheld).symm ▸ hother
  refine hsees.others hbefore hafter (hsettles.interval.trans hinterval)
    (hsees.progress.kept ?_ ?_ ?_ fun held hnumber => ⟨?_, ?_⟩)
  · rw [hsettles.calls]
    exact hcalls
  · rw [hsettles.calls]
    exact hmore
  · rw [hsettles.waiting, hwaiting]
  · exact fun hheld => absurd hnumber (hafter held hheld)
  · exact fun hheld => absurd hnumber (hbefore held hheld)

/-- A step that is not one of the call. -/
theorem other_sees (hsees : client.Sees number request wolEnabled seen)
    (hother : client.isStepOf number label = false) (hstep : client.step label = some next) :
    ∃ after, SeenRuns request seen [] after ∧ next.Sees number request wolEnabled after := by
  have hunchanged (hcalls : client.calls ≤ next.calls)
      (hmore : client.calls ≤ number → next.calls ≤ number)
      (hwaiting : next.waiting number = client.waiting number)
      (hholder : next.holder = client.holder) :
      next.Progressed number request seen.progress :=
    hsees.progress.kept hcalls hmore hwaiting fun _ _ => by rw [hholder]
  have hunheld (hfree : client.holder = none) (held : HeldCall)
      (hheld : client.holder = some held) : held.number ≠ number := by
    rw [hfree] at hheld
    cases hheld
  cases step_outcome hstep with
  | rejected _ =>
      have hcalls : client.calls ≠ number := of_decide_eq_false hother
      exact ⟨_, seenRuns_none, hsees.lock, hsees.wakes, hsees.interval, hsees.fields,
        hunchanged (Nat.le_succ _) (fun hle => by exact Nat.lt_of_le_of_ne hle hcalls) rfl rfl⟩
  | waits _ _ =>
      have hcalls : client.calls ≠ number := of_decide_eq_false hother
      exact ⟨_, seenRuns_none, hsees.lock, hsees.wakes, hsees.interval, hsees.fields,
        hunchanged (Nat.le_succ _) (fun hle => by exact Nat.lt_of_le_of_ne hle hcalls)
          (Function.update_of_ne hcalls.symm ..) rfl⟩
  | begins _ hfree =>
      have hcalls : client.calls ≠ number := of_decide_eq_false hother
      exact enter_settles.passes hcalls hsees (hunheld hfree) (Nat.le_succ _)
        (fun hle => by exact Nat.lt_of_le_of_ne hle hcalls) rfl rfl
  | acquires _ hfree _ =>
      have hcalls := of_decide_eq_false hother
      exact enter_settles.passes hcalls hsees (hunheld hfree) le_rfl id
        (Function.update_of_ne (Ne.symm hcalls) ..) rfl
  | abandons _ =>
      have hcalls := of_decide_eq_false hother
      exact ⟨_, seenRuns_none, hsees.lock, hsees.wakes, hsees.interval, hsees.fields,
        hunchanged le_rfl id (Function.update_of_ne (Ne.symm hcalls) ..) rfl⟩
  | @resumes _ _ _ held _ hheld =>
      have hnumber : held.number ≠ number := by
        simpa [isStepOf, hheld] using hother
      refine resumeHeld_settles.passes hnumber hsees (fun found hfound => ?_) le_rfl id rfl rfl
      obtain rfl := Option.some.inj (hheld.symm.trans hfound)
      exact hnumber
  | event =>
      obtain ⟨view, progress⟩ := seen
      have hprogress := hunchanged le_rfl id rfl rfl
      -- an event under another's lock is seen only with the release
      by_cases hlock : client.lockSeenBy number = .others
      · exact ⟨_, seenRuns_none, hsees.lock, hsees.wakes, hsees.interval,
          fun hseen => absurd hlock hseen, hprogress⟩
      · refine ⟨_, seenRuns_single .ime, hsees.lock, hsees.wakes, hsees.interval, fun _ => ?_,
          hprogress⟩
        have hview : view = client.shown wolEnabled (client.lockSeenBy number) :=
          hsees.fields hlock
        rw [hview]
        rfl

/-- Each step of the client is one of the dispatch, or what others do in between. -/
theorem stepSeen_matches :
    Simulation.Matches (Sees number request wolEnabled) (StepSeen number request)
      (SeenRuns request) := by
  intro client writes next seen hsees hstep
  obtain ⟨label, hlabel, rfl, hcall⟩ := hstep
  by_cases hown : client.isStepOf number label = true
  · cases label with
    | called call inputs check =>
        have hcalls : client.calls = number := of_decide_eq_true hown
        obtain rfl := hcall call inputs check rfl hcalls
        exact called_sees hsees hcalls hlabel
    | acquired call inputs check =>
        obtain rfl : call = number := of_decide_eq_true hown
        exact acquired_sees hsees hlabel
    | abandoned call =>
        obtain rfl : call = number := of_decide_eq_true hown
        exact abandoned_sees hsees hlabel
    | resumed resumption inputs check =>
        obtain ⟨held, hheld, hnumber⟩ :
            ∃ held, client.holder = some held ∧ held.number = number := by
          cases hholder : client.holder with
          | none => simp [isStepOf, hholder] at hown
          | some held => exact ⟨held, rfl, by simpa [isStepOf, hholder] using hown⟩
        exact resumed_sees hsees hheld hnumber hlabel
    | ime => cases hown
  · have hother : client.isStepOf number label = false := by simpa using hown
    have hnone : client.writesOf next number label = [] := by
      rw [FrameClient.writesOf, if_neg hown]
    rw [hnone]
    exact other_sees hsees hother hlabel

/-- The client before any call, as the call with a number is going to see it. -/
theorem unmade_sees (hcalls : client.calls ≤ number)
    (hwaiting : client.waiting = fun _ => none) (hfree : client.holder = none) :
    client.Sees number request wolEnabled ⟨client.shown wolEnabled .free, none⟩ := by
  have hlock : client.lockSeenBy number = .free := lockSeenBy_free hfree
  refine ⟨hlock.symm, rfl, rfl, fun _ => by rw [hlock], .uncalled hcalls ?_ fun held hheld => ?_⟩
  · rw [hwaiting]
  · rw [hfree] at hheld
    cases hheld

/-- Over every run of the client, with whatever other calls, what one send call writes and how
it ends is what a dispatch can do to the client of the bridge. -/
theorem sends_agree {writes : List (List SocketWrite)}
    (hsees : client.Sees number request wolEnabled seen)
    (hruns : Simulation.Runs (StepSeen number request) client writes next) :
    ∃ after, Simulation.Runs (SeenRuns request) seen writes after ∧
      next.Sees number request wolEnabled after :=
  stepSeen_matches.runs hsees hruns

/-- From a client that no call has used yet, a send is what a dispatch can do to a fresh view of
it. -/
theorem sends_agree_unmade {writes : List (List SocketWrite)} (hcalls : client.calls ≤ number)
    (hwaiting : client.waiting = fun _ => none) (hfree : client.holder = none)
    (hruns : Simulation.Runs (StepSeen number request) client writes next) :
    ∃ after,
      Simulation.Runs (SeenRuns request) ⟨client.shown wolEnabled .free, none⟩ writes after ∧
        next.Sees number request wolEnabled after :=
  sends_agree (unmade_sees hcalls hwaiting hfree) hruns

end Steps

end FrameClient

end CompanionBridge
