import CompanionBridge.Samsung.Lifecycle

/-!
# One client in two models

The client of the lifecycle, with its numbered remotes and calls, as one of its send calls
sees it while it holds the lock. What that call does there is what a dispatch does to the
client of the bridge.
-/

namespace CompanionBridge

/-! ## What a call sees -/

/-- The request of a dispatch as a call of the client. -/
def SamsungRequest.sent : SamsungRequest → SendRequest
  | .key name cmd keyPressDelay => .key name cmd keyPressDelay
  | .text content => .text content

/-- A packet that wakes the TV does not go through a remote. -/
def WireWrite.onSocket : WireWrite → Option SocketWrite
  | .remoteKey key cmd keyPressDelay => some (.remoteKey key cmd keyPressDelay)
  | .textReceived => some .textReceived
  | .inputString text => some (.inputString text)
  | .wakeOnLan => none

def ClientEvent.onSocket : ClientEvent → Option SocketWrite
  | .checked _ => none
  | .wrote write => write.onSocket

def LifecycleEvent.onSocket : LifecycleEvent → Option SocketWrite
  | .wrote _ write => some write
  | _ => none

/-- The point at which a call for a request holds the lock. -/
inductive HeldPoint.SeenAs (request : SamsungRequest) : HeldPoint → SendPoint → Prop
  | starting (attempt : Attempt) (remote : Nat) (startedAt : ℚ) :
      SeenAs request (.starting attempt remote startedAt) (.connecting attempt)
  | closingCandidate (failure : Option DispatchFailureCategory) :
      SeenAs request (.closingCandidate failure) (.closingCandidate failure)
  | broadcasting (attempt : Attempt) (remote : Nat) (text : String)
      (htext : request = .text text) :
      SeenAs request (.broadcasting attempt remote text) (.broadcasting attempt text)
  | sending (attempt : Attempt) (remote : Nat) :
      SeenAs request (.sending attempt remote) (.sending attempt)
  | closingDropped : SeenAs request .closingDropped .closingDropped

namespace FrameClient

/-- The client, without the numbers of its remotes and calls. -/
def shown (client : FrameClient) (wolEnabled : Bool) (lock : LockHolder) :
    SamsungFrameClient where
  wolEnabled := wolEnabled
  reconnectMinInterval := client.reconnectMinInterval
  remote := client.remote.isSome
  firstTextSent := client.firstTextSent
  lastConnectAttemptAt := client.lastConnectAttemptAt
  lastConnectFailed := client.lastConnectFailed
  lifecycleLock := lock

/-- What a call that holds the lock does before it is suspended or ends. -/
structure Goes (number : Nat) (request : SamsungRequest) (wolEnabled : Bool)
    (client next : FrameClient) (step : ClientStep) : Prop where
  calls : next.calls = client.calls
  waiting : next.waiting = client.waiting
  /-- The writes are those of the step. -/
  writes : ∃ events, next.log = client.log ++ events ∧
    events.filterMap LifecycleEvent.onSocket = step.events.filterMap ClientEvent.onSocket
  goes : (∃ result, step.progress = .finished result ∧ next.holder = none ∧
      step.client = next.shown wolEnabled .free) ∨
    ∃ held point, step.progress = .suspended (.waiting request point) ∧
      next.holder = some ⟨number, .send request.sent, held⟩ ∧ held.SeenAs request point ∧
      step.client = next.shown wolEnabled .dispatch

section Goes

variable {number remote : Nat} {request : SamsungRequest} {wolEnabled : Bool}
variable {client before next other : FrameClient} {step allowed refused : ClientStep}
variable {inputs : SamsungInputs} {check : AuthorizationResult} {attempt : Attempt}

/-- Nothing was written before. -/
theorem Goes.after {events : List LifecycleEvent}
    (hgoes : Goes number request wolEnabled client next step)
    (hlog : client.log = before.log ++ events)
    (hquiet : events.filterMap LifecycleEvent.onSocket = [])
    (hcalls : client.calls = before.calls) (hwaiting : client.waiting = before.waiting) :
    Goes number request wolEnabled before next step := by
  refine ⟨hgoes.calls.trans hcalls, hgoes.waiting.trans hwaiting, ?_, hgoes.goes⟩
  obtain ⟨later, hlater, hwrites⟩ := hgoes.writes
  refine ⟨events ++ later, ?_, ?_⟩
  · rw [hlater, hlog, List.append_assoc]
  · rw [List.filterMap_append, hquiet, List.nil_append, hwrites]

theorem finish_goes (result : DispatchEnd) :
    Goes number request wolEnabled client (client.finish number result)
      ((client.shown wolEnabled .dispatch).finish result) where
  calls := rfl
  waiting := rfl
  writes := ⟨[.ended number result], rfl, rfl⟩
  goes := .inl ⟨result, rfl, rfl, rfl⟩

theorem suspend_goes {held : HeldPoint} {point : SendPoint} (hseen : held.SeenAs request point) :
    Goes number request wolEnabled client (client.suspend number (.send request.sent) held)
      ((client.shown wolEnabled .dispatch).suspend request point) where
  calls := rfl
  waiting := rfl
  writes := ⟨[], (List.append_nil _).symm, rfl⟩
  goes := .inr ⟨held, point, rfl, rfl, hseen, rfl⟩

/-- A write of the call is the write of the dispatch. -/
theorem write_goes {held : HeldPoint} {point : SendPoint} {write : WireWrite}
    {written : SocketWrite} (hwritten : write.onSocket = some written)
    (hseen : held.SeenAs request point) :
    Goes number request wolEnabled client
      ((client.record [.wrote remote written]).suspend number (.send request.sent) held)
      ((client.shown wolEnabled .dispatch).write request point write) where
  calls := rfl
  waiting := rfl
  writes := by
    refine ⟨[.wrote remote written], rfl, ?_⟩
    simp [SamsungFrameClient.write, LifecycleEvent.onSocket, ClientEvent.onSocket, hwritten]
  goes := .inr ⟨held, point, rfl, rfl, hseen, rfl⟩

theorem revoke_goes :
    Goes number request wolEnabled client (client.revoke number)
      ((client.shown wolEnabled .dispatch).finish .revoked) := by
  have hfinish : Goes number request wolEnabled (client.record [.revoked number])
      (client.revoke number) ((client.shown wolEnabled .dispatch).finish .revoked) :=
    finish_goes .revoked
  exact hfinish.after rfl rfl rfl rfl

/-- A check is no write. -/
theorem Goes.checked (hgoes : Goes number request wolEnabled client next step) (granted : Bool) :
    Goes number request wolEnabled client next
      { step with events := .checked granted :: step.events } :=
  ⟨hgoes.calls, hgoes.waiting, hgoes.writes, hgoes.goes⟩

theorem guarded_goes (hallowed : Goes number request wolEnabled client next allowed)
    (hrefused : Goes number request wolEnabled client other refused) :
    Goes number request wolEnabled client (if requireAuthorized check then next else other)
      (SamsungFrameClient.guarded check allowed refused) := by
  cases check with
  | none => exact hallowed
  | some result =>
      unfold SamsungFrameClient.guarded
      dsimp only
      split_ifs
      · exact hallowed.checked true
      · exact hrefused.checked false

/-! ## Sending -/

theorem sendInput_goes (text : String) :
    Goes number (.text text) wolEnabled client
      (client.sendInput number (.send (.text text)) attempt remote text check)
      ((client.shown wolEnabled .dispatch).sendInput text attempt check) := by
  refine guarded_goes (write_goes rfl (.sending attempt remote)) ?_
  have hrevoke : Goes number (.text text) wolEnabled { client with firstTextSent := false }
      ({ client with firstTextSent := false }.revoke number)
      ((({ client with firstTextSent := false } : FrameClient).shown wolEnabled .dispatch).finish
        .revoked) := revoke_goes
  exact hrevoke.after (List.append_nil _).symm rfl rfl rfl

theorem sendTextOnce_goes (text : String) :
    Goes number (.text text) wolEnabled client
      (client.sendTextOnce number (.send (.text text)) attempt remote text check)
      ((client.shown wolEnabled .dispatch).sendTextOnce text attempt check) := by
  have hshown : (client.shown wolEnabled .dispatch).firstTextSent = client.firstTextSent := rfl
  unfold FrameClient.sendTextOnce SamsungFrameClient.sendTextOnce
  rw [hshown]
  cases client.firstTextSent with
  | true => exact sendInput_goes text
  | false =>
      refine guarded_goes (write_goes rfl (.broadcasting attempt remote text rfl)) ?_
      have hrevoke : Goes number (.text text) wolEnabled { client with firstTextSent := false }
          ({ client with firstTextSent := false }.revoke number)
          ((({ client with firstTextSent := false } : FrameClient).shown wolEnabled
            .dispatch).finish .revoked) := revoke_goes
      exact hrevoke.after (List.append_nil _).symm rfl rfl rfl

/-- A request is sent alike, whatever it is. -/
theorem sendOnce_goes :
    Goes number request wolEnabled client
      (client.sendOnce number (.send request.sent) request.sent attempt remote check)
      ((client.shown wolEnabled .dispatch).sendOnce request attempt check) := by
  have hsent : (client.record [.sent number remote]).log = client.log ++ [.sent number remote] :=
    rfl
  cases request with
  | key key cmd keyPressDelay =>
      have hsend : Goes number (.key key cmd keyPressDelay) wolEnabled
          (client.record [.sent number remote])
          (client.sendOnce number (.send (.key key cmd keyPressDelay))
            (.key key cmd keyPressDelay) attempt remote check)
          ((client.shown wolEnabled .dispatch).sendOnce (.key key cmd keyPressDelay) attempt
            check) :=
        guarded_goes (write_goes rfl (.sending attempt remote)) revoke_goes
      exact hsend.after hsent rfl rfl rfl
  | text text =>
      have hsend : Goes number (.text text) wolEnabled (client.record [.sent number remote])
          (client.sendOnce number (.send (.text text)) (.text text) attempt remote check)
          ((client.shown wolEnabled .dispatch).sendOnce (.text text) attempt check) :=
        sendTextOnce_goes text
      exact hsend.after hsent rfl rfl rfl

/-! ## Connecting -/

/-- Connecting looks at the same inputs. -/
theorem connectLocked_goes :
    Goes number request wolEnabled client
      (client.connectLocked number (.send request.sent) attempt inputs)
      ((client.shown wolEnabled .dispatch).connectLocked request attempt inputs) := by
  let attempted : FrameClient := { client with lastConnectAttemptAt := some inputs.attemptAt }.record
    [.attempted number inputs.attemptAt]
  unfold FrameClient.connectLocked SamsungFrameClient.connectLocked
  split_ifs
  · exact finish_goes (.failed .runtime)
  · dsimp only
    cases inputs.buildFails with
    | some category =>
        let failed := { attempted with lastConnectFailed := true }.record
          [.attemptFailed inputs.attemptAt]
        have hfailed : Goes number request wolEnabled attempted
            (failed.finish number (.failed category))
            ((failed.shown wolEnabled .dispatch).finish (.failed category)) :=
          (finish_goes (.failed category)).after rfl rfl rfl rfl
        exact hfailed.after rfl rfl rfl rfl
    | none =>
        let built := { attempted with remotes := attempted.remotes + 1 }.record
          [.constructed number attempted.remotes]
        have hbuilt : Goes number request wolEnabled attempted
            (built.suspend number (.send request.sent)
              (.starting attempt attempted.remotes inputs.attemptAt))
            ((built.shown wolEnabled .dispatch).suspend request (.connecting attempt)) :=
          (suspend_goes (.starting attempt attempted.remotes inputs.attemptAt)).after rfl rfl rfl
            rfl
        exact hbuilt.after rfl rfl rfl rfl

theorem connectUnlessCooling_goes :
    Goes number request wolEnabled client
      (client.connectUnlessCooling number (.send request.sent) attempt inputs)
      ((client.shown wolEnabled .dispatch).connectUnlessCooling request attempt inputs) := by
  have hcooling : (client.shown wolEnabled .dispatch).coolingDown inputs.now =
      client.coolingDown inputs.now := rfl
  unfold FrameClient.connectUnlessCooling SamsungFrameClient.connectUnlessCooling
  rw [hcooling]
  split_ifs
  · exact finish_goes (.failed .connection)
  · exact connectLocked_goes

theorem ensureConnected_goes :
    Goes number request wolEnabled client
      (client.ensureConnected number (.send request.sent) inputs check)
      (if client.remote.isSome then
        (client.shown wolEnabled .dispatch).sendOnce request .first check
      else (client.shown wolEnabled .dispatch).connectUnlessCooling request .first inputs) := by
  unfold FrameClient.ensureConnected
  cases client.remote with
  | some remote => exact sendOnce_goes
  | none => exact connectUnlessCooling_goes

/-- A call that enters goes as its dispatch does. -/
theorem enter_goes :
    Goes number request wolEnabled client
      (client.enter number (.send request.sent) inputs check)
      ((client.shown wolEnabled .dispatch).enter request inputs check) := by
  cases request with
  | text text => exact ensureConnected_goes
  | key key cmd keyPressDelay =>
      unfold FrameClient.enter SamsungFrameClient.enter SendRequest.commandFailure
      dsimp only [SamsungRequest.sent]
      cases inputs.commandFails with
      | some category => exact finish_goes (.failed category)
      | none => exact ensureConnected_goes

/-- And so does one whose send has failed. -/
theorem sendFailed_goes {point : HeldPoint} (category : DispatchFailureCategory) :
    Goes number request wolEnabled client
      (client.sendFailed ⟨number, .send request.sent, point⟩ attempt inputs category)
      ((client.shown wolEnabled .dispatch).sendFailed request attempt inputs category) := by
  let failed := client.record [.sendFailed number]
  cases attempt with
  | retry =>
      have hfailed : Goes number request wolEnabled failed
          (failed.finish number (.failed category))
          ((failed.shown wolEnabled .dispatch).finish (.failed category)) :=
        finish_goes (.failed category)
      exact hfailed.after rfl rfl rfl rfl
  | first =>
      have hremote : (client.shown wolEnabled .dispatch).remote = client.remote.isSome := rfl
      unfold FrameClient.sendFailed SamsungFrameClient.sendFailed
      dsimp only
      rw [hremote]
      cases hready : client.remote with
      | some remote =>
          let dropped := { failed with firstTextSent := false }.dropRemote remote
          have hdropped : Goes number request wolEnabled { failed with firstTextSent := false }
              (dropped.suspend number (.send request.sent) .closingDropped)
              ((dropped.shown wolEnabled .dispatch).suspend request .closingDropped) :=
            (suspend_goes .closingDropped).after rfl rfl rfl rfl
          exact hdropped.after rfl rfl rfl rfl
      | none =>
          let reset := { failed with firstTextSent := false }
          have hshown : reset.shown wolEnabled .dispatch =
              { client.shown wolEnabled .dispatch with
                firstTextSent := false
                remote := false } := by
            simp [reset, failed, shown, record, hready]
          have hreset : Goes number request wolEnabled reset
              (reset.connectUnlessCooling number (.send request.sent) .retry inputs)
              ((reset.shown wolEnabled .dispatch).connectUnlessCooling request .retry inputs) :=
            connectUnlessCooling_goes
          rw [hshown] at hreset
          exact hreset.after rfl rfl rfl rfl

/-- What the holder of the lock resumes to, the dispatch does. -/
theorem resumeHeld_goes {held : HeldPoint} {point : SendPoint} (resumption : Resumption)
    (hseen : held.SeenAs request point) :
    ∃ step, (client.shown wolEnabled .dispatch).resume (.waiting request point) resumption inputs
        check = some step ∧
      Goes number request wolEnabled client
        (client.resumeHeld ⟨number, .send request.sent, held⟩ resumption inputs check) step := by
  cases hseen with
  | starting attempt remote startedAt =>
      cases resumption with
      | returned =>
          -- listening publishes the remote before the send, without writing
          let published :=
            { client with remote := some remote, lastConnectFailed := false }.record
              [.listening remote, .published remote]
          have hsend : Goes number request wolEnabled published
              (published.sendOnce number (.send request.sent) request.sent attempt remote check)
              ((published.shown wolEnabled .dispatch).sendOnce request attempt check) :=
            sendOnce_goes
          exact ⟨_, rfl, hsend.after rfl rfl rfl rfl⟩
      | raised category =>
          let closing := client.record [.attemptFailed startedAt, .closing remote]
          have hclosing : Goes number request wolEnabled closing
              (closing.suspend number (.send request.sent) (.closingCandidate (some category)))
              ((closing.shown wolEnabled .dispatch).suspend request
                (.closingCandidate (some category))) := suspend_goes (.closingCandidate _)
          exact ⟨_, rfl, hclosing.after rfl rfl rfl rfl⟩
      | cancelled =>
          let closing := client.record [.closing remote]
          have hclosing : Goes number request wolEnabled closing
              (closing.suspend number (.send request.sent) (.closingCandidate none))
              ((closing.shown wolEnabled .dispatch).suspend request (.closingCandidate none)) :=
            suspend_goes (.closingCandidate _)
          exact ⟨_, rfl, hclosing.after rfl rfl rfl rfl⟩
  | closingCandidate failure =>
      cases failure with
      | none => cases resumption <;> exact ⟨_, rfl, finish_goes .cancelled⟩
      | some category =>
          -- the failure is noted only where the close was not cancelled
          let noted := { client with lastConnectFailed := true }
          have hnoted : Goes number request wolEnabled noted
              (noted.finish number (.failed category))
              ((noted.shown wolEnabled .dispatch).finish (.failed category)) :=
            finish_goes (.failed category)
          have hfailed : Goes number request wolEnabled client _ _ :=
            hnoted.after (List.append_nil _).symm rfl rfl rfl
          cases resumption with
          | cancelled => exact ⟨_, rfl, finish_goes .cancelled⟩
          | returned => exact ⟨_, rfl, hfailed⟩
          | raised _ => exact ⟨_, rfl, hfailed⟩
  | broadcasting attempt remote text htext =>
      subst htext
      cases resumption with
      | returned =>
          let announced := { client with firstTextSent := true }
          have hsend : Goes number (.text text) wolEnabled announced
              (announced.sendInput number (.send (.text text)) attempt remote text check)
              ((announced.shown wolEnabled .dispatch).sendInput text attempt check) :=
            sendInput_goes text
          exact ⟨_, rfl, hsend.after (List.append_nil _).symm rfl rfl rfl⟩
      | raised category => exact ⟨_, rfl, sendFailed_goes category⟩
      | cancelled => exact ⟨_, rfl, finish_goes .cancelled⟩
  | sending attempt remote =>
      cases resumption with
      | returned => exact ⟨_, rfl, finish_goes .returned⟩
      | raised category => exact ⟨_, rfl, sendFailed_goes category⟩
      | cancelled => exact ⟨_, rfl, finish_goes .cancelled⟩
  | closingDropped =>
      cases resumption with
      | cancelled => exact ⟨_, rfl, finish_goes .cancelled⟩
      | returned => exact ⟨_, rfl, connectUnlessCooling_goes⟩
      | raised category => exact ⟨_, rfl, connectUnlessCooling_goes⟩

end Goes

end FrameClient

end CompanionBridge
