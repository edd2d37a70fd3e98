import CompanionBridge.Library.History
import CompanionBridge.Samsung.Client

/-!
# The life of the Samsung client's remotes

The same client with its remotes numbered in the order they are built, and with
every call of `connect`, `close` and the send methods. The lifecycle lock has at
most one holder, so the state has one suspended call that holds it and the calls
that await it. Two fields are bookkeeping the source does not have: `clock` is
the latest time read from `time_fn`, and `log` lists what happened.
-/

namespace CompanionBridge

/-- `send_key`, `hold_key` and `send_text`. -/
inductive SendRequest where
  | key (key cmd : String) (keyPressDelay : Option ℚ)
  | hold (key : String) (seconds : ℚ)
  | text (text : String)
  deriving DecidableEq

inductive ClientCall where
  | connect
  | send (request : SendRequest)
  | close
  deriving DecidableEq

/-- What is handed to a websocket. -/
inductive SocketWrite where
  | remoteKey (key cmd : String) (keyPressDelay : Option ℚ)
  | holdCommands (key : String) (seconds : ℚ)
  | textReceived
  | inputString (text : String)
  deriving DecidableEq

/-- What happens to the client, with the number of the call or of the remote it
happens to. A connection attempt has the time it started at. -/
inductive LifecycleEvent where
  | attempted (call : Nat) (startedAt : ℚ)
  | constructed (call remote : Nat)
  /-- `start_listening` returned. -/
  | listening (remote : Nat)
  | published (remote : Nat)
  /-- The attempt raised an ordinary exception. -/
  | attemptFailed (startedAt : ℚ)
  /-- `close` is called on a remote. -/
  | closing (remote : Nat)
  /-- `send_once` is called. -/
  | sent (call remote : Nat)
  | sendFailed (call : Nat)
  /-- `AuthorizationRevoked` is raised. -/
  | revoked (call : Nat)
  | wrote (remote : Nat) (write : SocketWrite)
  /-- `ms.remote.imeStart` or `ms.remote.imeEnd`. -/
  | imeEvent
  | ended (call : Nat) (result : DispatchEnd)
  deriving DecidableEq

/-- Where a call that holds the lock is suspended. -/
inductive HeldPoint where
  | starting (attempt : Attempt) (remote : Nat) (startedAt : ℚ)
  | closingCandidate (failure : Option DispatchFailureCategory)
  | broadcasting (attempt : Attempt) (remote : Nat) (text : String)
  | sending (attempt : Attempt) (remote : Nat)
  | closingDropped
  | closingReady
  deriving DecidableEq

structure HeldCall where
  number : Nat
  call : ClientCall
  point : HeldPoint
  deriving DecidableEq

structure FrameClient where
  reconnectMinInterval : ℚ := 3
  remote : Option Nat := none
  firstTextSent : Bool := false
  lastConnectAttemptAt : Option ℚ := none
  lastConnectFailed : Bool := false
  /-- The call that holds the lifecycle lock. -/
  holder : Option HeldCall := none
  waiting : Nat → Option ClientCall := fun _ => none
  calls : Nat := 0
  remotes : Nat := 0
  clock : ℚ := 0
  log : List LifecycleEvent := []

/-- `_validate_key_cmd`. -/
def ClientCall.validates : ClientCall → Bool
  | .send (.key _ cmd _) => cmd ∈ ["Click", "Press", "Release"]
  | _ => true

/-- Building the command of a key may fail; a text has none to build. -/
def SendRequest.commandFailure (request : SendRequest) (inputs : SamsungInputs) :
    Option DispatchFailureCategory :=
  match request with
  | .text _ => none
  | _ => inputs.commandFails

namespace FrameClient

def record (client : FrameClient) (events : List LifecycleEvent) : FrameClient :=
  { client with log := client.log ++ events }

/-- Leave the `async with` block, when there is one, and end the call. -/
def finish (client : FrameClient) (number : Nat) (result : DispatchEnd) : FrameClient :=
  { client with holder := none }.record [.ended number result]

def suspend (client : FrameClient) (number : Nat) (call : ClientCall) (point : HeldPoint) :
    FrameClient :=
  { client with holder := some ⟨number, call, point⟩ }

/-- `require_authorized` raises. -/
def revoke (client : FrameClient) (number : Nat) : FrameClient :=
  (client.record [.revoked number]).finish number .revoked

/-- Write a key command behind its authorization check. -/
def sendCommand (client : FrameClient) (number : Nat) (call : ClientCall) (attempt : Attempt)
    (remote : Nat) (write : SocketWrite) (check : AuthorizationResult) : FrameClient :=
  if requireAuthorized check then
    (client.record [.wrote remote write]).suspend number call (.sending attempt remote)
  else client.revoke number

/-- The second half of `_send_text_once`. -/
def sendInput (client : FrameClient) (number : Nat) (call : ClientCall) (attempt : Attempt)
    (remote : Nat) (text : String) (check : AuthorizationResult) : FrameClient :=
  if requireAuthorized check then
    (client.record [.wrote remote (.inputString text)]).suspend number call
      (.sending attempt remote)
  else { client with firstTextSent := false }.revoke number

def sendTextOnce (client : FrameClient) (number : Nat) (call : ClientCall) (attempt : Attempt)
    (remote : Nat) (text : String) (check : AuthorizationResult) : FrameClient :=
  if client.firstTextSent then client.sendInput number call attempt remote text check
  else if requireAuthorized check then
    (client.record [.wrote remote .textReceived]).suspend number call
      (.broadcasting attempt remote text)
  else { client with firstTextSent := false }.revoke number

/-- The `send_once` of a request. -/
def sendOnce (client : FrameClient) (number : Nat) (call : ClientCall) (request : SendRequest)
    (attempt : Attempt) (remote : Nat) (check : AuthorizationResult) : FrameClient :=
  let sent := client.record [.sent number remote]
  match request with
  | .key key cmd keyPressDelay =>
      sent.sendCommand number call attempt remote (.remoteKey key cmd keyPressDelay) check
  | .hold key seconds =>
      sent.sendCommand number call attempt remote (.holdCommands key seconds) check
  | .text text => sent.sendTextOnce number call attempt remote text check

/-- What a call does once a remote is ready. -/
def ready (client : FrameClient) (number : Nat) (call : ClientCall) (attempt : Attempt)
    (remote : Nat) (check : AuthorizationResult) : FrameClient :=
  match call with
  | .send request => client.sendOnce number call request attempt remote check
  | _ => client.finish number .returned

/-- `_connect_locked`, up to the `start_listening` it awaits. -/
def connectLocked (client : FrameClient) (number : Nat) (call : ClientCall) (attempt : Attempt)
    (inputs : SamsungInputs) : FrameClient :=
  if inputs.tokenUnreadable then client.finish number (.failed .runtime)
  else
    let attempted :=
      { client with lastConnectAttemptAt := some inputs.attemptAt }.record
        [.attempted number inputs.attemptAt]
    match inputs.buildFails with
    | some category =>
        ({ attempted with lastConnectFailed := true }.record
          [.attemptFailed inputs.attemptAt]).finish number (.failed category)
    | none =>
        ({ attempted with remotes := attempted.remotes + 1 }.record
          [.constructed number attempted.remotes]).suspend number call
          (.starting attempt attempted.remotes inputs.attemptAt)

/-- Whether `_raise_if_connect_cooling_down` raises. -/
def coolingDown (client : FrameClient) (now : ℚ) : Bool :=
  client.lastConnectFailed &&
    client.lastConnectAttemptAt.any fun attempt =>
      0 < client.reconnectMinInterval - (now - attempt)

/-- Connect unless a recent attempt failed. -/
def connectUnlessCooling (client : FrameClient) (number : Nat) (call : ClientCall)
    (attempt : Attempt) (inputs : SamsungInputs) : FrameClient :=
  if client.coolingDown inputs.now then client.finish number (.failed .connection)
  else client.connectLocked number call attempt inputs

/-- `_ensure_connected_locked`, and what follows it. -/
def ensureConnected (client : FrameClient) (number : Nat) (call : ClientCall)
    (inputs : SamsungInputs) (check : AuthorizationResult) : FrameClient :=
  match client.remote with
  | some remote => client.ready number call .first remote check
  | none => client.connectUnlessCooling number call .first inputs

/-- Drop the ready remote and close it. -/
def dropRemote (client : FrameClient) (remote : Nat) : FrameClient :=
  { client with remote := none }.record [.closing remote]

/-- The body of `close` once the lock is held. -/
def closeLocked (client : FrameClient) (number : Nat) : FrameClient :=
  let reset := { client with firstTextSent := false }
  match client.remote with
  | none => reset.finish number .returned
  | some remote => (reset.dropRemote remote).suspend number .close .closingReady

/-- The body of a call once the lock is held. -/
def enter (client : FrameClient) (number : Nat) (call : ClientCall) (inputs : SamsungInputs)
    (check : AuthorizationResult) : FrameClient :=
  match call with
  | .connect => client.ensureConnected number call inputs check
  | .send request =>
      match request.commandFailure inputs with
      | some category => client.finish number (.failed category)
      | none => client.ensureConnected number call inputs check
  | .close => client.closeLocked number

/-- The `except Exception` of `_send_with_retry_locked`. The retry itself is not caught. -/
def sendFailed (client : FrameClient) (held : HeldCall) (attempt : Attempt)
    (inputs : SamsungInputs) (category : DispatchFailureCategory) : FrameClient :=
  let failed := client.record [.sendFailed held.number]
  match attempt with
  | .first =>
      let reset := { failed with firstTextSent := false }
      match client.remote with
      | some remote =>
          (reset.dropRemote remote).suspend held.number held.call .closingDropped
      | none => reset.connectUnlessCooling held.number held.call .retry inputs
  | .retry => failed.finish held.number (.failed category)

/-- Resume the call that holds the lock at its suspension point. -/
def resumeHeld (client : FrameClient) (held : HeldCall) (resumption : Resumption)
    (inputs : SamsungInputs) (check : AuthorizationResult) : FrameClient :=
  match held.point, resumption with
  -- the candidate is published only once it listens
  | .starting attempt remote _, .returned =>
      ({ client with remote := some remote, lastConnectFailed := false }.record
        [.listening remote, .published remote]).ready held.number held.call attempt remote check
  | .starting _ remote startedAt, .raised category =>
      (client.record [.attemptFailed startedAt, .closing remote]).suspend held.number held.call
        (.closingCandidate (some category))
  -- a cancelled attempt closes its candidate and does not count as a failure
  | .starting _ remote _, .cancelled =>
      (client.record [.closing remote]).suspend held.number held.call (.closingCandidate none)
  | .closingCandidate _, .cancelled => client.finish held.number .cancelled
  | .closingCandidate none, _ => client.finish held.number .cancelled
  -- the failure is noted after the close, so a cancelled close loses it
  | .closingCandidate (some category), _ =>
      { client with lastConnectFailed := true }.finish held.number (.failed category)
  | .broadcasting attempt remote text, .returned =>
      { client with firstTextSent := true }.sendInput held.number held.call attempt remote text
        check
  | .sending _ _, .returned => client.finish held.number .returned
  -- a failure of the broadcast is a failure of the send
  | .broadcasting attempt _ _, .raised category
  | .sending attempt _, .raised category => client.sendFailed held attempt inputs category
  | .broadcasting _ _ _, .cancelled
  | .sending _ _, .cancelled
  | .closingDropped, .cancelled
  | .closingReady, .cancelled => client.finish held.number .cancelled
  | .closingDropped, _ =>
      client.connectUnlessCooling held.number held.call .retry inputs
  | .closingReady, _ => client.finish held.number .returned

/-- The listener of a remote, running or not, hands an event to the client. -/
def handleTvEvent (client : FrameClient) : FrameClient :=
  { client with firstTextSent := false }.record [.imeEvent]

end FrameClient

inductive LifecycleLabel where
  | called (call : ClientCall) (inputs : SamsungInputs) (check : AuthorizationResult)
  /-- A waiting call gets the lock. -/
  | acquired (number : Nat) (inputs : SamsungInputs) (check : AuthorizationResult)
  /-- A waiting call is cancelled. -/
  | abandoned (number : Nat)
  | resumed (resumption : Resumption) (inputs : SamsungInputs) (check : AuthorizationResult)
  | ime

namespace FrameClient

/-- `time_fn` is a monotonic clock, read at most twice in one step. -/
def advance (client : FrameClient) (inputs : SamsungInputs) : Option FrameClient :=
  if client.clock ≤ inputs.now ∧ inputs.now ≤ inputs.attemptAt then
    some { client with clock := inputs.attemptAt }
  else none

/-- Call a method. Its first part runs up to the lock, or on when the lock is free. -/
def invoke (client : FrameClient) (call : ClientCall) (inputs : SamsungInputs)
    (check : AuthorizationResult) : FrameClient :=
  let number := client.calls
  let begun := { client with calls := client.calls + 1 }
  if !call.validates then begun.record [.ended number (.failed .value)]
  else
    match client.holder with
    | some _ => { begun with waiting := Function.update client.waiting number (some call) }
    | none => begun.enter number call inputs check

def step (client : FrameClient) : LifecycleLabel → Option FrameClient
  | .called call inputs check => do
      let client ← client.advance inputs
      return client.invoke call inputs check
  -- the lock wakes one waiting call
  | .acquired number inputs check => do
      let client ← client.advance inputs
      match client.holder, client.waiting number with
      | none, some call =>
          return { client with waiting := Function.update client.waiting number none }.enter number
            call inputs check
      | _, _ => none
  -- a call cancelled while it waits never held the lock
  | .abandoned number => do
      let _ ← client.waiting number
      return { client with waiting := Function.update client.waiting number none }.record
        [.ended number .cancelled]
  | .resumed resumption inputs check => do
      let client ← client.advance inputs
      let held ← client.holder
      return client.resumeHeld held resumption inputs check
  | .ime => some client.handleTvEvent

/-! ## What a call does between two suspension points -/

/-- Events are recorded in order. -/
theorem record_record (client : FrameClient) (first second : List LifecycleEvent) :
    (client.record first).record second = client.record (first ++ second) := by
  simp only [record, List.append_assoc]

section Outcomes

variable {client : FrameClient} {number remote : Nat} {call : ClientCall} {attempt : Attempt}
variable {inputs : SamsungInputs} {check : AuthorizationResult}

/-- What `send_once` does: it is refused, or writes and awaits. -/
inductive SendOutcome (client : FrameClient) (number : Nat) (call : ClientCall)
    (attempt : Attempt) (remote : Nat) : FrameClient → Prop where
  | refused (flag : Bool) (hflag : flag = true → client.firstTextSent = true) :
      SendOutcome client number call attempt remote
        ({ client with firstTextSent := flag }.revoke number)
  | wrote (write : SocketWrite) (hwrite : write ≠ .textReceived)
      (htext : ∀ text, write = .inputString text → client.firstTextSent = true) :
      SendOutcome client number call attempt remote
        ((client.record [.wrote remote write]).suspend number call (.sending attempt remote))
  | broadcast (text : String) (hflag : client.firstTextSent = false) :
      SendOutcome client number call attempt remote
        ((client.record [.wrote remote .textReceived]).suspend number call
          (.broadcasting attempt remote text))

theorem sendCommand_outcome {write : SocketWrite} (hwrite : write ≠ .textReceived)
    (htext : ∀ text, write ≠ .inputString text) :
    SendOutcome client number call attempt remote
      (client.sendCommand number call attempt remote write check) := by
  unfold sendCommand
  split
  · exact .wrote write hwrite fun text heq => absurd heq (htext text)
  · exact .refused client.firstTextSent id

/-- The input is written, or the check refuses it and the flag is cleared. -/
theorem sendInput_cases (text : String) :
    (requireAuthorized check = true ∧
      client.sendInput number call attempt remote text check =
        (client.record [.wrote remote (.inputString text)]).suspend number call
          (.sending attempt remote)) ∨
    (requireAuthorized check = false ∧
      client.sendInput number call attempt remote text check =
        { client with firstTextSent := false }.revoke number) := by
  unfold sendInput
  split
  · rename_i hallowed
    exact Or.inl ⟨hallowed, rfl⟩
  · rename_i hrefused
    exact Or.inr ⟨Bool.eq_false_of_not_eq_true hrefused, rfl⟩

theorem sendInput_outcome (text : String) (hsent : client.firstTextSent = true) :
    SendOutcome client number call attempt remote
      (client.sendInput number call attempt remote text check) := by
  rcases @sendInput_cases client number remote call attempt check text with
    ⟨-, heq⟩ | ⟨-, heq⟩
  · rw [heq]
    exact .wrote _ (by simp) fun _ _ => hsent
  · rw [heq]
    exact .refused false fun hfalse => absurd hfalse Bool.false_ne_true

/-- A text may be preceded by its broadcast. -/
theorem sendTextOnce_outcome (text : String) :
    SendOutcome client number call attempt remote
      (client.sendTextOnce number call attempt remote text check) := by
  unfold sendTextOnce
  split
  · rename_i hsent
    exact sendInput_outcome text hsent
  · rename_i hsent
    split
    · exact .broadcast text (by simpa using hsent)
    · exact .refused false fun hfalse => absurd hfalse Bool.false_ne_true

/-- Once a remote is ready, `connect` returns and a request is sent. -/
theorem ready_outcome :
    client.ready number call attempt remote check = client.finish number .returned ∨
    SendOutcome (client.record [.sent number remote]) number call attempt remote
      (client.ready number call attempt remote check) := by
  unfold ready
  cases call with
  | send request =>
      refine Or.inr ?_
      cases request with
      | key key cmd keyPressDelay => exact sendCommand_outcome (by simp) (by simp)
      | hold key seconds => exact sendCommand_outcome (by simp) (by simp)
      | text text => exact sendTextOnce_outcome text
  | connect => exact Or.inl rfl
  | close => exact Or.inl rfl

/-- What connecting does: nothing, an attempt that fails at once, or an attempt
whose listener is awaited. -/
inductive ConnectOutcome (client : FrameClient) (number : Nat) (call : ClientCall)
    (attempt : Attempt) (inputs : SamsungInputs) : FrameClient → Prop where
  | refused (category : DispatchFailureCategory) :
      ConnectOutcome client number call attempt inputs
        (client.finish number (.failed category))
  | failed (hcool : client.coolingDown inputs.now = false) (category : DispatchFailureCategory) :
      ConnectOutcome client number call attempt inputs
        (({ client with
            lastConnectAttemptAt := some inputs.attemptAt, lastConnectFailed := true }.record
          [.attempted number inputs.attemptAt, .attemptFailed inputs.attemptAt]).finish number
            (.failed category))
  | starting (hcool : client.coolingDown inputs.now = false) :
      ConnectOutcome client number call attempt inputs
        (({ client with
            lastConnectAttemptAt := some inputs.attemptAt, remotes := client.remotes + 1 }.record
          [.attempted number inputs.attemptAt, .constructed number client.remotes]).suspend number
            call (.starting attempt client.remotes inputs.attemptAt))

/-- A connect is refused, fails or starts a remote. -/
theorem connectUnlessCooling_outcome :
    ConnectOutcome client number call attempt inputs
      (client.connectUnlessCooling number call attempt inputs) := by
  unfold connectUnlessCooling
  by_cases hcool : client.coolingDown inputs.now = true
  · rw [if_pos hcool]
    exact .refused .connection
  · rw [if_neg hcool]
    have hwarm : client.coolingDown inputs.now = false := by simpa using hcool
    unfold connectLocked
    split
    · exact .refused .runtime
    · dsimp only
      split
      · rename_i category _
        have houtcome := @ConnectOutcome.failed client number call attempt inputs hwarm
          category
        simpa [record, List.append_assoc] using houtcome
      · have houtcome := @ConnectOutcome.starting client number call attempt inputs hwarm
        simpa [record, List.append_assoc] using houtcome

/-- The client once the clock was read. -/
def ticked (client : FrameClient) (inputs : SamsungInputs) : FrameClient :=
  { client with clock := inputs.attemptAt }

/-- The clock does not go back. -/
def Monotonic (client : FrameClient) (inputs : SamsungInputs) : Prop :=
  client.clock ≤ inputs.now ∧ inputs.now ≤ inputs.attemptAt

/-- All a step can do. -/
inductive StepOutcome (client : FrameClient) : LifecycleLabel → FrameClient → Prop where
  | rejected {call : ClientCall} {inputs : SamsungInputs} {check : AuthorizationResult}
      (hclock : client.Monotonic inputs) :
      StepOutcome client (.called call inputs check)
        ({ client.ticked inputs with calls := client.calls + 1 }.record
          [.ended client.calls (.failed .value)])
  | waits {call : ClientCall} {inputs : SamsungInputs} {check : AuthorizationResult}
      {held : HeldCall} (hclock : client.Monotonic inputs) (hheld : client.holder = some held) :
      StepOutcome client (.called call inputs check)
        { client.ticked inputs with
          calls := client.calls + 1
          waiting := Function.update client.waiting client.calls (some call) }
  | begins {call : ClientCall} {inputs : SamsungInputs} {check : AuthorizationResult}
      (hclock : client.Monotonic inputs) (hfree : client.holder = none) :
      StepOutcome client (.called call inputs check)
        ({ client.ticked inputs with calls := client.calls + 1 }.enter client.calls call inputs
          check)
  | acquires {number : Nat} {call : ClientCall} {inputs : SamsungInputs}
      {check : AuthorizationResult} (hclock : client.Monotonic inputs)
      (hfree : client.holder = none) (hwaiting : client.waiting number = some call) :
      StepOutcome client (.acquired number inputs check)
        ({ client.ticked inputs with
            waiting := Function.update client.waiting number none }.enter number call inputs check)
  | abandons {number : Nat} {call : ClientCall} (hwaiting : client.waiting number = some call) :
      StepOutcome client (.abandoned number)
        ({ client with waiting := Function.update client.waiting number none }.record
          [.ended number .cancelled])
  | resumes {resumption : Resumption} {inputs : SamsungInputs} {check : AuthorizationResult}
      {held : HeldCall} (hclock : client.Monotonic inputs) (hheld : client.holder = some held) :
      StepOutcome client (.resumed resumption inputs check)
        ((client.ticked inputs).resumeHeld held resumption inputs check)
  | event : StepOutcome client .ime client.handleTvEvent

theorem advance_eq_some {next : FrameClient} (hadvance : client.advance inputs = some next) :
    client.Monotonic inputs ∧ next = client.ticked inputs := by
  unfold advance at hadvance
  split at hadvance
  · rename_i hclock
    exact ⟨hclock, (Option.some.inj hadvance).symm⟩
  · exact absurd hadvance (by simp)

/-- All that one label can do to a client. -/
theorem step_outcome {label : LifecycleLabel} {next : FrameClient}
    (hstep : client.step label = some next) : StepOutcome client label next := by
  cases label with
  | called call inputs check =>
      simp only [step, Option.bind_eq_bind, Option.bind_eq_some_iff] at hstep
      obtain ⟨middle, hadvance, hnext⟩ := hstep
      obtain ⟨hclock, rfl⟩ := advance_eq_some hadvance
      obtain rfl := Option.some.inj hnext
      unfold invoke
      dsimp only
      split
      · exact .rejected hclock
      · split
        · rename_i held hheld
          exact .waits hclock hheld
        · rename_i hfree
          exact .begins hclock hfree
  | acquired number inputs check =>
      simp only [step, Option.bind_eq_bind, Option.bind_eq_some_iff] at hstep
      obtain ⟨middle, hadvance, hnext⟩ := hstep
      obtain ⟨hclock, rfl⟩ := advance_eq_some hadvance
      split at hnext
      · rename_i call hfree hwaiting
        obtain rfl := Option.some.inj hnext
        exact .acquires hclock hfree hwaiting
      · exact absurd hnext (by simp)
  | abandoned number =>
      simp only [step, Option.bind_eq_bind, Option.bind_eq_some_iff] at hstep
      obtain ⟨call, hwaiting, hnext⟩ := hstep
      obtain rfl := Option.some.inj hnext
      exact .abandons hwaiting
  | resumed resumption inputs check =>
      simp only [step, Option.bind_eq_bind, Option.bind_eq_some_iff] at hstep
      obtain ⟨middle, hadvance, held, hheld, hnext⟩ := hstep
      obtain ⟨hclock, rfl⟩ := advance_eq_some hadvance
      obtain rfl := Option.some.inj hnext
      exact .resumes hclock hheld
  | ime =>
      obtain rfl := Option.some.inj hstep
      exact .event

/-! ## The log only grows -/

/-- A later state: more is logged, and the interval is the same. -/
structure Extends (client next : FrameClient) : Prop where
  interval : next.reconnectMinInterval = client.reconnectMinInterval
  log : ∃ events, next.log = client.log ++ events

theorem Extends.trans {middle next : FrameClient} (first : Extends client middle)
    (second : Extends middle next) : Extends client next := by
  obtain ⟨earlier, hearlier⟩ := first.log
  obtain ⟨later, hlater⟩ := second.log
  refine ⟨second.interval.trans first.interval, earlier ++ later, ?_⟩
  rw [hlater, hearlier, List.append_assoc]

theorem finish_extends (result : DispatchEnd) : Extends client (client.finish number result) :=
  ⟨rfl, [.ended number result], rfl⟩

theorem SendOutcome.extends {next : FrameClient}
    (h : SendOutcome client number call attempt remote next) : Extends client next := by
  cases h with
  | refused flag hflag =>
      refine ⟨rfl, [.revoked number, .ended number .revoked], ?_⟩
      simp [revoke, finish, record]
  | wrote write hwrite htext => exact ⟨rfl, [.wrote remote write], rfl⟩
  | broadcast text hflag => exact ⟨rfl, [.wrote remote .textReceived], rfl⟩

theorem ready_extends : Extends client (client.ready number call attempt remote check) := by
  rcases @ready_outcome client number remote call attempt check with heq | houtcome
  · rw [heq]
    exact finish_extends .returned
  · have hsent : Extends client (client.record [.sent number remote]) := ⟨rfl, _, rfl⟩
    exact hsent.trans houtcome.extends

theorem ConnectOutcome.extends {next : FrameClient}
    (h : ConnectOutcome client number call attempt inputs next) : Extends client next := by
  cases h with
  | refused category => exact finish_extends _
  | failed hcool category =>
      have hattempted : Extends client (({ client with
          lastConnectAttemptAt := some inputs.attemptAt, lastConnectFailed := true } :
            FrameClient).record
          [.attempted number inputs.attemptAt, .attemptFailed inputs.attemptAt]) :=
        ⟨rfl, _, rfl⟩
      exact hattempted.trans (finish_extends _)
  | starting hcool =>
      exact ⟨rfl, [.attempted number inputs.attemptAt, .constructed number client.remotes], rfl⟩

theorem ensureConnected_extends :
    Extends client (client.ensureConnected number call inputs check) := by
  unfold ensureConnected
  split
  · exact ready_extends
  · exact connectUnlessCooling_outcome.extends

theorem enter_extends : Extends client (client.enter number call inputs check) := by
  unfold enter
  split
  · exact ensureConnected_extends
  · split
    · exact finish_extends _
    · exact ensureConnected_extends
  · unfold closeLocked
    dsimp only
    split
    · exact ⟨rfl, [.ended number .returned], rfl⟩
    · exact ⟨rfl, [.closing _], rfl⟩

theorem sendFailed_extends {held : HeldCall} {category : DispatchFailureCategory} :
    Extends client (client.sendFailed held attempt inputs category) := by
  have hfailed : Extends client (client.record [.sendFailed held.number]) := ⟨rfl, _, rfl⟩
  unfold sendFailed
  dsimp only
  split
  · have hreset : Extends client
        { client.record [.sendFailed held.number] with firstTextSent := false } := ⟨rfl, _, rfl⟩
    split
    · rename_i dropped _
      exact hreset.trans ⟨rfl, [.closing dropped], rfl⟩
    · exact hreset.trans connectUnlessCooling_outcome.extends
  · exact hfailed.trans (finish_extends _)

/-- However a call goes on. -/
theorem resumeHeld_extends {held : HeldCall} {resumption : Resumption} :
    Extends client (client.resumeHeld held resumption inputs check) := by
  unfold resumeHeld
  split
  · rename_i attempt remote _ _
    have hpublished : Extends client
        ({ client with remote := some remote, lastConnectFailed := false }.record
          [.listening remote, .published remote]) := ⟨rfl, _, rfl⟩
    exact hpublished.trans ready_extends
  · exact ⟨rfl, _, rfl⟩
  · exact ⟨rfl, _, rfl⟩
  · exact finish_extends _
  · exact finish_extends _
  · exact ⟨rfl, _, rfl⟩
  · have hset : Extends client { client with firstTextSent := true } :=
      ⟨rfl, [], (List.append_nil _).symm⟩
    exact hset.trans (sendInput_outcome _ rfl).extends
  · exact finish_extends _
  · exact sendFailed_extends
  · exact sendFailed_extends
  · exact finish_extends _
  · exact finish_extends _
  · exact finish_extends _
  · exact finish_extends _
  · exact connectUnlessCooling_outcome.extends
  · exact finish_extends _

/-- No label takes an event out of the log. -/
theorem step_extends {label : LifecycleLabel} {next : FrameClient}
    (hstep : client.step label = some next) : Extends client next := by
  cases step_outcome hstep with
  | rejected hclock => exact ⟨rfl, _, rfl⟩
  | waits hclock hheld => exact ⟨rfl, [], (List.append_nil _).symm⟩
  | begins hclock hfree =>
      rename_i call inputs check
      have hbegun : Extends client { client.ticked inputs with calls := client.calls + 1 } :=
        ⟨rfl, [], (List.append_nil _).symm⟩
      exact hbegun.trans enter_extends
  | acquires hclock hfree hwaiting =>
      rename_i number call inputs check
      have hentered : Extends client { client.ticked inputs with
          waiting := Function.update client.waiting number none } :=
        ⟨rfl, [], (List.append_nil _).symm⟩
      exact hentered.trans enter_extends
  | abandons hwaiting => exact ⟨rfl, _, rfl⟩
  | resumes hclock hheld =>
      rename_i resumption inputs check held
      have hticked : Extends client (client.ticked inputs) :=
        ⟨rfl, [], (List.append_nil _).symm⟩
      exact hticked.trans resumeHeld_extends
  | event => exact ⟨rfl, [.imeEvent], rfl⟩

end Outcomes

/-- A step whose clock reads show one time. -/
def inputsAt (now : ℚ) : SamsungInputs where
  now := now
  attemptAt := now

end FrameClient

end CompanionBridge
