import CompanionBridge.Companion.Dispatch

/-!
# The Samsung client

One lock covers connecting, sending, the single retry and closing. A dispatch
is a coroutine: between two of its suspension points the code below runs as one
operation, and what the TV library does at a suspension point is the
`Resumption` the operation is given. A cancellation of the dispatch is raised at
the point it is suspended at, as `asyncio` delivers it. The listener of a new
connection is awaited through `asyncio.wait_for`, which may not pass it on.
-/

namespace CompanionBridge

/-- What the code after an `await` sees. -/
inductive Resumption where
  | returned
  | raised (category : DispatchFailureCategory)
  | cancelled
  deriving DecidableEq, Repr

/-- An authorization callback evaluated now; `some none` is one that raised. -/
abbrev AuthorizationResult := Option (Option Bool)

/-- `require_authorized`: whether work may cross an I/O boundary. -/
def requireAuthorized : AuthorizationResult → Bool
  | none => true
  | some result => result = some true

inductive WireWrite where
  | remoteKey (key cmd : String) (keyPressDelay : Option ℚ)
  | textReceived
  | inputString (text : String)
  | wakeOnLan
  deriving DecidableEq

/-- What an authorized operation does, in order. -/
inductive ClientEvent where
  | checked (allowed : Bool)
  | wrote (write : WireWrite)
  deriving DecidableEq

inductive SamsungRequest where
  | key (key cmd : String) (keyPressDelay : Option ℚ)
  | text (text : String)
  deriving DecidableEq

inductive Attempt where
  | first
  | retry
  deriving DecidableEq, Repr

/-- Where a request holding or awaiting the lifecycle lock is suspended. A
candidate remote is closed after a `failure`, or after a cancellation. -/
inductive SendPoint where
  | acquiring
  | connecting (attempt : Attempt)
  | closingCandidate (failure : Option DispatchFailureCategory)
  | broadcasting (attempt : Attempt) (text : String)
  | sending (attempt : Attempt)
  | closingDropped
  deriving DecidableEq

inductive DispatchPoint where
  | starting (command : Command)
  | waiting (request : SamsungRequest) (point : SendPoint)
  deriving DecidableEq

/-- Whether the dispatch awaits a listener through `asyncio.wait_for`. -/
def DispatchPoint.awaitsListener : DispatchPoint → Bool
  | .waiting _ (.connecting _) => true
  | _ => false

/-- How a dispatch coroutine ends. -/
inductive DispatchEnd where
  | returned
  | failed (category : DispatchFailureCategory)
  | revoked
  | cancelled
  deriving DecidableEq, Repr

def DispatchEnd.outcome : DispatchEnd → DispatchOutcome
  | .returned => .returned
  | .failed category => .failed category
  | .revoked => .revoked
  | .cancelled => .cancelled

inductive DispatchProgress where
  | suspended (point : DispatchPoint)
  | finished (result : DispatchEnd)
  deriving DecidableEq

inductive LockHolder where
  | free
  | dispatch
  /-- `connect` at startup and `close` at shutdown. -/
  | others
  deriving DecidableEq, Repr

/-- What the code outside the bridge answers during one operation. -/
structure SamsungInputs where
  now : ℚ := 0
  attemptAt : ℚ := 0
  tokenUnreadable : Bool := false
  buildFails : Option DispatchFailureCategory := none
  commandFails : Option DispatchFailureCategory := none
  packetFails : Option DispatchFailureCategory := none

structure SamsungFrameClient where
  wolEnabled : Bool := true
  reconnectMinInterval : ℚ := 3
  /-- Whether a ready remote is installed. -/
  remote : Bool := false
  firstTextSent : Bool := false
  lastConnectAttemptAt : Option ℚ := none
  lastConnectFailed : Bool := false
  lifecycleLock : LockHolder := .free

structure ClientStep where
  client : SamsungFrameClient
  progress : DispatchProgress
  events : List ClientEvent := []

namespace SamsungFrameClient

/-- End a dispatch that does not hold the lock. -/
def done (client : SamsungFrameClient) (result : DispatchEnd) : ClientStep :=
  { client := client, progress := .finished result }

/-- Leave the `async with` block and end the dispatch. -/
def finish (client : SamsungFrameClient) (result : DispatchEnd) : ClientStep :=
  { client with lifecycleLock := .free }.done result

def suspend (client : SamsungFrameClient) (request : SamsungRequest) (point : SendPoint) :
    ClientStep :=
  { client := client, progress := .suspended (.waiting request point) }

/-- Check the authorization, and go on at once when it is granted. -/
def guarded (check : AuthorizationResult) (allowed refused : ClientStep) : ClientStep :=
  match check with
  | none => allowed
  | some _ =>
      if requireAuthorized check then
        { allowed with events := .checked true :: allowed.events }
      else { refused with events := .checked false :: refused.events }

def write (client : SamsungFrameClient) (request : SamsungRequest) (point : SendPoint)
    (write : WireWrite) : ClientStep :=
  { client.suspend request point with events := [.wrote write] }

/-- The second half of `_send_text_once`. -/
def sendInput (client : SamsungFrameClient) (text : String) (attempt : Attempt)
    (check : AuthorizationResult) : ClientStep :=
  guarded check (client.write (.text text) (.sending attempt) (.inputString text))
    ({ client with firstTextSent := false }.finish .revoked)

/-- Some TVs require a broadcast before accepting text input. -/
def sendTextOnce (client : SamsungFrameClient) (text : String) (attempt : Attempt)
    (check : AuthorizationResult) : ClientStep :=
  if client.firstTextSent then client.sendInput text attempt check
  else
    guarded check (client.write (.text text) (.broadcasting attempt text) .textReceived)
      ({ client with firstTextSent := false }.finish .revoked)

def sendOnce (client : SamsungFrameClient) (request : SamsungRequest) (attempt : Attempt)
    (check : AuthorizationResult) : ClientStep :=
  match request with
  | .key key cmd keyPressDelay =>
      guarded check
        (client.write request (.sending attempt) (.remoteKey key cmd keyPressDelay))
        (client.finish .revoked)
  | .text text => client.sendTextOnce text attempt check

/-- Start a connection attempt, whose listener is then awaited. -/
def connectLocked (client : SamsungFrameClient) (request : SamsungRequest) (attempt : Attempt)
    (inputs : SamsungInputs) : ClientStep :=
  if inputs.tokenUnreadable then client.finish (.failed .runtime)
  else
    let attempted := { client with lastConnectAttemptAt := some inputs.attemptAt }
    match inputs.buildFails with
    | some category => { attempted with lastConnectFailed := true }.finish (.failed category)
    | none => attempted.suspend request (.connecting attempt)

/-- Whether `_raise_if_connect_cooling_down` raises. -/
def coolingDown (client : SamsungFrameClient) (now : ℚ) : Bool :=
  client.lastConnectFailed &&
    client.lastConnectAttemptAt.any fun attempt =>
      0 < client.reconnectMinInterval - (now - attempt)

/-- Connect unless a recent attempt failed. -/
def connectUnlessCooling (client : SamsungFrameClient) (request : SamsungRequest)
    (attempt : Attempt) (inputs : SamsungInputs) : ClientStep :=
  if client.coolingDown inputs.now then client.finish (.failed .connection)
  else client.connectLocked request attempt inputs

/-- The body of `send_key` and `send_text` once the lock is held. -/
def enter (client : SamsungFrameClient) (request : SamsungRequest) (inputs : SamsungInputs)
    (check : AuthorizationResult) : ClientStep :=
  match request, inputs.commandFails with
  | .key .., some category => client.finish (.failed category)
  | _, _ =>
      if client.remote then client.sendOnce request .first check
      else client.connectUnlessCooling request .first inputs

def acquire (client : SamsungFrameClient) (request : SamsungRequest) (inputs : SamsungInputs)
    (check : AuthorizationResult) : ClientStep :=
  if client.lifecycleLock = .free then
    { client with lifecycleLock := .dispatch }.enter request inputs check
  else client.suspend request .acquiring

def sendKey (client : SamsungFrameClient) (key cmd : String) (keyPressDelay : Option ℚ)
    (inputs : SamsungInputs) (check : AuthorizationResult) : ClientStep :=
  if cmd ∈ ["Click", "Press", "Release"] then
    client.acquire (.key key cmd keyPressDelay) inputs check
  else client.done (.failed .value)

/-- One UDP packet, sent without suspending. -/
def wake (client : SamsungFrameClient) (inputs : SamsungInputs) (check : AuthorizationResult) :
    ClientStep :=
  if client.wolEnabled then
    guarded check
      { client.done (inputs.packetFails.elim .returned .failed) with events := [.wrote .wakeOnLan] }
      (client.done .revoked)
  else client.done .returned

/-- `dispatch_command` of `make_samsung_dispatch`. -/
def dispatchCommand (client : SamsungFrameClient) (command : Command) (inputs : SamsungInputs)
    (check : AuthorizationResult) : ClientStep :=
  match command.action, command.samsungKey.filter (· ≠ ""), command.text with
  | .sendKey, some key, _ =>
      client.sendKey key command.cmd (if command.fast then some 0 else none) inputs check
  | .sendText, _, some text => client.acquire (.text text) inputs check
  | .powerOff, _, _ => client.sendKey "KEY_POWER" "Click" none inputs check
  | .wakeOnLan, _, _ => client.wake inputs check
  | _, _, _ => client.done .returned

/-- The `except Exception` of `_send_with_retry_locked`: drop the remote to
reconnect once. The retry itself is not caught. -/
def sendFailed (client : SamsungFrameClient) (request : SamsungRequest) (attempt : Attempt)
    (inputs : SamsungInputs) (category : DispatchFailureCategory) : ClientStep :=
  match attempt with
  | .first =>
      let dropped := { client with firstTextSent := false, remote := false }
      if client.remote then dropped.suspend request .closingDropped
      else dropped.connectUnlessCooling request .retry inputs
  | .retry => client.finish (.failed category)

/-- Resume a dispatch at its suspension point. The first step of a dispatch
follows its beginning without a suspension in between. -/
def resume (client : SamsungFrameClient) (point : DispatchPoint) (resumption : Resumption)
    (inputs : SamsungInputs) (check : AuthorizationResult) : Option ClientStep :=
  match point, resumption with
  | .starting command, .returned => some (client.dispatchCommand command inputs check)
  | .starting _, .raised _ => none
  | .starting _, .cancelled => some (client.done .cancelled)
  | .waiting request .acquiring, .returned =>
      if client.lifecycleLock = .free then
        some ({ client with lifecycleLock := .dispatch }.enter request inputs check)
      else none
  | .waiting _ .acquiring, .raised _ => none
  | .waiting _ .acquiring, .cancelled => some (client.done .cancelled)
  | .waiting request (.connecting attempt), .returned =>
      some ({ client with remote := true, lastConnectFailed := false }.sendOnce request attempt
        check)
  | .waiting request (.connecting _), .raised category =>
      some (client.suspend request (.closingCandidate (some category)))
  -- `wait_for` raised the cancellation, so the listener was not done.
  | .waiting request (.connecting _), .cancelled =>
      some (client.suspend request (.closingCandidate none))
  | .waiting _ (.closingCandidate _), .cancelled => some (client.finish .cancelled)
  | .waiting _ (.closingCandidate none), _ => some (client.finish .cancelled)
  | .waiting _ (.closingCandidate (some category)), _ =>
      some ({ client with lastConnectFailed := true }.finish (.failed category))
  | .waiting _ (.broadcasting attempt text), .returned =>
      some ({ client with firstTextSent := true }.sendInput text attempt check)
  | .waiting _ (.sending _), .returned => some (client.finish .returned)
  | .waiting request (.broadcasting attempt _), .raised category
  | .waiting request (.sending attempt), .raised category =>
      some (client.sendFailed request attempt inputs category)
  | .waiting _ (.broadcasting _ _), .cancelled
  | .waiting _ (.sending _), .cancelled
  | .waiting _ .closingDropped, .cancelled => some (client.finish .cancelled)
  | .waiting request .closingDropped, _ =>
      some (client.connectUnlessCooling request .retry inputs)

/-! ## One resumption writes at most once, behind a check -/

/-- The events of one resumption whose authorization evaluates to `check`. -/
inductive Guarded (check : AuthorizationResult) : List ClientEvent → Prop where
  | silent : Guarded check []
  | refused (h : requireAuthorized check = false) : Guarded check [.checked false]
  | unchecked (write : WireWrite) (h : check = none) : Guarded check [.wrote write]
  | allowed (write : WireWrite) (h : check = some (some true)) :
      Guarded check [.checked true, .wrote write]

variable {client : SamsungFrameClient} {inputs : SamsungInputs} {check : AuthorizationResult}

/-- A guarded write happens where the check allows it. -/
theorem guarded_events {allowed refused : ClientStep} {write : WireWrite}
    (hallowed : allowed.events = [.wrote write]) (hrefused : refused.events = []) :
    Guarded check (guarded check allowed refused).events := by
  cases check with
  | none =>
      simp only [guarded, hallowed]
      exact .unchecked write rfl
  | some result =>
      by_cases hresult : result = some true
      · simp only [guarded, requireAuthorized, hresult, decide_true, if_true, hallowed]
        exact .allowed write rfl
      · simp only [guarded, requireAuthorized, hresult, decide_false, Bool.false_eq_true, if_false,
          hrefused]
        exact .refused (by simpa [requireAuthorized] using hresult)

theorem sendTextOnce_events (text : String) (attempt : Attempt) :
    Guarded check (client.sendTextOnce text attempt check).events := by
  unfold sendTextOnce
  split
  · exact guarded_events rfl rfl
  · exact guarded_events rfl rfl

theorem sendOnce_events (request : SamsungRequest) (attempt : Attempt) :
    Guarded check (client.sendOnce request attempt check).events := by
  cases request with
  | key key cmd keyPressDelay => exact guarded_events rfl rfl
  | text text => exact client.sendTextOnce_events text attempt

theorem connectUnlessCooling_events (request : SamsungRequest) (attempt : Attempt) :
    (client.connectUnlessCooling request attempt inputs).events = [] := by
  unfold connectUnlessCooling connectLocked
  repeat' split
  all_goals rfl

/-- A request that holds the lock is sent or connects first. -/
theorem enter_events (request : SamsungRequest) :
    Guarded check (client.enter request inputs check).events := by
  unfold enter
  split
  · exact .silent
  · split
    · exact sendOnce_events _ .first
    · rw [connectUnlessCooling_events]
      exact .silent

/-- A request that waits for the lock writes nothing. -/
theorem acquire_events (request : SamsungRequest) :
    Guarded check (client.acquire request inputs check).events := by
  unfold acquire
  split
  · exact enter_events request
  · exact .silent

theorem sendKey_events (key cmd : String) (keyPressDelay : Option ℚ) :
    Guarded check (client.sendKey key cmd keyPressDelay inputs check).events := by
  unfold sendKey
  split
  · exact client.acquire_events _
  · exact .silent

/-- Each command of the dispatch, checked before it is written. -/
theorem dispatchCommand_events (command : Command) :
    Guarded check (client.dispatchCommand command inputs check).events := by
  unfold dispatchCommand
  split
  · exact client.sendKey_events _ _ _
  · exact client.acquire_events _
  · exact client.sendKey_events _ _ _
  · unfold wake
    split
    · exact guarded_events rfl rfl
    · exact .silent
  · exact .silent

theorem sendFailed_events (request : SamsungRequest) (attempt : Attempt)
    (category : DispatchFailureCategory) :
    (client.sendFailed request attempt inputs category).events = [] := by
  cases attempt with
  | first =>
      simp only [sendFailed]
      split
      · rfl
      · exact connectUnlessCooling_events request .retry
  | retry => rfl

/-- A resumed dispatch checks again. -/
theorem resume_events {point : DispatchPoint} {resumption : Resumption} {step : ClientStep}
    (hresume : client.resume point resumption inputs check = some step) :
    Guarded check step.events := by
  cases point with
  | starting command =>
      cases resumption with
      | returned => exact Option.some.inj hresume ▸ client.dispatchCommand_events command
      | raised category => exact absurd hresume (by simp [resume])
      | cancelled => exact Option.some.inj hresume ▸ .silent
  | waiting request point =>
      cases point with
      | acquiring =>
          cases resumption with
          | returned =>
              simp only [resume] at hresume
              split at hresume
              · exact Option.some.inj hresume ▸ enter_events request
              · exact absurd hresume (by simp)
          | raised category => exact absurd hresume (by simp [resume])
          | cancelled => exact Option.some.inj hresume ▸ .silent
      | connecting attempt =>
          cases resumption with
          | returned => exact Option.some.inj hresume ▸ sendOnce_events request attempt
          | raised category => exact Option.some.inj hresume ▸ .silent
          | cancelled => exact Option.some.inj hresume ▸ .silent
      | closingCandidate failure =>
          cases failure <;> cases resumption <;> exact Option.some.inj hresume ▸ .silent
      | broadcasting attempt text =>
          cases resumption with
          | returned => exact Option.some.inj hresume ▸ guarded_events rfl rfl
          | raised category =>
              obtain rfl := Option.some.inj hresume
              rw [sendFailed_events]
              exact .silent
          | cancelled => exact Option.some.inj hresume ▸ .silent
      | sending attempt =>
          cases resumption with
          | returned => exact Option.some.inj hresume ▸ .silent
          | raised category =>
              obtain rfl := Option.some.inj hresume
              rw [sendFailed_events]
              exact .silent
          | cancelled => exact Option.some.inj hresume ▸ .silent
      -- the reconnect after a dropped remote writes nothing yet
      | closingDropped =>
          cases resumption with
          | cancelled => exact Option.some.inj hresume ▸ .silent
          | returned | raised category =>
              obtain rfl := Option.some.inj hresume
              rw [connectUnlessCooling_events]
              exact .silent

/-- Delivering a cancellation writes nothing: the dispatch ends, or closes the
candidate it was connecting. -/
theorem resume_cancelled {point : DispatchPoint} {step : ClientStep}
    (hresume : client.resume point .cancelled inputs check = some step) :
    step.events = [] ∧ (step.progress = .finished .cancelled ∨
      ∃ request, step.progress = .suspended (.waiting request (.closingCandidate none))) := by
  cases point with
  | starting command => exact Option.some.inj hresume ▸ ⟨rfl, Or.inl rfl⟩
  | waiting request point =>
      cases point with
      | connecting attempt => exact Option.some.inj hresume ▸ ⟨rfl, Or.inr ⟨request, rfl⟩⟩
      | closingCandidate failure =>
          cases failure <;> exact Option.some.inj hresume ▸ ⟨rfl, Or.inl rfl⟩
      | acquiring | broadcasting attempt text | sending attempt | closingDropped =>
          exact Option.some.inj hresume ▸ ⟨rfl, Or.inl rfl⟩

/-- After a cancelled connection attempt the dispatch only ends. -/
theorem resume_unwinding {request : SamsungRequest} {resumption : Resumption}
    {step : ClientStep}
    (hresume : client.resume (.waiting request (.closingCandidate none)) resumption inputs check =
      some step) :
    step.events = [] ∧ step.progress = .finished .cancelled := by
  cases resumption <;> exact Option.some.inj hresume ▸ ⟨rfl, rfl⟩

end SamsungFrameClient

end CompanionBridge
