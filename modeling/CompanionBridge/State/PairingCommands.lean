import CompanionBridge.Protocol.Auth
import CompanionBridge.State.EnrollmentRecords
import CompanionBridge.State.PairingReset

/-!
# What is done under the pairing-state lock

The daemon starts a listener and commits clients, and the commands of the operator open
a window, revoke a client and clear everything. Each takes the lock for all of it, so
that they come one after another; none of them trusts what it knew before it had the
lock.
-/

namespace CompanionBridge

open Interruptible DurableStore

variable (digits : DigitTable) (nesting : Nesting)

/-! ## The window -/

/-- The record that is read, or an error that `active` catches. -/
def readWindowRecord : PairingM (Except RecordError Bytes) :=
  catching
    (do
      let content ← fetch .window
      return .ok content)
    fun
      | .notFound => pure (.error .osError)
      | .osError => pure (.error .osError)
      | error => raise error

/-- `active`, under the lock. -/
def activeWindow (now : ℚ) : PairingM (Option StoredWindow) := do
  if ← pairingResetInProgress then return none
  else
    let record ← readWindowRecord
    match WindowStore.active { digits, depth := nesting.depth, record } now with
    | .ok window => return window
    | .error .recursionError => raise .recursion
    | .error _ => raise .overflow

/-- What a window is made of: the PINs and tokens that are drawn, and the expiry that
the clock and the duration add up to. -/
structure WindowDraw where
  now : ℚ
  durationSeconds : ℚ
  pins : List PyString
  tokens : List PyString
  expiry : Expiry
  pins_joined : ∀ pin ∈ pins, Json.Joined pin
  tokens_valid : ∀ token ∈ tokens, isGeneration token = true

/-- The window that `open_locked` makes, once enough was drawn. -/
def WindowDraw.window (draw : WindowDraw) (previous : Option StoredWindow)
    (serverIdentifier serverGeneration : PyString) : Option OpenedWindow := do
  let pin ← draw.pins.find? fun pin =>
    isStrongWindowPin digits pin = some true && previous.all (·.pin ≠ pin)
  let generation ← draw.tokens.find? fun token => previous.all (·.generation ≠ token)
  return { pin, expiry := draw.expiry, generation, serverIdentifier, serverGeneration }

/-- `open_locked`. -/
def openWindow (draw : WindowDraw) (serverIdentifier serverGeneration : PyString) :
    PairingM OpenedWindow := do
  if ← pairingResetInProgress then raise .identityResetInProgress
  else if ¬(0 < draw.durationSeconds ∧ draw.durationSeconds ≤ 24 * 60 * 60) then
    raise .invalidValue
  else if !isValidBinding serverIdentifier serverGeneration then raise .invalidValue
  else
    let previous ← activeWindow digits nesting draw.now
    match draw.window digits previous serverIdentifier serverGeneration with
    -- still drawing
    | none => Handler.lift (.error .crashed)
    | some window =>
        replace .window window.record
        return window

/-- The locked part of `_cmd_pair`. -/
def pair (draw : WindowDraw) : PairingM OpenedWindow := do
  let identity ← loadPersistedIdentity nesting
  match identity.generation with
  | none => raise .assertion
  | some generation => openWindow digits nesting draw identity.identifier generation

/-! ## The paired clients -/

/-- `_read`. -/
def readClientsRecord : PairingM PairedMap := do
  let content ← catching
    (do
      let content ← fetch .clients
      return some content)
    fun
      -- a record that is not there holds no client
      | .notFound => pure none
      | .osError => raise .pairedClients
      | error => raise error
  match content with
  | none => return []
  | some content =>
      match readClients nesting content with
      | .ok clients => return clients
      | .error .pairedClients => raise .pairedClients
      | .error .recursion => raise .recursion

/-- `_validated_tombstone_stamp`: whether there is a marker. -/
def validatedMarker (record : PairingRecord) : PairingM Bool :=
  catching
    (do
      stat record
      return true)
    fun
      | .notFound => pure false
      | .osError => raise .pairedClients
      | error => raise error

/-- What a `PairedClients` knows of the state directory. -/
structure LoadedClients where
  clients : PairedMap
  legacyClearAll : Bool
  identityReset : Bool

/-- `_reload_from_directory`. -/
def reload : PairingM LoadedClients := do
  let clients ← readClientsRecord nesting
  let legacyClearAll ← validatedMarker .legacyMarker
  let identityReset ← validatedMarker .marker
  return { clients, legacyClearAll, identityReset }

/-- `reset_in_progress`. -/
def resetInProgress : PairingM Bool :=
  catching
    (do
      let loaded ← reload nesting
      return loaded.legacyClearAll || loaded.identityReset)
    fun
      | .pairedClients => pure true
      | error => raise error

/-- `authorizes`, of one state of the directory. -/
def authorizes (identifier : PyString) (ltpk : Bytes) : PairingM Bool :=
  catching
    (do
      let loaded ← reload nesting
      return !(loaded.legacyClearAll || loaded.identityReset) &&
        loaded.clients.lookup identifier = some (PyString.ofString ltpk.hex))
    fun
      | .pairedClients => pure false
      | error => raise error

/-- `add_locked`. -/
def addLocked (identifier : PyString) (ltpk : Bytes) : PairingM Unit := do
  if identifier = [] ∨ ltpk.length ≠ ltpkBytes then raise .invalidValue
  else if ← resetInProgress nesting then raise .pairedClients
  else
    let loaded ← reload nesting
    let encoded := PyString.ofString ltpk.hex
    if loaded.clients.lookup identifier = some encoded then commit
    else if loaded.clients.lookup identifier = none ∧ maxPairedClients ≤ loaded.clients.length then
      raise .pairedClientsFull
    else
      replace .clients (clientsRecord (loaded.clients.assign identifier encoded))
      let _ ← reload nesting

/-- `remove`, by a store that was opened before. -/
def removeClient (identifier : PyString) : PairingM Bool := do
  let _ ← reload nesting
  let loaded ← reload nesting
  if loaded.clients.lookup identifier = none then
    commit
    return false
  else
    replace .clients (clientsRecord (loaded.clients.drop identifier))
    let _ ← reload nesting
    return true

/-! ## The daemon -/

/-- The identity that a listener was started with. -/
structure ServerBinding where
  identifier : PyString
  generation : PyString
  deriving DecidableEq, Repr

/-- `_active_for_server_locked`. -/
def activeForServer (binding : ServerBinding) (now : ℚ) : PairingM (Option StoredWindow) := do
  let current ← activeWindow digits nesting now
  return current.filter fun window =>
    window.serverIdentifier = binding.identifier && window.serverGeneration = binding.generation

/-- What M1 looks up. -/
def lookUpWindow (binding : ServerBinding) (now : ℚ) : PairingM (Option StoredWindow) := do
  if !isValidBinding binding.identifier binding.generation then return none
  else activeForServer digits nesting binding now

/-- What M5 commits: the generation that its handshake began with, and the client. -/
structure EnrollRequest where
  binding : ServerBinding
  generation : PyString
  now : ℚ
  identifier : String
  ltpk : Bytes

/-- `mutate_if_current` with `add_locked`. -/
def mutateIfCurrent (request : EnrollRequest) : PairingM CommitOutcome := do
  let current ← lookUpWindow digits nesting request.binding request.now
  match current with
  | none => return .notCurrent
  | some window =>
      if window.generation ≠ request.generation then return .notCurrent
      else
        addLocked nesting (PyString.ofString request.identifier) request.ltpk
        return .added

/-- The end of `_register_setup_client`. -/
def enroll (request : EnrollRequest) : PairingM CommitOutcome :=
  catching (mutateIfCurrent digits nesting request) fun
    | .pairedClientsFull => pure .full
    | _ => pure .raised

/-- What a start of the daemon may draw. -/
structure StartupDraw where
  identity : ServerIdentity
  valid : identity.Valid
  /-- The token of a marker. -/
  token : PyString
  token_valid : isGeneration token = true

/-- `_start_companion_listener_with_identity`, up to the listener. -/
def startListener (draw : StartupDraw) : PairingM ServerIdentity := do
  let identity ← loadOrCreateServerIdentity nesting draw.identity draw.token
  let _ ← reload nesting
  return identity

/-! ## All of them -/

inductive PairingCommand where
  | startListener (draw : StartupDraw)
  | unpair (resetIdentity : Bool) (token : PyString) (valid : isGeneration token = true)
  | pair (draw : WindowDraw)
  | enroll (request : EnrollRequest)
  | revoke (identifier : PyString)

inductive PairingReply where
  | listens (identity : ServerIdentity)
  | unpaired
  | opened (window : OpenedWindow)
  | enrolled (outcome : CommitOutcome)
  | revoked (removed : Bool)
  deriving DecidableEq

def PairingCommand.program : PairingCommand → PairingM PairingReply
  | .startListener draw => do return .listens (← CompanionBridge.startListener nesting draw)
  | .unpair resetIdentity token _ => do
      CompanionBridge.unpair nesting resetIdentity token
      return .unpaired
  | .pair draw => do return .opened (← CompanionBridge.pair digits nesting draw)
  | .enroll request => do return .enrolled (← CompanionBridge.enroll digits nesting request)
  | .revoke identifier => do return .revoked (← removeClient nesting identifier)

end CompanionBridge
