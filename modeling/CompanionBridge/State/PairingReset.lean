import CompanionBridge.Library.DurableStore
import CompanionBridge.State.PairingRecords

/-!
# Recovery markers and the server identity

Every program here runs while the caller holds the pairing-state lock. A marker is
published before anything is cleared, and removed only when all that it asks for is
done.
-/

namespace CompanionBridge

open Interruptible DurableStore

/-- The files of the pairing state. -/
inductive PairingRecord where
  | identity
  | clients
  | window
  /-- `identity-reset-in-progress.json`. -/
  | marker
  /-- `pairing-clear-all-in-progress.json`. -/
  | legacyMarker
  deriving DecidableEq, Repr

inductive PairingError where
  | notFound
  | osError
  | recursion
  | overflow
  | serverIdentity
  | missingServerIdentity
  | identityResetInProgress
  | pairedClients
  | pairedClientsFull
  | invalidValue
  | assertion
  deriving DecidableEq, Repr

instance : OfStoreError PairingError where
  ofStore
    | .notFound => .notFound
    | .failed => .osError

abbrev PairingState : Type := DurableStore PairingRecord Bytes

abbrev PairingM := StoreM PairingRecord Bytes PairingError

/-- A part of a program that only some cases go through. -/
def onlyIf (condition : Prop) [Decidable condition] (body : PairingM Unit) : PairingM Unit :=
  if condition then body else pure ()

def remove (record : PairingRecord) : PairingM Unit := do
  let _ ← erase record

variable (nesting : Nesting)

/-! ## Markers -/

/-- Whether a marker is there. A failure to look counts as one that is. -/
def markerInProgress (record : PairingRecord) : PairingM Bool :=
  catching
    (do
      stat record
      return true)
    fun
      | .notFound => pure false
      | .osError => pure true
      | error => raise error

/-- `identity_reset_in_progress`. -/
def identityResetInProgress : PairingM Bool :=
  markerInProgress .marker

/-- `_legacy_clear_all_in_progress`. -/
def legacyClearAllInProgress : PairingM Bool :=
  markerInProgress .legacyMarker

/-- `pairing_reset_in_progress`. -/
def pairingResetInProgress : PairingM Bool := do
  if ← identityResetInProgress then return true else legacyClearAllInProgress

/-- The marker's content, or what there is to do without one. -/
def readMarker : PairingM (Except (Option ResetOperation) Bytes) :=
  catching
    (do
      let content ← fetch .marker
      return .ok content)
    fun
      | .notFound => pure (.error none)
      | .osError => pure (.error (some .identityReset))
      | error => raise error

/-- `identity_reset_operation`. -/
def identityResetOperation : PairingM (Option ResetOperation) := do
  match ← readMarker with
  | .error operation => return operation
  | .ok content =>
      match recordedOperation nesting content with
      | some operation => return some operation
      | none => raise .recursion

/-- `clear_all_in_progress`. -/
def clearAllInProgress : PairingM Bool := do
  if (← identityResetOperation nesting) = some .clearAll then return true
  else legacyClearAllInProgress

/-- `_strict_tombstone_exists`. -/
def strictTombstoneExists : PairingM Bool :=
  catching
    (do
      stat .marker
      return true)
    fun
      | .notFound => pure false
      | .osError => pure false
      | error => raise error

/-- A reset marker that is there is committed, and one that is not is written. -/
def keepIdentityReset (generation : PyString) : PairingM Unit := do
  if ← strictTombstoneExists then commit
  else replace .marker (tombstoneRecord .identityReset generation)

/-- `begin_identity_reset_locked`. -/
def beginIdentityReset (generation : PyString) : PairingM Unit := do
  if (← identityResetOperation nesting) = some .identityReset then keepIdentityReset generation
  else replace .marker (tombstoneRecord .identityReset generation)

/-- `begin_clear_all_locked`: whether the identity is to stand. -/
def beginClearAll (generation : PyString) : PairingM Bool := do
  match ← identityResetOperation nesting with
  | some .identityReset =>
      keepIdentityReset generation
      return false
  | some .clearAll =>
      commit
      return true
  | none =>
      replace .marker (tombstoneRecord .clearAll generation)
      return true

/-- `clear_clear_all_locked`. -/
def clearClearAll : PairingM Unit := do
  let operation ← identityResetOperation nesting
  onlyIf (operation = some .clearAll) (remove .marker)
  remove .legacyMarker

/-- `clear_identity_reset_locked`. -/
def clearIdentityReset : PairingM Unit := do
  let operation ← identityResetOperation nesting
  onlyIf (operation ≠ some .clearAll) (remove .marker)

/-! ## The identity -/

/-- `_write_identity`. -/
def writeIdentity (identity : ServerIdentity) : PairingM Unit :=
  replace .identity (identityRecord identity)

/-- Whether there is an identity to load. -/
def identityExists : PairingM Bool :=
  catching
    (do
      stat .identity
      return true)
    fun
      | .notFound => pure false
      | .osError => raise .serverIdentity
      | error => raise error

/-- `_load_identity`. -/
def loadIdentityRecord (allowLegacy : Bool) : PairingM StoredIdentity := do
  let content ← catching (fetch .identity) fun
    | .osError => raise .serverIdentity
    | error => raise error
  match loadIdentity nesting allowLegacy content with
  | .ok identity => return identity
  | .error .serverIdentity => raise .serverIdentity
  | .error .recursion => raise .recursion

/-- `load_persisted_identity_locked`. -/
def loadPersistedIdentity : PairingM StoredIdentity := do
  if ← pairingResetInProgress then raise .identityResetInProgress
  else if ← identityExists then
    -- a visible replacement may not have been committed
    commit
    loadIdentityRecord nesting false
  else raise .missingServerIdentity

/-- The identity with the generation it has, or with a new one. -/
def StoredIdentity.withGeneration (identity : StoredIdentity) (generation : PyString) :
    ServerIdentity where
  identifier := identity.identifier
  privateKey := identity.privateKey
  generation := identity.generation.getD generation

/-- The end of `load_or_create_server_identity_locked`, when nothing is to be recovered. -/
def loadOrCreateIdentity (fresh : ServerIdentity) : PairingM ServerIdentity := do
  if ← identityExists then
    commit
    let stored ← loadIdentityRecord nesting true
    let identity := stored.withGeneration fresh.generation
    onlyIf (stored.generation = none) (writeIdentity identity)
    return identity
  else
    writeIdentity fresh
    return fresh

/-- `_recover_identity_reset_locked`. -/
def recoverIdentityReset (fresh : ServerIdentity) : PairingM ServerIdentity := do
  remove .window
  remove .clients
  remove .identity
  writeIdentity fresh
  clearClearAll nesting
  clearIdentityReset nesting
  return fresh

/-- `_recover_clear_all_locked`. -/
def recoverClearAll : PairingM Unit := do
  remove .window
  remove .clients
  clearClearAll nesting

/-- `load_or_create_server_identity_locked`, with the identity and the generation of a
marker that it may have to make up. -/
def loadOrCreateServerIdentity (fresh : ServerIdentity) (generation : PyString) :
    PairingM ServerIdentity := do
  if ← identityResetInProgress then
    if (← identityResetOperation nesting) = some .clearAll then
      recoverClearAll nesting
      loadOrCreateIdentity nesting fresh
    else recoverIdentityReset nesting fresh
  else if ← clearAllInProgress nesting then
    if ← beginClearAll nesting generation then
      recoverClearAll nesting
      loadOrCreateIdentity nesting fresh
    else recoverIdentityReset nesting fresh
  else loadOrCreateIdentity nesting fresh

/-- The marker that `_cmd_unpair` publishes first: whether it is to remove it, too. -/
def beginUnpair (resetIdentity : Bool) (generation : PyString) : PairingM Bool := do
  if resetIdentity then
    beginIdentityReset nesting generation
    return false
  else beginClearAll nesting generation

/-- The locked part of `_cmd_unpair`. -/
def unpair (resetIdentity : Bool) (generation : PyString) : PairingM Unit := do
  let owned ← beginUnpair nesting resetIdentity generation
  remove .window
  remove .clients
  onlyIf (resetIdentity = true) (remove .identity)
  onlyIf (owned = true) (clearClearAll nesting)

end CompanionBridge
