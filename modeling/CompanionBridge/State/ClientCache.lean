import CompanionBridge.State.AtomicIo
import CompanionBridge.State.DirectoryWalk
import CompanionBridge.State.EnrollmentRecords

/-!
# The cached paired clients

A `PairedClients` keeps what it has read, the stamps of the records it has read it from,
and a descriptor of every directory on the way to them. While no stamp has changed it
answers from what it keeps; otherwise it walks the whole path again.
-/

namespace CompanionBridge

open Interruptible

/-! ## Records -/

/-- The `_StateStamp` of a record. -/
structure RecordStat extends DirectoryStat where
  size : Nat
  deriving DecidableEq, Repr

/-- The calls of a walk, and those on the records of a directory. -/
structure StateCalls (Fd World : Type) extends DirectoryCalls Fd World where
  openRecord : Fd → String → DirectoryCall World Fd
  lstatRecord : Fd → String → DirectoryCall World RecordStat
  fstatRecord : Fd → DirectoryCall World RecordStat
  readRecord : Fd → DirectoryCall World Bytes

/-- The `OSError`s of a record. -/
inductive RecordFileError where
  | inspection (error : DirectoryError)
  | notRegular
  | foreignOwner
  | notPrivate
  deriving DecidableEq, Repr

/-- Whether the error is a `FileNotFoundError`. -/
def RecordFileError.isNotFound (error : RecordFileError) : Bool :=
  error = .inspection (.system enoent)

abbrev RecordM (World Result : Type) : Type :=
  Interruptible RecordFileError World Result

/-- `stat.S_ISREG`. -/
def isRegularMode (mode : Nat) : Bool :=
  mode &&& 0o170000 = 0o100000

section Records

variable {Fd World Result : Type}

/-- Calls and checks of a descriptor, as part of a record's. -/
def inspecting (handler : DirectoryM World Result) : RecordM World Result := fun world =>
  match handler.perform world with
  | (.ok result, after) => (.ok result, after)
  | (.error (.raised error), after) => (.error (.raised (.inspection error)), after)
  | (.error .crashed, after) => (.error .crashed, after)

/-- What `_validate_private_file_fd` makes of the metadata of a file that it did not create. -/
def validatePrivateFileMetadata (effectiveUid : Nat) (info : RecordStat) : RecordM World Unit :=
  if ¬ isRegularMode info.mode then raise .notRegular
  else if info.uid ≠ effectiveUid then raise .foreignOwner
  else if permissionBits info.mode ≠ privateFileMode then raise .notPrivate
  else pure ()

variable (calls : StateCalls Fd World)

/-- `_validate_private_file_fd` of a file that was there. -/
def validatePrivateFileFd (fd : Fd) : RecordM World Unit := do
  let info ← inspecting (calls.fstatRecord fd).run
  validatePrivateFileMetadata calls.effectiveUid info
  inspecting (validateProjectAclFd calls.platform (calls.object fd) false)

/-- `_close_fd_ignoring_errors`. -/
def closeRecord (fd : Fd) : RecordM World Unit :=
  inspecting (closeFdIgnoringErrors calls.toDirectoryCalls fd)

/-- `_open_private_state_file_at`. -/
def openPrivateStateFileAt (directory : Fd) (name : String) : RecordM World Fd := do
  let fd ← inspecting (calls.openRecord directory name).run
  onError (validatePrivateFileFd calls fd) (closeRecord calls fd)
  return fd

/-- `read_private_state_text_at`, before the text is decoded. -/
def readPrivateStateTextAt (directory : Fd) (name : String) :
    RecordM World (Bytes × RecordStat) := do
  let fd ← openPrivateStateFileAt calls directory name
  let info ← onError (inspecting (calls.fstatRecord fd).run) (closeRecord calls fd)
  let content ← onError (inspecting (calls.readRecord fd).run) (closeRecord calls fd)
  inspecting (calls.close fd).run
  return (content, info)

/-- `private_state_file_stat_at`. -/
def privateStateFileStatAt (directory : Fd) (name : String) : RecordM World RecordStat := do
  let fd ← openPrivateStateFileAt calls directory name
  let info ← onError (inspecting (calls.fstatRecord fd).run) (closeRecord calls fd)
  closeRecord calls fd
  return info

/-- `private_state_file_lstat_at`. -/
def privateStateFileLstatAt (directory : Fd) (name : String) :
    RecordM World (Option RecordStat) := do
  match ← inspecting (calls.lstatRecord directory name).tried with
  | .ok info => return some info
  | .error errno => if errno = enoent then return none else raise (.inspection (.system errno))

end Records

/-! ## Retained chains -/

section Chains

variable {Fd World : Type} (calls : DirectoryCalls Fd World)

/-- Whether entries still have their stamps, after the entry of `parent`. -/
def entriesAreCurrent : Option Fd → List (ChainEntry Fd) → DirectoryM World Bool
  | _, [] => pure true
  | parent, entry :: rest => do
      let info ← (calls.object entry.fd).fstat.run
      if info ≠ entry.stamp then return false
      else
        match parent with
        | none => entriesAreCurrent (some entry.fd) rest
        | some parent => do
            let current ← (calls.statAt parent entry.childName).run
            if current ≠ entry.stamp then return false
            else entriesAreCurrent (some entry.fd) rest

/-- `retained_directory_chain_is_current`. -/
def retainedDirectoryChainIsCurrent (chain : DurableDirectoryChain Fd) : DirectoryM World Bool :=
  catching (entriesAreCurrent calls none chain.entries) fun _ => return false

/-- `retained_directory_chains_match`. -/
def retainedDirectoryChainsMatch (previous replacement : DurableDirectoryChain Fd) : Bool :=
  previous.entries.map (fun entry => directoryIdentity entry.stamp) =
    replacement.entries.map fun entry => directoryIdentity entry.stamp

end Chains

/-! ## The cache -/

/-- What the methods of a `PairedClients` raise. -/
inductive ClientsFault where
  | pairedClients
  | recursion
  deriving DecidableEq, Repr

/-- The stamps of the three records that a decision rests on. -/
structure RecordStamps where
  clients : Option RecordStat := none
  legacyClearAll : Option RecordStat := none
  identityReset : Option RecordStat := none
  deriving DecidableEq, Repr

structure ClientCache (Fd : Type) where
  clients : PairedMap := []
  stamps : RecordStamps := {}
  chain : Option (DurableDirectoryChain Fd) := none
  closed : Bool := false
  unsafeDirectory : Bool := false

/-- The path of the store: its directory from the root, and its name. -/
structure StorePath where
  parent : List String
  name : String

def legacyClearAllTombstoneFilename : String := "pairing-clear-all-in-progress.json"

def identityResetTombstoneFilename : String := "identity-reset-in-progress.json"

abbrev CacheM (Fd World Result : Type) : Type :=
  Interruptible ClientsFault (World × ClientCache Fd) Result

section Methods

variable {Fd World Error Result : Type}

/-- A handler of the world as the body of a `try`. -/
def attempted (handler : Interruptible Error World Result) :
    CacheM Fd World (Except Error Result) := fun whole =>
  match handler.perform whole.1 with
  | (.ok result, after) => (.ok (.ok result), after, whole.2)
  | (.error (.raised error), after) => (.ok (.error error), after, whole.2)
  | (.error .crashed, after) => (.error .crashed, after, whole.2)

/-- A `try` whose `except OSError` raises a `PairedClientsError`. -/
def guarded (handler : Interruptible Error World Result) : CacheM Fd World Result := do
  match ← attempted handler with
  | .ok result => return result
  | .error _ => raise .pairedClients

def cacheOf : CacheM Fd World (ClientCache Fd) :=
  Handler.read Prod.snd

def setCache (change : ClientCache Fd → ClientCache Fd) : CacheM Fd World Unit :=
  Handler.update fun whole => (whole.1, change whole.2)

/-- `_ensure_mutable`. -/
def ensureMutable : CacheM Fd World Unit := do
  let cache ← cacheOf
  if cache.closed || cache.unsafeDirectory then raise .pairedClients else return ()

variable (calls : StateCalls Fd World)

/-- `_cheap_stamps`. -/
def cheapStamps (path : StorePath) (directory : Fd) : RecordM World RecordStamps := do
  let clients ← privateStateFileLstatAt calls directory path.name
  let legacyClearAll ←
    privateStateFileLstatAt calls directory legacyClearAllTombstoneFilename
  let identityReset ←
    privateStateFileLstatAt calls directory identityResetTombstoneFilename
  return { clients, legacyClearAll, identityReset }

/-- `_read`. -/
def readStore (nesting : Nesting) (path : StorePath) (directory : Fd) :
    CacheM Fd World (PairedMap × Option RecordStat) := do
  match ← attempted (readPrivateStateTextAt calls directory path.name) with
  | .error error => if error.isNotFound then return ([], none) else raise .pairedClients
  | .ok (content, info) =>
      match readClients nesting content with
      | .ok clients => return (clients, some info)
      | .error .pairedClients => raise .pairedClients
      | .error .recursion => raise .recursion

/-- `_validated_tombstone_stamp`. -/
def validatedTombstoneStamp (directory : Fd) (name : String) :
    CacheM Fd World (Option RecordStat) := do
  match ← attempted (privateStateFileStatAt calls directory name) with
  | .ok info => return some info
  | .error error => if error.isNotFound then return none else raise .pairedClients

/-- One round of `_reload_from_directory`: whether all that it read belongs together. -/
def reloadRound (nesting : Nesting) (path : StorePath) (directory : Fd) :
    CacheM Fd World Bool := do
  let before ← guarded (cheapStamps calls path directory)
  let (clients, readStamp) ← readStore calls nesting path directory
  let legacyClearAll ← validatedTombstoneStamp calls directory legacyClearAllTombstoneFilename
  let identityReset ← validatedTombstoneStamp calls directory identityResetTombstoneFilename
  let after ← guarded (cheapStamps calls path directory)
  if before = after ∧ before = ⟨readStamp, legacyClearAll, identityReset⟩ then
    setCache fun cache => { cache with clients, stamps := after }
    return true
  else return false

/-- `_reload_from_directory`. -/
def reloadFromDirectory (nesting : Nesting) (path : StorePath) (directory : Fd) :
    CacheM Fd World Unit := do
  if ← reloadRound calls nesting path directory then return ()
  else if ← reloadRound calls nesting path directory then return ()
  else raise .pairedClients

/-- `close_durable_directory_chain`, whose closes ignore their errors. -/
def closeChain (chain : DurableDirectoryChain Fd) : CacheM Fd World Unit := do
  let _ ← attempted (closeDurableDirectoryChain calls.toDirectoryCalls chain)

/-- `_close_directory`. -/
def closeDirectory : CacheM Fd World Unit := do
  let cache ← cacheOf
  setCache fun cache => { cache with chain := none }
  match cache.chain with
  | none => return ()
  | some chain => closeChain calls chain

/-- `_set_empty_without_directory`. -/
def setEmptyWithoutDirectory : CacheM Fd World Unit :=
  setCache fun cache => { cache with clients := [], stamps := {} }

/-- `_mark_unsafe_directory`. -/
def markUnsafeDirectory : CacheM Fd World Unit := do
  setCache fun cache => { cache with unsafeDirectory := true, clients := [], stamps := {} }
  closeDirectory calls

/-- `_adopt_directory_chain`. -/
def adoptDirectoryChain (chain : DurableDirectoryChain Fd) : CacheM Fd World Unit := do
  let cache ← cacheOf
  setCache fun cache => { cache with chain := some chain }
  match cache.chain with
  | none => return ()
  | some previous => closeChain calls previous

/-- `chain.final`; every chain has an entry. -/
def finalDirectory (chain : DurableDirectoryChain Fd) : CacheM Fd World Fd :=
  match chain.entries.getLast? with
  | some entry => return entry.fd
  | none => Handler.lift (.error .crashed)

variable [DecidableEq Fd]

/-- `open_durable_directory_chain`, of a directory that is not to be created. -/
def openChain (path : StorePath) : DirectoryM World (DurableDirectoryChain Fd) :=
  openDurableDirectoryChain calls.toDirectoryCalls path.parent false

/-- `_revalidate_retained_directory_chain`: the chain that is then retained. -/
def revalidateRetainedDirectoryChain (path : StorePath) (retained : DurableDirectoryChain Fd) :
    CacheM Fd World (DurableDirectoryChain Fd) := do
  match ← attempted (openChain calls path) with
  | .error _ =>
      markUnsafeDirectory calls
      raise .pairedClients
  | .ok replacement =>
      if retainedDirectoryChainsMatch retained replacement then
        adoptDirectoryChain calls replacement
        return replacement
      else
        markUnsafeDirectory calls
        closeChain calls replacement
        raise .pairedClients

/-- `_reload`. -/
def reloadCache (nesting : Nesting) (path : StorePath) (revalidatePath : Bool) :
    CacheM Fd World Unit := do
  ensureMutable
  let cache ← cacheOf
  match cache.chain with
  | none =>
      match ← attempted (openChain calls path) with
      | .error (.system errno) =>
          -- no directory yet means no client yet
          if errno = enoent then setEmptyWithoutDirectory else raise .pairedClients
      | .error _ => raise .pairedClients
      | .ok chain =>
          adoptDirectoryChain calls chain
          let directory ← finalDirectory chain
          reloadFromDirectory calls nesting path directory
  | some retained =>
      let chain ←
        -- the retained chain is trusted until the path is looked at again
        if revalidatePath then revalidateRetainedDirectoryChain calls path retained
        else pure retained
      let directory ← finalDirectory chain
      reloadFromDirectory calls nesting path directory

/-- `_refresh_if_changed`. -/
def refreshIfChanged (nesting : Nesting) (path : StorePath) : CacheM Fd World Unit := do
  ensureMutable
  let cache ← cacheOf
  match cache.chain with
  | none => reloadCache calls nesting path false
  | some chain =>
      match ← attempted (retainedDirectoryChainIsCurrent calls.toDirectoryCalls chain) with
      | .ok true =>
          let directory ← finalDirectory chain
          let current ← guarded (cheapStamps calls path directory)
          if current = cache.stamps then return ()
          else reloadCache calls nesting path true
      | _ => reloadCache calls nesting path true

/-- `_authority_reset_in_progress`. -/
def authorityResetInProgress (nesting : Nesting) (path : StorePath) : CacheM Fd World Bool := do
  refreshIfChanged calls nesting path
  let cache ← cacheOf
  return cache.stamps.legacyClearAll.isSome || cache.stamps.identityReset.isSome

namespace PairedClients

/-- A `try` whose `except PairedClientsError` returns. -/
def otherwise (answer : Result) (body : CacheM Fd World Result) : CacheM Fd World Result :=
  catching body fun
    | .pairedClients => return answer
    | .recursion => raise .recursion

/-- `ltpk`. -/
def ltpk (nesting : Nesting) (path : StorePath) (identifier : PyString) :
    CacheM Fd World (Option Bytes) :=
  otherwise none do
    if ← authorityResetInProgress calls nesting path then return none
    else
      let cache ← cacheOf
      return ((cache.clients.lookup identifier).filter (· ≠ [])).bind Bytes.fromHex

/-- `reset_in_progress`. -/
def resetInProgress (nesting : Nesting) (path : StorePath) : CacheM Fd World Bool :=
  otherwise true (authorityResetInProgress calls nesting path)

/-- `authorizes`. -/
def authorizes (nesting : Nesting) (path : StorePath) (identifier : PyString) (ltpk : Bytes) :
    CacheM Fd World Bool :=
  otherwise false do
    if ← authorityResetInProgress calls nesting path then return false
    else
      let cache ← cacheOf
      return cache.clients.lookup identifier = some (PyString.ofString ltpk.hex)

/-- `identifiers`, before they are sorted; `count` and `empty` read the same. -/
def identifiers (nesting : Nesting) (path : StorePath) : CacheM Fd World (List PyString) := do
  reloadCache calls nesting path true
  let cache ← cacheOf
  return cache.clients.map Prod.fst

/-- `close`. -/
def close : CacheM Fd World Unit := do
  let cache ← cacheOf
  if cache.closed then return ()
  else
    setCache fun cache => { cache with closed := true }
    closeDirectory calls

/-- `__init__`. -/
def opened (nesting : Nesting) (path : StorePath) : CacheM Fd World Unit :=
  onError (reloadCache calls nesting path false) (close calls)

end PairedClients

end Methods

end CompanionBridge
