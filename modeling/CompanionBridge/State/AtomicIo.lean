import CompanionBridge.Library.Interruption
import CompanionBridge.State.PairedStore
import Mathlib.Logic.Function.Basic

/-!
# Durable writes

The strict primitives of `atomic_io`, system call by system call. Each call may
succeed, fail, or be the one at which the process crashes. What a crash leaves
is not what was visible: an entry of the directory may be back at any value it
had since the directory was last synced, and a file that was not synced may hold
anything.

Ownership, permissions of ancestors and access lists are read and never change
what a name maps to; each of those checks is a system call that may fail.
-/

namespace CompanionBridge

open Interruptible

/-! ## The directory -/

/-- Whether a component of the directory's path is there, and whether a sync of
its parent has committed it. -/
inductive PathComponent where
  | missing
  | created
  | synced
  deriving DecidableEq, Repr

structure StateFile where
  content : Bytes := []
  synced : Bool := false
  mode : Nat
  deriving DecidableEq, Repr

/-- A state directory. `former` has the values an entry had since the directory was last synced. -/
structure StateDirectory where
  path : List PathComponent
  entries : String → Option StateFile := fun _ => none
  former : String → List (Option StateFile) := fun _ => []

namespace StateDirectory

/-- The file a name maps to. -/
def lookup (directory : StateDirectory) (name : String) : Option StateFile :=
  if .missing ∈ directory.path then none else directory.entries name

def read (directory : StateDirectory) (name : String) : Option Bytes :=
  (directory.lookup name).map StateFile.content

end StateDirectory

/-- What a crash may make of an entry. -/
def mayBecome : Option StateFile → Option Bytes → Prop
  | none, content => content = none
  | some file, content => ∃ bytes, content = some bytes ∧ (file.synced = true → bytes = file.content)

/-- What may be read under a name after a crash. -/
def StateDirectory.MayRead (directory : StateDirectory) (name : String)
    (content : Option Bytes) : Prop :=
  ((∃ component ∈ directory.path, component ≠ .synced) ∧ content = none) ∨
    (.missing ∉ directory.path ∧
      ∃ value ∈ directory.former name ++ [directory.entries name], mayBecome value content)

/-! ## System calls -/

inductive FileError where
  | notFound
  | exists
  | permission
  | invalidName
  | encoding
  /-- Whatever else a system call fails with. -/
  | failed
  deriving DecidableEq, Repr

/-- What becomes of a system call, and how many bytes of a write it got to. -/
inductive Fault where
  | none
  | fails (progress : Nat)
  | crashes (progress : Nat)
  deriving DecidableEq, Repr

/-- The directory, the faults to come, and whether an `unlink` failed so far. -/
structure FileWorld where
  directory : StateDirectory
  faults : Nat → Fault
  calls : Nat := 0
  unlinkFailed : Bool := false

abbrev FileM := Interruptible FileError FileWorld

/-- A system call. One that does not succeed leaves what `halfway` says. -/
def systemCall (effect : StateDirectory → Except FileError StateDirectory)
    (halfway : Nat → StateDirectory → StateDirectory := fun _ directory => directory) :
    FileM Unit := fun world =>
  let counted := { world with calls := world.calls + 1 }
  match world.faults world.calls with
  | .none =>
      match effect world.directory with
      | .ok directory => (.ok (), { counted with directory := directory })
      | .error error => (.error (.raised error), counted)
  | .fails progress =>
      (.error (.raised .failed), { counted with directory := halfway progress world.directory })
  | .crashes progress =>
      (.error .crashed, { counted with directory := halfway progress world.directory })

/-- A system call that reads, closes, or changes what is not modelled. -/
def plainCall : FileM Unit :=
  systemCall .ok

namespace StateDirectory

/-- Change the file a name maps to, without a change of the name. -/
def modifyFile (directory : StateDirectory) (name : String) (change : StateFile → StateFile) :
    StateDirectory :=
  { directory with
    entries := Function.update directory.entries name ((directory.entries name).map change) }

/-- Make a name map to something else; a crash may still find what it mapped to. -/
def setEntry (directory : StateDirectory) (name : String) (value : Option StateFile) :
    StateDirectory :=
  { directory with
    entries := Function.update directory.entries name value
    former := Function.update directory.former name
      (directory.former name ++ [directory.entries name]) }

/-- `open` with `O_CREAT | O_EXCL`. -/
def createExclusive (directory : StateDirectory) (name : String) (mode : Nat) :
    Except FileError StateDirectory :=
  if (directory.entries name).isSome then .error .exists
  else .ok (directory.setEntry name (some { mode := mode }))

def writeFile (directory : StateDirectory) (name : String) (content : Bytes) : StateDirectory :=
  directory.modifyFile name fun file => { file with content := content, synced := false }

def syncFile (directory : StateDirectory) (name : String) : StateDirectory :=
  directory.modifyFile name fun file => { file with synced := true }

/-- `rename` over whatever the target is. -/
def rename (directory : StateDirectory) (source target : String) :
    Except FileError StateDirectory :=
  match directory.entries source with
  | none => .error .notFound
  | some file => .ok ((directory.setEntry source none).setEntry target (some file))

def unlink (directory : StateDirectory) (name : String) : Except FileError StateDirectory :=
  match directory.entries name with
  | none => .error .notFound
  | some _ => .ok (directory.setEntry name none)

/-- `fsync` of the directory. -/
def sync (directory : StateDirectory) : StateDirectory :=
  { directory with former := fun _ => [] }

def openComponent (directory : StateDirectory) (index : Nat) : Except FileError StateDirectory :=
  if directory.path[index]? = some .missing then .error .notFound else .ok directory

/-- `mkdir` of a component: what is below it is empty. -/
def makeComponent (directory : StateDirectory) (index : Nat) : StateDirectory :=
  { path := directory.path.set index .created }

/-- `fsync` of the directory that has a component. -/
def syncComponent (directory : StateDirectory) (index : Nat) : StateDirectory :=
  { directory with path := directory.path.set index .synced }

end StateDirectory

def closeDescriptor : FileM Unit :=
  plainCall

def unlinkAt (name : String) : FileM Unit := fun world =>
  let ended := (systemCall fun directory => directory.unlink name).perform world
  match world.faults world.calls with
  | .fails _ => (ended.1, { ended.2 with unlinkFailed := true })
  | _ => ended

/-- `_fsync_dir_strict`. -/
def fsyncDirStrict : FileM Unit :=
  systemCall fun directory => .ok directory.sync

/-! ## Opening the directory -/

/-- Owner, mode and access list of an open directory. -/
def validateDirectory : FileM Unit := do
  plainCall
  plainCall

/-- `_validate_new_project_directory_fd`, which also syncs the new directory. -/
def validateNewProjectDirectory : FileM Unit := do
  plainCall
  plainCall
  plainCall
  plainCall

/-- Open a component, or make it; whether it was there. -/
def openOrMakeComponent (create : Bool) (index : Nat) : FileM Bool :=
  catching
    (do
      systemCall fun directory => directory.openComponent index
      return true)
    fun error =>
      if error = .notFound ∧ create = true then do
        systemCall fun directory => .ok (directory.makeComponent index)
        systemCall fun directory => directory.openComponent index
        return false
      else raise error

def validateComponent (existing : Bool) : FileM Unit :=
  if existing then validateDirectory else validateNewProjectDirectory

/-- Sync the parent of a component, when the walk may create. -/
def commitComponent (create : Bool) (index : Nat) : FileM Unit :=
  if create then systemCall fun directory => .ok (directory.syncComponent index) else pure ()

/-- One step of the descriptor walk. -/
def openDurableComponent (create : Bool) (index : Nat) : FileM Unit := do
  let existing ← openOrMakeComponent create index
  onError
    (do
      validateComponent existing
      commitComponent create index)
    (ignoring closeDescriptor)
  onError closeDescriptor (ignoring closeDescriptor)

/-- The components from `index` on. -/
def openDurableComponents (create : Bool) : Nat → Nat → FileM Unit
  | 0, _ => pure ()
  | remaining + 1, index => do
      openDurableComponent create index
      openDurableComponents create remaining (index + 1)

/-- `open_durable_directory_handle`. -/
def openDurableDirectoryHandle (create : Bool) : FileM Unit := do
  plainCall
  onError
    (do
      validateDirectory
      let length ← Handler.read fun world : FileWorld => world.directory.path.length
      openDurableComponents create length 0)
    (ignoring closeDescriptor)

/-- `open_durable_directory` around a body. -/
def withDurableDirectory {Result : Type} (create : Bool) (body : FileM Result) : FileM Result := do
  openDurableDirectoryHandle create
  let result ← onError body (ignoring closeDescriptor)
  closeDescriptor
  return result

/-! ## The primitives -/

def privateFileMode : Nat := 0o600

/-- `_validate_state_entry_name`, for a name that is the last part of a path. -/
def isStateEntryName (name : String) : Bool :=
  name ≠ "" && name ≠ "." && name ≠ ".." && !name.toList.contains '/'

/-- `_validate_private_file_fd` of a file just created. -/
def validatePrivateFile (name : String) : FileM Unit := do
  plainCall
  plainCall
  plainCall
  let file ← Handler.read fun world : FileWorld => world.directory.entries name
  if file.map StateFile.mode = some privateFileMode then
    systemCall fun directory => .ok (directory.syncFile name)
  else raise .permission

def temporaryName (name token : String) : String :=
  "." ++ name ++ "." ++ token ++ ".tmp"

/-- `_create_private_temp_file`, with the tokens it draws. -/
def createPrivateTempFile (name : String) (mode : Nat) : Nat → (Nat → String) → FileM String
  | 0, _ => raise .exists
  | attempts + 1, tokens => do
      let temporary := temporaryName name (tokens 0)
      let created ← catching
        (do
          systemCall fun directory => directory.createExclusive temporary privateFileMode
          return true)
        -- a name that is taken is tried again with another token
        fun error => if error = .exists then pure false else raise error
      if created then
        onError
          (do
            systemCall fun directory =>
              .ok (directory.modifyFile temporary fun file => { file with mode := mode })
            validatePrivateFile temporary
            return temporary)
          (do
            ignoring closeDescriptor
            ignoring (unlinkAt temporary))
      else createPrivateTempFile name mode attempts fun n => tokens (n + 1)

/-- Write and flush through a buffered handle, and sync the file. -/
def writeThrough (temporary : String) (encoded : Option Bytes) : FileM Unit := do
  onError
    (match encoded with
      | none => raise .encoding
      | some content => do
          -- a buffered write may reach the file early, in part
          systemCall (fun directory => .ok (directory.writeFile temporary []))
            fun progress directory => directory.writeFile temporary (content.take progress)
          systemCall (fun directory => .ok (directory.writeFile temporary content))
            fun progress directory => directory.writeFile temporary (content.take progress)
          systemCall fun directory => .ok (directory.syncFile temporary))
    (ignoring closeDescriptor)
  closeDescriptor

/-- `_atomic_write_text_at`. -/
def atomicWriteTextAt (tokens : Nat → String) (encode : String → Option Bytes)
    (name data : String) (mode : Nat) : FileM Unit := do
  let temporary ← createPrivateTempFile name mode 32 tokens
  onError
    (do
      onError plainCall (ignoring closeDescriptor)
      writeThrough temporary (encode data)
      systemCall fun directory => directory.rename temporary name
      fsyncDirStrict)
    (ignoring (unlinkAt temporary))

def durableAtomicWriteText (tokens : Nat → String) (encode : String → Option Bytes)
    (name data : String) (mode : Nat := privateFileMode) : FileM Unit :=
  if isStateEntryName name then
    withDurableDirectory true (atomicWriteTextAt tokens encode name data mode)
  else raise .invalidName

def durableFsyncParent (name : String) : FileM Unit :=
  if isStateEntryName name then withDurableDirectory false fsyncDirStrict
  else raise .invalidName

/-- `durable_unlink`; a target or a directory that is absent is not an error. -/
def durableUnlink (name : String) : FileM Bool :=
  if isStateEntryName name then
    catching
      (withDurableDirectory false do
        let removed ← catching
          (do
            unlinkAt name
            return true)
          fun error => if error = .notFound then pure false else raise error
        fsyncDirStrict
        return removed)
      fun error => if error = .notFound then pure false else raise error
  else raise .invalidName

end CompanionBridge
