import CompanionBridge.Library.LocalState
import CompanionBridge.State.DarwinAcl

/-!
# Walking to a state directory

Two walks open a path component by component, each through the descriptor of the
one before, and check what they open. One keeps the last descriptor and closes
the others on the way. The other keeps all of them, with a stamp of each.
-/

namespace CompanionBridge

open Interruptible

/-! ## Calls -/

/-- `os.stat_result`, as far as it is looked at. -/
structure DirectoryStat where
  dev : Nat
  ino : Nat
  mode : Nat
  uid : Nat
  nlink : Nat
  mtimeNs : Nat
  ctimeNs : Nat
  deriving DecidableEq, Repr

inductive Platform where
  | linux
  | darwin
  | other
  deriving DecidableEq, Repr

/-- The calls on one open descriptor that leave the descriptors alone. -/
structure ObjectCalls (World : Type) where
  fstat : DirectoryCall World DirectoryStat
  fsync : DirectoryCall World Unit
  posixAcl : AclCalls World
  darwinAcl : DarwinAclCalls World

/-- The calls of a walk, and what it runs as. -/
structure DirectoryCalls (Fd World : Type) where
  platform : Platform
  effectiveUid : Nat
  openRoot : DirectoryCall World Fd
  openAt : Fd → String → DirectoryCall World Fd
  mkdirAt : Fd → String → DirectoryCall World Unit
  /-- `os.stat` without following a link; the name may be `None`. -/
  statAt : Fd → Option String → DirectoryCall World DirectoryStat
  close : Fd → DirectoryCall World Unit
  object : Fd → ObjectCalls World

/-! ## Checks of one directory -/

def privateDirectoryMode : Nat := 0o700

/-- `stat.S_ISDIR`. -/
def isDirectoryMode (mode : Nat) : Bool :=
  mode &&& 0o170000 = 0o040000

/-- `stat.S_IMODE`. -/
def permissionBits (mode : Nat) : Nat :=
  mode &&& 0o7777

/-- `stat.S_ISVTX`. -/
def stickyBit : Nat := 0o1000

/-- `_validate_project_directory_metadata`. -/
def validateProjectDirectoryMetadata (effectiveUid : Nat) (info : DirectoryStat) :
    Except DirectoryError Unit :=
  if ¬ isDirectoryMode info.mode then .error .notADirectory
  else if info.uid ≠ effectiveUid then .error .foreignOwner
  else if permissionBits info.mode ≠ privateDirectoryMode then .error .notPrivate
  else .ok ()

/-- `_validate_directory_metadata`. -/
def validateDirectoryMetadata (effectiveUid : Nat) (info : DirectoryStat) (final : Bool) :
    Except DirectoryError Unit :=
  if ¬ isDirectoryMode info.mode then .error .notADirectory
  else if final then validateProjectDirectoryMetadata effectiveUid info
  else if info.uid ∉ [0, effectiveUid] then .error .untrustedOwner
  else if permissionBits info.mode &&& 0o022 ≠ 0 ∧ info.mode &&& stickyBit = 0 then
    .error .unprotectedAncestor
  else .ok ()

section Checks

variable {World : Type}

/-- A verdict, raising the error of a refusal. -/
def heed : Except DirectoryError Unit → DirectoryM World Unit
  | .ok () => pure ()
  | .error error => raise error

/-- `_validate_directory_fd`. -/
def validateDirectoryFd (effectiveUid : Nat) (object : ObjectCalls World) (final : Bool) :
    DirectoryM World Unit := do
  let info ← object.fstat.run
  heed (validateDirectoryMetadata effectiveUid info final)

/-- `_validate_project_acl_fd`. -/
def validateProjectAclFd (platform : Platform) (object : ObjectCalls World) (created : Bool) :
    DirectoryM World Unit :=
  match platform with
  | .linux => LinuxAcl.validatePosixAcl object.posixAcl created false
  | .darwin => DarwinAcl.validateExtendedAcl object.darwinAcl created false
  | .other => pure ()

/-- `_validate_ancestor_acl_fd`. -/
def validateAncestorAclFd (platform : Platform) (object : ObjectCalls World) :
    DirectoryM World Unit :=
  match platform with
  | .linux => LinuxAcl.validatePosixAcl object.posixAcl false true
  | .darwin => DarwinAcl.validateExtendedAcl object.darwinAcl false true
  | .other => pure ()

/-- What `_validate_new_project_directory_fd` looks at before the access list. -/
def validateNewDirectoryOwner (effectiveUid : Nat) (info : DirectoryStat) :
    Except DirectoryError Unit :=
  if ¬ isDirectoryMode info.mode then .error .notADirectory
  else if info.uid ≠ effectiveUid then .error .foreignOwner
  else .ok ()

/-- `_validate_new_project_directory_fd`. -/
def validateNewProjectDirectoryFd (platform : Platform) (effectiveUid : Nat)
    (object : ObjectCalls World) : DirectoryM World Unit := do
  let info ← object.fstat.run
  heed (validateNewDirectoryOwner effectiveUid info)
  validateProjectAclFd platform object true
  let info ← object.fstat.run
  heed (validateProjectDirectoryMetadata effectiveUid info)
  object.fsync.run

/-- The checks of one component that both walks make. -/
def validateOpenedComponent (platform : Platform) (effectiveUid : Nat) (object : ObjectCalls World)
    (created final : Bool) : DirectoryM World Unit :=
  if created then validateNewProjectDirectoryFd platform effectiveUid object
  else do
    validateDirectoryFd effectiveUid object final
    if final then validateProjectAclFd platform object false
    else validateAncestorAclFd platform object

end Checks

/-! ## Walking -/

section Walks

variable {Fd World : Type} (calls : DirectoryCalls Fd World)

/-- `_close_fd_ignoring_errors`. -/
def closeFdIgnoringErrors (fd : Fd) : DirectoryM World Unit :=
  ignoring (calls.close fd).run

def enoent : Nat := 2

def eexist : Nat := 17

/-- Open a component, making it where it is missing and `create` says so; also
whether it was made here. -/
def openComponentFd (parent : Fd) (component : String) (create : Bool) :
    DirectoryM World (Fd × Bool) := do
  match ← (calls.openAt parent component).tried with
  | .ok child => return (child, false)
  | .error errno =>
      if errno = enoent ∧ create then do
        let created ←
          match ← (calls.mkdirAt parent component).tried with
          | .ok () => pure true
          | .error errno => if errno = eexist then pure false else raise (.system errno)
        let child ← (calls.openAt parent component).run
        return (child, created)
      else raise (.system errno)

/-- A handler of the world in a walk with local variables. -/
abbrev inWorld {Locals Result : Type} (handler : DirectoryM World Result) :
    DirectoryM (World × Locals) Result :=
  (StatePart.outer World Locals).lift handler

/-- The loop of `_open_durable_directory`; the local variable is `current_fd`. -/
def descend (create : Bool) : List String → DirectoryM (World × Fd) Unit
  | [] => pure ()
  | component :: rest => do
      let current ← Handler.read Prod.snd
      let (child, created) ← inWorld (openComponentFd calls current component create)
      inWorld (onError
        (do
          validateOpenedComponent calls.platform calls.effectiveUid (calls.object child) created
            rest.isEmpty
          if create then (calls.object current).fsync.run)
        (closeFdIgnoringErrors calls child))
      inWorld (onError (calls.close current).run (closeFdIgnoringErrors calls child))
      Handler.update fun whole => (whole.1, child)
      descend create rest

/-- `_open_durable_directory`. -/
def openDurableDirectory (components : List String) (create : Bool) :
    DirectoryM World (List String × Fd) := do
  let root ← calls.openRoot.run
  withLocals root
    (do
      inWorld (validateDirectoryFd calls.effectiveUid (calls.object root) false)
      inWorld (validateAncestorAclFd calls.platform (calls.object root))
      -- with no component to walk the root itself is the final directory
      if components = [] then do
        inWorld (validateDirectoryFd calls.effectiveUid (calls.object root) true)
        inWorld (validateProjectAclFd calls.platform (calls.object root) false)
      else descend calls create components
      let current ← Handler.read Prod.snd
      return (components, current))
    -- an error closes the descriptor the walk is at
    fun error current => do
      closeFdIgnoringErrors calls current
      raise error

/-- `_DurableDirectoryChainEntry`: a retained directory with its path, its name in
the entry before, and its stamp. -/
structure ChainEntry (Fd : Type) where
  path : List String
  fd : Fd
  childName : Option String
  stamp : DirectoryStat

structure DurableDirectoryChain (Fd : Type) where
  path : List String
  entries : List (ChainEntry Fd)

/-- `_directory_identity_from_stamp`. -/
def directoryIdentity (stamp : DirectoryStat) : Nat × Nat :=
  (stamp.dev, stamp.ino)

/-- `_restamp_directory_chain`, from one entry on; `parent` is the descriptor of
the entry before. -/
def restampEntries : Option Fd → List (ChainEntry Fd) → DirectoryM World (List (ChainEntry Fd))
  | _, [] => pure []
  | parent, entry :: rest => do
      let info ← (calls.object entry.fd).fstat.run
      match parent with
      | none => pure ()
      | some parent => do
          let linked ← (calls.statAt parent entry.childName).run
          if directoryIdentity linked ≠ directoryIdentity info then raise .changedDuringValidation
      let refreshed ← restampEntries (some entry.fd) rest
      return { entry with stamp := info } :: refreshed

def restampDirectoryChain (entries : List (ChainEntry Fd)) :
    DirectoryM World (List (ChainEntry Fd)) :=
  restampEntries calls none entries

/-- Append an entry for a directory, with the stamp it has now. -/
def retain (path : List String) (fd : Fd) (childName : Option String) :
    DirectoryM (World × List (ChainEntry Fd)) Unit := do
  let stamp ← inWorld (calls.object fd).fstat.run
  Handler.update fun whole => (whole.1, whole.2 ++ [⟨path, fd, childName, stamp⟩])

/-- Close a component that the walk has opened and not yet retained. -/
def closeUnretained [DecidableEq Fd] (child : Fd) :
    DirectoryM (World × List (ChainEntry Fd)) Unit := do
  let entries ← Handler.read Prod.snd
  if entries.getLast?.map ChainEntry.fd = some child then return ()
  else inWorld (closeFdIgnoringErrors calls child)

/-- The loop of `_open_durable_directory_chain`, after the components `walked`;
the local variable is `entries`. -/
def descendRetaining [DecidableEq Fd] (create : Bool) :
    Fd → List String → List String → DirectoryM (World × List (ChainEntry Fd)) Unit
  | _, _, [] => pure ()
  | current, walked, component :: rest => do
      let (child, created) ← inWorld (openComponentFd calls current component create)
      onError
        (do
          inWorld (validateOpenedComponent calls.platform calls.effectiveUid (calls.object child)
            created rest.isEmpty)
          if create then inWorld (calls.object current).fsync.run
          retain calls (walked ++ [component]) child (some component))
        (closeUnretained calls child)
      descendRetaining create child (walked ++ [component]) rest

/-- Close the descriptors of the entries, the last one first. -/
def closeEntries : List (ChainEntry Fd) → DirectoryM World Unit
  | [] => pure ()
  | entry :: rest => do
      closeEntries rest
      closeFdIgnoringErrors calls entry.fd

/-- The checks of the root, up to its retention. -/
def retainRoot (components : List String) (root : Fd) :
    DirectoryM (World × List (ChainEntry Fd)) Unit := do
  inWorld (validateDirectoryFd calls.effectiveUid (calls.object root) components.isEmpty)
  inWorld
    (if components = [] then validateProjectAclFd calls.platform (calls.object root) false
    else validateAncestorAclFd calls.platform (calls.object root))
  retain calls [] root none

/-- `_open_durable_directory_chain`, once the root is open. -/
def openedChain [DecidableEq Fd] (components : List String) (create : Bool) (root : Fd) :
    DirectoryM World (DurableDirectoryChain Fd) :=
  withLocals []
    (do
      retainRoot calls components root
      descendRetaining calls create root [] components
      let entries ← Handler.read Prod.snd
      let refreshed ← inWorld (restampDirectoryChain calls entries)
      return ⟨components, refreshed⟩)
    fun error entries => do
      closeEntries calls entries
      raise error

/-- `_open_durable_directory_chain`. -/
def openDurableDirectoryChain [DecidableEq Fd] (components : List String) (create : Bool) :
    DirectoryM World (DurableDirectoryChain Fd) := do
  let root ← calls.openRoot.run
  openedChain calls components create root

/-- `close_durable_directory_chain`. -/
def closeDurableDirectoryChain (chain : DurableDirectoryChain Fd) : DirectoryM World Unit :=
  closeEntries calls chain.entries

end Walks

end CompanionBridge
