import CompanionBridge.Library.Interruption
import CompanionBridge.Deploy.ImageMetadata

/-!
# The commands of the deployment manager

The manager is a script of commands, each of which may succeed, fail, or be the one
at which the script is killed. A failure is a status that the command's caller may
look at, or ends the script.
-/

namespace CompanionBridge

open Interruptible

namespace Manager

/-! ## The host -/

/-- The files of a bundle. -/
inductive BundleAsset where
  | manager
  | compose
  | configTemplate
  deriving DecidableEq, Repr

/-- The files that the manager reads and writes. -/
inductive ManagedFile where
  | asset (asset : BundleAsset)
  | imageEnv
  | bundleTransaction
  | rollbackTransaction
  | rollbackBackupEnv
  | rollbackMarkerSource
  | staged (workspace : Text) (asset : BundleAsset)
  | backup (workspace : Text) (asset : BundleAsset)
  | backupEnv (workspace : Text)
  | markerSource (workspace : Text)
  deriving DecidableEq, Repr

/-- The workspace that a file is in. -/
def ManagedFile.workspace? : ManagedFile → Option Text
  | .staged workspace _ => some workspace
  | .backup workspace _ => some workspace
  | .backupEnv workspace => some workspace
  | .markerSource workspace => some workspace
  | _ => none

/-- The files with their contents, and the image that the container runs, if it
does. `trapRan` says whether the exit trap ever ran while a bundle transaction was
marked. -/
structure Installation where
  files : ManagedFile → Option Text
  container : Option Text
  trapRan : Bool := false

namespace Installation

def write (installation : Installation) (file : ManagedFile) (content : Text) : Installation :=
  { installation with files := Function.update installation.files file (some content) }

def remove (installation : Installation) (file : ManagedFile) : Installation :=
  { installation with files := Function.update installation.files file none }

/-- Without the files of a workspace, but for those that survive. -/
def removeWorkspace (installation : Installation) (workspace : Text)
    (survives : ManagedFile → Bool) : Installation :=
  { installation with
    files := fun file =>
      if file.workspace? = some workspace ∧ survives file = false then none
      else installation.files file }

end Installation

inductive StepOutcome where
  | succeeds
  | fails
  | killed
  deriving DecidableEq, Repr

/-- What `docker inspect` says of a container. -/
inductive Health where
  | healthy
  | unhealthy
  | exited
  | starting
  deriving DecidableEq, Repr

/-- The host of an installation: what becomes of each command, and what the commands
outside the manager do. -/
structure Host where
  installation : Installation
  step : Nat
  /-- `$PRIVATE_STATE_DIR`. -/
  privateStateDir : Text
  outcomes : Nat → StepOutcome
  /-- How far a write gets that does not succeed, if it opens its file. -/
  written : Nat → Option Nat
  /-- The container that `docker compose up` leaves when it does not succeed. -/
  wreckage : Nat → Option Text
  /-- The files that an `rm -rf` leaves when it does not succeed. -/
  survives : Nat → ManagedFile → Bool
  /-- The end of the name that `mktemp -d` comes up with. -/
  freshName : Nat → Text
  /-- Whether the signal that kills the script runs its exit trap. -/
  signalTraps : Bool
  health : Nat → Health
  /-- The image of the service, for a compose file and an environment file. -/
  composeImages : Text → Text → Option Text

/-- The host after a command. -/
def Host.after (host : Host) (installation : Installation) : Host :=
  { host with installation := installation, step := host.step + 1 }

/-- Why a command did not succeed. -/
inductive ShellError where
  /-- It has a status, at which its caller may look. -/
  | status
  /-- The script is over. -/
  | exit
  deriving DecidableEq, Repr

abbrev ManagerM := Interruptible ShellError Host

/-! ## Commands -/

/-- A command that changes the installation. One that does not succeed leaves what
`broken` says. -/
def runCommand (effect broken : Host → Installation) : ManagerM Unit := fun host =>
  match host.outcomes host.step with
  | .succeeds => (.ok (), host.after (effect host))
  | .fails => (.error (.raised .status), host.after (broken host))
  | .killed => (.error .crashed, host.after (broken host))

/-- A command that changes nothing that is modelled. -/
def command : ManagerM Unit :=
  runCommand Host.installation Host.installation

/-- `fail`. -/
def fail {Result : Type} : ManagerM Result :=
  raise .exit

/-- `return 1`. -/
def returnStatus {Result : Type} : ManagerM Result :=
  raise .status

/-- `body || other`. -/
def orElse {Result : Type} (body other : ManagerM Result) : ManagerM Result :=
  catching body fun
    | .status => other
    | .exit => raise .exit

/-- `body || fail`, and what becomes of a command that nobody looks at. -/
def orFail {Result : Type} (body : ManagerM Result) : ManagerM Result :=
  orElse body fail

/-- Whether the condition of an `if` is true. -/
def succeeds (body : ManagerM Unit) : ManagerM Bool :=
  orElse (do body; return true) (return false)

def readFile (file : ManagedFile) : ManagerM (Option Text) :=
  Handler.read fun host => host.installation.files file

def fileExists (file : ManagedFile) : ManagerM Bool :=
  Handler.read fun host => (host.installation.files file).isSome

/-- `printf` into a file. -/
def writeFile (file : ManagedFile) (content : Text) : ManagerM Unit :=
  runCommand (fun host => host.installation.write file content) fun host =>
    match host.written host.step with
    | some length => host.installation.write file (content.take length)
    | none => host.installation

/-- `mv -f` of a temporary file with this content. -/
def moveInto (content : Text) (destination : ManagedFile) : ManagerM Unit :=
  runCommand (fun host => host.installation.write destination content) Host.installation

/-- `rm -f`. -/
def removeFile (file : ManagedFile) : ManagerM Unit :=
  runCommand (fun host => host.installation.remove file) Host.installation

/-- `sync_path`. -/
def syncPath : ManagerM Unit :=
  command

/-- `atomic_copy_file`. -/
def atomicCopyFile (source destination : ManagedFile) : ManagerM Unit := do
  command  -- mktemp
  command  -- chmod
  let content ← readFile source
  match content with
  | none =>
      orElse command (pure ())
      returnStatus
  | some content =>
      -- the temporary file is removed before the error is returned
      orElse command do
        orElse command (pure ())
        returnStatus
      syncPath
      moveInto content destination
      command  -- chmod
      syncPath

/-- `require_existing_file`. -/
def requireExistingFile (file : ManagedFile) : ManagerM Unit := do
  if ← fileExists file then orFail command else fail

/-- `require_metadata_file`. -/
def requireMetadataFile (file : ManagedFile) : ManagerM Unit := do
  requireExistingFile file
  orFail command  -- chmod
  orFail command  -- stat_mode

/-- `load_image_metadata`. -/
def loadMetadata (file : ManagedFile) : ManagerM ImageMetadata := do
  match (← readFile file).bind loadImageMetadata with
  | some metadata => return metadata
  | none => fail

/-- `require_runtime_prerequisites`. -/
def requireRuntimePrerequisites : ManagerM Unit := do
  orFail command
  orFail command
  orFail command

/-! ## Docker -/

/-- `ensure_pinned_image_available`. -/
def ensurePinnedImageAvailable (file : ManagedFile) : ManagerM Unit := do
  let _ ← loadMetadata file
  orElse command do
    command         -- gh
    command         -- the release record
    orFail command  -- load_release_manifest
    command         -- the record matches the metadata
    command         -- verify_release_manifest
    command         -- docker pull

/-- `compose_raw config --images`. -/
def composeImage : ManagerM (Option Text) :=
  Handler.read fun host => do
    let compose ← host.installation.files (.asset .compose)
    let environment ← host.installation.files .imageEnv
    host.composeImages compose environment

/-- `compose_cmd` for a command of `docker compose`, which is given the image that
the deployment model resolves to. -/
def composeCommand (run : Text → ManagerM Unit) : ManagerM Unit := do
  let metadata ← loadMetadata .imageEnv
  orFail command
  let image ← composeImage
  if image = some metadata.image then run metadata.image else fail

/-- `compose_cmd up -d`. -/
def composeUp : ManagerM Unit :=
  composeCommand fun image =>
    runCommand (fun host => { host.installation with container := some image })
      fun host => { host.installation with container := host.wreckage host.step }

def healthAttempts : Nat := 60

/-- The loop of `wait_for_service_health`. A failed `docker inspect` or `sleep` is not
looked at. -/
def pollHealth : Nat → ManagerM Unit
  | 0 => returnStatus
  | attempts + 1 => do
      let health ← Handler.read fun host : Host => host.health host.step
      if ← succeeds command then
        match health with
        | .healthy => return ()
        | .unhealthy => returnStatus
        | .exited => returnStatus
        | .starting =>
            orElse command (pure ())
            pollHealth attempts
      else
        orElse command (pure ())
        pollHealth attempts

/-- `wait_for_service_health`. -/
def waitForServiceHealth : ManagerM Unit := do
  -- A failure of `compose_cmd` in a substitution is an empty identifier.
  let listed ← succeeds (catching (composeCommand fun _ => command) fun _ => returnStatus)
  let running ← Handler.read fun host : Host => host.installation.container.isSome
  if listed ∧ running then pollHealth healthAttempts else returnStatus

/-! ## Image metadata -/

/-- `publish_image_env`. -/
def publishImageEnv (metadata : ImageMetadata) : ManagerM Unit := do
  command  -- mktemp
  command  -- chmod
  orElse command do
    orElse command (pure ())
    returnStatus
  syncPath
  moveInto (renderImageEnv metadata) .imageEnv
  command  -- chmod
  syncPath

end Manager

end CompanionBridge
