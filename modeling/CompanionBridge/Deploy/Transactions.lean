import CompanionBridge.Deploy.ManagerShell

/-!
# The transactions of the deployment manager

Installing, upgrading and rolling back, and what the next command does about one
that was cut short. A marker says that a transaction is under way, and once it is
committed that nothing is to be taken back.
-/

namespace CompanionBridge

open Interruptible

namespace Manager

/-! ## Markers -/

inductive TransactionPhase where
  | applying
  | committed
  deriving DecidableEq, Repr

namespace TransactionPhase

def word : TransactionPhase → Text
  | .applying => "applying".toList
  | .committed => "committed".toList

def named? (word : Text) : Option TransactionPhase :=
  [applying, committed].find? fun phase => phase.word = word

end TransactionPhase

/-- The marker of a rollback. -/
def rollbackMarker (phase : TransactionPhase) : Text :=
  phase.word ++ ['\n']

/-- The phase that a rollback's marker names, on its one line. -/
def rollbackPhase (content : Text) : Option TransactionPhase :=
  match (content.filter (· ≠ '\x00')).splitOn '\n' with
  | [word, []] => TransactionPhase.named? word
  | _ => none

/-- The marker of a bundle transaction. -/
def bundleMarker (phase : TransactionPhase) (workspace : Text) : Text :=
  phase.word ++ '\n' :: workspace ++ ['\n']

/-- `is_bundle_workspace_path`. -/
def isBundleWorkspacePath (privateStateDir path : Text) : Bool :=
  let parts := (rstripSlashes path).splitOn '/'
  let name := parts.getLast?.getD []
  let suffix := name.drop ".bundle.".length
  path.head? = some '/' &&
    rstripSlashes (['/'].intercalate parts.dropLast) = privateStateDir &&
    ".bundle.".toList.isPrefixOf name && suffix ≠ [] && suffix.all Char.isAlphanum

/-- The phase and the workspace that a bundle's marker names. -/
def bundlePhase (privateStateDir content : Text) : Option (TransactionPhase × Text) :=
  match fileLines content with
  | [word, workspace] => do
      let phase ← TransactionPhase.named? word
      guard (¬ containsControlChars workspace)
      guard (isBundleWorkspacePath privateStateDir workspace)
      return (phase, workspace)
  | _ => none

/-! ## Rollback -/

/-- `begin_rollback_transaction`. -/
def beginRollbackTransaction : ManagerM Unit := do
  orFail (atomicCopyFile .imageEnv .rollbackBackupEnv)
  command  -- mktemp
  command  -- chmod
  writeFile .rollbackMarkerSource (rollbackMarker .applying)
  orElse (atomicCopyFile .rollbackMarkerSource .rollbackTransaction) do
    removeFile .rollbackMarkerSource
    fail
  removeFile .rollbackMarkerSource

/-- `commit_rollback_transaction`. -/
def commitRollbackTransaction : ManagerM Unit := do
  command  -- mktemp
  command  -- chmod
  writeFile .rollbackMarkerSource (rollbackMarker .committed)
  orElse (atomicCopyFile .rollbackMarkerSource .rollbackTransaction) do
    orElse (removeFile .rollbackMarkerSource) (pure ())
    returnStatus
  removeFile .rollbackMarkerSource

/-- `clear_rollback_transaction`. -/
def clearRollbackTransaction : ManagerM Unit := do
  removeFile .rollbackTransaction
  syncPath
  removeFile .rollbackBackupEnv
  syncPath

/-- `recover_interrupted_rollback`. -/
def recoverInterruptedRollback : ManagerM Unit := do
  if ← fileExists .rollbackTransaction then
    requireMetadataFile .rollbackTransaction
    command  -- awk
    match (← readFile .rollbackTransaction).bind rollbackPhase with
    | none => fail
    | some phase =>
        requireMetadataFile .rollbackBackupEnv
        match phase with
        -- the rollback was complete: only its record is left
        | .committed => orFail clearRollbackTransaction
        -- an unfinished rollback goes back to the image that ran before it
        | .applying =>
            orFail (atomicCopyFile .rollbackBackupEnv .imageEnv)
            requireRuntimePrerequisites
            orFail (ensurePinnedImageAvailable .imageEnv)
            orFail composeUp
            orFail waitForServiceHealth
            orFail clearRollbackTransaction

/-- `restore_image_and_restart`. -/
def restoreImageAndRestart (source : ManagedFile) : ManagerM Unit := do
  atomicCopyFile source .imageEnv
  ensurePinnedImageAvailable .imageEnv
  composeUp
  waitForServiceHealth

/-- `require_deployment_state`. -/
def requireDeploymentState : ManagerM Unit := do
  requireExistingFile (.asset .compose)
  requireExistingFile (.asset .configTemplate)
  orFail command  -- the configuration
  orFail command  -- the state directory

/-- `require_current_image_env`. -/
def requireCurrentImageEnv : ManagerM ImageMetadata := do
  requireMetadataFile .imageEnv
  loadMetadata .imageEnv

/-- The metadata with its two images the other way round. -/
def swapImages (metadata : ImageMetadata) : ImageMetadata where
  image := metadata.previousImage
  sourceCommit := metadata.previousSourceCommit
  uid := metadata.uid
  gid := metadata.gid
  previousImage := metadata.image
  previousSourceCommit := metadata.sourceCommit

/-- The conditions that `cmd_rollback` goes through: whether the other image was
published and started. -/
def startOther (target : ImageMetadata) : ManagerM Bool := do
  if ← succeeds (publishImageEnv target) then
    succeeds do
      ensurePinnedImageAvailable .imageEnv
      composeUp
      waitForServiceHealth
  else return false

/-- `cmd_rollback`. -/
def cmdRollback : ManagerM Unit := do
  requireRuntimePrerequisites
  requireDeploymentState
  let _ ← requireCurrentImageEnv
  let current ← loadMetadata .imageEnv
  if current.previousImage = [] then fail
  beginRollbackTransaction
  if ← startOther (swapImages current) then
    orFail commitRollbackTransaction
    orFail clearRollbackTransaction
  else if ← succeeds (restoreImageAndRestart .rollbackBackupEnv) then
    orFail commitRollbackTransaction
    orFail clearRollbackTransaction
    fail
  else fail

/-! ## Bundles -/

def bundleAssets : List BundleAsset :=
  [.manager, .compose, .configTemplate]

/-- `cleanup_bundle_workspace`. -/
def cleanupBundleWorkspace (workspace : Text) : ManagerM Unit := do
  let valid ← Handler.read fun host : Host => isBundleWorkspacePath host.privateStateDir workspace
  if valid then
    runCommand (fun host => host.installation.removeWorkspace workspace fun _ => false) fun host =>
      host.installation.removeWorkspace workspace (host.survives host.step)

/-- `backup_bundle_assets`. -/
def backupBundleAssets (workspace : Text) : ManagerM Unit := do
  command  -- mkdir
  command  -- chmod
  bundleAssets.forM fun asset => atomicCopyFile (.asset asset) (.backup workspace asset)

/-- `publish_bundle_assets`. -/
def publishBundleAssets (workspace : Text) : ManagerM Unit :=
  bundleAssets.forM fun asset => atomicCopyFile (.staged workspace asset) (.asset asset)

/-- `restore_bundle_assets`. -/
def restoreBundleAssets (workspace : Text) : ManagerM Unit :=
  bundleAssets.forM fun asset => atomicCopyFile (.backup workspace asset) (.asset asset)

/-- `begin_bundle_transaction`. -/
def beginBundleTransaction (workspace : Text) : ManagerM Unit := do
  writeFile (.markerSource workspace) (bundleMarker .applying workspace)
  command  -- chmod
  orFail (atomicCopyFile (.markerSource workspace) .bundleTransaction)

/-- `commit_bundle_transaction`, whose first two commands nobody looks at. -/
def commitBundleTransaction (workspace : Text) : ManagerM Unit := do
  orElse (writeFile (.markerSource workspace) (bundleMarker .committed workspace)) (pure ())
  orElse command (pure ())  -- chmod
  atomicCopyFile (.markerSource workspace) .bundleTransaction

/-- `clear_bundle_transaction`. -/
def clearBundleTransaction : ManagerM Unit := do
  removeFile .bundleTransaction
  syncPath

/-- `finish_bundle_transaction`. -/
def finishBundleTransaction (workspace : Text) : ManagerM Unit := do
  orFail (commitBundleTransaction workspace)
  orFail clearBundleTransaction
  cleanupBundleWorkspace workspace

/-- `remove_install_image_env`. -/
def removeInstallImageEnv : ManagerM Unit := do
  if ← fileExists .imageEnv then
    requireExistingFile .imageEnv
    removeFile .imageEnv
    syncPath

/-- `recover_interrupted_bundle_update`. -/
def recoverInterruptedBundleUpdate : ManagerM Unit := do
  if ← fileExists .bundleTransaction then
    requireMetadataFile .bundleTransaction
    command  -- awk
    command  -- sed
    command  -- sed
    let content ← readFile .bundleTransaction
    let stateDir ← Handler.read Host.privateStateDir
    match content.bind (bundlePhase stateDir) with
    | none => fail
    | some (phase, workspace) =>
        orFail command  -- the workspace
        orFail command  -- its backup directory
        bundleAssets.forM fun asset => requireExistingFile (.backup workspace asset)
        match phase with
        -- the update was complete: its record and workspace are left
        | .committed =>
            orFail clearBundleTransaction
            cleanupBundleWorkspace workspace
        -- an unfinished update is undone, assets first and then the image
        | .applying =>
            orFail (restoreBundleAssets workspace)
            if ← fileExists (.backupEnv workspace) then
              requireMetadataFile (.backupEnv workspace)
              orFail (atomicCopyFile (.backupEnv workspace) .imageEnv)
              requireRuntimePrerequisites
              orFail (ensurePinnedImageAvailable .imageEnv)
              orFail composeUp
              orFail waitForServiceHealth
            -- an install had no image before it
            else if ← fileExists .imageEnv then
              requireMetadataFile .imageEnv
              removeFile .imageEnv
              syncPath
            orFail clearBundleTransaction
            cleanupBundleWorkspace workspace

/-- The recovery that `with_lock` runs before a command. -/
def recovery : ManagerM Unit := do
  recoverInterruptedBundleUpdate
  recoverInterruptedRollback

/-! ## Installing and upgrading -/

/-- What is published under a version. -/
structure Release where
  image : Text
  sourceCommit : Text
  bundle : BundleAsset → Text

/-- `mktemp -d` for a workspace, in a name that is free. -/
def makeWorkspace : ManagerM Text := do
  let name ← Handler.read fun host : Host => host.freshName host.step
  let stateDir ← Handler.read Host.privateStateDir
  let workspace := stateDir ++ "/.bundle.".toList ++ name
  let occupied ← Handler.read fun host : Host =>
    (bundleAssets.any fun asset =>
      (host.installation.files (.staged workspace asset)).isSome ||
        (host.installation.files (.backup workspace asset)).isSome) ||
      (host.installation.files (.backupEnv workspace)).isSome ||
      (host.installation.files (.markerSource workspace)).isSome
  if occupied ∨ ¬ (name.length = 6 ∧ name.all Char.isAlphanum) then returnStatus
  command
  return workspace

/-- A part of the script with `cleanup_bundle_workspace` as its exit trap. -/
def withExitTrap {Result : Type} (workspace : Text) (part : ManagerM Result) : ManagerM Result :=
  fun host =>
    let trap (after : Host) : Host :=
      let marked := (after.installation.files .bundleTransaction).isSome
      let noted := { after with
        installation := { after.installation with trapRan := after.installation.trapRan || marked } }
      ((cleanupBundleWorkspace workspace).perform noted).2
    match part.perform host with
    | (.ok result, after) => (.ok result, after)
    | (.error (.raised _), after) => (.error (.raised .exit), trap after)
    | (.error .crashed, after) => (.error .crashed, if after.signalTraps then trap after else after)

/-- `download_verified_release_manifest`, after the workspace is made. -/
def downloadVerifiedReleaseManifest (release : Release) : ManagerM Unit := do
  orFail command  -- chmod
  orFail command  -- the manifest
  orFail command  -- its attestation
  if ¬ (isImageDigest release.image ∧ isSourceCommit release.sourceCommit) then fail
  orFail command  -- verify_release_manifest
  orFail command  -- docker pull
  orFail command  -- docker image inspect
  orFail command  -- persist_release_record

/-- `download_release_bundle`. -/
def downloadReleaseBundle (release : Release) (workspace : Text) : ManagerM Unit := do
  orFail command  -- the archive
  orFail command  -- its digest
  orFail command  -- validate_bundle_archive
  bundleAssets.forM fun asset => writeFile (.staged workspace asset) (release.bundle asset)
  bundleAssets.forM fun asset => requireExistingFile (.staged workspace asset)
  orFail command  -- bash -n

/-- The metadata that `cmd_install` and `cmd_upgrade` publish. -/
def releaseMetadata (release : Release) (uid gid previousImage previousSourceCommit : Text) :
    ImageMetadata where
  image := release.image
  sourceCommit := release.sourceCommit
  uid := uid
  gid := gid
  previousImage := previousImage
  previousSourceCommit := previousSourceCommit

/-- `cmd_install`. -/
def cmdInstall (release : Release) (uid gid : Text) : ManagerM Unit := do
  requireRuntimePrerequisites
  orFail command  -- require_gh_prerequisites
  requireExistingFile (.asset .compose)
  requireExistingFile (.asset .configTemplate)
  if ← fileExists .imageEnv then fail
  let workspace ← makeWorkspace
  withExitTrap workspace do
    downloadVerifiedReleaseManifest release
    downloadReleaseBundle release workspace
    orFail command  -- validate_staged_compose
    orFail command  -- ensure_install_layout
    orFail (backupBundleAssets workspace)
    beginBundleTransaction workspace
  -- outside the trap an interruption leaves the record for the next command
  if ← succeeds (publishBundleAssets workspace) then
    if ← succeeds (publishImageEnv (releaseMetadata release uid gid [] [])) then
      requireMetadataFile .imageEnv
      finishBundleTransaction workspace
    else if ← succeeds (do restoreBundleAssets workspace; removeInstallImageEnv) then
      finishBundleTransaction workspace
      fail
    else fail
  else if ← succeeds (restoreBundleAssets workspace) then
    finishBundleTransaction workspace
    fail
  else fail

/-- `restore_bundle_image_and_restart`. -/
def restoreBundleImageAndRestart (workspace : Text) : ManagerM Unit := do
  restoreBundleAssets workspace
  atomicCopyFile (.backupEnv workspace) .imageEnv
  ensurePinnedImageAvailable .imageEnv
  composeUp
  waitForServiceHealth

/-- `cmd_upgrade`. -/
def cmdUpgrade (release : Release) : ManagerM Unit := do
  requireRuntimePrerequisites
  orFail command  -- require_gh_prerequisites
  requireDeploymentState
  let old ← requireCurrentImageEnv
  let workspace ← makeWorkspace
  let same ← withExitTrap workspace do
    downloadVerifiedReleaseManifest release
    -- nothing to upgrade: the same image must come from the same commit
    if release.image = old.image then
      if release.sourceCommit ≠ old.sourceCommit then fail
      cleanupBundleWorkspace workspace
      return true
    downloadReleaseBundle release workspace
    orFail command  -- validate_staged_compose
    orFail (backupBundleAssets workspace)
    orFail (atomicCopyFile .imageEnv (.backupEnv workspace))
    beginBundleTransaction workspace
    return false
  if same then return ()
  let target := releaseMetadata release old.uid old.gid old.image old.sourceCommit
  if ← succeeds (publishBundleAssets workspace) then
    if ← succeeds (publishImageEnv target) then
      let started ← succeeds do
        ensurePinnedImageAvailable .imageEnv
        composeUp
        waitForServiceHealth
      -- an image that does not get healthy is taken back
      if started then finishBundleTransaction workspace
      else if ← succeeds (restoreBundleImageAndRestart workspace) then
        finishBundleTransaction workspace
        fail
      else fail
    else if ← succeeds (do
        restoreBundleAssets workspace
        atomicCopyFile (.backupEnv workspace) .imageEnv) then
      finishBundleTransaction workspace
      fail
    else fail
  else if ← succeeds (restoreBundleAssets workspace) then
    finishBundleTransaction workspace
    fail
  else fail

end Manager

end CompanionBridge
