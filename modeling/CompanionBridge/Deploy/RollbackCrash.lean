import CompanionBridge.Deploy.ManagerRules
import CompanionBridge.Deploy.Transactions
import Mathlib.Logic.Relation

/-!
# Rolling back, whatever happens

Wherever a rollback stops, the next recovery that completes finds the image metadata
as it was or swapped, and leaves a container that ran running on the image it names.
-/

namespace CompanionBridge

open Interruptible

namespace Manager

section Files

variable {installation : Installation} {file other : ManagedFile} {content : Text}

@[simp] theorem write_self : (installation.write file content).files file = some content :=
  Function.update_self ..

@[simp] theorem write_other (hne : other ≠ file) :
    (installation.write file content).files other = installation.files other :=
  Function.update_of_ne hne ..

@[simp] theorem remove_self : (installation.remove file).files file = none :=
  Function.update_self ..

@[simp] theorem remove_other (hne : other ≠ file) :
    (installation.remove file).files other = installation.files other :=
  Function.update_of_ne hne ..

@[simp] theorem write_container : (installation.write file content).container =
    installation.container := rfl

@[simp] theorem remove_container : (installation.remove file).container =
    installation.container := rfl

end Files

/-- A state that meets one of two conditions, by the rule of each. -/
theorem Does.or {Result : Type} {first second failed stopped : Installation → Prop}
    {part : ManagerM Result} {done : Result → Installation → Prop}
    (hfirst : Does first part done failed stopped) (hsecond : Does second part done failed stopped) :
    Does (fun installation => first installation ∨ second installation) part done failed stopped := by
  intro host hhost
  rcases hhost with h | h
  · exact hfirst host h
  · exact hsecond host h

/-! ## States of a rollback -/

/-- The metadata has this content, and the container runs this image. -/
def Deployed (content image : Text) (installation : Installation) : Prop :=
  installation.files .imageEnv = some content ∧ installation.container = some image

/-- No bundle transaction is marked. -/
def NoBundle (installation : Installation) : Prop :=
  installation.files .bundleTransaction = none

section States

variable (before : Text) (current : ImageMetadata) (running : Option Text)

/-- The deployment is as it was before the rollback, or as the rollback makes it. -/
def Whole (installation : Installation) : Prop :=
  Deployed before current.image installation ∨
    Deployed (renderImageEnv (swapImages current)) current.previousImage installation

/-- Nothing has happened yet. -/
def AsBefore (installation : Installation) : Prop :=
  NoBundle installation ∧ installation.files .rollbackTransaction = none ∧
    installation.files .imageEnv = some before ∧ installation.container = running

/-- Something has happened, and nothing is to be recovered. -/
def Unmarked (installation : Installation) : Prop :=
  NoBundle installation ∧ installation.files .rollbackTransaction = none ∧
    Whole before current installation

/-- Nothing is to be recovered. -/
def Settled (installation : Installation) : Prop :=
  AsBefore before running installation ∨ Unmarked before current installation

/-- The metadata is to be taken back. -/
def UnderWay (installation : Installation) : Prop :=
  NoBundle installation ∧
    installation.files .rollbackTransaction = some (rollbackMarker .applying) ∧
    installation.files .rollbackBackupEnv = some before

/-- Nothing is to be taken back. -/
def Committed (installation : Installation) : Prop :=
  NoBundle installation ∧
    installation.files .rollbackTransaction = some (rollbackMarker .committed) ∧
    Whole before current installation

/-- What a rollback may leave behind. -/
def Recoverable (installation : Installation) : Prop :=
  Settled before current running installation ∨ UnderWay before installation ∨
    Committed before current installation

end States

section Steps

variable {before : Text} {current : ImageMetadata} {running : Option Text} {content image : Text}
  {installation : Installation} {file : ManagedFile} {text : Text}

/-- A rollback starts with no bundle transaction, and keeps it so. -/
theorem Recoverable.noBundle (h : Recoverable before current running installation) :
    NoBundle installation := by
  rcases h with (h | h) | h | h
  all_goals exact h.1

/-- Which image is deployed is read from its own file. -/
@[simp] theorem deployed_write (hne : ManagedFile.imageEnv ≠ file) :
    Deployed content image (installation.write file text) ↔ Deployed content image installation := by
  simp [Deployed, hne]

@[simp] theorem deployed_remove (hne : ManagedFile.imageEnv ≠ file) :
    Deployed content image (installation.remove file) ↔ Deployed content image installation := by
  simp [Deployed, hne]

/-- The source of the marker is not the marker. -/
@[simp] theorem underWay_write_source :
    UnderWay before (installation.write .rollbackMarkerSource text) ↔
      UnderWay before installation := by
  simp [UnderWay, NoBundle]

@[simp] theorem underWay_remove_source :
    UnderWay before (installation.remove .rollbackMarkerSource) ↔
      UnderWay before installation := by
  simp [UnderWay, NoBundle]

@[simp] theorem committed_remove_source :
    Committed before current (installation.remove .rollbackMarkerSource) ↔
      Committed before current installation := by
  simp [Committed, NoBundle, Whole]

/-- Once the marker is gone nothing is left to recover. -/
theorem clear_does (hwhole : ∀ installation, Deployed content image installation →
      Whole before current installation) :
    Does (fun installation => Recoverable before current running installation ∧
        Deployed content image installation) clearRollbackTransaction
      (fun _ installation => Unmarked before current installation ∧
        Deployed content image installation)
      (Recoverable before current running) (Recoverable before current running) := by
  have hkept : ∀ installation, Unmarked before current installation ∧
      Deployed content image installation → Recoverable before current running installation :=
    fun _ h => .inl (.inr h.1)
  have hpre : ∀ installation, Recoverable before current running installation ∧
      Deployed content image installation → Recoverable before current running installation :=
    fun _ h => h.1
  refine .bind (.removeFile ?_ hpre hpre) fun _ => .bind (Quiet.command.kept hkept hkept) fun _ =>
    .bind (.removeFile ?_ hkept hkept) fun _ => Quiet.command.kept hkept hkept
  · intro installation h
    have hdeployed : Deployed content image (installation.remove .rollbackTransaction) :=
      (deployed_remove (by decide)).mpr h.2
    have hbundle := h.1.noBundle
    refine ⟨⟨?_, ?_, hwhole _ hdeployed⟩, hdeployed⟩
    · simpa [NoBundle] using hbundle
    · simp
  · intro installation h
    have hdeployed : Deployed content image (installation.remove .rollbackBackupEnv) :=
      (deployed_remove (by decide)).mpr h.2
    obtain ⟨⟨hbundle, hmarker, -⟩, -⟩ := h
    refine ⟨⟨?_, ?_, hwhole _ hdeployed⟩, hdeployed⟩
    · simpa [NoBundle] using hbundle
    · simpa using hmarker

/-- The marker is copied from a file of its own, which says nothing itself. -/
theorem mark_does {phase : TransactionPhase} {rescue : ManagerM Unit}
    {pre post failed stopped : Installation → Prop}
    (hmark : ∀ installation, pre installation →
      post (installation.write .rollbackTransaction (rollbackMarker phase)))
    (hsource : ∀ installation text, pre installation →
      pre (installation.write .rollbackMarkerSource text))
    (hremove : ∀ installation, post installation →
      post (installation.remove .rollbackMarkerSource))
    (hrescue : Does (fun installation => pre installation ∨ post installation) rescue
      (fun _ => post) failed stopped)
    (hfailed : ∀ installation, pre installation ∨ post installation → failed installation)
    (hstopped : ∀ installation, pre installation ∨ post installation → stopped installation) :
    Does pre
      (do
        command
        command
        writeFile .rollbackMarkerSource (rollbackMarker phase)
        orElse (atomicCopyFile .rollbackMarkerSource .rollbackTransaction) rescue
        removeFile .rollbackMarkerSource)
      (fun _ => post) failed stopped := by
  have hpreFailed : ∀ installation, pre installation → failed installation :=
    fun _ h => hfailed _ (.inl h)
  have hpreStopped : ∀ installation, pre installation → stopped installation :=
    fun _ h => hstopped _ (.inl h)
  have hcopied : Does
      (fun installation => pre installation ∧
        installation.files .rollbackMarkerSource = some (rollbackMarker phase))
      (atomicCopyFile .rollbackMarkerSource .rollbackTransaction) (fun _ => post)
      (fun installation => pre installation ∨ post installation) stopped := by
    have hcopy : ∀ installation found, (pre installation ∧
        installation.files .rollbackMarkerSource = some (rollbackMarker phase)) →
        installation.files .rollbackMarkerSource = some found →
        post (installation.write .rollbackTransaction found) := by
      intro installation found h hfound
      obtain rfl := Option.some.inj (h.2.symm.trans hfound)
      exact hmark _ h.1
    refine (Does.atomicCopyFile hcopy).weaken (fun _ => id) (fun _ _ => id)
      (fun _ h => h.imp_left And.left) fun _ h => hstopped _ (h.imp_left And.left)
  refine .bind (Quiet.command.kept hpreFailed hpreStopped) fun _ =>
    .bind (Quiet.command.kept hpreFailed hpreStopped) fun _ =>
    .bind (.writeFile (fun _ h => ⟨hsource _ _ h, write_self⟩)
      (fun _ _ h => ⟨hpreFailed _ (hsource _ _ h), hpreStopped _ (hsource _ _ h)⟩)
      hpreFailed hpreStopped) fun _ => .bind (.orElse hcopied hrescue) fun _ =>
    .removeFile hremove (fun _ h => hfailed _ (.inr h)) fun _ h => hstopped _ (.inr h)

/-- Committing leaves what was deployed. -/
theorem commit_does (hwhole : ∀ installation, Deployed content image installation →
      Whole before current installation) :
    Does (fun installation => UnderWay before installation ∧ Deployed content image installation)
      commitRollbackTransaction
      (fun _ installation => Committed before current installation ∧
        Deployed content image installation)
      (Recoverable before current running) (Recoverable before current running) := by
  have hends : ∀ installation,
      (UnderWay before installation ∧ Deployed content image installation) ∨
        (Committed before current installation ∧ Deployed content image installation) →
      Recoverable before current running installation :=
    fun _ h => .inr (h.imp And.left And.left)
  refine mark_does ?_ ?_ ?_ ?_ hends hends
  · intro installation h
    have hdeployed : Deployed content image
        (installation.write .rollbackTransaction (rollbackMarker .committed)) :=
      (deployed_write (by decide)).mpr h.2
    obtain ⟨⟨hbundle, -⟩, -⟩ := h
    exact ⟨⟨by simpa [NoBundle] using hbundle, write_self, hwhole _ hdeployed⟩, hdeployed⟩
  · exact fun _ _ h => ⟨underWay_write_source.mpr h.1, (deployed_write (by decide)).mpr h.2⟩
  · exact fun _ h => ⟨committed_remove_source.mpr h.1, (deployed_remove (by decide)).mpr h.2⟩
  · refine .bind (.orElse (.removeFile ?_ ?_ ?_) (.pure fun _ => id)) fun _ => .returnStatus hends
    · intro installation h
      rcases h with h | h
      · exact .inl ⟨underWay_remove_source.mpr h.1, (deployed_remove (by decide)).mpr h.2⟩
      · exact .inr ⟨committed_remove_source.mpr h.1, (deployed_remove (by decide)).mpr h.2⟩
    · exact fun _ => id
    · exact hends

/-- A write of another file leaves everything as before. -/
theorem AsBefore.write (hfile : file ∉ [.imageEnv, .bundleTransaction, .rollbackTransaction])
    (h : AsBefore before running installation) :
    AsBefore before running (installation.write file text) := by
  simp only [List.mem_cons, List.not_mem_nil, or_false, not_or] at hfile
  obtain ⟨henv, hbundle, hrollback⟩ := hfile
  refine ⟨?_, ?_, ?_, h.2.2.2⟩
  · rw [NoBundle, write_other (Ne.symm hbundle)]
    exact h.1
  · rw [write_other (Ne.symm hrollback)]
    exact h.2.1
  · rw [write_other (Ne.symm henv)]
    exact h.2.2.1

/-- Nothing has happened yet. -/
theorem AsBefore.recoverable (h : AsBefore before running installation) :
    Recoverable before current running installation :=
  .inl (.inl h)

/-- Beginning backs the metadata up before the marker is there. -/
theorem begin_does :
    Does (AsBefore before running) beginRollbackTransaction (fun _ => UnderWay before)
      (Recoverable before current running) (Recoverable before current running) := by
  -- the backup is complete before the transaction is recorded
  have hbacked : Does (AsBefore before running) (atomicCopyFile .imageEnv .rollbackBackupEnv)
      (fun _ installation => AsBefore before running installation ∧
        installation.files .rollbackBackupEnv = some before)
      (Recoverable before current running) (Recoverable before current running) := by
    have hcopy : ∀ installation found, AsBefore before running installation →
        installation.files .imageEnv = some found →
        AsBefore before running (installation.write .rollbackBackupEnv found) ∧
          (installation.write .rollbackBackupEnv found).files .rollbackBackupEnv =
            some before := by
      intro installation found h hfound
      obtain rfl := Option.some.inj (h.2.2.1.symm.trans hfound)
      exact ⟨h.write (by decide), write_self⟩
    have hends : ∀ installation, AsBefore before running installation ∨
        (AsBefore before running installation ∧
          installation.files .rollbackBackupEnv = some before) →
        Recoverable before current running installation :=
      fun _ h => (h.elim id And.left).recoverable
    exact (Does.atomicCopyFile hcopy).weaken (fun _ => id) (fun _ _ => id) hends hends
  have hends : ∀ installation, (AsBefore before running installation ∧
      installation.files .rollbackBackupEnv = some before) ∨ UnderWay before installation →
      Recoverable before current running installation := by
    rintro installation (h | h)
    · exact h.1.recoverable
    · exact .inr (.inl h)
  refine .bind (.orFail hbacked) fun _ => mark_does ?_ ?_ ?_ ?_ hends hends
  · intro installation h
    refine ⟨?_, write_self, ?_⟩
    · simpa [NoBundle] using h.1.1
    · simpa using h.2
  · exact fun _ _ h => ⟨h.1.write (by decide), by simpa using h.2⟩
  · exact fun _ h => underWay_remove_source.mpr h
  · refine .bind (.removeFile ?_ hends hends) fun _ => .fail hends
    rintro installation (⟨h, hbackup⟩ | h)
    · refine .inl ⟨⟨?_, ?_, ?_, h.2.2.2⟩, by simpa using hbackup⟩
      · simpa [NoBundle] using h.1
      · simpa using h.2.1
      · simpa using h.2.2.1
    · exact .inr (underWay_remove_source.mpr h)

/-- While the marker says that a rollback is under way, the image file may hold anything. -/
theorem UnderWay.write_imageEnv (h : UnderWay before installation) :
    UnderWay before (installation.write .imageEnv text) := by
  simpa [UnderWay, NoBundle] using h

/-- Starting what the metadata names, while it may still be taken back. -/
theorem up_does {metadata : ImageMetadata} (hload : loadImageMetadata content = some metadata) :
    Does (fun installation => UnderWay before installation ∧
        installation.files .imageEnv = some content) composeUp
      (fun _ installation => UnderWay before installation ∧
        Deployed content metadata.image installation)
      (UnderWay before) (UnderWay before) := by
  refine .composeUp ?_ (fun _ _ h => h.1) fun _ _ h => h.1
  intro installation loaded h hloaded
  rw [h.2, Option.bind_some, hload] at hloaded
  obtain rfl := Option.some.inj hloaded
  exact ⟨h.1, h.2, rfl⟩

/-- Starting the image of the file that is there. -/
theorem start_does {metadata : ImageMetadata} (hload : loadImageMetadata content = some metadata) :
    Does (fun installation => UnderWay before installation ∧
        installation.files .imageEnv = some content)
      (do
        ensurePinnedImageAvailable .imageEnv
        composeUp
        waitForServiceHealth)
      (fun _ installation => UnderWay before installation ∧
        Deployed content metadata.image installation)
      (UnderWay before) (UnderWay before) :=
  .bind ((Quiet.ensurePinnedImageAvailable _).kept (fun _ h => h.1) fun _ h => h.1) fun _ =>
    .bind (up_does hload) fun _ =>
      Quiet.waitForServiceHealth.kept (fun _ h => h.1) fun _ h => h.1

/-- The backup is copied over the image file. -/
theorem takeBack_does :
    Does (UnderWay before) (atomicCopyFile .rollbackBackupEnv .imageEnv)
      (fun _ installation => UnderWay before installation ∧
        installation.files .imageEnv = some before)
      (UnderWay before) (UnderWay before) := by
  have hcopy : ∀ installation found, UnderWay before installation →
      installation.files .rollbackBackupEnv = some found →
      UnderWay before (installation.write .imageEnv found) ∧
        (installation.write .imageEnv found).files .imageEnv = some before := by
    intro installation found h hfound
    obtain rfl := Option.some.inj (h.2.2.symm.trans hfound)
    exact ⟨h.write_imageEnv, write_self⟩
  have hends : ∀ installation, UnderWay before installation ∨ (UnderWay before installation ∧
      installation.files .imageEnv = some before) → UnderWay before installation :=
    fun _ h => h.elim id And.left
  exact (Does.atomicCopyFile hcopy).weaken (fun _ => id) (fun _ _ => id) hends hends

/-- The metadata that is to be taken back is taken back. -/
theorem restore_does (hload : loadImageMetadata before = some current) :
    Does (UnderWay before) (restoreImageAndRestart .rollbackBackupEnv)
      (fun _ installation => UnderWay before installation ∧
        Deployed before current.image installation)
      (UnderWay before) (UnderWay before) :=
  .bind takeBack_does fun _ => start_does hload

/-! ## Recovery -/

/-- A marker that was written is read back. -/
theorem rollbackPhase_marker (phase : TransactionPhase) :
    rollbackPhase (rollbackMarker phase) = some phase := by
  cases phase <;> decide

/-- What the marker says is how the rollback stands. -/
theorem Recoverable.phase {phase : TransactionPhase}
    (h : Recoverable before current running installation)
    (hphase : (installation.files .rollbackTransaction).bind rollbackPhase = some phase) :
    match phase with
    | .applying => UnderWay before installation
    | .committed => Committed before current installation := by
  rcases h with (h | h) | h | h
  · simp [h.2.1] at hphase
  · simp [h.2.1] at hphase
  · rw [h.2.1, Option.bind_some, rollbackPhase_marker] at hphase
    obtain rfl := Option.some.inj hphase
    exact h
  · rw [h.2.1, Option.bind_some, rollbackPhase_marker] at hphase
    obtain rfl := Option.some.inj hphase
    exact h

/-- Clearing a committed transaction forgets the backup last. -/
theorem clearCommitted_does :
    Does (Committed before current) clearRollbackTransaction
      (fun _ => Unmarked before current) (Recoverable before current running)
      (Recoverable before current running) := by
  have hclear (content image : Text) (hwhole : ∀ installation,
      Deployed content image installation → Whole before current installation) :
      Does (fun installation => Committed before current installation ∧
          Deployed content image installation) clearRollbackTransaction
        (fun _ => Unmarked before current) (Recoverable before current running)
        (Recoverable before current running) :=
    (clear_does hwhole).weaken (fun _ h => ⟨.inr (.inr h.1), h.2⟩) (fun _ _ => And.left)
      (fun _ => id) fun _ => id
  refine ((hclear _ _ fun _ => .inl).or (hclear _ _ fun _ => .inr)).weaken ?_ (fun _ _ => id)
    (fun _ => id) fun _ => id
  intro installation h
  exact h.2.2.imp (⟨h, ·⟩) (⟨h, ·⟩)

/-- A rollback that was under way is taken back. -/
theorem takeBackAll_does (hload : loadImageMetadata before = some current) :
    Does (UnderWay before)
      (do
        orFail (atomicCopyFile .rollbackBackupEnv .imageEnv)
        requireRuntimePrerequisites
        orFail (ensurePinnedImageAvailable .imageEnv)
        orFail composeUp
        orFail waitForServiceHealth
        orFail clearRollbackTransaction)
      (fun _ => Unmarked before current) (Recoverable before current running)
      (Recoverable before current running) := by
  have hends : ∀ installation, UnderWay before installation →
      Recoverable before current running installation := fun _ h => .inr (.inl h)
  have hread : ∀ installation, (UnderWay before installation ∧
      installation.files .imageEnv = some before) → Recoverable before current running installation :=
    fun _ h => hends _ h.1
  have hup : ∀ installation, (UnderWay before installation ∧
      Deployed before current.image installation) → Recoverable before current running installation :=
    fun _ h => hends _ h.1
  have hclear := (@clear_does before current running _ _ fun _ => Or.inl).weaken
    (fun _ h => ⟨hup _ h, h.2⟩) (fun _ _ => And.left) (fun _ => id) fun _ => id
  exact .bind (.orFail (takeBack_does.weaken (fun _ => id) (fun _ _ => id) hends hends)) fun _ =>
    .bind (Quiet.requireRuntimePrerequisites.kept hread hread) fun _ =>
    .bind (.orFail ((Quiet.ensurePinnedImageAvailable _).kept hread hread)) fun _ =>
    .bind (.orFail ((up_does hload).weaken (fun _ => id) (fun _ _ => id) hends hends)) fun _ =>
    .bind (.orFail (Quiet.waitForServiceHealth.kept hup hup)) fun _ => .orFail hclear

/-- Recovery settles a rollback either way, and may itself be interrupted. -/
theorem recoverRollback_does (hload : loadImageMetadata before = some current) :
    Does (Recoverable before current running) recoverInterruptedRollback
      (fun _ => Settled before current running) (Recoverable before current running)
      (Recoverable before current running) := by
  refine .bind .fileExists fun found => ?_
  cases found with
  | false =>
      refine .pure fun installation h => ?_
      have habsent : installation.files .rollbackTransaction = none := by
        simpa using h.2
      rcases h.1 with h | h | h
      · exact h
      · exact absurd (h.2.1.symm.trans habsent) (by simp)
      · exact absurd (h.2.1.symm.trans habsent) (by simp)
  | true =>
      have hends : ∀ installation, (Recoverable before current running installation ∧
          (installation.files .rollbackTransaction).isSome = true) →
          Recoverable before current running installation := fun _ => And.left
      refine .bind ((Quiet.requireMetadataFile _).kept hends hends) fun _ =>
        .bind (Quiet.command.kept hends hends) fun _ => .bind .readFile fun content => ?_
      have hread : ∀ installation, ((Recoverable before current running installation ∧
          (installation.files .rollbackTransaction).isSome = true) ∧
            installation.files .rollbackTransaction = content) →
          Recoverable before current running installation := fun _ h => h.1.1
      cases hphase : content.bind rollbackPhase with
      | none => exact .fail hread
      | some phase =>
          have hstands : ∀ installation, ((Recoverable before current running installation ∧
              (installation.files .rollbackTransaction).isSome = true) ∧
                installation.files .rollbackTransaction = content) →
              (installation.files .rollbackTransaction).bind rollbackPhase = some phase :=
            fun _ h => by rw [h.2, hphase]
          refine .bind ((Quiet.requireMetadataFile _).kept hread hread) fun _ => ?_
          -- the recorded phase says which way the recovery goes
          cases phase with
          | committed =>
              exact (Does.orFail clearCommitted_does).weaken
                (fun installation h => (hread _ h).phase (hstands _ h)) (fun _ _ => .inr)
                (fun _ => id) fun _ => id
          | applying =>
              exact (takeBackAll_does hload).weaken
                (fun installation h => (hread _ h).phase (hstands _ h)) (fun _ _ => .inr)
                (fun _ => id) fun _ => id

/-- The recovery of a bundle finds nothing to do. -/
theorem recoverBundle_does {pre : Installation → Prop}
    (hbundle : ∀ installation, pre installation → NoBundle installation) :
    Does pre recoverInterruptedBundleUpdate (fun _ => pre) pre pre := by
  refine .bind .fileExists fun found => ?_
  cases found with
  | false => exact .pure fun _ => And.left
  | true =>
      rintro host ⟨hpre, hsome⟩
      have hnone : host.installation.files .bundleTransaction = none := hbundle _ hpre
      rw [hnone] at hsome
      exact absurd hsome (by simp)

theorem recovery_does (hload : loadImageMetadata before = some current) :
    Does (Recoverable before current running) recovery (fun _ => Settled before current running)
      (Recoverable before current running) (Recoverable before current running) :=
  .bind (recoverBundle_does fun _ => Recoverable.noBundle) fun _ => recoverRollback_does hload

/-! ## Rolling back -/

theorem swapImages_valid (hvalid : current.Valid) (hprevious : current.previousImage ≠ []) :
    (swapImages current).Valid := by
  obtain ⟨himage, hsource⟩ := hvalid.previous.resolve_left fun h => hprevious h.1
  exact ⟨himage, hsource, hvalid.uid, hvalid.gid, .inr ⟨hvalid.image, hvalid.sourceCommit⟩⟩

/-- The new metadata is published and started, or is still to be taken back. -/
theorem publish_does (hload : loadImageMetadata before = some current)
    (hprevious : current.previousImage ≠ []) {failed : Installation → Prop} :
    Does (UnderWay before) (startOther (swapImages current))
      (fun started installation => UnderWay before installation ∧ (started = true →
        Deployed (renderImageEnv (swapImages current)) current.previousImage installation))
      failed (UnderWay before) := by
  have hvalid := swapImages_valid (valid_of_loadImageMetadata hload) hprevious
  have hends : ∀ installation, UnderWay before installation ∨ (UnderWay before installation ∧
      installation.files .imageEnv = some (renderImageEnv (swapImages current))) →
      UnderWay before installation := fun _ h => h.elim id And.left
  have hpublished : Does (UnderWay before) (publishImageEnv (swapImages current))
      (fun _ installation => UnderWay before installation ∧
        installation.files .imageEnv = some (renderImageEnv (swapImages current)))
      (UnderWay before) (UnderWay before) :=
    (Does.publishImageEnv fun _ h => ⟨h.write_imageEnv, write_self⟩).weaken (fun _ => id)
      (fun _ _ => id) hends hends
  refine .bind (.succeeds hpublished) fun published => ?_
  cases published with
  | false => exact .pure fun _ h => ⟨by simpa using h, nofun⟩
  | true =>
      refine (Does.succeeds (start_does (loadImageMetadata_render hvalid))).weaken
        (fun _ h => by simpa using h) ?_ (fun _ => id) fun _ => id
      intro started installation h
      cases started with
      | false => exact ⟨by simpa using h, nofun⟩
      | true =>
          rw [if_pos rfl] at h
          exact ⟨h.1, fun _ => h.2⟩

theorem Quiet.requireDeploymentState : Quiet requireDeploymentState :=
  .bind (.requireExistingFile _) fun _ => .bind (.requireExistingFile _) fun _ =>
    .bind (.orFail .command) fun _ => .orFail .command

theorem Quiet.requireCurrentImageEnv : Quiet requireCurrentImageEnv :=
  .bind (.requireMetadataFile _) fun _ => .loadMetadata _

/-- Once it is begun, a rollback ends with nothing under way, or is recoverable. -/
theorem finish_does (hload : loadImageMetadata before = some current) {started : Bool} :
    Does (fun installation => UnderWay before installation ∧ (started = true →
        Deployed (renderImageEnv (swapImages current)) current.previousImage installation))
      (if started then do
        orFail commitRollbackTransaction
        orFail clearRollbackTransaction
      else do
        if ← succeeds (restoreImageAndRestart .rollbackBackupEnv) then
          orFail commitRollbackTransaction
          orFail clearRollbackTransaction
          fail
        else fail)
      (fun _ installation => Unmarked before current installation ∧
        Deployed (renderImageEnv (swapImages current)) current.previousImage installation)
      (Recoverable before current running) (Recoverable before current running) := by
  cases started with
  | true =>
      have hcommit := @commit_does before current running _ _ fun _ => Or.inr
      have hclear := @clear_does before current running _ _ fun _ => Or.inr
      exact .bind (.orFail (hcommit.weaken (fun _ h => ⟨h.1, h.2 rfl⟩) (fun _ _ => id)
        (fun _ => id) fun _ => id)) fun _ => .orFail (hclear.weaken
          (fun _ h => ⟨.inr (.inr h.1), h.2⟩) (fun _ _ => id) (fun _ => id) fun _ => id)
  | false =>
      have hcommit := @commit_does before current running _ _ fun _ => Or.inl
      have hclear := @clear_does before current running _ _ fun _ => Or.inl
      have hends : ∀ installation, UnderWay before installation →
          Recoverable before current running installation := fun _ h => .inr (.inl h)
      refine .bind (.succeeds ((restore_does hload).weaken (fun _ => And.left) (fun _ _ => id)
        (fun _ => id) hends)) fun restored => ?_
      cases restored with
      | false => exact .fail fun _ h => hends _ (by simpa using h)
      | true =>
          exact .bind (.orFail (hcommit.weaken (fun _ h => by simpa using h) (fun _ _ => id)
            (fun _ => id) fun _ => id)) fun _ => .bind (.orFail (hclear.weaken
              (fun _ h => ⟨.inr (.inr h.1), h.2⟩) (fun _ _ => And.left) (fun _ => id)
              fun _ => id)) fun _ => .fail fun _ h => .inl (.inr h)

/-- The rollback from its first check to its last message. -/
theorem cmdRollback_does (hload : loadImageMetadata before = some current)
    (hprevious : current.previousImage ≠ []) :
    Does (AsBefore before running) cmdRollback
      (fun _ installation => Unmarked before current installation ∧
        Deployed (renderImageEnv (swapImages current)) current.previousImage installation)
      (Recoverable before current running) (Recoverable before current running) := by
  have hends : ∀ installation, AsBefore before running installation →
      Recoverable before current running installation := fun _ => AsBefore.recoverable
  have hunderWay : ∀ installation, UnderWay before installation →
      Recoverable before current running installation := fun _ h => .inr (.inl h)
  refine .bind (Quiet.requireRuntimePrerequisites.kept hends hends) fun _ =>
    .bind (Quiet.requireDeploymentState.kept hends hends) fun _ =>
    .bind (Quiet.requireCurrentImageEnv.kept hends hends) fun _ =>
    .bind (.loadMetadata hends) fun metadata => ?_
  by_cases hmetadata : metadata = current
  · subst hmetadata
    rw [if_neg hprevious]
    exact .bind (begin_does.weaken (fun _ => And.left) (fun _ _ => id) (fun _ => id) fun _ => id)
      fun _ => .bind ((publish_does hload hprevious).weaken (fun _ => id) (fun _ _ => id)
        (fun _ => id) hunderWay) fun _ => finish_does hload
  · rintro host ⟨hbefore, hsome⟩
    rw [hbefore.2.2.1, Option.bind_some, hload] at hsome
    exact absurd (Option.some.inj hsome).symm hmetadata

end Steps

/-! ## Runs -/

/-- What a part of the script may leave of an installation, on any host, whatever
becomes of its commands. -/
def MayLeave (part : ManagerM Unit) (start final : Installation) : Prop :=
  ∃ host : Host, host.installation = start ∧ (part.perform host).2.installation = final

/-- What it may leave when it succeeds. -/
def MayComplete (part : ManagerM Unit) (start final : Installation) : Prop :=
  ∃ host after : Host, host.installation = start ∧ part.perform host = (.ok (), after) ∧
    after.installation = final

section Runs

variable {pre post : Installation → Prop} {part : ManagerM Unit} {start final : Installation}

/-- What a run that was interrupted leaves behind. -/
theorem Does.leaves {left : Installation → Prop} (hdoes : Does pre part (fun _ => post) left left)
    (hpost : ∀ installation, post installation → left installation) (hstart : pre start)
    (hleave : MayLeave part start final) : left final := by
  obtain ⟨host, rfl, rfl⟩ := hleave
  have hends := hdoes host hstart
  cases hended : part.perform host with
  | mk outcome after =>
      rw [hended] at hends
      cases outcome with
      | ok result => exact hpost _ hends
      | error interruption =>
          cases interruption with
          | raised error =>
              cases error with
              | status => exact hends
              | exit => exact hends
          | crashed => exact hends

theorem Does.completes {failed stopped : Installation → Prop}
    (hdoes : Does pre part (fun _ => post) failed stopped) (hstart : pre start)
    (hcomplete : MayComplete part start final) : post final := by
  obtain ⟨host, after, rfl, hperform, rfl⟩ := hcomplete
  have hends := hdoes host hstart
  rw [hperform] at hends
  exact hends

end Runs

/-- A command under the lock, after the recovery. -/
def withLock (part : ManagerM Unit) : ManagerM Unit := do
  recovery
  part

section Rollback

variable {before : Text} {current : ImageMetadata} {running : Option Text}

theorem recovery_asBefore :
    Does (AsBefore before running) recovery (fun _ => AsBefore before running)
      (AsBefore before running) (AsBefore before running) := by
  refine .bind (recoverBundle_does fun _ h => h.1) fun _ => .bind .fileExists fun found => ?_
  cases found with
  | false => exact .pure fun _ => And.left
  | true =>
      rintro host ⟨hbefore, hsome⟩
      rw [hbefore.2.1] at hsome
      exact absurd hsome (by simp)

/-- The rollback behind the recovery that every locked command starts with. -/
theorem withLock_rollback_does (hload : loadImageMetadata before = some current)
    (hprevious : current.previousImage ≠ []) :
    Does (AsBefore before running) (withLock cmdRollback)
      (fun _ installation => Unmarked before current installation ∧
        Deployed (renderImageEnv (swapImages current)) current.previousImage installation)
      (Recoverable before current running) (Recoverable before current running) :=
  .bind (recovery_asBefore.weaken (fun _ => id) (fun _ _ => id) (fun _ => AsBefore.recoverable)
    fun _ => AsBefore.recoverable) fun _ => cmdRollback_does hload hprevious

/-- Recoveries that are cut short keep a rollback recoverable. -/
theorem recoverable_of_recoveries {recovering stopped : Installation}
    (hload : loadImageMetadata before = some current)
    (hstopped : Recoverable before current running stopped)
    (hruns : Relation.ReflTransGen (MayLeave recovery) stopped recovering) :
    Recoverable before current running recovering := by
  induction hruns with
  | refl => exact hstopped
  | tail _ hrun ih => exact (recovery_does hload).leaves (fun _ => .inl) ih hrun

/-- After the recovery, the metadata is as before or swapped. -/
theorem Settled.metadata {installation : Installation} (h : Settled before current running installation) :
    installation.files .imageEnv = some before ∨
      installation.files .imageEnv = some (renderImageEnv (swapImages current)) := by
  rcases h with h | ⟨-, -, h | h⟩
  · exact .inl h.2.2.1
  · exact .inl h.1
  · exact .inr h.1

/-- After the recovery, what the metadata names runs, if it ran before. -/
theorem Settled.container {installation : Installation}
    (hload : loadImageMetadata before = some current) (hprevious : current.previousImage ≠ [])
    (hrunning : running = some current.image) (h : Settled before current running installation) :
    ∃ metadata, (installation.files .imageEnv).bind loadImageMetadata = some metadata ∧
      installation.container = some metadata.image := by
  rcases h with h | ⟨-, -, h | h⟩
  · exact ⟨current, by rw [h.2.2.1, Option.bind_some, hload], h.2.2.2.trans hrunning⟩
  · exact ⟨current, by rw [h.1, Option.bind_some, hload], h.2⟩
  · have hvalid := swapImages_valid (valid_of_loadImageMetadata hload) hprevious
    exact ⟨swapImages current, by rw [h.1, Option.bind_some, loadImageMetadata_render hvalid], h.2⟩

/-- Swapping twice is no swap. -/
theorem twoRollbacks {start first second : Installation}
    (hload : loadImageMetadata before = some current) (hprevious : current.previousImage ≠ [])
    (hstart : AsBefore before running start)
    (hfirst : MayComplete (withLock cmdRollback) start first)
    (hsecond : MayComplete (withLock cmdRollback) first second) :
    (second.files .imageEnv).bind loadImageMetadata = some current := by
  obtain ⟨⟨hbundle, hmarker, -⟩, henv, -⟩ :=
    (withLock_rollback_does hload hprevious).completes hstart hfirst
  have hvalid := valid_of_loadImageMetadata hload
  have hswapped := loadImageMetadata_render (swapImages_valid hvalid hprevious)
  have hother : (swapImages current).previousImage ≠ [] := (imageDigest_plain hvalid.image).1
  obtain ⟨-, hback, -⟩ := (withLock_rollback_does hswapped hother).completes
    ⟨hbundle, hmarker, henv, rfl⟩ hsecond
  rw [hback, Option.bind_some]
  exact loadImageMetadata_render hvalid

end Rollback

/-! ## Results -/

/-- Wherever a rollback and the recoveries after it stop, the first recovery that
completes leaves the metadata as it was or exactly swapped, and a container that ran
the image that was named runs the image that is named then. Two rollbacks are none, and
writing metadata that was accepted loses nothing of it. -/
theorem rollback_atomicity :
    (∀ before current start, loadImageMetadata before = some current →
      current.previousImage ≠ [] → AsBefore before start.container start →
        (∀ stopped recovering final, MayLeave (withLock cmdRollback) start stopped →
          Relation.ReflTransGen (MayLeave recovery) stopped recovering →
          MayComplete recovery recovering final →
            (final.files .imageEnv = some before ∨
              final.files .imageEnv = some (renderImageEnv (swapImages current))) ∧
            (start.container = some current.image →
              ∃ metadata, (final.files .imageEnv).bind loadImageMetadata = some metadata ∧
                final.container = some metadata.image)) ∧
        ∀ first second, MayComplete (withLock cmdRollback) start first →
          MayComplete (withLock cmdRollback) first second →
            (second.files .imageEnv).bind loadImageMetadata = some current) ∧
    ∀ content metadata, loadImageMetadata content = some metadata →
      loadImageMetadata (renderImageEnv metadata) = some metadata := by
  refine ⟨fun before current start hload hprevious hstart => ⟨?_, ?_⟩, ?_⟩
  · intro stopped recovering final hstopped hrecovering hfinal
    have hleft := (withLock_rollback_does hload hprevious).leaves (fun _ h => .inl (.inr h.1))
      hstart hstopped
    have hsettled := (recovery_does hload).completes
      (recoverable_of_recoveries hload hleft hrecovering) hfinal
    exact ⟨hsettled.metadata, hsettled.container hload hprevious⟩
  · exact fun _ _ hfirst hsecond => twoRollbacks hload hprevious hstart hfirst hsecond
  · exact fun _ _ hload => loadImageMetadata_render (valid_of_loadImageMetadata hload)

section Sample

/-- The image with this digit all over its digest. -/
def sampleImage (digit : Char) : Text :=
  imagePrefix ++ List.replicate 64 digit

def sampleMetadata : ImageMetadata where
  image := sampleImage 'b'
  sourceCommit := List.replicate 40 'b'
  uid := ['1']
  gid := ['2']
  previousImage := sampleImage 'a'
  previousSourceCommit := List.replicate 40 'a'

def sampleInstallation : Installation where
  files
    | .asset _ => some []
    | .imageEnv => some (renderImageEnv sampleMetadata)
    | _ => none
  container := some sampleMetadata.image

/-- A host where the script is killed at one command. -/
def sampleHost (installation : Installation) (killedAt : Option Nat) : Host where
  installation := installation
  step := 0
  privateStateDir := "/srv/state".toList
  outcomes step := if killedAt = some step then .killed else .succeeds
  written _ := none
  wreckage _ := none
  survives _ _ := false
  freshName _ := []
  signalTraps := false
  health _ := .healthy
  composeImages _ environment := (loadImageMetadata environment).map ImageMetadata.image

theorem sampleHost_installation (installation : Installation) (killedAt : Option Nat) :
    (sampleHost installation killedAt).installation = installation := rfl

/-- The rollback has published the other image and is killed. -/
def sampleKilled : Installation :=
  ((withLock cmdRollback).perform (sampleHost sampleInstallation (some 34))).2.installation

def sampleRecovered : Installation :=
  (recovery.perform (sampleHost sampleKilled none)).2.installation

theorem rollback_atomicity_sample :
    sampleKilled.files .imageEnv = some (renderImageEnv (swapImages sampleMetadata)) ∧
      (sampleRecovered.files .imageEnv = some (renderImageEnv sampleMetadata) ∨
        sampleRecovered.files .imageEnv = some (renderImageEnv (swapImages sampleMetadata))) ∧
      ∃ metadata, (sampleRecovered.files .imageEnv).bind loadImageMetadata = some metadata ∧
        sampleRecovered.container = some metadata.image := by
  have hload : loadImageMetadata (renderImageEnv sampleMetadata) = some sampleMetadata := by
    decide +kernel
  have hprevious : sampleMetadata.previousImage ≠ [] := by decide
  have hbefore : AsBefore (renderImageEnv sampleMetadata) sampleInstallation.container
      sampleInstallation := ⟨rfl, rfl, rfl, rfl⟩
  have hkilled : MayLeave (withLock cmdRollback) sampleInstallation sampleKilled :=
    ⟨_, sampleHost_installation _ (some 34), rfl⟩
  have hcompletes : (recovery.perform (sampleHost sampleKilled none)).1.isOk = true := by
    decide +kernel
  have hpublished : sampleKilled.files .imageEnv =
      some (renderImageEnv (swapImages sampleMetadata)) := by
    decide +kernel
  refine ⟨hpublished, ?_⟩
  cases hperform : recovery.perform (sampleHost sampleKilled none) with
  | mk outcome after =>
      rw [hperform] at hcompletes
      cases outcome with
      | error interruption => exact absurd hcompletes Bool.false_ne_true
      | ok result =>
          have hrecovered : MayComplete recovery sampleKilled sampleRecovered :=
            ⟨_, after, sampleHost_installation _ none, hperform,
              (congrArg (fun ended => ended.2.installation) hperform).symm⟩
          have hatomic := (rollback_atomicity.1 _ _ _ hload hprevious hbefore).1 _ _ _ hkilled
            .refl hrecovered
          exact ⟨hatomic.1, hatomic.2 rfl⟩

end Sample

end Manager

end CompanionBridge
