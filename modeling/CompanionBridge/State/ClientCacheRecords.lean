import CompanionBridge.State.ClientCacheWalk

/-!
# The records behind a stamp

What is read of the records of a directory, and what has to be the same for it to be read
again.
-/

namespace CompanionBridge

open Interruptible

section Inspecting

variable {World Result : Type} {first second : World} {handler other : DirectoryM World Result}

/-- Inspecting turns a system error into one of the records. -/
theorem perform_inspecting (handler : DirectoryM World Result) (world : World) :
    (inspecting handler).perform world =
      match handler.perform world with
      | (.ok result, after) => (.ok result, after)
      | (.error (.raised error), after) => (.error (.raised (.inspection error)), after)
      | (.error .crashed, after) => (.error .crashed, after) := rfl

theorem inspecting_agrees (h : Agrees first second handler other) :
    Agrees first second (inspecting handler) (inspecting other) := by
  obtain ⟨outcome, hfirst, hsecond⟩ := h
  unfold Agrees
  rw [perform_inspecting, perform_inspecting, hfirst, hsecond]
  cases outcome with
  | ok result => exact ⟨.ok result, rfl, rfl⟩
  | error interruption =>
      cases interruption with
      | raised error => exact ⟨.error (.raised (.inspection error)), rfl, rfl⟩
      | crashed => exact ⟨.error .crashed, rfl, rfl⟩

theorem validatePrivateFileMetadata_agrees (effectiveUid : Nat) (info : RecordStat) :
    Agrees first second (validatePrivateFileMetadata effectiveUid info)
      (validatePrivateFileMetadata effectiveUid info) :=
  .ite (fun _ => .raise) fun _ => .ite (fun _ => .raise) fun _ => .ite (fun _ => .raise)
    fun _ => .pure

end Inspecting

namespace RecordFileSystem

variable {Tree Object : Type} (files : RecordFileSystem Tree Object)

def recordStat (tree : Tree) (object : Object) : Except Nat RecordStat :=
  (files.stat tree object).map fun info => { info with size := files.size tree object }

/-- The calls, with the objects themselves for descriptors. -/
def stateCalls : StateCalls Object Tree where
  toDirectoryCalls := files.calls
  openRecord directory name tree := (do
    let object ← files.entry tree directory name
    files.openable tree object
    return object, tree)
  lstatRecord directory name tree := (do
    let object ← files.entry tree directory name
    files.recordStat tree object, tree)
  fstatRecord object tree := (files.recordStat tree object, tree)
  readRecord object tree := (files.content tree object, tree)

/-- A record that opens and passes its checks. -/
structure RecordPasses (tree : Tree) (object : Object) (info : RecordStat) : Prop where
  openable : files.openable tree object = .ok ()
  validated : (validatePrivateFileFd files.stateCalls object).perform tree = (.ok (), tree)
  stat : files.recordStat tree object = .ok info

/-- A record whose checks and content are those of another. -/
structure SameRecord (before after : Tree) (object other : Object) : Prop extends
    files.SameAccess before after object other where
  openable : files.openable before object = files.openable after other
  size : files.size before object = files.size after other
  content : files.content before object = files.content after other

variable {files} {before after tree : Tree} {object other directory : Object} {info : RecordStat}
variable {name : String}

theorem SameRecord.recordStat (h : files.SameRecord before after object other) :
    files.recordStat before object = files.recordStat after other := by
  unfold RecordFileSystem.recordStat
  rw [h.stat, h.size]

theorem SameRecord.refl (tree : Tree) (object : Object) :
    files.SameRecord tree tree object object :=
  ⟨FileSystem.SameAccess.refl tree object, rfl, rfl, rfl⟩

theorem validatePrivateFileFd_agrees (h : files.SameRecord before after object other) :
    Agrees before after (validatePrivateFileFd files.stateCalls object)
      (validatePrivateFileFd files.stateCalls other) := by
  have hfstat : Agrees before after (files.stateCalls.fstatRecord object).run
      (files.stateCalls.fstatRecord other).run :=
    run_agrees (FileSystem.tried_agrees h.recordStat)
  refine (inspecting_agrees hfstat).bind fun info => ?_
  refine .bind (validatePrivateFileMetadata_agrees _ info) fun _ => ?_
  exact inspecting_agrees (validateProjectAclFd_agrees h.agree files.platform)

/-- The same record passes again. -/
theorem RecordPasses.again (hpasses : files.RecordPasses before object info)
    (hsame : files.SameRecord before after object other) :
    files.RecordPasses after other info where
  openable := hsame.openable.symm.trans hpasses.openable
  validated := ((validatePrivateFileFd_agrees hsame).of_perform hpasses.validated).2
  stat := hsame.recordStat.symm.trans hpasses.stat

/-! ## Opening, reading and looking -/

theorem perform_fstatRecord (tree : Tree) (object : Object) :
    (inspecting (files.stateCalls.fstatRecord object).run).perform tree =
      match files.recordStat tree object with
      | .ok info => (.ok info, tree)
      | .error errno => (.error (.raised (.inspection (.system errno))), tree) := by
  dsimp only [inspecting, Handler.perform, DirectoryCall.run, stateCalls]
  cases files.recordStat tree object with
  | ok info => rfl
  | error errno => rfl

/-- What passes the checks has metadata. -/
theorem stat_of_validated
    (hvalidated : (validatePrivateFileFd files.stateCalls object).perform tree = (.ok (), tree)) :
    ∃ info, files.recordStat tree object = .ok info := by
  cases hstat : files.recordStat tree object with
  | ok info => exact ⟨info, rfl⟩
  | error errno =>
      have hfstat := @perform_fstatRecord _ _ files tree object
      rw [hstat] at hfstat
      have hraised := (perform_bind_of_error hfstat).symm.trans hvalidated
      cases hraised

theorem perform_closeRecord (tree : Tree) (object : Object) :
    (closeRecord files.stateCalls object).perform tree = (.ok (), tree) := rfl

theorem perform_openRecord (tree : Tree) (directory : Object) (name : String) :
    (inspecting (files.stateCalls.openRecord directory name).run).perform tree =
      match files.entry tree directory name with
      | .error errno => (.error (.raised (.inspection (.system errno))), tree)
      | .ok object =>
          match files.openable tree object with
          | .error errno => (.error (.raised (.inspection (.system errno))), tree)
          | .ok _ => (.ok object, tree) := by
  dsimp only [inspecting, Handler.perform, DirectoryCall.run, stateCalls]
  cases files.entry tree directory name with
  | error errno => rfl
  | ok object =>
      dsimp only [bind, Except.bind]
      cases files.openable tree object with
      | error errno => rfl
      | ok _ => rfl

/-- A record is opened if it passes its checks; one that is not there is not found. -/
theorem perform_openPrivateStateFileAt (tree : Tree) (directory : Object) (name : String) :
    (∃ object info, files.entry tree directory name = .ok object ∧
      files.RecordPasses tree object info ∧
      (openPrivateStateFileAt files.stateCalls directory name).perform tree =
        (.ok object, tree)) ∨
    (∀ object info, files.entry tree directory name = .ok object →
      ¬ files.RecordPasses tree object info) ∧
    ∃ interruption, (openPrivateStateFileAt files.stateCalls directory name).perform tree =
        (.error interruption, tree) ∧
      (files.entry tree directory name = .error enoent →
        interruption = .raised (.inspection (.system enoent))) := by
  have hopen := @perform_openRecord _ _ files tree directory name
  -- the entry is looked up, opened and validated in turn
  cases hentry : files.entry tree directory name with
  | error errno =>
      rw [hentry] at hopen
      refine .inr ⟨fun object info => nofun, _, perform_bind_of_error hopen, ?_⟩
      intro hnone
      rw [Except.error.inj hnone]
  | ok object =>
      rw [hentry] at hopen
      dsimp only at hopen
      cases hopenable : files.openable tree object with
      | error errno =>
          rw [hopenable] at hopen
          refine .inr ⟨?_, _, perform_bind_of_error hopen, nofun⟩
          intro found info hfound hpasses
          obtain rfl := Except.ok.inj hfound
          rw [hpasses.openable] at hopenable
          cases hopenable
      | ok _ =>
          rw [hopenable] at hopen
          have hstart : (openPrivateStateFileAt files.stateCalls directory name).perform tree = _ :=
            Handler.perform_bind_of_ok hopen
          obtain ⟨outcome, hvalidate, -⟩ :=
            validatePrivateFileFd_agrees (@SameRecord.refl _ _ files tree object)
          have hchecked : (onError (validatePrivateFileFd files.stateCalls object)
              (closeRecord files.stateCalls object)).perform tree = (outcome, tree) := by
            rw [onError, perform_catching, hvalidate]
            cases outcome with
            | ok _ => rfl
            | error interruption =>
                cases interruption with
                | raised error => rfl
                | crashed => rfl
          cases outcome with
          | ok _ =>
              obtain ⟨info, hinfo⟩ := stat_of_validated hvalidate
              refine .inl ⟨object, info, rfl, ⟨hopenable, hvalidate, hinfo⟩, ?_⟩
              exact hstart.trans ((Handler.perform_bind_of_ok hchecked).trans rfl)
          | error interruption =>
              refine .inr ⟨?_, interruption, hstart.trans (perform_bind_of_error hchecked), nofun⟩
              intro found info hfound hpasses
              obtain rfl := Except.ok.inj hfound
              have hvalidated := hpasses.validated
              rw [hvalidate] at hvalidated
              cases hvalidated

/-! ## Stamps -/

section Stamps

variable (files)

/-- The stamp of a name of a directory, as `private_state_file_lstat_at` takes it. -/
def stampAt (tree : Tree) (directory : Object) (name : String) :
    Except Nat (Option RecordStat) :=
  match files.entry tree directory name with
  | .ok object => (files.recordStat tree object).map some
  | .error errno => if errno = enoent then .ok none else .error errno

/-- The stamps of the three records. -/
def stampsAt (path : StorePath) (tree : Tree) (directory : Object) : Except Nat RecordStamps := do
  let clients ← files.stampAt tree directory path.name
  let legacyClearAll ← files.stampAt tree directory legacyClearAllTombstoneFilename
  let identityReset ← files.stampAt tree directory identityResetTombstoneFilename
  return { clients, legacyClearAll, identityReset }

end Stamps

theorem recordStat_of_entry (hentry : files.entry tree directory name = .ok object) :
    files.recordStat tree object ≠ .error enoent := by
  have hthere := files.stat_of_entry tree directory name object hentry
  unfold recordStat
  cases hstat : files.stat tree object with
  | ok info => exact nofun
  | error errno =>
      intro hnone
      apply hthere
      rw [hstat, Except.error.inj hnone]

theorem stampAt_eq_none :
    files.stampAt tree directory name = .ok none ↔
      files.entry tree directory name = .error enoent := by
  unfold stampAt
  cases hentry : files.entry tree directory name with
  | ok object =>
      dsimp only
      cases files.recordStat tree object with
      | ok info => simp [Except.map]
      | error errno => simp [Except.map]
  | error errno =>
      dsimp only
      split_ifs with henoent
      · simp [henoent]
      · simp [henoent]

/-- A stamp is the metadata of the record that the name leads to. -/
theorem stampAt_eq_some :
    files.stampAt tree directory name = .ok (some info) ↔
      ∃ object, files.entry tree directory name = .ok object ∧
        files.recordStat tree object = .ok info := by
  unfold stampAt
  cases hentry : files.entry tree directory name with
  | ok object =>
      dsimp only
      cases hstat : files.recordStat tree object with
      | ok found => simp [Except.map, hstat]
      | error errno => simp [Except.map, hstat]
  | error errno =>
      dsimp only
      split_ifs with henoent
      · simp
      · simp

theorem perform_privateStateFileLstatAt (tree : Tree) (directory : Object) (name : String) :
    (privateStateFileLstatAt files.stateCalls directory name).perform tree =
      ((files.stampAt tree directory name).mapError fun errno =>
        .raised (.inspection (.system errno)), tree) := by
  have htried : (inspecting (files.stateCalls.lstatRecord directory name).tried).perform tree =
      (.ok (files.entry tree directory name >>= files.recordStat tree), tree) := rfl
  unfold privateStateFileLstatAt stampAt
  rw [Handler.perform_bind_of_ok htried]
  cases hentry : files.entry tree directory name with
  | ok object =>
      have hthere := recordStat_of_entry hentry
      dsimp only [bind, Except.bind]
      cases hstat : files.recordStat tree object with
      | ok info => rfl
      | error errno =>
          dsimp only
          have herrno : errno ≠ enoent := by
            intro henoent
            apply hthere
            rw [hstat, henoent]
          rw [if_neg herrno]
          rfl
  | error errno =>
      dsimp only [bind, Except.bind]
      split_ifs
      · rfl
      · rfl

/-- The cheap stamps are those of the records and their markers. -/
theorem perform_cheapStamps (path : StorePath) (tree : Tree) (directory : Object) :
    (cheapStamps files.stateCalls path directory).perform tree =
      ((files.stampsAt path tree directory).mapError fun errno =>
        .raised (.inspection (.system errno)), tree) := by
  have hlook := @perform_privateStateFileLstatAt _ _ files tree directory
  unfold cheapStamps stampsAt
  have hclients := hlook path.name
  cases hstamp : files.stampAt tree directory path.name with
  | error errno =>
      rw [hstamp] at hclients
      exact perform_bind_of_error hclients
  | ok clients =>
      rw [hstamp] at hclients
      apply (Handler.perform_bind_of_ok hclients).trans
      have hlegacy := hlook legacyClearAllTombstoneFilename
      cases hstamp : files.stampAt tree directory legacyClearAllTombstoneFilename with
      | error errno =>
          rw [hstamp] at hlegacy
          exact perform_bind_of_error hlegacy
      | ok legacyClearAll =>
          rw [hstamp] at hlegacy
          apply (Handler.perform_bind_of_ok hlegacy).trans
          have hidentity := hlook identityResetTombstoneFilename
          cases hstamp : files.stampAt tree directory identityResetTombstoneFilename with
          | error errno =>
              rw [hstamp] at hidentity
              exact perform_bind_of_error hidentity
          | ok identityReset =>
              rw [hstamp] at hidentity
              apply (Handler.perform_bind_of_ok hidentity).trans
              rfl

/-- All of them are read, or none counts. -/
theorem stampsAt_eq_ok {path : StorePath} {stamps : RecordStamps} :
    files.stampsAt path tree directory = .ok stamps ↔
      files.stampAt tree directory path.name = .ok stamps.clients ∧
      files.stampAt tree directory legacyClearAllTombstoneFilename = .ok stamps.legacyClearAll ∧
      files.stampAt tree directory identityResetTombstoneFilename = .ok stamps.identityReset := by
  unfold stampsAt
  dsimp only [bind, Except.bind, pure, Except.pure]
  cases files.stampAt tree directory path.name with
  | error errno => simp
  | ok clients =>
      cases files.stampAt tree directory legacyClearAllTombstoneFilename with
      | error errno => simp
      | ok legacyClearAll =>
          cases files.stampAt tree directory identityResetTombstoneFilename with
          | error errno => simp
          | ok identityReset =>
              cases stamps
              simp

/-! ## Reading -/

theorem perform_fstatRecord_or_close (tree : Tree) {object : Object} {info : RecordStat}
    (hstat : files.recordStat tree object = .ok info) :
    (onError (inspecting (files.stateCalls.fstatRecord object).run)
      (closeRecord files.stateCalls object)).perform tree = (.ok info, tree) := by
  rw [onError, perform_catching, perform_fstatRecord, hstat]

theorem perform_readRecord_or_close (tree : Tree) {object : Object} {content : Bytes}
    (hcontent : files.content tree object = .ok content) :
    (onError (inspecting (files.stateCalls.readRecord object).run)
      (closeRecord files.stateCalls object)).perform tree = (.ok content, tree) := by
  rw [onError, perform_catching, perform_inspecting]
  dsimp only [Handler.perform, DirectoryCall.run, stateCalls]
  rw [hcontent]

/-- A record that passes its checks gives its metadata. -/
theorem perform_privateStateFileStatAt (tree : Tree) (directory : Object) (name : String) :
    (∃ object info, files.entry tree directory name = .ok object ∧
      files.RecordPasses tree object info ∧
      (privateStateFileStatAt files.stateCalls directory name).perform tree = (.ok info, tree)) ∨
    (∀ object info, files.entry tree directory name = .ok object →
      ¬ files.RecordPasses tree object info) ∧
    ∃ interruption, (privateStateFileStatAt files.stateCalls directory name).perform tree =
        (.error interruption, tree) ∧
      (files.entry tree directory name = .error enoent →
        interruption = .raised (.inspection (.system enoent))) := by
  rcases @perform_openPrivateStateFileAt _ _ files tree directory name with
    ⟨object, info, hentry, hpasses, hopen⟩ | ⟨hrefused, interruption, hopen, hnone⟩
  · refine .inl ⟨object, info, hentry, hpasses, ?_⟩
    apply (Handler.perform_bind_of_ok hopen).trans
    apply (Handler.perform_bind_of_ok (perform_fstatRecord_or_close tree hpasses.stat)).trans
    apply (Handler.perform_bind_of_ok (perform_closeRecord tree object)).trans
    rfl
  · exact .inr ⟨hrefused, interruption, perform_bind_of_error hopen, hnone⟩

/-- And its content. -/
theorem perform_readPrivateStateTextAt (tree : Tree) (directory : Object) (name : String) :
    (∃ object info content, files.entry tree directory name = .ok object ∧
      files.RecordPasses tree object info ∧ files.content tree object = .ok content ∧
      (readPrivateStateTextAt files.stateCalls directory name).perform tree =
        (.ok (content, info), tree)) ∨
    (∀ object info content, files.entry tree directory name = .ok object →
      files.RecordPasses tree object info → files.content tree object ≠ .ok content) ∧
    ∃ interruption, (readPrivateStateTextAt files.stateCalls directory name).perform tree =
        (.error interruption, tree) ∧
      (files.entry tree directory name = .error enoent →
        interruption = .raised (.inspection (.system enoent))) := by
  rcases @perform_openPrivateStateFileAt _ _ files tree directory name with
    ⟨object, info, hentry, hpasses, hopen⟩ | ⟨hrefused, interruption, hopen, hnone⟩
  · have hstart : (readPrivateStateTextAt files.stateCalls directory name).perform tree = _ :=
      (Handler.perform_bind_of_ok hopen).trans
        (Handler.perform_bind_of_ok (perform_fstatRecord_or_close tree hpasses.stat))
    cases hcontent : files.content tree object with
    | ok content =>
        have hread := perform_readRecord_or_close tree hcontent
        refine .inl ⟨object, info, content, hentry, hpasses, hcontent, ?_⟩
        apply hstart.trans
        apply (Handler.perform_bind_of_ok hread).trans
        rfl
    | error errno =>
        have hread : (onError (inspecting (files.stateCalls.readRecord object).run)
            (closeRecord files.stateCalls object)).perform tree =
              (.error (.raised (.inspection (.system errno))), tree) := by
          rw [onError, perform_catching, perform_inspecting]
          dsimp only [Handler.perform, DirectoryCall.run, stateCalls]
          rw [hcontent]
          rfl
        refine .inr ⟨?_, _, hstart.trans (perform_bind_of_error hread), ?_⟩
        · intro other _ content hother _ hfound
          obtain rfl := Except.ok.inj (hentry.symm.trans hother)
          rw [hcontent] at hfound
          cases hfound
        · intro hnone
          rw [hentry] at hnone
          cases hnone
  · refine .inr ⟨?_, interruption, perform_bind_of_error hopen, hnone⟩
    intro object info _ hentry hpasses
    exact absurd hpasses (hrefused object info hentry)

end RecordFileSystem

end CompanionBridge
