import CompanionBridge.Library.Agreement
import CompanionBridge.State.AtomicIoCrash

/-!
# What stays on the disk

A path whose components were committed stays committed through every primitive, whatever
fails. A primitive that returns has synced the directory, so that no entry has a value that
a crash may bring back.
-/

namespace CompanionBridge

open Interruptible StateDirectory

/-! ## Paths that stay committed -/

/-- A committed path stays committed. -/
def PathKept (before after : FileWorld) : Prop :=
  before.directory.Committed → after.directory.Committed

instance : Std.Refl PathKept := ⟨fun _ => id⟩

instance : IsTrans FileWorld PathKept := ⟨fun _ _ _ hfirst hsecond => hsecond ∘ hfirst⟩

section PathKept

variable {Result : Type}

theorem onError_keeps {body : FileM Result} {cleanup : FileM Unit}
    (hbody : Handler.Keeps PathKept body) (hcleanup : Handler.Keeps PathKept cleanup) :
    Handler.Keeps PathKept (onError body cleanup) :=
  keeps_catching hbody fun _ => hcleanup.bind fun _ => keeps_raise _

theorem ignoring_keeps {body : FileM Unit} (hbody : Handler.Keeps PathKept body) :
    Handler.Keeps PathKept (ignoring body) :=
  keeps_catching hbody fun _ => .pure _

/-- A call keeps the path unless it makes a part of it. -/
theorem systemCall_keeps {effect : StateDirectory → Except FileError StateDirectory}
    {halfway : Nat → StateDirectory → StateDirectory}
    (heffect : ∀ directory next, effect directory = .ok next → directory.Committed → next.Committed)
    (hhalfway : ∀ progress directory, directory.Committed → (halfway progress directory).Committed) :
    Handler.Keeps PathKept (systemCall effect halfway) := by
  intro world hcommitted
  unfold systemCall Handler.perform
  dsimp only
  cases world.faults world.calls with
  | none =>
      dsimp only
      cases hended : effect world.directory with
      | ok next => exact heffect _ _ hended hcommitted
      | error error => exact hcommitted
  | fails progress => exact hhalfway progress _ hcommitted
  | crashes progress => exact hhalfway progress _ hcommitted

theorem plainCall_keeps : Handler.Keeps PathKept plainCall :=
  systemCall_keeps (fun _ _ hok => by cases hok; exact id) fun _ _ => id

/-- A call that leaves the path alone. -/
theorem entryCall_keeps {effect : StateDirectory → Except FileError StateDirectory}
    {halfway : Nat → StateDirectory → StateDirectory}
    (heffect : ∀ directory next, effect directory = .ok next → next.path = directory.path)
    (hhalfway : ∀ progress directory, (halfway progress directory).path = directory.path) :
    Handler.Keeps PathKept (systemCall effect halfway) := by
  apply systemCall_keeps
  · intro directory next hended hcommitted
    unfold Committed
    rw [heffect directory next hended]
    exact hcommitted
  · intro progress directory hcommitted
    unfold Committed
    rw [hhalfway progress directory]
    exact hcommitted

theorem unlink_path {directory next : StateDirectory} {name : String}
    (hunlink : directory.unlink name = .ok next) : next.path = directory.path := by
  unfold StateDirectory.unlink at hunlink
  cases hentry : directory.entries name with
  | none =>
      rw [hentry] at hunlink
      cases hunlink
  | some file =>
      rw [hentry] at hunlink
      cases hunlink
      rfl

theorem rename_path {directory next : StateDirectory} {source target : String}
    (hrename : directory.rename source target = .ok next) : next.path = directory.path := by
  unfold StateDirectory.rename at hrename
  cases hentry : directory.entries source with
  | none =>
      rw [hentry] at hrename
      cases hrename
  | some file =>
      rw [hentry] at hrename
      cases hrename
      rfl

theorem createExclusive_path {directory next : StateDirectory} {name : String} {mode : Nat}
    (hcreate : directory.createExclusive name mode = .ok next) : next.path = directory.path := by
  unfold StateDirectory.createExclusive at hcreate
  split_ifs at hcreate
  cases hcreate
  rfl

theorem unlinkAt_keeps (name : String) : Handler.Keeps PathKept (unlinkAt name) := by
  intro world hcommitted
  have hcall := @entryCall_keeps (fun directory => directory.unlink name)
    (fun _ directory => directory) (fun _ _ => unlink_path) (fun _ _ => rfl) world hcommitted
  unfold unlinkAt Handler.perform
  dsimp only
  split
  · exact hcall
  · exact hcall

theorem modifyCall_keeps (name : String) (change : StateFile → StateFile) :
    Handler.Keeps PathKept (systemCall fun directory => .ok (directory.modifyFile name change)) :=
  entryCall_keeps (fun _ _ hok => by cases hok; rfl) fun _ _ => rfl

theorem fsyncDirStrict_keeps : Handler.Keeps PathKept fsyncDirStrict :=
  entryCall_keeps (fun _ _ hok => by cases hok; rfl) fun _ _ => rfl

/-- Where the path is committed, no component is to be made. -/
theorem openOrMakeComponent_keeps (create : Bool) (index : Nat) :
    Handler.Keeps PathKept (openOrMakeComponent create index) := by
  intro world hcommitted
  -- a committed path has every component, so none is made
  have hpresent : world.directory.path[index]? ≠ some .missing := by
    intro hmissing
    have hsynced := hcommitted .missing (List.mem_of_getElem? hmissing)
    cases hsynced
  have hopen : world.directory.openComponent index = .ok world.directory := if_neg hpresent
  unfold openOrMakeComponent
  rw [perform_catching]
  cases hfault : world.faults world.calls with
  | none =>
      have hcall : (systemCall fun directory => directory.openComponent index).perform world =
          (.ok (), world.counted) := by
        unfold systemCall Handler.perform
        dsimp only
        rw [hfault]
        dsimp only
        rw [hopen]
        rfl
      rw [Handler.perform_bind_of_ok hcall]
      exact hcommitted
  | fails progress =>
      have hcall : (systemCall fun directory => directory.openComponent index).perform world =
          (.error (.raised .failed), world.counted) := by
        unfold systemCall Handler.perform
        dsimp only
        rw [hfault]
        rfl
      rw [perform_bind_of_error hcall]
      dsimp only
      rw [if_neg (by simp)]
      exact hcommitted
  | crashes progress =>
      have hcall : (systemCall fun directory => directory.openComponent index).perform world =
          (.error .crashed, world.counted) := by
        unfold systemCall Handler.perform
        dsimp only
        rw [hfault]
        rfl
      rw [perform_bind_of_error hcall]
      exact hcommitted

theorem validateDirectory_keeps : Handler.Keeps PathKept validateDirectory :=
  plainCall_keeps.bind fun _ => plainCall_keeps

theorem validateComponent_keeps (existing : Bool) :
    Handler.Keeps PathKept (validateComponent existing) := by
  cases existing with
  | true => exact validateDirectory_keeps
  | false =>
      exact plainCall_keeps.bind fun _ => plainCall_keeps.bind fun _ => validateDirectory_keeps

theorem commitComponent_keeps (create : Bool) (index : Nat) :
    Handler.Keeps PathKept (commitComponent create index) := by
  cases create with
  | false => exact .pure ()
  | true =>
      unfold commitComponent
      rw [if_pos rfl]
      apply systemCall_keeps
      · intro directory next hok hcommitted component hmem
        cases hok
        rcases List.mem_or_eq_of_mem_set hmem with hheld | hsynced
        · exact hcommitted component hheld
        · exact hsynced
      · exact fun _ _ => id

theorem openDurableComponent_keeps (create : Bool) (index : Nat) :
    Handler.Keeps PathKept (openDurableComponent create index) := by
  have hclose : Handler.Keeps PathKept (ignoring closeDescriptor) := ignoring_keeps plainCall_keeps
  refine (openOrMakeComponent_keeps create index).bind fun existing => ?_
  refine (onError_keeps ((validateComponent_keeps existing).bind fun _ => ?_) hclose).bind fun _ => ?_
  · exact commitComponent_keeps create index
  · exact onError_keeps plainCall_keeps hclose

theorem openDurableComponents_keeps (create : Bool) (remaining index : Nat) :
    Handler.Keeps PathKept (openDurableComponents create remaining index) := by
  induction remaining generalizing index with
  | zero => exact .pure ()
  | succ remaining ih =>
      exact (openDurableComponent_keeps create index).bind fun _ => ih (index + 1)

/-- So does whatever works in the directory it has opened. -/
theorem withDurableDirectory_keeps (create : Bool) {body : FileM Result}
    (hbody : Handler.Keeps PathKept body) :
    Handler.Keeps PathKept (withDurableDirectory create body) := by
  have hclose : Handler.Keeps PathKept (ignoring closeDescriptor) := ignoring_keeps plainCall_keeps
  have hopen : Handler.Keeps PathKept (openDurableDirectoryHandle create) := by
    refine plainCall_keeps.bind fun _ => onError_keeps ?_ hclose
    refine validateDirectory_keeps.bind fun _ => (Handler.Keeps.read _).bind fun length => ?_
    exact openDurableComponents_keeps create length 0
  exact hopen.bind fun _ => (onError_keeps hbody hclose).bind fun _ =>
    plainCall_keeps.bind fun _ => .pure _

theorem validatePrivateFile_keeps (name : String) :
    Handler.Keeps PathKept (validatePrivateFile name) := by
  refine plainCall_keeps.bind fun _ => plainCall_keeps.bind fun _ => plainCall_keeps.bind fun _ =>
    (Handler.Keeps.read _).bind fun file => ?_
  split_ifs
  · exact entryCall_keeps (fun _ _ hok => by cases hok; rfl) fun _ _ => rfl
  · exact keeps_raise _

/-- The attempts at a temporary file, by induction on those that remain. -/
theorem createPrivateTempFile_keeps (name : String) (mode attempts : Nat) (tokens : Nat → String) :
    Handler.Keeps PathKept (createPrivateTempFile name mode attempts tokens) := by
  have hclose : Handler.Keeps PathKept (ignoring closeDescriptor) := ignoring_keeps plainCall_keeps
  induction attempts generalizing tokens with
  | zero => exact keeps_raise _
  | succ attempts ih =>
      unfold createPrivateTempFile
      refine (keeps_catching ((entryCall_keeps (fun _ _ => createExclusive_path)
        fun _ _ => rfl).bind fun _ => .pure _) fun error => ?_).bind fun created => ?_
      · split_ifs
        · exact .pure _
        · exact keeps_raise _
      · split_ifs
        · refine onError_keeps ((modifyCall_keeps _ _).bind fun _ =>
            (validatePrivateFile_keeps _).bind fun _ => .pure _) ?_
          exact hclose.bind fun _ => ignoring_keeps (unlinkAt_keeps _)
        · exact ih _

theorem writeThrough_keeps (temporary : String) (encoded : Option Bytes) :
    Handler.Keeps PathKept (writeThrough temporary encoded) := by
  have hclose : Handler.Keeps PathKept (ignoring closeDescriptor) := ignoring_keeps plainCall_keeps
  refine (onError_keeps ?_ hclose).bind fun _ => plainCall_keeps
  cases encoded with
  | none => exact keeps_raise _
  | some content =>
      have hwrite (written : Bytes) : Handler.Keeps PathKept
          (systemCall (fun directory => .ok (directory.writeFile temporary written))
            fun progress directory => directory.writeFile temporary (content.take progress)) :=
        entryCall_keeps (fun _ _ hok => by cases hok; rfl) fun _ _ => rfl
      exact (hwrite []).bind fun _ => (hwrite content).bind fun _ => modifyCall_keeps _ _

theorem atomicWriteTextAt_keeps (tokens : Nat → String) (encode : String → Option Bytes)
    (name data : String) (mode : Nat) :
    Handler.Keeps PathKept (atomicWriteTextAt tokens encode name data mode) := by
  have hclose : Handler.Keeps PathKept (ignoring closeDescriptor) := ignoring_keeps plainCall_keeps
  refine (createPrivateTempFile_keeps name mode 32 tokens).bind fun temporary => ?_
  refine onError_keeps ?_ (ignoring_keeps (unlinkAt_keeps temporary))
  refine (onError_keeps plainCall_keeps hclose).bind fun _ =>
    (writeThrough_keeps temporary (encode data)).bind fun _ => ?_
  exact (entryCall_keeps (fun _ _ => rename_path) fun _ _ => rfl).bind fun _ =>
    fsyncDirStrict_keeps

theorem durableAtomicWriteText_keeps (tokens : Nat → String) (encode : String → Option Bytes)
    (name data : String) (mode : Nat) :
    Handler.Keeps PathKept (durableAtomicWriteText tokens encode name data mode) := by
  unfold durableAtomicWriteText
  split_ifs
  · exact withDurableDirectory_keeps true (atomicWriteTextAt_keeps tokens encode name data mode)
  · exact keeps_raise _

theorem durableFsyncParent_keeps (name : String) :
    Handler.Keeps PathKept (durableFsyncParent name) := by
  unfold durableFsyncParent
  split_ifs
  · exact withDurableDirectory_keeps false fsyncDirStrict_keeps
  · exact keeps_raise _

theorem durableUnlink_keeps (name : String) : Handler.Keeps PathKept (durableUnlink name) := by
  unfold durableUnlink
  split_ifs
  · refine keeps_catching (withDurableDirectory_keeps false ?_) fun error => ?_
    · refine Handler.Keeps.bind (keeps_catching ((unlinkAt_keeps name).bind fun _ => .pure _)
        fun error => ?_) fun _ => fsyncDirStrict_keeps.bind fun _ => .pure _
      split_ifs
      · exact .pure _
      · exact keeps_raise _
    · split_ifs
      · exact .pure _
      · exact keeps_raise _
  · exact keeps_raise _

end PathKept

/-- A write that opened the directory has committed its path; one that did not has
changed nothing. -/
theorem durableAtomicWriteText_path (start : StateDirectory) (tokens : Nat → String)
    (encode : String → Option Bytes) (name data : String) (mode : Nat) :
    Meets (directoryHolds (· = start)) (durableAtomicWriteText tokens encode name data mode)
      ⟨fun _ world => world.directory.Committed ∨ Frames [] start world.directory,
        fun _ world => world.directory.Committed ∨ Frames [] start world.directory,
        fun world => world.directory.Committed ∨ Frames [] start world.directory⟩ := by
  have hbody : Meets (directoryHolds (Opened start true []))
      (atomicWriteTextAt tokens encode name data mode)
      ⟨fun _ world => world.directory.Committed ∨ Frames [] start world.directory,
        fun _ world => world.directory.Committed ∨ Frames [] start world.directory,
        fun world => world.directory.Committed ∨ Frames [] start world.directory⟩ := by
    apply Meets.of_keeps (atomicWriteTextAt_keeps tokens encode name data mode)
    intro first last hopened hkept
    exact .inl (hkept (hopened.1.committed rfl))
  unfold durableAtomicWriteText
  split_ifs
  · apply withDurableDirectory_meets hbody
    · exact fun _ _ hnot => .inr hnot.1.frames
    · exact fun _ hframes => .inr hframes.1
    · exact fun _ => plainCall_ends (fun _ => id) (fun _ => id) fun _ => id
    · exact fun _ => ignoringClose_ends (fun _ => id) fun _ => id
  · apply Meets.raise
    rintro world ⟨rfl, -⟩
    exact .inr (.refl [] _)

/-! ## Directories that have been synced -/

/-- No entry has a value that a crash may bring back. -/
def Fresh (directory : StateDirectory) : Prop :=
  ∀ name, directory.former name = []

/-- The outcomes of a program that syncs the directory before it returns. -/
def syncedEnds {Result : Type} : Outcomes FileError FileWorld Result :=
  ⟨fun _ world => Fresh world.directory, fun _ _ => True, fun _ => True⟩

section Synced

variable {Result : Type}

/-- Nothing is promised of a run. -/
theorem meets_trivial {pre : FileWorld → Prop} (handler : FileM Result) :
    Meets pre handler ⟨fun _ _ => True, fun _ _ => True, fun _ => True⟩ := by
  intro world _
  cases hended : handler.perform world with
  | mk outcome after =>
      cases outcome with
      | ok result => trivial
      | error interruption =>
          cases interruption with
          | raised error => trivial
          | crashed => trivial

/-- What a crash may bring back is gone after the last sync. -/
theorem fsyncDirStrict_fresh :
    Meets (fun _ => True) fsyncDirStrict
      ⟨fun _ world => Fresh world.directory, fun error _ => error = .failed, fun _ => True⟩ := by
  intro world _
  unfold fsyncDirStrict systemCall Handler.perform
  dsimp only
  cases world.faults world.calls with
  | none => exact fun _ => rfl
  | fails progress => rfl
  | crashes progress => trivial

theorem fsyncDirStrict_synced : Meets (fun _ => True) fsyncDirStrict syncedEnds :=
  fsyncDirStrict_fresh.weaken (fun _ => id) (fun _ _ => id) (fun _ _ _ => trivial) fun _ => id

/-- Whatever runs before a program that syncs the directory. -/
theorem synced_after {Before : Type} (handler : FileM Before) {next : Before → FileM Result}
    (hnext : ∀ result, Meets (fun _ => True) (next result) syncedEnds) :
    Meets (fun _ => True) (handler >>= next) syncedEnds :=
  .bind (meets_trivial handler) hnext

/-- A cleanup comes after an error, which promises nothing. -/
theorem synced_onError {body : FileM Result} (cleanup : FileM Unit)
    (hbody : Meets (fun _ => True) body syncedEnds) :
    Meets (fun _ => True) (onError body cleanup) syncedEnds :=
  .catching hbody fun _ => synced_after cleanup fun _ => .raise fun _ _ => trivial

/-- What works in the directory syncs it before it returns. -/
theorem withDurableDirectory_synced (create : Bool) {body : FileM Result}
    (hbody : Meets (fun _ => True) body syncedEnds) :
    Meets (fun _ => True) (withDurableDirectory create body) syncedEnds := by
  refine synced_after _ fun _ => .bind (synced_onError _ hbody) fun result =>
    .bind (plainCall_ends (fun _ => id) (fun _ _ => trivial) fun _ _ => trivial) fun _ =>
      .pure fun _ => id

theorem durableAtomicWriteText_synced (tokens : Nat → String) (encode : String → Option Bytes)
    (name data : String) (mode : Nat) :
    Meets (fun _ => True) (durableAtomicWriteText tokens encode name data mode) syncedEnds := by
  unfold durableAtomicWriteText
  split_ifs
  · refine withDurableDirectory_synced true (synced_after _ fun temporary => synced_onError _ ?_)
    exact synced_after _ fun _ => synced_after _ fun _ => synced_after _ fun _ =>
      fsyncDirStrict_synced
  · exact .raise fun _ _ => trivial

theorem durableFsyncParent_synced (name : String) :
    Meets (fun _ => True) (durableFsyncParent name) syncedEnds := by
  unfold durableFsyncParent
  split_ifs
  · exact withDurableDirectory_synced false fsyncDirStrict_synced
  · exact .raise fun _ _ => trivial

/-- A sync changes no entry. -/
theorem durableFsyncParent_frames (start : StateDirectory) (name : String) :
    Meets (directoryHolds (· = start)) (durableFsyncParent name)
      ⟨fun _ world => Frames [] start world.directory,
        fun _ world => Frames [] start world.directory,
        fun world => Frames [] start world.directory⟩ := by
  have hbody : Meets (directoryHolds (Opened start false [])) fsyncDirStrict
      ⟨fun _ world => Frames [] start world.directory,
        fun _ world => Frames [] start world.directory,
        fun world => Frames [] start world.directory⟩ := by
    rintro world ⟨hopened, -⟩
    unfold fsyncDirStrict systemCall Handler.perform
    dsimp only
    cases world.faults world.calls with
    | none => exact hopened.frames.trans (sync_frames _)
    | fails progress => exact hopened.frames
    | crashes progress => exact hopened.frames
  unfold durableFsyncParent
  split_ifs
  · apply withDurableDirectory_meets hbody
    · exact fun _ _ hnot => hnot.1.frames
    · exact fun _ hframes => hframes.1
    · exact fun _ => plainCall_ends (fun _ => id) (fun _ => id) fun _ => id
    · exact fun _ => ignoringClose_ends (fun _ => id) fun _ => id
  · apply Meets.raise
    rintro world ⟨rfl, -⟩
    exact .refl [] _

/-- An unlink that returns has synced the directory, or found none. -/
theorem durableUnlink_synced (start : StateDirectory) (name : String) :
    Meets (directoryHolds (· = start)) (durableUnlink name)
      ⟨fun _ world => Fresh world.directory ∨ .missing ∈ world.directory.path,
        fun _ _ => True, fun _ => True⟩ := by
  -- The only `notFound` that gets through is that of the walk.
  let missing : Outcomes FileError FileWorld Bool :=
    ⟨fun _ world => Fresh world.directory ∨ .missing ∈ world.directory.path,
      fun error world => error = .notFound → .missing ∈ world.directory.path, fun _ => True⟩
  have hsync (removed : Bool) : Meets (fun _ => True)
      (do
        fsyncDirStrict
        return removed) missing := by
    refine .bind (fsyncDirStrict_fresh.weaken (fun _ => id) (fun _ _ => id) ?_ fun _ => id)
      fun _ => .pure fun _ => .inl
    intro error world hfailed hnotFound
    cases hfailed.symm.trans hnotFound
  have hremove : Meets (directoryHolds (Opened start false []))
      (catching
        (do
          unlinkAt name
          return true)
        fun error => if error = .notFound then pure false else raise error)
      ⟨fun _ _ => True, missing.raised, missing.crashed⟩ := by
    refine @Meets.catching _ _ _ _ _ _ _ (fun _ _ => True) (meets_trivial _) fun error => ?_
    split_ifs with hnotFound
    · exact .pure fun _ _ => trivial
    · exact .raise fun _ _ herror => absurd herror hnotFound
  unfold durableUnlink
  split_ifs
  · refine @Meets.catching _ _ _ _ _ _ _ missing.raised ?_ fun error => ?_
    · apply @withDurableDirectory_meets start false Bool _ missing
      · exact .bind hremove hsync
      · exact fun error world hnot hnotFound => hnot.1.absent hnotFound rfl
      · exact fun _ _ => trivial
      · exact fun _ => plainCall_ends (fun _ => id) (fun _ _ => nofun) fun _ _ => trivial
      · exact fun _ => ignoringClose_ends (fun _ => id) fun _ _ => trivial
    · split_ifs with hnotFound
      · exact .pure fun world hraised => .inr (hraised hnotFound)
      · exact .raise fun _ _ => trivial
  · exact .raise fun _ _ => trivial

end Synced

end CompanionBridge
