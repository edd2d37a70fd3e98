import CompanionBridge.State.AtomicIoCrash

/-!
# Durable operations return

Where no system call fails, a durable unlink returns, and so does a durable write whose text
can be encoded and for which a temporary name is free. The walk to the directory raises only
where it may not create.
-/

namespace CompanionBridge

open Interruptible StateDirectory

/-- No system call fails or crashes, and the directory satisfies a predicate. -/
def Unhindered (predicate : StateDirectory → Prop) (world : FileWorld) : Prop :=
  (∀ call, world.faults call = .none) ∧ predicate world.directory

/-- Outcomes of an operation that does not crash, and raises only as `raised` says. -/
def unhinderedEnds {Result : Type} (returned : Result → StateDirectory → Prop)
    (raised : FileError → Prop) : Outcomes FileError FileWorld Result :=
  ⟨fun result => Unhindered (returned result),
    fun error world => raised error ∧ Unhindered (fun _ => True) world, fun _ => False⟩

section Calls

variable {pre : StateDirectory → Prop} {raised : FileError → Prop} {Result : Type}
variable {returned : Result → StateDirectory → Prop}

theorem Unhindered.mono {stronger : StateDirectory → Prop} {world : FileWorld}
    (hworld : Unhindered stronger world)
    (hmono : ∀ directory, stronger directory → pre directory) : Unhindered pre world :=
  ⟨hworld.1, hmono _ hworld.2⟩

/-- Only what is wrong with the directory makes the call raise. -/
theorem systemCall_unhindered {effect : StateDirectory → Except FileError StateDirectory}
    {halfway : Nat → StateDirectory → StateDirectory} {done : StateDirectory → Prop}
    (hdone : ∀ directory next, pre directory → effect directory = .ok next → done next)
    (hrefused : ∀ directory error, pre directory → effect directory = .error error →
      raised error) :
    Meets (Unhindered pre) (systemCall effect halfway)
      (unhinderedEnds (fun _ => done) raised) := by
  intro world hworld
  obtain ⟨hfaults, hpre⟩ := hworld
  unfold systemCall Handler.perform
  dsimp only
  rw [hfaults]
  dsimp only
  cases hended : effect world.directory with
  | ok next => exact ⟨hfaults, hdone _ _ hpre hended⟩
  | error error => exact ⟨hrefused _ _ hpre hended, hfaults, trivial⟩

/-- A call whose effect is never refused. -/
theorem changeCall_unhindered {change : StateDirectory → StateDirectory}
    {halfway : Nat → StateDirectory → StateDirectory} {done : StateDirectory → Prop}
    (hdone : ∀ directory, pre directory → done (change directory)) :
    Meets (Unhindered pre) (systemCall (fun directory => .ok (change directory)) halfway)
      (unhinderedEnds (fun _ => done) raised) :=
  systemCall_unhindered (fun directory _ hpre hok => by cases hok; exact hdone directory hpre)
    fun _ _ _ => nofun

/-- A call that nothing hinders succeeds. -/
theorem plainCall_unhindered :
    Meets (Unhindered pre) plainCall (unhinderedEnds (fun _ => pre) raised) :=
  @changeCall_unhindered pre raised id _ _ fun _ => id

theorem ignoringClose_unhindered :
    Meets (Unhindered pre) (ignoring closeDescriptor) (unhinderedEnds (fun _ => pre) raised) := by
  have hclose : Meets (Unhindered pre) closeDescriptor
      (unhinderedEnds (fun _ => pre) fun _ => False) := plainCall_unhindered
  refine .catching hclose fun _ => .pure ?_
  exact fun _ hraised => hraised.1.elim

theorem fsyncDirStrict_unhindered :
    Meets (Unhindered fun _ => True) fsyncDirStrict (unhinderedEnds (fun _ _ => True) raised) :=
  changeCall_unhindered fun _ => id

/-- Unlinking fails only where there is nothing to unlink. -/
theorem unlinkAt_unhindered {name : String} {done : StateDirectory → Prop}
    (hdone : ∀ directory next, pre directory → directory.unlink name = .ok next → done next)
    (hrefused : ∀ directory error, pre directory → directory.unlink name = .error error →
      raised error) :
    Meets (Unhindered pre) (unlinkAt name) (unhinderedEnds (fun _ => done) raised) := by
  intro world hworld
  have hcall := @systemCall_unhindered _ _ (fun directory => directory.unlink name)
    (fun _ directory => directory) _ hdone hrefused world hworld
  unfold unlinkAt Handler.perform
  dsimp only
  rw [hworld.1]
  exact hcall

/-- The descriptor of a body that raises is closed. -/
theorem closing_unhindered {start : FileWorld → Prop} {body : FileM Result}
    (hbody : Meets start body (unhinderedEnds returned raised)) :
    Meets start (onError body (ignoring closeDescriptor)) (unhinderedEnds returned raised) := by
  refine .onError hbody fun error => ?_
  by_cases hraised : raised error
  · refine ignoringClose_unhindered.weaken (fun _ hworld => hworld.2) ?_ (fun _ _ => id)
      fun _ => id
    exact fun _ _ hworld => ⟨hraised, hworld⟩
  · exact fun _ hworld => absurd hworld.1 hraised

end Calls

/-! ## The walk to the directory -/

/-- A walk that may not create raises where a component is missing. -/
def raisesAbsent (create : Bool) (error : FileError) : Prop :=
  create = false ∧ error = .notFound

/-- A part that is missing is made, if it may be. -/
theorem openOrMakeComponent_unhindered (create : Bool) (index : Nat) :
    Meets (Unhindered fun _ => True) (openOrMakeComponent create index)
      (unhinderedEnds (fun _ _ => True) (raisesAbsent create)) := by
  have hopen : Meets (Unhindered fun _ => True)
      (systemCall fun directory => directory.openComponent index)
      (unhinderedEnds (fun _ _ => True) (· = .notFound)) := by
    apply systemCall_unhindered
    · exact fun _ _ _ _ => trivial
    · intro directory error _ hrefused
      unfold StateDirectory.openComponent at hrefused
      split_ifs at hrefused
      exact (Except.error.inj hrefused).symm
  have hreopen : Meets (Unhindered fun directory => directory.path[index]? ≠ some .missing)
      (systemCall fun directory => directory.openComponent index)
      (unhinderedEnds (fun _ _ => True) (raisesAbsent create)) := by
    apply systemCall_unhindered
    · exact fun _ _ _ _ => trivial
    · intro directory error hpresent hrefused
      unfold StateDirectory.openComponent at hrefused
      rw [if_neg hpresent] at hrefused
      cases hrefused
  have hmake : Meets (Unhindered fun _ => True)
      (systemCall fun directory => .ok (directory.makeComponent index))
      (unhinderedEnds (fun _ directory => directory.path[index]? ≠ some .missing)
        (raisesAbsent create)) := by
    apply changeCall_unhindered
    intro directory _ hmissing
    -- what was just made is not missing
    rw [StateDirectory.makeComponent, List.getElem?_set_self'] at hmissing
    cases hhere : directory.path[index]? <;> simp [hhere] at hmissing
  unfold openOrMakeComponent
  refine .catching (.bind hopen fun _ => .pure fun _ => id) fun error => ?_
  split_ifs with hcreate
  · refine .bind (hmake.weaken (fun _ hworld => hworld.2) (fun _ _ => id) (fun _ _ => id)
      fun _ => id) fun _ => ?_
    exact .bind hreopen fun _ => .pure fun _ => id
  · apply Meets.raise
    rintro world ⟨rfl, hworld⟩
    exact ⟨⟨by simpa using hcreate, rfl⟩, hworld⟩

theorem validateDirectory_unhindered {raised : FileError → Prop} :
    Meets (Unhindered fun _ => True) validateDirectory
      (unhinderedEnds (fun _ _ => True) raised) :=
  .bind plainCall_unhindered fun _ => plainCall_unhindered

theorem validateComponent_unhindered {raised : FileError → Prop} (existing : Bool) :
    Meets (Unhindered fun _ => True) (validateComponent existing)
      (unhinderedEnds (fun _ _ => True) raised) := by
  unfold validateComponent
  split_ifs
  · exact validateDirectory_unhindered
  · exact .bind plainCall_unhindered fun _ => .bind plainCall_unhindered fun _ =>
      validateDirectory_unhindered

theorem commitComponent_unhindered {raised : FileError → Prop} (create : Bool) (index : Nat) :
    Meets (Unhindered fun _ => True) (commitComponent create index)
      (unhinderedEnds (fun _ _ => True) raised) := by
  unfold commitComponent
  split_ifs
  · exact changeCall_unhindered fun _ => id
  · exact .pure fun _ => id

theorem openDurableComponent_unhindered (create : Bool) (index : Nat) :
    Meets (Unhindered fun _ => True) (openDurableComponent create index)
      (unhinderedEnds (fun _ _ => True) (raisesAbsent create)) := by
  unfold openDurableComponent
  refine .bind (openOrMakeComponent_unhindered create index) fun existing => ?_
  refine .bind (closing_unhindered (.bind (validateComponent_unhindered existing) fun _ =>
    commitComponent_unhindered create index)) fun _ => ?_
  exact closing_unhindered plainCall_unhindered

/-- The parts one after the other, by induction on those that remain. -/
theorem openDurableComponents_unhindered (create : Bool) (remaining index : Nat) :
    Meets (Unhindered fun _ => True) (openDurableComponents create remaining index)
      (unhinderedEnds (fun _ _ => True) (raisesAbsent create)) := by
  induction remaining generalizing index with
  | zero => exact .pure fun _ => id
  | succ remaining ih =>
      exact .bind (openDurableComponent_unhindered create index) fun _ => ih (index + 1)

theorem openDurableDirectoryHandle_unhindered (create : Bool) :
    Meets (Unhindered fun _ => True) (openDurableDirectoryHandle create)
      (unhinderedEnds (fun _ _ => True) (raisesAbsent create)) := by
  unfold openDurableDirectoryHandle
  refine .bind plainCall_unhindered fun _ => closing_unhindered ?_
  have hlength : Meets (Unhindered fun _ => True)
      (Handler.read fun world : FileWorld => world.directory.path.length)
      (unhinderedEnds (fun _ _ => True) (raisesAbsent create)) := .read fun _ => id
  exact .bind validateDirectory_unhindered fun _ => .bind hlength fun length =>
    openDurableComponents_unhindered create length 0

section Primitives

variable {start : StateDirectory} {name : String}

/-- The body runs in the directory that the walk opened. -/
theorem withDurableDirectory_unhindered {Result : Type} {create : Bool} {body : FileM Result}
    {returned : Result → StateDirectory → Prop} {raised : FileError → Prop}
    (hbody : Meets (Unhindered (Opened start create [])) body (unhinderedEnds returned raised))
    (habsent : ∀ error, raisesAbsent create error → raised error) :
    Meets (fun world => directoryHolds (· = start) world ∧ Unhindered (fun _ => True) world)
      (withDurableDirectory create body) (unhinderedEnds returned raised) := by
  have hopened : Meets
      (fun world => directoryHolds (· = start) world ∧ Unhindered (fun _ => True) world)
      (openDurableDirectoryHandle create)
      (unhinderedEnds (fun _ => Opened start create []) raised) := by
    refine ((openDurableDirectoryHandle_meets start create).and
      (openDurableDirectoryHandle_unhindered create)).weaken (fun _ => id) ?_ ?_ ?_
    · exact fun _ _ hends => ⟨hends.2.1, hends.1.1⟩
    · exact fun error _ hends => ⟨habsent error hends.2.1, hends.2.2⟩
    · exact fun _ hends => hends.2
  exact .bind hopened fun _ => .bind (closing_unhindered hbody) fun _ =>
    .bind plainCall_unhindered fun _ => .pure fun _ => id

/-! ## The temporary file -/

/-- One of the next tokens names no file. -/
def SomeFree (name : String) (attempts : Nat) (tokens : Nat → String)
    (directory : StateDirectory) : Prop :=
  ∃ attempt < attempts, directory.entries (temporaryName name (tokens attempt)) = none

theorem SomeFree.next {attempts : Nat} {tokens : Nat → String} {directory : StateDirectory}
    (hfree : SomeFree name (attempts + 1) tokens directory)
    (htaken : directory.entries (temporaryName name (tokens 0)) ≠ none) :
    SomeFree name attempts (fun attempt => tokens (attempt + 1)) directory := by
  obtain ⟨attempt, hbound, hattempt⟩ := hfree
  cases attempt with
  | zero => exact absurd hattempt htaken
  | succ attempt => exact ⟨attempt, by omega, hattempt⟩

/-- A private file is there. -/
def HoldsPrivate (name : String) (directory : StateDirectory) : Prop :=
  ∃ file, directory.entries name = some file ∧ file.mode = privateFileMode

/-- Writing does not change the mode of the file. -/
theorem HoldsPrivate.modifyFile {directory : StateDirectory} {change : StateFile → StateFile}
    (hholds : HoldsPrivate name directory) (hmode : ∀ file, (change file).mode = file.mode) :
    HoldsPrivate name (directory.modifyFile name change) := by
  obtain ⟨file, hfile, hprivate⟩ := hholds
  refine ⟨change file, ?_, (hmode file).trans hprivate⟩
  simp [StateDirectory.modifyFile, hfile]

theorem validatePrivateFile_unhindered {raised : FileError → Prop} :
    Meets (Unhindered (HoldsPrivate name)) (validatePrivateFile name)
      (unhinderedEnds (fun _ => HoldsPrivate name) raised) := by
  have hread : Meets (Unhindered (HoldsPrivate name))
      (Handler.read fun world : FileWorld => world.directory.entries name)
      (unhinderedEnds (fun file directory => HoldsPrivate name directory ∧
        file.map StateFile.mode = some privateFileMode) raised) := by
    apply Meets.read
    intro world hworld
    obtain ⟨file, hfile, hmode⟩ := hworld.2
    refine ⟨hworld.1, hworld.2, ?_⟩
    rw [hfile, Option.map_some, hmode]
  unfold validatePrivateFile
  refine .bind plainCall_unhindered fun _ => .bind plainCall_unhindered fun _ =>
    .bind plainCall_unhindered fun _ => .bind hread fun file => ?_
  split_ifs with hmode
  · exact changeCall_unhindered fun directory hholds => hholds.1.modifyFile fun _ => rfl
  · exact .raise fun _ hworld => absurd hworld.2.2 hmode

/-- What the attempt to create a file under the next token leaves. -/
def Claimed (name : String) (attempts : Nat) (tokens : Nat → String) (created : Bool)
    (directory : StateDirectory) : Prop :=
  if created = true then HoldsPrivate (temporaryName name (tokens 0)) directory
  else SomeFree name attempts (fun attempt => tokens (attempt + 1)) directory

/-- The name is claimed, or it is taken and one of the others is free. -/
theorem claimName_unhindered {raised : FileError → Prop} (attempts : Nat)
    (tokens : Nat → String) :
    Meets (Unhindered (SomeFree name (attempts + 1) tokens))
      (catching
        (do
          systemCall fun directory =>
            directory.createExclusive (temporaryName name (tokens 0)) privateFileMode
          return true)
        fun error => if error = .exists then pure false else raise error)
      (unhinderedEnds (Claimed name attempts tokens) raised) := by
  have hcreate : Meets (Unhindered (SomeFree name (attempts + 1) tokens))
      (systemCall fun directory =>
        directory.createExclusive (temporaryName name (tokens 0)) privateFileMode)
      ⟨fun _ => Unhindered (Claimed name attempts tokens true), fun error world =>
        error = .exists ∧ Unhindered (Claimed name attempts tokens false) world,
        fun _ => False⟩ := by
    intro world hworld
    unfold systemCall Handler.perform
    dsimp only
    rw [hworld.1]
    unfold StateDirectory.createExclusive
    split_ifs with htaken
    · exact ⟨rfl, hworld.1, hworld.2.next (Option.isSome_iff_ne_none.mp htaken)⟩
    · refine ⟨hworld.1, { mode := privateFileMode }, ?_, rfl⟩
      simp [StateDirectory.setEntry]
  refine .catching (.bind hcreate fun _ => .pure fun _ => id) fun error => ?_
  split_ifs with hexists
  · exact .pure fun _ hworld => hworld.2
  · exact .raise fun _ hworld => absurd hworld.1 hexists

/-- A free name is found within the attempts. -/
theorem createPrivateTempFile_unhindered (attempts : Nat) (tokens : Nat → String) :
    Meets (Unhindered (SomeFree name attempts tokens))
      (createPrivateTempFile name privateFileMode attempts tokens)
      (unhinderedEnds HoldsPrivate fun _ => False) := by
  induction attempts generalizing tokens with
  | zero =>
      apply Meets.raise
      intro world hworld
      obtain ⟨attempt, hbound, -⟩ := hworld.2
      exact absurd hbound (Nat.not_lt_zero attempt)
  | succ attempts ih =>
      unfold createPrivateTempFile
      refine .bind (claimName_unhindered attempts tokens) fun created => ?_
      cases created with
      | true =>
          have hmode : Meets (Unhindered (HoldsPrivate (temporaryName name (tokens 0))))
              (systemCall fun directory => .ok (directory.modifyFile
                (temporaryName name (tokens 0)) fun file => { file with mode := privateFileMode }))
              (unhinderedEnds (fun _ => HoldsPrivate (temporaryName name (tokens 0)))
                fun _ => False) := by
            apply changeCall_unhindered
            intro directory hholds
            obtain ⟨file, hfile, -⟩ := hholds
            refine ⟨{ file with mode := privateFileMode }, ?_, rfl⟩
            simp [StateDirectory.modifyFile, hfile]
          refine .onError (.bind hmode fun _ => .bind validatePrivateFile_unhindered fun _ =>
            .pure fun _ => id) fun _ => ?_
          exact fun _ hraised => hraised.1.elim
      | false => exact ih fun attempt => tokens (attempt + 1)

/-! ## The write -/

/-- A text that can be encoded is written. -/
theorem writeThrough_unhindered {temporary : String} {encoded : Option Bytes}
    (hencoded : encoded.isSome = true) :
    Meets (Unhindered (HoldsPrivate temporary)) (writeThrough temporary encoded)
      (unhinderedEnds (fun _ => HoldsPrivate temporary) fun _ => False) := by
  obtain ⟨content, rfl⟩ := Option.isSome_iff_exists.mp hencoded
  unfold writeThrough
  have hwrite (written : Bytes) : Meets (Unhindered (HoldsPrivate temporary))
      (systemCall (fun directory => .ok (directory.writeFile temporary written))
        fun progress directory => directory.writeFile temporary (content.take progress))
      (unhinderedEnds (fun _ => HoldsPrivate temporary) fun _ => False) :=
    changeCall_unhindered fun _ hholds => hholds.modifyFile fun _ => rfl
  have hsync : Meets (Unhindered (HoldsPrivate temporary))
      (systemCall fun directory => .ok (directory.syncFile temporary))
      (unhinderedEnds (fun _ => HoldsPrivate temporary) fun _ => False) :=
    changeCall_unhindered fun _ hholds => hholds.modifyFile fun _ => rfl
  refine .bind (closing_unhindered ?_) fun _ => plainCall_unhindered
  exact .bind (hwrite []) fun _ => .bind (hwrite content) fun _ => hsync

/-- The write returns once a temporary name is free. -/
theorem atomicWriteTextAt_unhindered {tokens : Nat → String} {encode : String → Option Bytes}
    {data : String} (hencode : (encode data).isSome = true) :
    Meets (Unhindered (SomeFree name 32 tokens))
      (atomicWriteTextAt tokens encode name data privateFileMode)
      (unhinderedEnds (fun _ _ => True) fun _ => False) := by
  have hrename (temporary : String) : Meets (Unhindered (HoldsPrivate temporary))
      (systemCall fun directory => directory.rename temporary name)
      (unhinderedEnds (fun _ _ => True) fun _ => False) := by
    apply systemCall_unhindered
    · exact fun _ _ _ _ => trivial
    · intro directory error hholds hrefused
      obtain ⟨file, hfile, -⟩ := hholds
      unfold StateDirectory.rename at hrefused
      rw [hfile] at hrefused
      cases hrefused
  unfold atomicWriteTextAt
  refine .bind (createPrivateTempFile_unhindered 32 tokens) fun temporary => ?_
  refine .onError (.bind (closing_unhindered plainCall_unhindered) fun _ =>
    .bind (writeThrough_unhindered hencode) fun _ => .bind (hrename temporary) fun _ =>
      fsyncDirStrict_unhindered) fun _ => ?_
  exact fun _ hraised => hraised.1.elim

/-- Where no call fails, a durable write of encodable text returns. -/
theorem durableAtomicWriteText_returns {tokens : Nat → String} {encode : String → Option Bytes}
    {data : String} (hname : isStateEntryName name = true)
    (hencode : (encode data).isSome = true)
    (hfree : ∃ attempt < 32, start.lookup (temporaryName name (tokens attempt)) = none) :
    ∃ after, (durableAtomicWriteText tokens encode name data).perform
      { directory := start, faults := fun _ => .none } = (.ok (), after) := by
  have hbody : Meets (Unhindered (Opened start true []))
      (atomicWriteTextAt tokens encode name data privateFileMode)
      (unhinderedEnds (fun _ _ => True) fun _ => False) := by
    refine (atomicWriteTextAt_unhindered hencode).weaken (fun world hworld => ?_) (fun _ _ => id)
      (fun _ _ => id) fun _ => id
    refine hworld.mono fun directory hopened => ?_
    obtain ⟨attempt, hbound, habsent⟩ := hfree
    refine ⟨attempt, hbound, ?_⟩
    rw [← lookup_of_reachable hopened.reachable, hopened.frames.lookup _ List.not_mem_nil,
      habsent]
  have hmeets : Meets
      (fun world => directoryHolds (· = start) world ∧ Unhindered (fun _ => True) world)
      (durableAtomicWriteText tokens encode name data)
      ⟨fun _ _ => True, fun _ _ => False, fun _ => False⟩ := by
    unfold durableAtomicWriteText
    rw [if_pos hname]
    refine (withDurableDirectory_unhindered hbody fun _ habsent => ?_).weaken
      (fun _ => id) (fun _ _ _ => trivial) (fun _ _ hraised => hraised.1) fun _ => id
    cases habsent.1
  have hstart : directoryHolds (· = start) { directory := start, faults := fun _ => .none } :=
    ⟨rfl, rfl⟩
  obtain ⟨_, after, hended, -⟩ := hmeets.returns ⟨hstart, fun _ => rfl, trivial⟩
  exact ⟨after, hended⟩

/-- Where no call fails, a durable unlink returns. -/
theorem durableUnlink_returns (hname : isStateEntryName name = true) :
    ∃ removed after, (durableUnlink name).perform
      { directory := start, faults := fun _ => .none } = (.ok removed, after) := by
  have hremove : Meets (Unhindered fun _ => True)
      (catching
        (do
          unlinkAt name
          return true)
        fun error => if error = .notFound then pure false else raise error)
      (unhinderedEnds (fun _ _ => True) (· = .notFound)) := by
    -- without faults the only refusal is a missing entry
    have hunlink : Meets (Unhindered fun _ => True) (unlinkAt name)
        (unhinderedEnds (fun _ _ => True) (· = .notFound)) := by
      apply unlinkAt_unhindered
      · exact fun _ _ _ _ => trivial
      · intro directory error _ hrefused
        unfold StateDirectory.unlink at hrefused
        split at hrefused
        · exact (Except.error.inj hrefused).symm
        · cases hrefused
    refine .catching (.bind hunlink fun _ => .pure fun _ => id) fun error => ?_
    split_ifs with hnotFound
    · exact .pure fun _ hworld => hworld.2
    · exact .raise fun _ hworld => absurd hworld.1 hnotFound
  have hopen : Meets (Unhindered (Opened start false []))
      (do
        let removed ← catching
          (do
            unlinkAt name
            return true)
          fun error => if error = .notFound then pure false else raise error
        fsyncDirStrict
        return removed)
      (unhinderedEnds (fun _ _ => True) (· = .notFound)) := by
    refine .bind (hremove.weaken (fun _ hworld => hworld.mono fun _ _ => trivial) (fun _ _ => id)
      (fun _ _ => id) fun _ => id) fun _ => ?_
    exact .bind fsyncDirStrict_unhindered fun _ => .pure fun _ => id
  have hmeets : Meets
      (fun world => directoryHolds (· = start) world ∧ Unhindered (fun _ => True) world)
      (durableUnlink name) ⟨fun _ _ => True, fun _ _ => False, fun _ => False⟩ := by
    unfold durableUnlink
    rw [if_pos hname]
    refine .catching ((withDurableDirectory_unhindered hopen fun _ habsent => habsent.2).weaken
      (fun _ => id) (fun _ _ _ => trivial) (fun _ _ => id) fun _ => id) fun error => ?_
    split_ifs with hnotFound
    · exact .pure fun _ _ => trivial
    · exact .raise fun _ hworld => absurd hworld.1 hnotFound
  have hstart : directoryHolds (· = start) { directory := start, faults := fun _ => .none } :=
    ⟨rfl, rfl⟩
  obtain ⟨removed, after, hended, -⟩ := hmeets.returns ⟨hstart, fun _ => rfl, trivial⟩
  exact ⟨removed, after, hended⟩

end Primitives

end CompanionBridge
