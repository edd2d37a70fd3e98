import CompanionBridge.State.AtomicIoOpen

/-!
# Crash atomicity of durable writes

At every point of a durable write or unlink, and after a crash there, the target
is what it was or what it is to be. The proof follows the temporary file: absent,
held under its own name, synced with the new content, and renamed.
-/

namespace CompanionBridge

open Interruptible StateDirectory

variable {start : StateDirectory}

/-! ## What a strict operation promises -/

def IsTemporary (name temporary : String) : Prop :=
  ∃ token, temporary = temporaryName name token

/-- The target is what it was or is new, as seen and after a crash; the only other
name that may have changed is one of a temporary file that was not there. -/
structure Intact (name : String) (new : Option Bytes → Prop) (start next : StateDirectory) :
    Prop where
  read : next.read name = start.read name ∨ new (next.read name)
  mayRead : ∀ content, next.MayRead name content → start.MayRead name content ∨ new content
  others : ∀ other, other ≠ name → (IsTemporary name other ∧ start.lookup other = none) ∨
    (next.lookup other = start.lookup other ∧
      ∀ content, next.MayRead other content → start.MayRead other content)

/-- No other entry of the directory is added, removed or changed. -/
def OthersKept (name : String) (start next : StateDirectory) : Prop :=
  ∀ other, other ≠ name → next.lookup other = start.lookup other

/-- The target is new, and stays so in a crash. -/
structure DurablyHolds (name : String) (new : Option Bytes → Prop) (directory : StateDirectory) :
    Prop where
  read : new (directory.read name)
  mayRead : ∀ content, directory.MayRead name content → new content

/-- What holds when a strict operation returns, raises, or crashes. -/
def crashAtomic {Result : Type} (name : String) (new : Option Bytes → Prop)
    (start : StateDirectory) : Outcomes FileError FileWorld Result where
  returned _ world := Intact name new start world.directory ∧
    OthersKept name start world.directory ∧ DurablyHolds name new world.directory
  raised _ world := Intact name new start world.directory ∧
    (world.unlinkFailed = false → OthersKept name start world.directory)
  crashed world := Intact name new start world.directory

section Promises

variable {name temporary : String} {new : Option Bytes → Prop} {directory : StateDirectory}

/-- A directory that was only framed holds what it held. -/
theorem intact_of_frames (hframes : Frames [] start directory) :
    Intact name new start directory := by
  refine ⟨.inl ?_, fun content hread => .inl (hframes.mayRead name List.not_mem_nil content hread),
    fun other _ => .inr ⟨hframes.lookup other List.not_mem_nil,
      hframes.mayRead other List.not_mem_nil⟩⟩
  unfold StateDirectory.read
  rw [hframes.lookup name List.not_mem_nil]

theorem othersKept_of_frames (hframes : Frames [] start directory) :
    OthersKept name start directory :=
  fun other _ => hframes.lookup other List.not_mem_nil

/-- The temporary file is there, under a name that was free. -/
structure Held (start : StateDirectory) (name temporary : String) (directory : StateDirectory) :
    Prop where
  opened : Opened start true [temporary] directory
  isTemporary : IsTemporary name temporary
  absent : start.lookup temporary = none
  present : ∃ file, directory.entries temporary = some file

theorem temporaryName_ne (name token : String) : temporaryName name token ≠ name := by
  intro hsame
  have hlength := congrArg String.length hsame
  have hdot : ".".length = 1 := rfl
  simp only [temporaryName, String.length_append, hdot] at hlength
  omega

theorem IsTemporary.ne (htemporary : IsTemporary name temporary) : temporary ≠ name := by
  obtain ⟨token, rfl⟩ := htemporary
  exact temporaryName_ne name token

/-- Names that only a temporary file may share are left alone. -/
theorem intact_of_temporary (hframes : Frames [temporary] start directory)
    (htemporary : IsTemporary name temporary) (habsent : start.lookup temporary = none) :
    Intact name new start directory := by
  have hname : name ∉ [temporary] := by simpa using htemporary.ne.symm
  refine ⟨.inl ?_, fun content hread => .inl (hframes.mayRead name hname content hread), ?_⟩
  · unfold StateDirectory.read
    rw [hframes.lookup name hname]
  · intro other _
    by_cases hother : other = temporary
    · exact .inl ⟨hother ▸ htemporary, hother ▸ habsent⟩
    · have hmem : other ∉ [temporary] := by simpa using hother
      exact .inr ⟨hframes.lookup other hmem, hframes.mayRead other hmem⟩

/-- While only the temporary file is held, the target is intact. -/
theorem Held.intact (hheld : Held start name temporary directory) :
    Intact name new start directory :=
  intact_of_temporary hheld.opened.frames hheld.isTemporary hheld.absent

/-- A change of the temporary file itself. -/
theorem Held.modifyFile (hheld : Held start name temporary directory)
    (change : StateFile → StateFile) :
    Held start name temporary (directory.modifyFile temporary change) := by
  obtain ⟨hopened, htemporary, habsent, file, hfile⟩ := hheld
  refine ⟨⟨hopened.frames.trans (modifyFile_frames directory temporary change),
    hopened.reachable, hopened.committed⟩, htemporary, habsent, change file, ?_⟩
  simp [StateDirectory.modifyFile, hfile]

/-- The temporary file has the new content, on the disk. -/
structure HeldSynced (start : StateDirectory) (name temporary : String) (content : Bytes)
    (directory : StateDirectory) : Prop where
  held : Held start name temporary directory
  file : ∃ mode, directory.entries temporary = some ⟨content, true, mode⟩

/-- The temporary file has become the target. -/
structure Renamed (start : StateDirectory) (name temporary : String) (content : Bytes)
    (directory : StateDirectory) : Prop where
  opened : Opened start true [name, temporary] directory
  isTemporary : IsTemporary name temporary
  absent : start.lookup temporary = none
  gone : directory.entries temporary = none
  target : ∃ mode, directory.entries name = some ⟨content, true, mode⟩
  former : ∀ value ∈ directory.former name, ∀ held, mayBecome value held →
    start.MayRead name held

/-- The rename puts what was synced in the place of the target. -/
theorem HeldSynced.rename {content : Bytes} {next : StateDirectory}
    (hsynced : HeldSynced start name temporary content directory)
    (hrename : directory.rename temporary name = .ok next) :
    Renamed start name temporary content next := by
  obtain ⟨⟨hopened, htemporary, habsent, -⟩, mode, hfile⟩ := hsynced
  have hne := htemporary.ne
  unfold StateDirectory.rename at hrename
  rw [hfile] at hrename
  cases hrename
  have hframes : Frames [name, temporary] directory
      ((directory.setEntry temporary none).setEntry name (some ⟨content, true, mode⟩)) :=
    ((setEntry_frames directory temporary none).mono (by simp)).trans
      ((setEntry_frames _ name _).mono (by simp))
  refine ⟨⟨(hopened.frames.mono (by simp)).trans hframes, hopened.reachable, hopened.committed⟩,
    htemporary, habsent, ?_, ⟨mode, ?_⟩, ?_⟩
  · simp [StateDirectory.setEntry, Function.update_of_ne hne]
  · simp [StateDirectory.setEntry]
  · intro value hvalue held hbecomes
    have hvalues : value ∈ directory.former name ++ [directory.entries name] := by
      simpa [StateDirectory.setEntry, Function.update_of_ne hne.symm] using hvalue
    exact hopened.frames.mayRead name (by simpa using hne.symm) held
      (.inr ⟨hopened.reachable, value, hvalues, hbecomes⟩)

theorem Renamed.read {content : Bytes} (hrenamed : Renamed start name temporary content directory) :
    directory.read name = some content := by
  obtain ⟨mode, hfile⟩ := hrenamed.target
  unfold StateDirectory.read
  rw [lookup_of_reachable hrenamed.opened.reachable, hfile]
  rfl

theorem Renamed.mayRead {content : Bytes}
    (hrenamed : Renamed start name temporary content directory) {held : Option Bytes}
    (hread : directory.MayRead name held) : start.MayRead name held ∨ held = some content := by
  obtain ⟨value, hvalue, hbecomes⟩ := mayRead_of_committed (hrenamed.opened.committed rfl) hread
  obtain ⟨mode, hfile⟩ := hrenamed.target
  rcases List.mem_append.mp hvalue with hformer | hcurrent
  · exact .inl (hrenamed.former value hformer held hbecomes)
  · rw [hfile, List.mem_singleton] at hcurrent
    subst hcurrent
    obtain ⟨bytes, rfl, hsynced⟩ := hbecomes
    exact .inr (congrArg some (hsynced rfl))

theorem Renamed.intact {content : Bytes}
    (hrenamed : Renamed start name temporary content directory) (hnew : new (some content)) :
    Intact name new start directory := by
  refine ⟨.inr (by rwa [hrenamed.read]), fun held hread => ?_, fun other hother => ?_⟩
  · rcases hrenamed.mayRead hread with hold | rfl
    · exact .inl hold
    · exact .inr hnew
  · by_cases hsame : other = temporary
    · exact .inl ⟨hsame ▸ hrenamed.isTemporary, hsame ▸ hrenamed.absent⟩
    · have hmem : other ∉ [name, temporary] := by simp [hother, hsame]
      exact .inr ⟨hrenamed.opened.frames.lookup other hmem,
        hrenamed.opened.frames.mayRead other hmem⟩

theorem Renamed.othersKept {content : Bytes}
    (hrenamed : Renamed start name temporary content directory) :
    OthersKept name start directory := by
  intro other hother
  by_cases hsame : other = temporary
  · rw [hsame, lookup_of_reachable hrenamed.opened.reachable, hrenamed.gone, hrenamed.absent]
  · exact hrenamed.opened.frames.lookup other (by simp [hother, hsame])

/-- Syncing the directory settles the target. -/
theorem Renamed.durablyHolds {content : Bytes}
    (hrenamed : Renamed start name temporary content directory) (hnew : new (some content))
    (hformer : directory.former name = []) : DurablyHolds name new directory := by
  refine ⟨by rwa [hrenamed.read], fun held hread => ?_⟩
  obtain ⟨value, hvalue, hbecomes⟩ := mayRead_of_committed (hrenamed.opened.committed rfl) hread
  obtain ⟨mode, hfile⟩ := hrenamed.target
  rw [hformer, hfile, List.nil_append, List.mem_singleton] at hvalue
  subst hvalue
  obtain ⟨bytes, rfl, hsynced⟩ := hbecomes
  rwa [hsynced rfl]

end Promises

/-! ## The temporary file -/

def FileWorld.counted (world : FileWorld) : FileWorld :=
  { world with calls := world.calls + 1 }

/-- A call without effect, in terms of the whole world. -/
theorem plainCall_ends {pre : FileWorld → Prop} {post : Outcomes FileError FileWorld Unit}
    (hdone : ∀ world, pre world → post.returned () world.counted)
    (hfails : ∀ world, pre world → post.raised .failed world.counted)
    (hcrashes : ∀ world, pre world → post.crashed world.counted) :
    Meets pre plainCall post := by
  intro world hworld
  unfold plainCall systemCall Handler.perform
  dsimp only
  cases world.faults world.calls with
  | none => exact hdone world hworld
  | fails progress => exact hfails world hworld
  | crashes progress => exact hcrashes world hworld

/-- A close whose error is dropped may still be where the crash comes. -/
theorem ignoringClose_ends {pre : FileWorld → Prop} {post : Outcomes FileError FileWorld Unit}
    (hdone : ∀ world, pre world → post.returned () world.counted)
    (hcrashes : ∀ world, pre world → post.crashed world.counted) :
    Meets pre (ignoring closeDescriptor) post :=
  .ignoring (plainCall_ends hdone hdone hcrashes)

/-- `unlink` of a name, in terms of the whole world: a failure is remembered. -/
theorem unlinkAt_meets {pre : FileWorld → Prop} {post : Outcomes FileError FileWorld Unit}
    {name : String}
    (hdone : ∀ world directory, pre world → world.directory.unlink name = .ok directory →
      post.returned () { world.counted with directory := directory })
    (hrefused : ∀ world error, pre world → world.directory.unlink name = .error error →
      post.raised error world.counted)
    (hfails : ∀ world, pre world → post.raised .failed { world.counted with unlinkFailed := true })
    (hcrashes : ∀ world, pre world → post.crashed world.counted) :
    Meets pre (unlinkAt name) post := by
  intro world hworld
  unfold unlinkAt systemCall Handler.perform
  dsimp only
  cases hfault : world.faults world.calls with
  | none =>
      dsimp only
      cases heffect : world.directory.unlink name with
      | ok directory => exact hdone world directory hworld heffect
      | error error => exact hrefused world error hworld heffect
  | fails progress => exact hfails world hworld
  | crashes progress => exact hcrashes world hworld

section Write

variable {name temporary : String} {new : Option Bytes → Prop} {content : Bytes}

/-- What the cleanup leaves before the exception is raised again. -/
def cleanedUp (name : String) (new : Option Bytes → Prop) (start : StateDirectory) :
    Outcomes FileError FileWorld Unit where
  returned _ world := Intact name new start world.directory ∧
    (world.unlinkFailed = false → OthersKept name start world.directory)
  raised _ _ := False
  crashed world := Intact name new start world.directory

/-- Removing the temporary file restores every name but the target. -/
theorem removeTemporary_meets :
    Meets (directoryHolds (Held start name temporary)) (ignoring (unlinkAt temporary))
      (cleanedUp name new start) := by
  apply Meets.ignoring
  apply unlinkAt_meets
  · rintro world directory ⟨hheld, -⟩ hunlink
    have hframes : Frames [temporary] start directory := by
      obtain ⟨file, hfile⟩ := hheld.present
      unfold StateDirectory.unlink at hunlink
      rw [hfile] at hunlink
      cases hunlink
      exact hheld.opened.frames.trans (setEntry_frames _ temporary none)
    have hgone : directory.lookup temporary = none := by
      obtain ⟨file, hfile⟩ := hheld.present
      unfold StateDirectory.unlink at hunlink
      rw [hfile] at hunlink
      cases hunlink
      simp [StateDirectory.lookup, StateDirectory.setEntry]
    refine ⟨intact_of_temporary hframes hheld.isTemporary hheld.absent, fun _ other _ => ?_⟩
    by_cases hsame : other = temporary
    · show directory.lookup other = start.lookup other
      rw [hsame, hgone, hheld.absent]
    · exact hframes.lookup other (by simpa using hsame)
  · rintro world error ⟨hheld, -⟩ hunlink
    obtain ⟨file, hfile⟩ := hheld.present
    unfold StateDirectory.unlink at hunlink
    rw [hfile] at hunlink
    exact absurd hunlink (by simp)
  · exact fun world hheld => ⟨hheld.1.intact, fun hquiet => absurd hquiet (by simp)⟩
  · exact fun world hheld => hheld.1.intact

/-- Once the temporary file has been renamed there is nothing to remove. -/
theorem removeRenamed_meets (hnew : new (some content)) :
    Meets (directoryHolds (Renamed start name temporary content)) (ignoring (unlinkAt temporary))
      (cleanedUp name new start) := by
  apply Meets.ignoring
  apply unlinkAt_meets
  · rintro world directory ⟨hrenamed, -⟩ hunlink
    unfold StateDirectory.unlink at hunlink
    rw [hrenamed.gone] at hunlink
    exact absurd hunlink (by simp)
  · exact fun world _ hrenamed _ => ⟨hrenamed.1.intact hnew, fun _ => hrenamed.1.othersKept⟩
  · exact fun world hrenamed => ⟨hrenamed.1.intact hnew, fun _ => hrenamed.1.othersKept⟩
  · exact fun world hrenamed => hrenamed.1.intact hnew

/-- Creating the file under a name that is free, or passing on to the next. -/
theorem createExclusive_meets (htemporary : IsTemporary name temporary) :
    Meets (directoryHolds (Opened start true []))
      (systemCall fun directory => directory.createExclusive temporary privateFileMode)
      (directoryEnds (fun _ => Held start name temporary) (fun _ => Opened start true [])
        (Opened start true [])) := by
  apply systemCall_meets
  · intro directory next hopened hcreate
    unfold StateDirectory.createExclusive at hcreate
    split at hcreate
    · exact absurd hcreate (by simp)
    · rename_i hfree
      cases hcreate
      have hnone : directory.entries temporary = none := by simpa using hfree
      refine ⟨⟨(hopened.frames.mono (by simp)).trans (setEntry_frames directory temporary _),
        hopened.reachable, hopened.committed⟩, htemporary, ?_, ⟨{ mode := privateFileMode }, ?_⟩⟩
      · rw [← hopened.frames.lookup temporary List.not_mem_nil,
          lookup_of_reachable hopened.reachable, hnone]
      · simp [StateDirectory.setEntry]
  · exact fun directory _ hopened _ => hopened
  · exact fun directory _ hopened => hopened
  · exact fun directory _ hopened => hopened

/-- Writing and syncing the temporary file leave the target alone. -/
theorem modifyTemporary_meets (change : StateFile → StateFile) :
    Meets (directoryHolds (Held start name temporary))
      (systemCall fun directory => .ok (directory.modifyFile temporary change))
      (directoryEnds (fun _ => Held start name temporary) (fun _ => Held start name temporary)
        (Held start name temporary)) := by
  apply systemCall_meets
  · intro directory next hheld hok
    cases hok
    exact hheld.modifyFile change
  · exact fun _ _ _ herror => absurd herror (by simp)
  · exact fun directory _ hheld => hheld
  · exact fun directory _ hheld => hheld

theorem validatePrivateFile_meets :
    Meets (directoryHolds (Held start name temporary)) (validatePrivateFile temporary)
      (directoryEnds (fun _ => Held start name temporary) (fun _ => Held start name temporary)
        (Held start name temporary)) := by
  have hplain : Meets (directoryHolds (Held start name temporary)) plainCall
      (directoryEnds (fun _ => Held start name temporary) (fun _ => Held start name temporary)
        (Held start name temporary)) :=
    plainCall_meets (fun _ hheld => hheld) (fun _ hheld => hheld) fun _ hheld => hheld
  have hread : Meets (directoryHolds (Held start name temporary))
      (Handler.read fun world : FileWorld => world.directory.entries temporary)
      (directoryEnds (fun _ => Held start name temporary) (fun _ => Held start name temporary)
        (Held start name temporary)) :=
    .read fun _ hheld => hheld
  refine followed_by hplain fun _ => followed_by hplain fun _ => followed_by hplain fun _ =>
    followed_by hread fun file => ?_
  split
  · exact modifyTemporary_meets _
  · exact .raise fun _ hheld => hheld

/-- An operation that raises before the target is replaced. -/
theorem crashAtomic_of_opened {world : FileWorld}
    (hopened : directoryHolds (Opened start true []) world) (error : FileError) :
    (@crashAtomic Unit name new start).raised error world :=
  ⟨intact_of_frames hopened.1.frames, fun _ => othersKept_of_frames hopened.1.frames⟩

/-- Held under its name, the temporary file gets its mode and is validated, or is removed. -/
theorem prepareTemporary_meets (mode : Nat) :
    Meets (directoryHolds (Held start name temporary))
      (onError
        (do
          systemCall fun directory =>
            .ok (directory.modifyFile temporary fun file => { file with mode := mode })
          validatePrivateFile temporary
          return temporary)
        (do
          ignoring closeDescriptor
          ignoring (unlinkAt temporary)))
      ⟨fun temporary => directoryHolds (Held start name temporary),
        (@crashAtomic Unit name new start).raised,
        (@crashAtomic Unit name new start).crashed⟩ := by
  have hintact : ∀ world, directoryHolds (Held start name temporary) world →
      Intact name new start world.directory := fun _ hheld => hheld.1.intact
  have hprepare : Meets (directoryHolds (Held start name temporary))
      (do
        systemCall fun directory =>
          .ok (directory.modifyFile temporary fun file => { file with mode := mode })
        validatePrivateFile temporary
        return temporary)
      (directoryEnds (fun temporary => Held start name temporary)
        (fun _ => Held start name temporary) (Held start name temporary)) :=
    followed_by (modifyTemporary_meets _) fun _ =>
      followed_by validatePrivateFile_meets fun _ => .pure fun _ hheld => hheld
  refine .onError (hprepare.weaken (fun _ hheld => hheld) (fun _ _ hheld => hheld)
    (fun _ _ hheld => hheld) hintact) fun error => ?_
  have hclose : Meets (directoryHolds (Held start name temporary)) (ignoring closeDescriptor)
      ⟨fun _ => directoryHolds (Held start name temporary), (@crashAtomic Unit name new start).raised,
        (@crashAtomic Unit name new start).crashed⟩ :=
    ignoringClose_ends (fun _ hheld => hheld) hintact
  refine .bind hclose fun _ => ?_
  exact removeTemporary_meets.weaken (fun _ hheld => hheld) (fun _ _ hclean => hclean)
    (fun _ _ hfalse => hfalse.elim) fun _ hclean => hclean

/-- The temporary file is created under a fresh name, or not at all. -/
theorem createPrivateTempFile_meets (mode attempts : Nat) (tokens : Nat → String) :
    Meets (directoryHolds (Opened start true [])) (createPrivateTempFile name mode attempts tokens)
      ⟨fun temporary => directoryHolds (Held start name temporary),
        (@crashAtomic Unit name new start).raised,
        (@crashAtomic Unit name new start).crashed⟩ := by
  induction attempts generalizing tokens with
  | zero => exact .raise fun world hopened => crashAtomic_of_opened hopened .exists
  | succ attempts ih =>
      have hcreate : Meets (directoryHolds (Opened start true []))
          (do
            systemCall fun directory =>
              directory.createExclusive (temporaryName name (tokens 0)) privateFileMode
            return true)
          (directoryEnds (fun created => if created = true then
              Held start name (temporaryName name (tokens 0)) else Opened start true [])
            (fun _ => Opened start true []) (Opened start true [])) :=
        followed_by (createExclusive_meets ⟨tokens 0, rfl⟩) fun _ => .pure fun _ hheld => hheld
      have hcrashed : ∀ world, directoryHolds (Opened start true []) world →
          Intact name new start world.directory := fun _ hopened => intact_of_frames hopened.1.frames
      refine .bind (.catching (hcreate.weaken (fun _ hopened => hopened) (fun _ _ hheld => hheld)
        (fun _ _ hopened => hopened) hcrashed) fun error => ?_) fun created => ?_
      · split
        · exact .pure fun _ hopened => hopened
        · exact .raise fun world hopened => crashAtomic_of_opened hopened error
      · cases created with
        | false => exact ih fun n => tokens (n + 1)
        | true => exact prepareTemporary_meets mode

/-- The flushed content is synced, or the handle raises with the file still held. -/
theorem writeContent_meets (content : Bytes) :
    Meets (directoryHolds (Held start name temporary))
      (do
        systemCall (fun directory => .ok (directory.writeFile temporary []))
          fun progress directory => directory.writeFile temporary (content.take progress)
        systemCall (fun directory => .ok (directory.writeFile temporary content))
          fun progress directory => directory.writeFile temporary (content.take progress)
        systemCall fun directory => .ok (directory.syncFile temporary))
      (directoryEnds (fun _ => HeldSynced start name temporary content)
        (fun _ => Held start name temporary) (Held start name temporary)) := by
  -- a write at any progress touches the temporary file alone
  have hwrite : ∀ directory written, Held start name temporary directory →
      Held start name temporary (directory.writeFile temporary written) :=
    fun _ _ hheld => hheld.modifyFile _
  have hbuffer : Meets (directoryHolds (Held start name temporary))
      (systemCall (fun directory => .ok (directory.writeFile temporary []))
        fun progress directory => directory.writeFile temporary (content.take progress))
      (directoryEnds (fun _ => Held start name temporary) (fun _ => Held start name temporary)
        (Held start name temporary)) := by
    apply systemCall_meets
    · intro directory next hheld hok
      cases hok
      exact hwrite directory [] hheld
    · exact fun _ _ _ herror => absurd herror (by simp)
    · exact fun directory progress hheld => hwrite directory _ hheld
    · exact fun directory progress hheld => hwrite directory _ hheld
  have hflush : Meets (directoryHolds (Held start name temporary))
      (systemCall (fun directory => .ok (directory.writeFile temporary content))
        fun progress directory => directory.writeFile temporary (content.take progress))
      (directoryEnds (fun _ directory => Held start name temporary directory ∧
          ∃ mode, directory.entries temporary = some ⟨content, false, mode⟩)
        (fun _ => Held start name temporary) (Held start name temporary)) := by
    apply systemCall_meets
    · intro directory next hheld hok
      cases hok
      obtain ⟨file, hfile⟩ := hheld.present
      refine ⟨hwrite directory content hheld, file.mode, ?_⟩
      simp [StateDirectory.writeFile, StateDirectory.modifyFile, hfile]
    · exact fun _ _ _ herror => absurd herror (by simp)
    · exact fun directory progress hheld => hwrite directory _ hheld
    · exact fun directory progress hheld => hwrite directory _ hheld
  refine followed_by hbuffer fun _ => followed_by hflush fun _ => ?_
  apply systemCall_meets
  · rintro directory next ⟨hheld, mode, hfile⟩ hok
    cases hok
    refine ⟨hheld.modifyFile _, mode, ?_⟩
    simp [StateDirectory.syncFile, StateDirectory.modifyFile, hfile]
  · exact fun _ _ _ herror => absurd herror (by simp)
  · exact fun directory _ hheld => hheld.1
  · exact fun directory _ hheld => hheld.1

/-- The temporary file holds content that is new. -/
def HeldNew (start : StateDirectory) (name temporary : String) (new : Option Bytes → Prop)
    (directory : StateDirectory) : Prop :=
  ∃ content, new (some content) ∧ HeldSynced start name temporary content directory

/-- The temporary file is written, synced and closed before it is renamed. -/
theorem writeThrough_meets {encoded : Option Bytes}
    (hnew : ∀ content, encoded = some content → new (some content)) :
    Meets (directoryHolds (Held start name temporary)) (writeThrough temporary encoded)
      (directoryEnds (fun _ => HeldNew start name temporary new) (fun _ => Held start name temporary)
        (Held start name temporary)) := by
  have hheld : ∀ directory, HeldNew start name temporary new directory →
      Held start name temporary directory := fun _ ⟨_, _, hsynced⟩ => hsynced.held
  unfold writeThrough
  refine followed_by (closing_meets ?_ fun _ _ hheld => hheld) fun _ =>
    plainCall_meets (fun _ hsynced => hsynced) hheld hheld
  cases encoded with
  | none => exact .raise fun _ hheld => hheld
  | some content =>
      refine (writeContent_meets content).weaken (fun _ hheld => hheld) ?_
        (fun _ _ hheld => hheld) fun _ hheld => hheld
      exact fun _ world hsynced => ⟨⟨content, hnew content rfl, hsynced.1⟩, hsynced.2⟩

/-- The target has content that is new. -/
def RenamedNew (start : StateDirectory) (name temporary : String) (new : Option Bytes → Prop)
    (directory : StateDirectory) : Prop :=
  ∃ content, new (some content) ∧ Renamed start name temporary content directory

theorem rename_meets :
    Meets (directoryHolds (HeldNew start name temporary new))
      (systemCall fun directory => directory.rename temporary name)
      (directoryEnds (fun _ => RenamedNew start name temporary new)
        (fun _ => Held start name temporary) (Held start name temporary)) := by
  apply systemCall_meets
  · rintro directory next ⟨content, hnew, hsynced⟩ hrename
    exact ⟨content, hnew, hsynced.rename hrename⟩
  · rintro directory error ⟨content, hnew, hsynced⟩ -
    exact hsynced.held
  · rintro directory progress ⟨content, hnew, hsynced⟩
    exact hsynced.held
  · rintro directory progress ⟨content, hnew, hsynced⟩
    exact hsynced.held

/-- Syncing the directory completes the replacement. -/
theorem commitRename_meets :
    Meets (directoryHolds (RenamedNew start name temporary new)) fsyncDirStrict
      ⟨(@crashAtomic Unit name new start).returned,
        fun _ => directoryHolds (RenamedNew start name temporary new),
        (@crashAtomic Unit name new start).crashed⟩ := by
  have hsync : Meets (directoryHolds (RenamedNew start name temporary new)) fsyncDirStrict
      (directoryEnds (fun _ directory => RenamedNew start name temporary new directory ∧
          directory.former name = [])
        (fun _ => RenamedNew start name temporary new) (RenamedNew start name temporary new)) := by
    apply systemCall_meets
    · rintro directory next ⟨content, hnew, hrenamed⟩ hok
      cases hok
      refine ⟨⟨content, hnew, ?_⟩, rfl⟩
      exact ⟨⟨hrenamed.opened.frames.trans ((sync_frames directory).mono (by simp)),
        hrenamed.opened.reachable, hrenamed.opened.committed⟩, hrenamed.isTemporary,
        hrenamed.absent, hrenamed.gone, hrenamed.target, fun _ hvalue =>
          absurd hvalue List.not_mem_nil⟩
    · exact fun _ _ _ herror => absurd herror (by simp)
    · exact fun directory _ hrenamed => hrenamed
    · exact fun directory _ hrenamed => hrenamed
  refine hsync.weaken (fun _ hrenamed => hrenamed) ?_ (fun _ _ hrenamed => hrenamed) ?_
  · rintro - world ⟨⟨⟨content, hnew, hrenamed⟩, hformer⟩, -⟩
    exact ⟨hrenamed.intact hnew, hrenamed.othersKept, hrenamed.durablyHolds hnew hformer⟩
  · rintro world ⟨⟨content, hnew, hrenamed⟩, -⟩
    exact hrenamed.intact hnew

/-- Cleaning up after a failure, before or after the rename. -/
theorem cleanup_meets :
    Meets (directoryHolds fun directory => Held start name temporary directory ∨
        RenamedNew start name temporary new directory)
      (ignoring (unlinkAt temporary)) (cleanedUp name new start) := by
  rintro world ⟨hheld | ⟨content, hnew, hrenamed⟩, hquiet⟩
  · exact removeTemporary_meets world ⟨hheld, hquiet⟩
  · exact removeRenamed_meets hnew world ⟨hrenamed, hquiet⟩

/-- The temporary file is removed again if any call before the rename fails. -/
theorem atomicWriteTextAt_meets {tokens : Nat → String} {encode : String → Option Bytes}
    {data : String} {mode : Nat} (hnew : ∀ content, encode data = some content → new (some content)) :
    Meets (directoryHolds (Opened start true [])) (atomicWriteTextAt tokens encode name data mode)
      (crashAtomic name new start) := by
  unfold atomicWriteTextAt
  refine .bind (createPrivateTempFile_meets mode 32 tokens) fun temporary => ?_
  have hopenHandle : Meets (directoryHolds (Held start name temporary))
      (onError plainCall (ignoring closeDescriptor))
      (directoryEnds (fun _ => Held start name temporary) (fun _ => Held start name temporary)
        (Held start name temporary)) :=
    closing_meets (plainCall_meets (fun _ hheld => hheld) (fun _ hheld => hheld)
      fun _ hheld => hheld) fun _ _ hheld => hheld
  have hcrashed : ∀ world, directoryHolds (Held start name temporary) world →
      Intact name new start world.directory := fun _ hheld => hheld.1.intact
  have hfailed : ∀ world, directoryHolds (Held start name temporary) world →
      directoryHolds (fun directory => Held start name temporary directory ∨
        RenamedNew start name temporary new directory) world :=
    fun _ hheld => ⟨.inl hheld.1, hheld.2⟩
  refine @Meets.onError _ _ _ _ _ _ _ (fun _ => directoryHolds fun directory =>
    Held start name temporary directory ∨ RenamedNew start name temporary new directory) ?_ ?_
  · refine .bind (hopenHandle.weaken (fun _ hheld => hheld) (fun _ _ hheld => hheld)
      (fun _ => hfailed) hcrashed) fun _ => ?_
    refine .bind ((writeThrough_meets hnew).weaken (fun _ hheld => hheld) (fun _ _ hsynced => hsynced)
      (fun _ => hfailed) hcrashed) fun _ => ?_
    refine .bind (rename_meets.weaken (fun _ hsynced => hsynced) (fun _ _ hrenamed => hrenamed)
      (fun _ => hfailed) hcrashed) fun _ => ?_
    exact commitRename_meets.weaken (fun _ hrenamed => hrenamed) (fun _ _ hreturned => hreturned)
      (fun _ _ hrenamed => ⟨.inr hrenamed.1, hrenamed.2⟩) fun _ hintact => hintact
  · exact fun error => cleanup_meets.weaken (fun _ hfailed => hfailed) (fun _ _ hclean => hclean)
      (fun _ _ hfalse => hfalse.elim) fun _ hclean => hclean

end Write

/-! ## The primitives -/

section Primitives

variable {name : String} {new : Option Bytes → Prop}

/-- The whole write, from the root of the path to its last close. -/
theorem durableAtomicWriteText_meets {tokens : Nat → String} {encode : String → Option Bytes}
    {data : String} {mode : Nat} (hnew : ∀ content, encode data = some content → new (some content)) :
    Meets (directoryHolds (· = start)) (durableAtomicWriteText tokens encode name data mode)
      (crashAtomic name new start) := by
  unfold durableAtomicWriteText
  split
  · apply withDurableDirectory_meets
    · exact atomicWriteTextAt_meets hnew
    · exact fun _ _ hnot => ⟨intact_of_frames hnot.1.frames, fun _ =>
        othersKept_of_frames hnot.1.frames⟩
    · exact fun _ hframes => intact_of_frames hframes.1
    · exact fun _ => plainCall_ends (fun _ hreturned => hreturned)
        (fun _ hreturned => ⟨hreturned.1, fun _ => hreturned.2.1⟩) fun _ hreturned => hreturned.1
    · exact fun _ => ignoringClose_ends (fun _ hraised => hraised) fun _ hraised => hraised.1
  · apply Meets.raise
    rintro world ⟨rfl, -⟩
    exact ⟨intact_of_frames (.refl [] _), fun _ => othersKept_of_frames (.refl [] _)⟩

/-- What an unlink ends in; `notFound` says that the directory itself is missing. -/
def unlinkEnds (name : String) (start : StateDirectory) : Outcomes FileError FileWorld Bool where
  returned removed world :=
    (@crashAtomic Bool name (· = none) start).returned removed world ∧
      removed = (start.lookup name).isSome
  raised error world := (@crashAtomic Bool name (· = none) start).raised error world ∧
    (error = .notFound → .missing ∈ world.directory.path ∧ Frames [] start world.directory)
  crashed world := Intact name (· = none) start world.directory

/-- The target is absent, though a crash may still bring back what it was. -/
structure Unlinked (start : StateDirectory) (name : String) (removed : Bool)
    (directory : StateDirectory) : Prop where
  opened : Opened start false [name] directory
  gone : directory.entries name = none
  former : ∀ value ∈ directory.former name, ∀ held, mayBecome value held →
    start.MayRead name held
  removed_eq : removed = (start.lookup name).isSome

variable {removed : Bool} {directory : StateDirectory}

theorem Unlinked.read (hunlinked : Unlinked start name removed directory) :
    directory.read name = none := by
  unfold StateDirectory.read
  rw [lookup_of_reachable hunlinked.opened.reachable, hunlinked.gone]
  rfl

/-- After a crash, the old content or nothing. -/
theorem Unlinked.intact (hunlinked : Unlinked start name removed directory) :
    Intact name (· = none) start directory := by
  refine ⟨.inr hunlinked.read, fun content hread => ?_, fun other hother => ?_⟩
  · rcases hread with ⟨-, hnone⟩ | ⟨-, value, hvalue, hbecomes⟩
    · exact .inr hnone
    · rcases List.mem_append.mp hvalue with hformer | hcurrent
      · exact .inl (hunlinked.former value hformer content hbecomes)
      · rw [hunlinked.gone, List.mem_singleton] at hcurrent
        subst hcurrent
        exact .inr hbecomes
  · have hmem : other ∉ [name] := by simpa using hother
    exact .inr ⟨hunlinked.opened.frames.lookup other hmem, hunlinked.opened.frames.mayRead other hmem⟩

theorem Unlinked.othersKept (hunlinked : Unlinked start name removed directory) :
    OthersKept name start directory :=
  fun other hother => hunlinked.opened.frames.lookup other (by simpa using hother)

theorem Unlinked.durablyHolds (hunlinked : Unlinked start name removed directory)
    (hformer : directory.former name = []) : DurablyHolds name (· = none) directory := by
  refine ⟨hunlinked.read, fun content hread => ?_⟩
  rcases hread with ⟨-, hnone⟩ | ⟨-, value, hvalue, hbecomes⟩
  · exact hnone
  · rw [hformer, hunlinked.gone, List.nil_append, List.mem_singleton] at hvalue
    subst hvalue
    exact hbecomes

/-- The values a name had before, when the directory was opened, were all possible from the start. -/
theorem Opened.former (hopened : Opened start false [] directory) :
    ∀ value ∈ directory.former name ++ [directory.entries name], ∀ held, mayBecome value held →
      start.MayRead name held :=
  fun value hvalue held hbecomes => hopened.frames.mayRead name List.not_mem_nil held
    (.inr ⟨hopened.reachable, value, hvalue, hbecomes⟩)

/-- A target that is not there counts as removed. -/
theorem removeTarget_meets :
    Meets (directoryHolds (Opened start false []))
      (catching
        (do
          unlinkAt name
          return true)
        fun error => if error = .notFound then pure false else raise error)
      ⟨fun removed => directoryHolds (Unlinked start name removed), (unlinkEnds name start).raised,
        (unlinkEnds name start).crashed⟩ := by
  have hlookup : ∀ {directory}, Opened start false [] directory →
      start.lookup name = directory.entries name := fun hopened => by
    rw [← hopened.frames.lookup name List.not_mem_nil, lookup_of_reachable hopened.reachable]
  have hunlink : Meets (directoryHolds (Opened start false [])) (unlinkAt name)
      ⟨fun _ => directoryHolds (Unlinked start name true),
        fun error world =>
          (error = .notFound ∧ directoryHolds (Unlinked start name false) world) ∨
            (error ≠ .notFound ∧ (unlinkEnds name start).raised error world),
        (unlinkEnds name start).crashed⟩ := by
    apply unlinkAt_meets
    · rintro world directory ⟨hopened, hquiet⟩ hunlink
      unfold StateDirectory.unlink at hunlink
      -- a missing entry is answered, any other refusal is raised
      cases hfile : world.directory.entries name with
      | none => simp [hfile] at hunlink
      | some file =>
          rw [hfile] at hunlink
          cases hunlink
          refine ⟨⟨⟨(hopened.frames.mono (by simp)).trans (setEntry_frames _ name none),
            hopened.reachable, hopened.committed⟩, ?_, ?_, ?_⟩, hquiet⟩
          · simp [StateDirectory.setEntry]
          · intro value hvalue
            exact hopened.former value (by simpa [StateDirectory.setEntry] using hvalue)
          · rw [hlookup hopened, hfile]
            rfl
    · rintro world error ⟨hopened, hquiet⟩ hunlink
      unfold StateDirectory.unlink at hunlink
      cases hfile : world.directory.entries name with
      | some file => simp [hfile] at hunlink
      | none =>
          rw [hfile] at hunlink
          cases hunlink
          refine .inl ⟨rfl, ⟨⟨hopened.frames.mono (by simp), hopened.reachable, hopened.committed⟩,
            hfile, ?_, ?_⟩, hquiet⟩
          · exact fun value hvalue => hopened.former value (List.mem_append_left _ hvalue)
          · rw [hlookup hopened, hfile]
            rfl
    · rintro world ⟨hopened, hquiet⟩
      exact .inr ⟨by decide, ⟨intact_of_frames hopened.frames, fun hnone => absurd hnone (by simp)⟩,
        fun hnotFound => absurd hnotFound (by decide)⟩
    · exact fun world hopened => intact_of_frames hopened.1.frames
  refine .catching (.bind hunlink fun _ => .pure fun _ hunlinked => hunlinked) fun error => ?_
  split
  · rename_i hnotFound
    apply Meets.pure
    rintro world (⟨-, hunlinked⟩ | ⟨hother, -⟩)
    · exact hunlinked
    · exact absurd hnotFound hother
  · rename_i hother
    apply Meets.raise
    rintro world (⟨hnotFound, -⟩ | ⟨-, hraised⟩)
    · exact absurd hnotFound hother
    · exact hraised

/-- Syncing the directory makes the absence durable, whoever removed the target. -/
theorem commitUnlink_meets (removed : Bool) :
    Meets (directoryHolds (Unlinked start name removed))
      (do
        fsyncDirStrict
        return removed)
      (unlinkEnds name start) := by
  have hsync : Meets (directoryHolds (Unlinked start name removed)) fsyncDirStrict
      (directoryEnds (fun _ directory => Unlinked start name removed directory ∧
          directory.former name = [])
        (fun error directory => Unlinked start name removed directory ∧ error = .failed)
        (Unlinked start name removed)) := by
    apply systemCall_meets
    · intro directory next hunlinked hok
      cases hok
      exact ⟨⟨⟨hunlinked.opened.frames.trans ((sync_frames directory).mono (by simp)),
        hunlinked.opened.reachable, hunlinked.opened.committed⟩, hunlinked.gone,
        fun _ hvalue => absurd hvalue List.not_mem_nil, hunlinked.removed_eq⟩, rfl⟩
    · exact fun _ _ _ herror => absurd herror (by simp)
    · exact fun directory _ hunlinked => ⟨hunlinked, rfl⟩
    · exact fun directory _ hunlinked => hunlinked
  refine .bind (hsync.weaken (fun _ hunlinked => hunlinked) (fun _ _ hsynced => hsynced) ?_ ?_)
    fun _ => .pure ?_
  · rintro error world ⟨⟨hunlinked, rfl⟩, -⟩
    exact ⟨⟨hunlinked.intact, fun _ => hunlinked.othersKept⟩,
      fun hnotFound => absurd hnotFound (by decide)⟩
  · exact fun world hunlinked => hunlinked.1.intact
  · rintro world ⟨⟨hunlinked, hformer⟩, -⟩
    exact ⟨⟨hunlinked.intact, hunlinked.othersKept, hunlinked.durablyHolds hformer⟩,
      hunlinked.removed_eq⟩

/-- The whole unlink. -/
theorem durableUnlink_meets :
    Meets (directoryHolds (· = start)) (durableUnlink name) (unlinkEnds name start) := by
  have hbody : Meets (directoryHolds (Opened start false []))
      (do
        let removed ← catching
          (do
            unlinkAt name
            return true)
          fun error => if error = .notFound then pure false else raise error
        fsyncDirStrict
        return removed)
      (unlinkEnds name start) :=
    .bind removeTarget_meets commitUnlink_meets
  unfold durableUnlink
  split
  · refine @Meets.catching _ _ _ _ _ _ _ (unlinkEnds name start).raised
      (withDurableDirectory_meets hbody ?_ ?_ ?_ ?_) fun error => ?_
    · exact fun error world hnot => ⟨⟨intact_of_frames hnot.1.frames, fun _ =>
        othersKept_of_frames hnot.1.frames⟩, fun hnotFound =>
          ⟨hnot.1.absent hnotFound rfl, hnot.1.frames⟩⟩
    · exact fun _ hframes => intact_of_frames hframes.1
    · exact fun _ => plainCall_ends (fun _ hreturned => hreturned)
        (fun _ hreturned => ⟨⟨hreturned.1.1, fun _ => hreturned.1.2.1⟩, fun hnotFound =>
          absurd hnotFound (by decide)⟩) fun _ hreturned => hreturned.1.1
    · exact fun _ => ignoringClose_ends (fun _ hraised => hraised) fun _ hraised => hraised.1.1
    · split
      -- a directory that is not there holds no entry to remove
      · rename_i hnotFound
        apply Meets.pure
        rintro world ⟨⟨hintact, -⟩, hmissing⟩
        obtain ⟨hmissing, hframes⟩ := hmissing hnotFound
        have hnone : world.directory.lookup name = none := if_pos hmissing
        refine ⟨⟨hintact, othersKept_of_frames hframes, ?_, ?_⟩, ?_⟩
        · unfold StateDirectory.read
          rw [hnone]
          rfl
        · rintro content (⟨-, hlost⟩ | ⟨hreachable, -⟩)
          · exact hlost
          · exact absurd hmissing hreachable
        · rw [← hframes.lookup name List.not_mem_nil, hnone]
          rfl
      · exact .raise fun _ hraised => hraised
  · apply Meets.raise
    rintro world ⟨rfl, -⟩
    exact ⟨⟨intact_of_frames (.refl [] _), fun _ => othersKept_of_frames (.refl [] _)⟩,
      fun hnotFound => absurd hnotFound (by decide)⟩

end Primitives

/-- What a strict operation guarantees at the point where it ended. -/
structure CrashAtomic {Result : Type} (name : String) (new : Option Bytes → Prop)
    (start : StateDirectory) (ended : Except (Interruption FileError) Result × FileWorld) :
    Prop where
  intact : Intact name new start ended.2.directory
  returned : ∀ result, ended.1 = .ok result →
    OthersKept name start ended.2.directory ∧ DurablyHolds name new ended.2.directory
  raised : ∀ error, ended.1 = .error (.raised error) → ended.2.unlinkFailed = false →
    OthersKept name start ended.2.directory

/-- The property from the outcomes that each ending meets. -/
theorem crashAtomic_of_holds {Result : Type} {name : String} {new : Option Bytes → Prop}
    {ended : Except (Interruption FileError) Result × FileWorld}
    (hholds : (crashAtomic name new start).Holds ended) : CrashAtomic name new start ended := by
  obtain ⟨outcome, world⟩ := ended
  cases outcome with
  | ok result => exact ⟨hholds.1, fun _ _ => hholds.2, fun _ hraised => absurd hraised (by simp)⟩
  | error interruption =>
      cases interruption with
      | raised error => exact ⟨hholds.1, fun _ hok => absurd hok (by simp), fun _ _ => hholds.2⟩
      | crashed =>
          exact ⟨hholds, fun _ hok => absurd hok (by simp), fun _ hraised => absurd hraised (by simp)⟩

/-- Whatever fails and wherever the process crashes, a durable write or unlink leaves
its target as it was or as it is to be, and an unlink that finds nothing commits
whatever made the target absent. -/
theorem durable_crash_atomic (start : StateDirectory) (faults : Nat → Fault) (name : String) :
    (∀ tokens encode data mode,
      CrashAtomic name (fun content => content.isSome ∧ content = encode data) start
        ((durableAtomicWriteText tokens encode name data mode).perform
          { directory := start, faults := faults })) ∧
    CrashAtomic name (· = none) start
      ((durableUnlink name).perform { directory := start, faults := faults }) ∧
    ∀ removed after,
      (durableUnlink name).perform { directory := start, faults := faults } = (.ok removed, after) →
      removed = (start.lookup name).isSome ∧
        (start.lookup name = none → ∀ content, after.directory.MayRead name content →
          content = none) := by
  have hstart : directoryHolds (· = start) { directory := start, faults := faults } := ⟨rfl, rfl⟩
  have hunlink := @durableUnlink_meets start name _ hstart
  refine ⟨fun tokens encode data mode => ?_, ?_, fun removed after hended => ?_⟩
  · apply crashAtomic_of_holds
    exact durableAtomicWriteText_meets (fun content hcontent => ⟨rfl, hcontent.symm⟩) _ hstart
  · apply crashAtomic_of_holds
    cases hended : (durableUnlink name).perform { directory := start, faults := faults } with
    | mk outcome after =>
        rw [hended] at hunlink
        cases outcome with
        | ok removed => exact hunlink.1
        | error interruption =>
            cases interruption with
            | raised error => exact hunlink.1
            | crashed => exact hunlink
  · rw [hended] at hunlink
    exact ⟨hunlink.2, fun _ => hunlink.1.2.2.mayRead⟩

/-- A directory with the record of a pairing window. -/
def windowDirectory : StateDirectory where
  path := [.synced]
  entries name :=
    if name = "pairing-window.json" then some ⟨[123, 125], true, privateFileMode⟩ else none

/-- The record is rewritten, up to a crash in the sync of the directory. -/
def windowRewritten : Except (Interruption FileError) Unit × FileWorld :=
  (durableAtomicWriteText (fun _ => "token") (fun _ => some [91, 93]) "pairing-window.json"
    "[]").perform
    { directory := windowDirectory
      faults := fun call => if call = 20 then .crashes 0 else .none }

/-- The new record is seen already, and the old one may be back after the crash. -/
theorem durable_crash_atomic_rewrite :
    ending windowRewritten.1 = .crashed ∧
    windowRewritten.2.directory.read "pairing-window.json" = some [91, 93] ∧
    ∀ content, windowRewritten.2.directory.MayRead "pairing-window.json" content →
      content = some [123, 125] ∨ content = some [91, 93] := by
  have hatomic : CrashAtomic "pairing-window.json"
      (fun content => content.isSome ∧ content = some [91, 93]) windowDirectory windowRewritten :=
    (durable_crash_atomic windowDirectory
      (fun call => if call = 20 then .crashes 0 else .none) "pairing-window.json").1
        (fun _ => "token") (fun _ => some [91, 93]) "[]" privateFileMode
  refine ⟨by decide +kernel, by decide +kernel, fun content hread => ?_⟩
  rcases hatomic.intact.mayRead content hread with hold | hnew
  · left
    simpa [StateDirectory.MayRead, windowDirectory, mayBecome] using hold
  · exact .inr hnew.2

end CompanionBridge
