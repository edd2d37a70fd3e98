import CompanionBridge.State.AtomicIo
import Mathlib.Data.List.Basic

/-!
# Opening a state directory

What a change of an entry leaves alone, how the outcomes of a system call carry
over to the program around it, and the descriptor walk: it changes no entry of
the directory, and once it returns the path is there and, when the walk may
create, committed.
-/

namespace CompanionBridge

open Interruptible

/-! ## What does not change -/

namespace StateDirectory

/-- Names outside `changed` map to what they did, and a crash leaves them no more than before. -/
structure Frames (changed : List String) (start next : StateDirectory) : Prop where
  lookup : ∀ name, name ∉ changed → next.lookup name = start.lookup name
  mayRead : ∀ name, name ∉ changed → ∀ content, next.MayRead name content →
    start.MayRead name content

theorem Frames.refl (changed : List String) (directory : StateDirectory) :
    Frames changed directory directory :=
  ⟨fun _ _ => rfl, fun _ _ _ hread => hread⟩

theorem Frames.trans {changed : List String} {start middle next : StateDirectory}
    (hfirst : Frames changed start middle) (hsecond : Frames changed middle next) :
    Frames changed start next :=
  ⟨fun name hname => (hsecond.lookup name hname).trans (hfirst.lookup name hname),
    fun name hname content hread =>
      hfirst.mayRead name hname content (hsecond.mayRead name hname content hread)⟩

theorem Frames.mono {changed more : List String} {start next : StateDirectory}
    (hframes : Frames changed start next) (hsubset : ∀ name, name ∈ changed → name ∈ more) :
    Frames more start next :=
  ⟨fun name hname => hframes.lookup name fun hmem => hname (hsubset name hmem),
    fun name hname => hframes.mayRead name fun hmem => hname (hsubset name hmem)⟩

/-- The path is there, so that names map to what the entries say. -/
def Reachable (directory : StateDirectory) : Prop :=
  .missing ∉ directory.path

/-- No component of the path is lost in a crash. -/
def Committed (directory : StateDirectory) : Prop :=
  ∀ component ∈ directory.path, component = .synced

/-- In a directory that can be reached, a name is looked up as it is. -/
theorem lookup_of_reachable {directory : StateDirectory} (hreachable : directory.Reachable)
    (name : String) : directory.lookup name = directory.entries name :=
  if_neg hreachable

/-- With its path committed, a crash leaves a name one of the values it had. -/
theorem mayRead_of_committed {directory : StateDirectory} (hcommitted : directory.Committed)
    {name : String} {content : Option Bytes} (hread : directory.MayRead name content) :
    ∃ value ∈ directory.former name ++ [directory.entries name], mayBecome value content := by
  rcases hread with ⟨⟨component, hmem, hunsynced⟩, -⟩ | ⟨-, hvalue⟩
  · exact absurd (hcommitted component hmem) hunsynced
  · exact hvalue

/-- A change of entries that leaves the path alone. -/
theorem frames_of_entries {changed : List String} {start next : StateDirectory}
    (hpath : next.path = start.path)
    (hentries : ∀ name, name ∉ changed → next.entries name = start.entries name)
    (hformer : ∀ name, name ∉ changed → ∀ value ∈ next.former name, value ∈ start.former name) :
    Frames changed start next := by
  refine ⟨fun name hname => ?_, fun name hname content hread => ?_⟩
  · unfold StateDirectory.lookup
    rw [hpath, hentries name hname]
  · unfold MayRead at hread ⊢
    rw [hpath] at hread
    rcases hread with hlost | ⟨hreachable, value, hvalue, hbecomes⟩
    · exact .inl hlost
    · refine .inr ⟨hreachable, value, ?_, hbecomes⟩
      rcases List.mem_append.mp hvalue with hmem | hmem
      · exact List.mem_append_left _ (hformer name hname value hmem)
      · rw [hentries name hname] at hmem
        exact List.mem_append_right _ hmem

theorem setEntry_frames (directory : StateDirectory) (name : String) (value : Option StateFile) :
    Frames [name] directory (directory.setEntry name value) := by
  refine frames_of_entries ?_ ?_ ?_
  · rfl
  · intro other hother
    exact Function.update_of_ne (by simpa using hother) _ _
  · intro other hother former hformer
    have hsame : (directory.setEntry name value).former other = directory.former other :=
      Function.update_of_ne (by simpa using hother) _ _
    rwa [hsame] at hformer

theorem modifyFile_frames (directory : StateDirectory) (name : String)
    (change : StateFile → StateFile) : Frames [name] directory (directory.modifyFile name change) := by
  refine frames_of_entries ?_ ?_ ?_
  · rfl
  · intro other hother
    exact Function.update_of_ne (by simpa using hother) _ _
  · exact fun _ _ _ hformer => hformer

theorem sync_frames (directory : StateDirectory) : Frames [] directory directory.sync := by
  refine frames_of_entries ?_ ?_ ?_
  · rfl
  · exact fun _ _ => rfl
  · exact fun _ _ _ hformer => absurd hformer List.not_mem_nil

/-- Making a component that is missing shows an empty directory where there was none. -/
theorem makeComponent_frames {directory : StateDirectory} {index : Nat}
    (hmissing : directory.path[index]? = some .missing) :
    Frames [] directory (directory.makeComponent index) := by
  have hmem : PathComponent.missing ∈ directory.path := List.mem_of_getElem? hmissing
  have hlost : ∀ name, directory.MayRead name none := fun name =>
    .inl ⟨⟨.missing, hmem, by decide⟩, rfl⟩
  refine ⟨fun name _ => ?_, fun name _ content hread => ?_⟩
  · unfold StateDirectory.lookup
    rw [if_pos hmem]
    exact ite_self none
  · rcases hread with ⟨-, rfl⟩ | ⟨-, value, hvalue, hbecomes⟩
    · exact hlost name
    · have hnone : value = none := by simpa [makeComponent] using hvalue
      subst hnone
      cases hbecomes
      exact hlost name

/-- Syncing a part of the path changes no file. -/
theorem syncComponent_frames {directory : StateDirectory} {index : Nat}
    (hpresent : directory.path[index]? ≠ some .missing) :
    Frames [] directory (directory.syncComponent index) := by
  have hmissing : PathComponent.missing ∈ (directory.syncComponent index).path ↔
      .missing ∈ directory.path := by
    constructor
    · intro hmem
      rcases List.mem_or_eq_of_mem_set hmem with hheld | hsynced
      · exact hheld
      · exact absurd hsynced (by decide)
    · intro hmem
      obtain ⟨position, hbound, hposition⟩ := List.mem_iff_getElem.mp hmem
      have hother : index ≠ position := by
        rintro rfl
        exact hpresent (by rw [List.getElem?_eq_getElem hbound, hposition])
      refine List.mem_iff_getElem.mpr ⟨position, by simpa [syncComponent] using hbound, ?_⟩
      simp [syncComponent, List.getElem_set_ne hother, hposition]
  refine ⟨fun name _ => ?_, fun name _ content hread => ?_⟩
  · unfold StateDirectory.lookup
    simp only [hmissing]
    rfl
  · rcases hread with ⟨⟨component, hmem, hunsynced⟩, hnone⟩ | ⟨hreachable, hvalue⟩
    · rcases List.mem_or_eq_of_mem_set hmem with hheld | hsynced
      · exact .inl ⟨⟨component, hheld, hunsynced⟩, hnone⟩
      · exact absurd hsynced hunsynced
    · exact .inr ⟨fun hmem => hreachable (hmissing.mpr hmem), hvalue⟩

end StateDirectory

/-! ## System calls -/

/-- The directory satisfies a predicate, and no `unlink` has failed. -/
def directoryHolds (predicate : StateDirectory → Prop) (world : FileWorld) : Prop :=
  predicate world.directory ∧ world.unlinkFailed = false

/-- Outcomes that are about the directory alone. -/
def directoryEnds {Result : Type} (returned : Result → StateDirectory → Prop)
    (raised : FileError → StateDirectory → Prop) (crashed : StateDirectory → Prop) :
    Outcomes FileError FileWorld Result :=
  ⟨fun result => directoryHolds (returned result), fun error => directoryHolds (raised error),
    directoryHolds crashed⟩

section Calls

variable {pre : StateDirectory → Prop} {Result : Type} {returned : Result → StateDirectory → Prop}
variable {raised : FileError → StateDirectory → Prop} {crashed : StateDirectory → Prop}

/-- The rule of sequence for conditions on the directory. -/
theorem followed_by {Other : Type} {handler : FileM Result} {next : Result → FileM Other}
    {start : FileWorld → Prop} {final : Other → StateDirectory → Prop}
    (hhandler : Meets start handler (directoryEnds returned raised crashed))
    (hnext : ∀ result, Meets (directoryHolds (returned result)) (next result)
      (directoryEnds final raised crashed)) :
    Meets start (handler >>= next) (directoryEnds final raised crashed) :=
  .bind hhandler hnext

theorem rescued_by {body : FileM Result} {rescue : FileError → FileM Result}
    {start : FileWorld → Prop} {failed : FileError → StateDirectory → Prop}
    (hbody : Meets start body (directoryEnds returned failed crashed))
    (hrescue : ∀ error, Meets (directoryHolds (failed error)) (rescue error)
      (directoryEnds returned raised crashed)) :
    Meets start (catching body rescue) (directoryEnds returned raised crashed) :=
  .catching hbody hrescue

/-- A system call ends in one of four ways. -/
theorem systemCall_meets {effect : StateDirectory → Except FileError StateDirectory}
    {halfway : Nat → StateDirectory → StateDirectory} {done : StateDirectory → Prop}
    (hdone : ∀ directory next, pre directory → effect directory = .ok next → done next)
    (hrefused : ∀ directory error, pre directory → effect directory = .error error →
      raised error directory)
    (hfails : ∀ directory progress, pre directory → raised .failed (halfway progress directory))
    (hcrashes : ∀ directory progress, pre directory → crashed (halfway progress directory)) :
    Meets (directoryHolds pre) (systemCall effect halfway)
      (directoryEnds (fun _ => done) raised crashed) := by
  intro world hworld
  obtain ⟨hpre, hquiet⟩ := hworld
  unfold systemCall Handler.perform
  dsimp only
  split
  · split
    · rename_i heffect
      exact ⟨hdone _ _ hpre heffect, hquiet⟩
    · rename_i heffect
      exact ⟨hrefused _ _ hpre heffect, hquiet⟩
  · exact ⟨hfails _ _ hpre, hquiet⟩
  · exact ⟨hcrashes _ _ hpre, hquiet⟩

/-- A call that changes nothing succeeds, fails or is where the crash comes. -/
theorem plainCall_meets {done : StateDirectory → Prop}
    (hdone : ∀ directory, pre directory → done directory)
    (hfails : ∀ directory, pre directory → raised .failed directory)
    (hcrashes : ∀ directory, pre directory → crashed directory) :
    Meets (directoryHolds pre) plainCall (directoryEnds (fun _ => done) raised crashed) :=
  systemCall_meets (fun directory _ hpre hok => by cases hok; exact hdone directory hpre)
    (fun _ _ _ herror => absurd herror (by simp)) (fun directory _ => hfails directory)
    (fun directory _ => hcrashes directory)

/-- Closing a descriptor changes nothing, whether or not it fails. -/
theorem ignoringClose_meets {done : StateDirectory → Prop}
    (hdone : ∀ directory, pre directory → done directory)
    (hcrashes : ∀ directory, pre directory → crashed directory) :
    Meets (directoryHolds pre) (ignoring closeDescriptor)
      (directoryEnds (fun _ => done) raised crashed) :=
  .ignoring (plainCall_meets hdone hdone hcrashes)

/-- A body whose descriptor is closed when it raises. -/
theorem closing_meets {body : FileM Result} {start : FileWorld → Prop}
    (hbody : Meets start body (directoryEnds returned raised crashed))
    (hcrashes : ∀ error directory, raised error directory → crashed directory) :
    Meets start (onError body (ignoring closeDescriptor))
      (directoryEnds returned raised crashed) :=
  .onError hbody fun error => ignoringClose_meets (fun _ hraised => hraised) (hcrashes error)

end Calls

/-! ## Opening the directory -/

open StateDirectory

/-- The components before `index` are there, and committed when the walk creates them. -/
structure Walked (start : StateDirectory) (create : Bool) (length index : Nat)
    (directory : StateDirectory) : Prop where
  frames : Frames [] start directory
  length_eq : directory.path.length = length
  present : ∀ position, position < index → directory.path[position]? ≠ some .missing
  committed : create = true → ∀ position, position < index →
    directory.path[position]? = some .synced

/-- A failed walk has changed nothing; it reports a missing component only when there is one. -/
structure NotOpened (start : StateDirectory) (create : Bool) (error : FileError)
    (directory : StateDirectory) : Prop where
  frames : Frames [] start directory
  absent : error = .notFound → create = false → .missing ∈ directory.path

theorem validateDirectory_meets {pre : StateDirectory → Prop}
    {raised : FileError → StateDirectory → Prop} {crashed : StateDirectory → Prop}
    (hfails : ∀ directory, pre directory → raised .failed directory)
    (hcrashes : ∀ directory, pre directory → crashed directory) :
    Meets (directoryHolds pre) validateDirectory (directoryEnds (fun _ => pre) raised crashed) :=
  .bind (plainCall_meets (fun _ hpre => hpre) hfails hcrashes) fun _ =>
    plainCall_meets (fun _ hpre => hpre) hfails hcrashes

theorem validateNewProjectDirectory_meets {pre : StateDirectory → Prop}
    {raised : FileError → StateDirectory → Prop} {crashed : StateDirectory → Prop}
    (hfails : ∀ directory, pre directory → raised .failed directory)
    (hcrashes : ∀ directory, pre directory → crashed directory) :
    Meets (directoryHolds pre) validateNewProjectDirectory
      (directoryEnds (fun _ => pre) raised crashed) :=
  .bind (plainCall_meets (fun _ hpre => hpre) hfails hcrashes) fun _ =>
    .bind (plainCall_meets (fun _ hpre => hpre) hfails hcrashes) fun _ =>
      validateDirectory_meets hfails hcrashes

variable {start : StateDirectory} {create : Bool} {length index : Nat}

/-- A walk that fails on its way has opened nothing. -/
theorem Walked.notOpened {directory : StateDirectory} {error : FileError}
    (hwalked : Walked start create length index directory) (herror : error ≠ .notFound) :
    NotOpened start create error directory :=
  ⟨hwalked.frames, fun hnotFound => absurd hnotFound herror⟩

/-- The component that is being opened is there. -/
structure AtComponent (start : StateDirectory) (create : Bool) (length index : Nat)
    (directory : StateDirectory) : Prop where
  walked : Walked start create length index directory
  bound : index < length
  here : directory.path[index]? ≠ some .missing

theorem AtComponent.notOpened {directory : StateDirectory}
    (hat : AtComponent start create length index directory) :
    NotOpened start create .failed directory :=
  hat.walked.notOpened (by decide)

/-- Making the missing component does not undo the walk so far. -/
theorem Walked.makeComponent {directory : StateDirectory}
    (hwalked : Walked start create length index directory) (hbound : index < length)
    (hmissing : directory.path[index]? = some .missing) :
    AtComponent start create length index (directory.makeComponent index) := by
  have hother : ∀ position, position < index →
      (directory.makeComponent index).path[position]? = directory.path[position]? := by
    intro position hposition
    exact List.getElem?_set_ne (Nat.ne_of_gt hposition)
  refine ⟨⟨hwalked.frames.trans (makeComponent_frames hmissing), ?_, ?_, ?_⟩, hbound, ?_⟩
  · simp [StateDirectory.makeComponent, hwalked.length_eq]
  · intro position hposition
    rw [hother position hposition]
    exact hwalked.present position hposition
  · intro hcreate position hposition
    rw [hother position hposition]
    exact hwalked.committed hcreate position hposition
  · simp [StateDirectory.makeComponent, hwalked.length_eq, hbound]

/-- Syncing the parent of the component completes one step of the walk. -/
theorem AtComponent.syncComponent {directory : StateDirectory}
    (hat : AtComponent start create length index directory) :
    Walked start create length (index + 1) (directory.syncComponent index) := by
  have hwalked := hat.walked
  have hother : ∀ position, position ≠ index →
      (directory.syncComponent index).path[position]? = directory.path[position]? :=
    fun position hposition => List.getElem?_set_ne hposition.symm
  have hhere : (directory.syncComponent index).path[index]? = some .synced := by
    simp [StateDirectory.syncComponent, hwalked.length_eq, hat.bound]
  refine ⟨hwalked.frames.trans (syncComponent_frames hat.here), ?_, ?_, ?_⟩
  · simp [StateDirectory.syncComponent, hwalked.length_eq]
  · intro position hposition
    rcases Nat.lt_succ_iff_lt_or_eq.mp hposition with hlt | rfl
    · rw [hother position (Nat.ne_of_lt hlt)]
      exact hwalked.present position hlt
    · rw [hhere]
      decide
  · intro hcreate position hposition
    rcases Nat.lt_succ_iff_lt_or_eq.mp hposition with hlt | rfl
    · rw [hother position (Nat.ne_of_lt hlt)]
      exact hwalked.committed hcreate position hlt
    · exact hhere

/-- Without `create`, a component that is there completes the step by itself. -/
theorem AtComponent.next {directory : StateDirectory}
    (hat : AtComponent start false length index directory) :
    Walked start false length (index + 1) directory := by
  refine ⟨hat.walked.frames, hat.walked.length_eq, ?_, fun hcreate => absurd hcreate (by decide)⟩
  intro position hposition
  rcases Nat.lt_succ_iff_lt_or_eq.mp hposition with hlt | rfl
  · exact hat.walked.present position hlt
  · exact hat.here

/-- A part of the path is there or missing. -/
theorem openComponent_meets (hbound : index < length) :
    Meets (directoryHolds (Walked start create length index))
      (systemCall fun directory => directory.openComponent index)
      (directoryEnds (fun _ => AtComponent start create length index)
        (fun error directory => Walked start create length index directory ∧
          (error = .notFound → directory.path[index]? = some .missing))
        (Frames [] start)) := by
  apply systemCall_meets
  · intro directory next hwalked hopen
    unfold StateDirectory.openComponent at hopen
    split at hopen
    · exact absurd hopen (by simp)
    · rename_i hhere
      cases hopen
      exact ⟨hwalked, hbound, hhere⟩
  · intro directory error hwalked hopen
    unfold StateDirectory.openComponent at hopen
    split at hopen
    · rename_i hmissing
      exact ⟨hwalked, fun _ => hmissing⟩
    · exact absurd hopen (by simp)
  · exact fun directory _ hwalked => ⟨hwalked, fun hnotFound => absurd hnotFound (by decide)⟩
  · exact fun directory _ hwalked => hwalked.frames

/-- Opening the component again, once it was made. -/
theorem reopenComponent_meets :
    Meets (directoryHolds (AtComponent start create length index))
      (systemCall fun directory => directory.openComponent index)
      (directoryEnds (fun _ => AtComponent start create length index) (NotOpened start create)
        (Frames [] start)) := by
  apply systemCall_meets
  · intro directory next hat hopen
    unfold StateDirectory.openComponent at hopen
    rw [if_neg hat.here] at hopen
    cases hopen
    exact hat
  · intro directory error hat hopen
    unfold StateDirectory.openComponent at hopen
    rw [if_neg hat.here] at hopen
    exact absurd hopen (by simp)
  · exact fun directory _ hat => hat.notOpened
  · exact fun directory _ hat => hat.walked.frames

/-- The component is there afterwards, or the failure says what is missing. -/
theorem openOrMakeComponent_meets (hbound : index < length) :
    Meets (directoryHolds (Walked start create length index)) (openOrMakeComponent create index)
      (directoryEnds (fun _ => AtComponent start create length index) (NotOpened start create)
        (Frames [] start)) := by
  have hfound := @openComponent_meets start create length index hbound
  refine rescued_by (followed_by hfound fun _ => .pure fun _ hat => hat) fun error => ?_
  split
  · rename_i hmake
    refine followed_by (systemCall_meets ?_ ?_ ?_ ?_) fun _ =>
      followed_by reopenComponent_meets fun _ => .pure fun _ hat => hat
    · rintro directory next ⟨hwalked, hmissing⟩ hok
      cases hok
      exact hwalked.makeComponent hbound (hmissing hmake.1)
    · exact fun _ _ _ herror => absurd herror (by simp)
    · exact fun directory _ hwalked => hwalked.1.notOpened (by decide)
    · exact fun directory _ hwalked => hwalked.1.frames
  · apply Meets.raise
    rintro world ⟨⟨hwalked, hmissing⟩, hquiet⟩
    exact ⟨⟨hwalked.frames, fun hnotFound _ => List.mem_of_getElem? (hmissing hnotFound)⟩, hquiet⟩

theorem validateComponent_meets (existing : Bool) :
    Meets (directoryHolds (AtComponent start create length index)) (validateComponent existing)
      (directoryEnds (fun _ => AtComponent start create length index) (NotOpened start create)
        (Frames [] start)) := by
  unfold validateComponent
  split
  · exact validateDirectory_meets (fun _ hat => hat.notOpened) fun _ hat => hat.walked.frames
  · exact validateNewProjectDirectory_meets (fun _ hat => hat.notOpened) fun _ hat =>
      hat.walked.frames

/-- A part that was made is synced, with its parent. -/
theorem commitComponent_meets :
    Meets (directoryHolds (AtComponent start create length index)) (commitComponent create index)
      (directoryEnds (fun _ => Walked start create length (index + 1)) (NotOpened start create)
        (Frames [] start)) := by
  unfold commitComponent
  cases create with
  | true =>
      rw [if_pos rfl]
      apply systemCall_meets
      · intro directory next hat hok
        cases hok
        exact hat.syncComponent
      · exact fun _ _ _ herror => absurd herror (by simp)
      · exact fun directory _ hat => hat.notOpened
      · exact fun directory _ hat => hat.walked.frames
  | false => exact .pure fun world hat => ⟨hat.1.next, hat.2⟩

theorem openDurableComponent_meets (hbound : index < length) :
    Meets (directoryHolds (Walked start create length index)) (openDurableComponent create index)
      (directoryEnds (fun _ => Walked start create length (index + 1)) (NotOpened start create)
        (Frames [] start)) := by
  have hclosed : ∀ error directory, NotOpened start create error directory →
      Frames [] start directory := fun _ _ hnot => hnot.frames
  refine followed_by (openOrMakeComponent_meets hbound) fun existing => ?_
  refine followed_by (closing_meets (followed_by (validateComponent_meets existing) fun _ =>
    commitComponent_meets) hclosed) fun _ => ?_
  exact closing_meets (plainCall_meets (fun _ hwalked => hwalked)
    (fun _ hwalked => hwalked.notOpened (by decide)) fun _ hwalked => hwalked.frames) hclosed

/-- The parts one after the other, by induction on those that remain. -/
theorem openDurableComponents_meets (remaining : Nat) (hlength : index + remaining = length) :
    Meets (directoryHolds (Walked start create length index))
      (openDurableComponents create remaining index)
      (directoryEnds (fun _ => Walked start create length length) (NotOpened start create)
        (Frames [] start)) := by
  induction remaining generalizing index with
  | zero =>
      obtain rfl : index = length := hlength
      exact .pure fun _ hwalked => hwalked
  | succ remaining ih =>
      exact followed_by (openDurableComponent_meets (by omega)) fun _ => ih (by omega)

/-- The directory is open: nothing has changed but its path, which is there. -/
structure Opened (start : StateDirectory) (create : Bool) (changed : List String)
    (directory : StateDirectory) : Prop where
  frames : Frames changed start directory
  reachable : directory.Reachable
  committed : create = true → directory.Committed

/-- A walk that has reached the last part has opened the directory. -/
theorem Walked.opened {directory : StateDirectory}
    (hwalked : Walked start create length length directory) : Opened start create [] directory := by
  refine ⟨hwalked.frames, ?_, ?_⟩
  · intro hmissing
    obtain ⟨position, hposition, hheld⟩ := List.mem_iff_getElem.mp hmissing
    apply hwalked.present position (hwalked.length_eq ▸ hposition)
    rw [List.getElem?_eq_getElem hposition, hheld]
  · intro hcreate component hmem
    obtain ⟨position, hposition, rfl⟩ := List.mem_iff_getElem.mp hmem
    have hsynced := hwalked.committed hcreate position (hwalked.length_eq ▸ hposition)
    rw [List.getElem?_eq_getElem hposition] at hsynced
    exact Option.some.inj hsynced

theorem openDurableDirectoryHandle_meets (start : StateDirectory) (create : Bool) :
    Meets (directoryHolds (· = start)) (openDurableDirectoryHandle create)
      (directoryEnds (fun _ => Opened start create []) (NotOpened start create)
        (Frames [] start)) := by
  have hunchanged : ∀ {error}, error ≠ FileError.notFound → ∀ directory, directory = start →
      NotOpened start create error directory := by
    rintro error herror directory rfl
    exact ⟨.refl [] directory, fun hnotFound => absurd hnotFound herror⟩
  have hframes : ∀ directory, directory = start → Frames [] start directory := by
    rintro directory rfl
    exact .refl [] directory
  have hlength : Meets (directoryHolds (· = start))
      (Handler.read fun world : FileWorld => world.directory.path.length)
      (directoryEnds (fun length => Walked start create length 0) (NotOpened start create)
        (Frames [] start)) := by
    apply Meets.read
    rintro world ⟨rfl, hquiet⟩
    refine ⟨⟨.refl [] world.directory, rfl, ?_, ?_⟩, hquiet⟩
    · exact fun _ hposition => absurd hposition (Nat.not_lt_zero _)
    · exact fun _ _ hposition => absurd hposition (Nat.not_lt_zero _)
  refine followed_by (plainCall_meets (fun _ hstart => hstart) (hunchanged (by decide)) hframes)
    fun _ => closing_meets (followed_by (validateDirectory_meets (hunchanged (by decide)) hframes)
      fun _ => followed_by hlength fun length => ?_) fun _ _ hnot => hnot.frames
  refine (openDurableComponents_meets length (Nat.zero_add length)).weaken (fun _ hwalked => hwalked)
    ?_ (fun _ _ hnot => hnot) fun _ hframes => hframes
  exact fun _ world hwalked => ⟨hwalked.1.opened, hwalked.2⟩

/-- A body run in an open directory, whose descriptor is closed in every case. -/
theorem withDurableDirectory_meets {Result : Type} {body : FileM Result}
    {post : Outcomes FileError FileWorld Result}
    (hbody : Meets (directoryHolds (Opened start create [])) body post)
    (hnotOpened : ∀ error world, directoryHolds (NotOpened start create error) world →
      post.raised error world)
    (hundisturbed : ∀ world, directoryHolds (Frames [] start) world → post.crashed world)
    (hclosed : ∀ result, Meets (post.returned result) closeDescriptor
      ⟨fun _ => post.returned result, post.raised, post.crashed⟩)
    (hignored : ∀ error, Meets (post.raised error) (ignoring closeDescriptor)
      ⟨fun _ => post.raised error, post.raised, post.crashed⟩) :
    Meets (directoryHolds (· = start)) (withDurableDirectory create body) post := by
  have hopened := openDurableDirectoryHandle_meets start create
  refine .bind (hopened.weaken (fun _ hstart => hstart) (fun _ _ hopened => hopened) hnotOpened
    hundisturbed) fun _ => .bind (.onError hbody hignored) fun result =>
      .bind (hclosed result) fun _ => .pure fun _ hreturned => hreturned

end CompanionBridge
