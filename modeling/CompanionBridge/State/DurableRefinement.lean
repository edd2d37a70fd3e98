import CompanionBridge.Library.DurableStore
import CompanionBridge.Library.Simulation
import CompanionBridge.State.AtomicIoPaths
import CompanionBridge.State.PairingReset
import Mathlib.Data.Set.Finite.Lemmas
import Mathlib.Data.Set.Finite.List

/-!
# The primitives as changes of a store

The programs of the pairing state work on a store of records, whose changes are atomic and
last once they are synced. Here the system calls of `atomic_io` are shown to make such
changes, whatever fails and wherever the process crashes.
-/

namespace CompanionBridge

open Interruptible StateDirectory

/-! ## What a directory shows -/

/-- The file of each record, none of which is a temporary file of another. -/
structure FileNames (Name : Type) where
  fileName : Name → String
  injective : Function.Injective fileName
  notTemporary : ∀ name other, ¬ IsTemporary (fileName name) (fileName other)

/-- A directory that reads as the store does, and that a crash leaves no other values. As
long as its path may be lost, there is nothing to be read. -/
structure Shows {Name : Type} (names : FileNames Name) (directory : StateDirectory)
    (store : DurableStore Name Bytes) : Prop where
  read : ∀ name, directory.read (names.fileName name) = (store name).visible
  mayRead : ∀ name content, directory.MayRead (names.fileName name) content →
    content ∈ (store name).possible
  path : directory.Committed ∨ ∀ name, directory.read (names.fileName name) = none

section Shows

variable {Name : Type} {names : FileNames Name} {directory start : StateDirectory}
variable {store : DurableStore Name Bytes} {possible : List (Option Bytes)} {file : String}

/-- A file that was not synced could hold anything after a crash. -/
theorem synced_of_mayRead (hfinite : ∀ content, directory.MayRead file content → content ∈ possible)
    (hreachable : directory.Reachable) {held : StateFile}
    (hentry : directory.entries file = some held) : held.synced = true := by
  by_contra hunsynced
  have hany : Set.range (some : Bytes → Option Bytes) ⊆ {content | content ∈ possible} := by
    intro content ⟨bytes, hbytes⟩
    apply hfinite
    refine .inr ⟨hreachable, some held, ?_, bytes, hbytes.symm, fun hsynced => ?_⟩
    · simp [hentry]
    · exact absurd hsynced hunsynced
  exact Set.infinite_range_of_injective (Option.some_injective Bytes)
    ((List.finite_toSet possible).subset hany)

/-- What may be read of a directory that was synced is what is read. -/
theorem read_of_mayRead (hfinite : ∀ content, directory.MayRead file content → content ∈ possible)
    (hfresh : directory.Reachable → directory.former file = [])
    (hpath : directory.Committed ∨ directory.read file = none) {content : Option Bytes}
    (hread : directory.MayRead file content) : content = directory.read file := by
  rcases hread with ⟨⟨component, hmem, hunsynced⟩, rfl⟩ | ⟨hreachable, value, hvalue, hbecomes⟩
  · rcases hpath with hcommitted | hnone
    · exact absurd (hcommitted component hmem) hunsynced
    · exact hnone.symm
  · rw [hfresh hreachable, List.nil_append, List.mem_singleton] at hvalue
    subst hvalue
    unfold StateDirectory.read
    rw [lookup_of_reachable hreachable]
    cases hentry : directory.entries file with
    | none =>
        rw [hentry] at hbecomes
        exact hbecomes
    | some held =>
        rw [hentry] at hbecomes
        obtain ⟨bytes, rfl, hsame⟩ := hbecomes
        rw [hsame (synced_of_mayRead hfinite hreachable hentry)]
        rfl

theorem read_of_lookup {next : StateDirectory} (h : next.lookup file = start.lookup file) :
    next.read file = start.read file := by
  unfold StateDirectory.read
  rw [h]

/-- Another record is read as it was. -/
theorem Intact.other {next : StateDirectory} {new : Option Bytes → Prop} {name other : Name}
    (hintact : Intact (names.fileName name) new start next) (hne : other ≠ name) :
    next.read (names.fileName other) = start.read (names.fileName other) ∧
      ∀ content, next.MayRead (names.fileName other) content →
        start.MayRead (names.fileName other) content := by
  rcases hintact.others _ fun hsame => hne (names.injective hsame) with
    ⟨htemporary, -⟩ | ⟨hlookup, hmayRead⟩
  · exact absurd htemporary (names.notTemporary name other)
  · exact ⟨read_of_lookup hlookup, hmayRead⟩

variable {next : StateDirectory}

/-- A directory that was synced. -/
theorem Shows.sync (hshows : Shows names start store) (hframes : Frames [] start next)
    (hfresh : Fresh next)
    (hpath : next.Committed ∨ ∀ name, next.read (names.fileName name) = none) :
    Shows names next store.sync := by
  have hread (other : Name) : next.read (names.fileName other) =
      start.read (names.fileName other) := read_of_lookup (hframes.lookup _ List.not_mem_nil)
  refine ⟨fun other => (hread other).trans (hshows.read other), fun other content hmay => ?_, hpath⟩
  have hvisible : (store.sync other).possible = [(store other).visible] := rfl
  rw [hvisible, List.mem_singleton, ← hshows.read, ← hread other]
  refine read_of_mayRead (fun content hread => hshows.mayRead other content
    (hframes.mayRead _ List.not_mem_nil content hread)) (fun _ => hfresh _)
      (hpath.imp_right fun hnone => hnone other) hmay

/-- What only frames the directory shows the same store. -/
theorem Shows.framed (hshows : Shows names start store) (hframes : Frames [] start next)
    (hpath : start.Committed → next.Committed) : Shows names next store := by
  have hread (other : Name) : next.read (names.fileName other) =
      start.read (names.fileName other) := read_of_lookup (hframes.lookup _ List.not_mem_nil)
  refine ⟨fun other => (hread other).trans (hshows.read other), fun other content hmay => ?_, ?_⟩
  · exact hshows.mayRead other content (hframes.mayRead _ List.not_mem_nil content hmay)
  · exact hshows.path.imp hpath fun hnone other => (hread other).trans (hnone other)

/-- A directory that had nothing to read has nothing yet, or its path is committed by now. -/
theorem Shows.path_of_frames (hshows : Shows names start store)
    (hkept : start.Committed → next.Committed) (hpath : next.Committed ∨ Frames [] start next) :
    next.Committed ∨ ∀ name, next.read (names.fileName name) = none := by
  rcases hpath with hcommitted | hframes
  · exact .inl hcommitted
  · refine hshows.path.imp hkept fun hnone other => ?_
    rw [read_of_lookup (hframes.lookup _ List.not_mem_nil), hnone other]

variable [DecidableEq Name] {name : Name} {value : Option Bytes}

/-- A change that was cut short. -/
theorem Shows.cut (hshows : Shows names start store)
    (hintact : Intact (names.fileName name) (· = value) start next)
    (hpath : next.Committed ∨ ∀ name, next.read (names.fileName name) = none) :
    ∃ moved, Shows names next (store.cut name value moved) := by
  refine ⟨decide (next.read (names.fileName name) = value), fun other => ?_,
    fun other content hread => ?_, hpath⟩
  · by_cases hother : other = name
    · subst hother
      rw [DurableStore.cut, Function.update_self]
      by_cases hmoved : next.read (names.fileName other) = value
      · rw [decide_eq_true hmoved]
        exact hmoved
      · rw [decide_eq_false hmoved, hintact.read.resolve_right hmoved]
        exact hshows.read other
    · rw [DurableStore.cut, Function.update_of_ne hother, (hintact.other hother).1]
      exact hshows.read other
  · by_cases hother : other = name
    · subst hother
      rw [DurableStore.cut, Function.update_self]
      rcases hintact.mayRead content hread with hbefore | rfl
      · exact List.mem_cons_of_mem _ (List.mem_cons_of_mem _ (hshows.mayRead other content hbefore))
      · exact List.mem_cons_of_mem _ List.mem_cons_self
    · rw [DurableStore.cut, Function.update_of_ne hother]
      exact hshows.mayRead other content ((hintact.other hother).2 content hread)

/-- A change that was made and synced. -/
theorem Shows.put (hshows : Shows names start store)
    (hintact : Intact (names.fileName name) (· = value) start next)
    (hholds : DurablyHolds (names.fileName name) (· = value) next)
    (hfresh : Fresh next ∨ .missing ∈ next.path)
    (hpath : next.Committed ∨ ∀ name, next.read (names.fileName name) = none) :
    Shows names next (store.put name value) := by
  refine ⟨fun other => ?_, fun other content hread => ?_, hpath⟩
  · by_cases hother : other = name
    · subst hother
      rw [DurableStore.visible_put]
      exact hholds.read
    · rw [DurableStore.visible_put_other hother, (hintact.other hother).1]
      exact hshows.read other
  · have hvisible : (store.put name value other).possible =
        [(store.put name value other).visible] := rfl
    rw [hvisible, List.mem_singleton]
    by_cases hother : other = name
    · subst hother
      rw [DurableStore.visible_put]
      exact hholds.mayRead content hread
    · rw [DurableStore.visible_put_other hother, ← hshows.read, ← (hintact.other hother).1]
      apply read_of_mayRead (fun content hread =>
        hshows.mayRead other content ((hintact.other hother).2 content hread)) ?_ ?_ hread
      · intro hreachable
        exact (hfresh.resolve_right hreachable) _
      · exact hpath.imp_right fun hnone => hnone other

/-- A path that is not committed yet has lost no record. -/
theorem Shows.path_of_removed (hshows : Shows names start store)
    (hkept : start.Committed → next.Committed)
    (hintact : Intact (names.fileName name) (· = none) start next) :
    next.Committed ∨ ∀ name, next.read (names.fileName name) = none := by
  refine hshows.path.imp hkept fun hnone other => ?_
  by_cases hother : other = name
  · subst hother
    exact hintact.read.elim (fun hsame => hsame.trans (hnone other)) id
  · rw [(hintact.other hother).1, hnone other]

end Shows

/-! ## The primitives, as steps of a store -/

/-- What a restart leaves of a directory: what a crash may leave, and nothing that could
still change. -/
structure Restarted (start after : StateDirectory) : Prop where
  read : ∀ name, start.MayRead name (after.read name)
  settled : ∀ name content, after.MayRead name content → content = after.read name
  path : after.Committed ∨ ∀ name, after.read name = none

section Steps

variable {Name : Type} [DecidableEq Name] {names : FileNames Name}
variable {start : StateDirectory} {store : DurableStore Name Bytes} {name : Name}

/-- What happens to a directory: one of the primitives runs, with whatever faults, or the
process starts again after a crash. -/
inductive FileStep (names : FileNames Name) :
    StateDirectory → DurableStore.Event Name Bytes → StateDirectory → Prop
  | wrote {start : StateDirectory} (tokens : Nat → String) (encode : String → Option Bytes)
      (name : Name) (data : String) (mode : Nat) (faults : Nat → Fault) {content : Bytes}
      (hencode : encode data = some content) {outcome : Except (Interruption FileError) Unit}
      {world : FileWorld}
      (hended : (durableAtomicWriteText tokens encode (names.fileName name) data mode).perform
        { directory := start, faults := faults } = (outcome, world)) :
      FileStep names start (.changed name (some content) (ending outcome)) world.directory
  | unlinked {start : StateDirectory} (name : Name) (faults : Nat → Fault)
      {outcome : Except (Interruption FileError) Bool} {world : FileWorld}
      (hended : (durableUnlink (names.fileName name)).perform
        { directory := start, faults := faults } = (outcome, world)) :
      FileStep names start (.changed name none (ending outcome)) world.directory
  | synced {start : StateDirectory} (name : Name) (faults : Nat → Fault)
      {outcome : Except (Interruption FileError) Unit} {world : FileWorld}
      (hended : (durableFsyncParent (names.fileName name)).perform
        { directory := start, faults := faults } = (outcome, world)) :
      FileStep names start (.synced (ending outcome)) world.directory
  | restarted {start after : StateDirectory} (hrestarted : Restarted start after) :
      FileStep names start .restarted after

variable {faults : Nat → Fault} {world : FileWorld}

/-- A write replaces its record, or was cut short. -/
theorem Shows.write (hshows : Shows names start store) {tokens : Nat → String}
    {encode : String → Option Bytes} {data : String} {mode : Nat} {content : Bytes}
    (hencode : encode data = some content) {outcome : Except (Interruption FileError) Unit}
    (hended : (durableAtomicWriteText tokens encode (names.fileName name) data mode).perform
      { directory := start, faults := faults } = (outcome, world)) :
    ∃ next, DurableStore.Step store (.changed name (some content) (ending outcome)) next ∧
      Shows names world.directory next := by
  have hstart : directoryHolds (· = start) { directory := start, faults := faults } := ⟨rfl, rfl⟩
  have hmeets : Meets (directoryHolds (· = start))
      (durableAtomicWriteText tokens encode (names.fileName name) data mode)
      (crashAtomic (names.fileName name) (· = some content) start) :=
    durableAtomicWriteText_meets fun other hother => hother.symm.trans hencode
  have hcrash := hmeets _ hstart
  have hplace := durableAtomicWriteText_path start tokens encode (names.fileName name) data mode
    _ hstart
  have hsynced := durableAtomicWriteText_synced tokens encode (names.fileName name) data mode
    { directory := start, faults := faults } trivial
  have hkept : start.Committed → _ := durableAtomicWriteText_keeps tokens encode
    (names.fileName name) data mode { directory := start, faults := faults }
  rw [hended] at hcrash hplace hsynced hkept
  have hcut (hunfinished : ending outcome ≠ .returned)
      (hintact : Intact (names.fileName name) (· = some content) start world.directory)
      (hpath : world.directory.Committed ∨ Frames [] start world.directory) :
      ∃ next, DurableStore.Step store (.changed name (some content) (ending outcome)) next ∧
        Shows names world.directory next := by
    obtain ⟨moved, hshown⟩ := hshows.cut hintact (hshows.path_of_frames hkept hpath)
    exact ⟨_, .cut name (some content) hunfinished moved, hshown⟩
  cases outcome with
  | ok result =>
      obtain ⟨hintact, -, hholds⟩ := hcrash
      refine ⟨_, .put name (some content), hshows.put hintact hholds (.inl hsynced) ?_⟩
      exact hshows.path_of_frames hkept hplace
  | error interruption =>
      cases interruption with
      | raised error => exact hcut nofun hcrash.1 hplace
      | crashed => exact hcut nofun hcrash hplace

/-- An unlink takes its record away, or was cut short. -/
theorem Shows.unlink (hshows : Shows names start store)
    {outcome : Except (Interruption FileError) Bool}
    (hended : (durableUnlink (names.fileName name)).perform
      { directory := start, faults := faults } = (outcome, world)) :
    ∃ next, DurableStore.Step store (.changed name none (ending outcome)) next ∧
      Shows names world.directory next := by
  have hstart : directoryHolds (· = start) { directory := start, faults := faults } := ⟨rfl, rfl⟩
  have hcrash := @durableUnlink_meets start (names.fileName name) _ hstart
  have hsynced := durableUnlink_synced start (names.fileName name) _ hstart
  have hkept : start.Committed → _ :=
    durableUnlink_keeps (names.fileName name) { directory := start, faults := faults }
  rw [hended] at hcrash hsynced hkept
  have hcut (hunfinished : ending outcome ≠ .returned)
      (hintact : Intact (names.fileName name) (· = none) start world.directory) :
      ∃ next, DurableStore.Step store (.changed name none (ending outcome)) next ∧
        Shows names world.directory next := by
    obtain ⟨moved, hshown⟩ := hshows.cut hintact (hshows.path_of_removed hkept hintact)
    exact ⟨_, .cut name none hunfinished moved, hshown⟩
  cases outcome with
  | ok removed =>
      obtain ⟨⟨hintact, -, hholds⟩, -⟩ := hcrash
      refine ⟨_, .put name none, hshows.put hintact hholds hsynced ?_⟩
      exact hshows.path_of_removed hkept hintact
  | error interruption =>
      cases interruption with
      | raised error => exact hcut nofun hcrash.1.1
      | crashed => exact hcut nofun hcrash

/-- A sync leaves the records, synced once it returns. -/
theorem Shows.fsync (hshows : Shows names start store)
    {outcome : Except (Interruption FileError) Unit}
    (hended : (durableFsyncParent (names.fileName name)).perform
      { directory := start, faults := faults } = (outcome, world)) :
    ∃ next, DurableStore.Step store (.synced (ending outcome)) next ∧
      Shows names world.directory next := by
  have hstart : directoryHolds (· = start) { directory := start, faults := faults } := ⟨rfl, rfl⟩
  have hframed := durableFsyncParent_frames start (names.fileName name) _ hstart
  have hsynced := durableFsyncParent_synced (names.fileName name)
    { directory := start, faults := faults } trivial
  have hkept : start.Committed → _ :=
    durableFsyncParent_keeps (names.fileName name) { directory := start, faults := faults }
  rw [hended] at hframed hsynced hkept
  have hunsynced (hunfinished : ending outcome ≠ .returned)
      (hframes : Frames [] start world.directory) :
      ∃ next, DurableStore.Step store (.synced (ending outcome)) next ∧
        Shows names world.directory next :=
    ⟨_, .unsynced hunfinished, hshows.framed hframes hkept⟩
  cases outcome with
  | ok result =>
      refine ⟨_, .sync, hshows.sync hframed hsynced ?_⟩
      exact hshows.path_of_frames hkept (.inr hframed)
  | error interruption =>
      cases interruption with
      | raised error => exact hunsynced nofun hframed
      | crashed => exact hunsynced nofun hframed

/-- What is read after a restart is what some crash of the store leaves. -/
theorem Shows.restart (hshows : Shows names start store) {after : StateDirectory}
    (hrestarted : Restarted start after) :
    ∃ next, DurableStore.Step store .restarted next ∧ Shows names after next := by
  refine ⟨fun name => .synced (after.read (names.fileName name)), .restarted ?_, ?_⟩
  · intro name
    exact ⟨_, hshows.mayRead name _ (hrestarted.read _), rfl⟩
  · refine ⟨fun _ => rfl, fun name content hmay => ?_, ?_⟩
    · rw [Cell.possible_synced, List.mem_singleton]
      exact hrestarted.settled _ content hmay
    · exact hrestarted.path.imp_right fun hnone name => hnone _

/-- Each step of the directory is the same step of the store it shows. -/
theorem fileStep_matches : Simulation.Matches (Shows names) (FileStep names) DurableStore.Step := by
  intro state label after shown hshows hstep
  cases hstep with
  | wrote tokens encode name data mode faults hencode hended => exact hshows.write hencode hended
  | unlinked name faults hended => exact hshows.unlink hended
  | synced name faults hended => exact hshows.fsync hended
  | restarted hrestarted => exact hshows.restart hrestarted

/-- Over every sequence of writes, unlinks, syncs and restarts, whatever fails and wherever
the process crashes, a directory goes on showing a store that was changed the same way. -/
theorem durable_refinement {events : List (DurableStore.Event Name Bytes)}
    {after : StateDirectory} (hshows : Shows names start store)
    (hruns : Simulation.Runs (FileStep names) start events after) :
    ∃ next, Simulation.Runs DurableStore.Step store events next ∧ Shows names after next :=
  fileStep_matches.runs hshows hruns

end Steps

/-! ## The records of the pairing state -/

/-- The file names of the source. -/
def PairingRecord.fileName : PairingRecord → String
  | .identity => "server-identity.json"
  | .clients => "paired-clients.json"
  | .window => "pairing-window.json"
  | .marker => "identity-reset-in-progress.json"
  | .legacyMarker => "pairing-clear-all-in-progress.json"

/-- Only the name of a temporary file begins with a dot. -/
theorem not_isTemporary {name file : String} (hfile : file.toList.head? ≠ some '.') :
    ¬ IsTemporary name file := by
  rintro ⟨token, rfl⟩
  apply hfile
  have hdot : ".".toList = ['.'] := by decide
  simp [temporaryName, hdot]

def pairingFiles : FileNames PairingRecord where
  fileName := PairingRecord.fileName
  injective := by
    intro first second hsame
    revert hsame
    cases first <;> cases second <;> decide
  notTemporary name other := by
    apply not_isTemporary
    cases other <;> decide

/-- A directory with the marker of a reset. -/
def markedDirectory : StateDirectory where
  path := [.synced]
  entries name :=
    if name = pairingFiles.fileName .marker then some ⟨[123, 125], true, privateFileMode⟩ else none

def markedStore : PairingState := fun record =>
  .synced (if record = .marker then some [123, 125] else none)

theorem shows_marked : Shows pairingFiles markedDirectory markedStore := by
  have hentry (record : PairingRecord) :
      markedDirectory.entries (pairingFiles.fileName record) =
        if record = .marker then some ⟨[123, 125], true, privateFileMode⟩ else none := by
    simp only [markedDirectory, pairingFiles.injective.eq_iff]
  have hcommitted : markedDirectory.Committed := by
    simp [StateDirectory.Committed, markedDirectory]
  have hreachable : markedDirectory.Reachable := by
    simp [StateDirectory.Reachable, markedDirectory]
  refine ⟨fun record => ?_, fun record content hread => ?_, .inl hcommitted⟩
  · unfold StateDirectory.read
    rw [lookup_of_reachable hreachable, hentry, markedStore]
    split_ifs <;> rfl
  · obtain ⟨value, hvalue, hbecomes⟩ := mayRead_of_committed hcommitted hread
    obtain rfl : value = markedDirectory.entries (pairingFiles.fileName record) := by
      simpa [markedDirectory] using hvalue
    rw [hentry] at hbecomes
    rw [markedStore, Cell.possible_synced, List.mem_singleton]
    split_ifs at hbecomes ⊢
    · obtain ⟨bytes, rfl, hsynced⟩ := hbecomes
      rw [hsynced rfl]
    · exact hbecomes

/-- Removing the marker, up to a crash in the sync of the directory. -/
def markerRemoved : Except (Interruption FileError) Bool × FileWorld :=
  (durableUnlink (pairingFiles.fileName .marker)).perform
    { directory := markedDirectory
      faults := fun call => if call = 8 then .crashes 0 else .none }

/-- The process crashes after the marker was unlinked, before the directory was synced. -/
theorem durable_refinement_marker :
    (markerRemoved.2.directory.read (pairingFiles.fileName .marker)).isSome = false ∧
    ∃ next,
      Simulation.Runs DurableStore.Step markedStore
        [.changed PairingRecord.marker none .crashed] next ∧
      Shows pairingFiles markerRemoved.2.directory next := by
  have hcrashed : ending markerRemoved.1 = .crashed := by decide +kernel
  have hunlink := @FileStep.unlinked _ pairingFiles markedDirectory .marker
    (fun call => if call = 8 then .crashes 0 else .none) markerRemoved.1 markerRemoved.2
    (by rw [Prod.mk.eta, markerRemoved])
  rw [hcrashed] at hunlink
  refine ⟨by decide +kernel, ?_⟩
  exact durable_refinement shows_marked (.cons hunlink (.nil _))

end CompanionBridge
