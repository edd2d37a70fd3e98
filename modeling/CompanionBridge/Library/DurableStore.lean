import CompanionBridge.Library.Interruption
import Mathlib.Data.Set.Insert
import Mathlib.Logic.Function.Basic
import Mathlib.Logic.Relation

/-!
# Records that are replaced durably

A store has a value under each name, or none. Replacing one is atomic, and lasts once
the store was synced: until then a loss of power may bring back any value the name had
since the last sync. A name is confined to what it may have, now or afterwards.
-/

universe u

/-! ## Cells -/

/-- What a name shows, and what else a crash may bring back. -/
structure Cell (Value : Type u) where
  visible : Option Value
  former : List (Option Value) := []
  deriving DecidableEq

namespace Cell

variable {Value : Type u}

/-- What a name may have after a crash. -/
def possible (cell : Cell Value) : List (Option Value) :=
  cell.visible :: cell.former

/-- A value that no crash takes away. -/
def synced (value : Option Value) : Cell Value :=
  { visible := value }

/-- A replacement that was not synced, and may not have been made. -/
def unsynced (cell : Cell Value) (value : Option Value) (moved : Bool) : Cell Value where
  visible := if moved then value else cell.visible
  former := value :: cell.possible

@[simp] theorem possible_synced (value : Option Value) : (synced value).possible = [value] := rfl

@[simp] theorem visible_synced (value : Option Value) : (synced value).visible = value := rfl

/-- Without a crash one reads what a crash may also leave. -/
theorem visible_possible (cell : Cell Value) : cell.visible ∈ cell.possible :=
  List.mem_cons_self

/-- A change that is not synced adds one possible value to those there were. -/
theorem mem_unsynced {cell : Cell Value} {value held : Option Value} {moved : Bool}
    (h : held ∈ (cell.unsynced value moved).possible) : held = value ∨ held ∈ cell.possible := by
  rcases List.mem_cons.mp h with hvisible | hformer
  · cases moved with
    | true => exact .inl hvisible
    | false => exact .inr (hvisible ▸ cell.visible_possible)
  · exact List.mem_cons.mp hformer

end Cell

abbrev DurableStore (Name Value : Type) : Type := Name → Cell Value

namespace DurableStore

section Changes

variable {Name Value : Type}

/-- The store once all of it is synced. -/
def sync (store : DurableStore Name Value) : DurableStore Name Value :=
  fun name => .synced (store name).visible

/-- What a loss of power may make of a store. -/
def Restarts (before after : DurableStore Name Value) : Prop :=
  ∀ name, ∃ value ∈ (before name).possible, after name = .synced value

section Replacing

variable [DecidableEq Name]

/-- A name that was replaced, in a store that was synced. -/
def put (store : DurableStore Name Value) (name : Name) (value : Option Value) :
    DurableStore Name Value :=
  sync (Function.update store name (.synced value))

/-- A name whose replacement was cut short. -/
def cut (store : DurableStore Name Value) (name : Name) (value : Option Value) (moved : Bool) :
    DurableStore Name Value :=
  Function.update store name ((store name).unsynced value moved)

/-- What a replacement may leave, wherever it ends. -/
inductive Changed (store : DurableStore Name Value) (name : Name) (value : Option Value) :
    DurableStore Name Value → Prop
  | put : Changed store name value (store.put name value)
  | cut (moved : Bool) : Changed store name value (store.cut name value moved)

end Replacing

/-- Whatever becomes of the store, the name has one of these values. -/
def Confined (store : DurableStore Name Value) (name : Name) (values : Set (Option Value)) :
    Prop :=
  ∀ value ∈ (store name).possible, value ∈ values

/-- A store that no loss of power changes. -/
def Settled (store : DurableStore Name Value) : Prop :=
  ∀ name, store.Confined name {(store name).visible}

variable {store after : DurableStore Name Value} {name other : Name} {value : Option Value}
variable {values wider : Set (Option Value)}

theorem Confined.visible (h : store.Confined name values) : (store name).visible ∈ values :=
  h _ (store name).visible_possible

/-- A wider set of values confines as well. -/
theorem Confined.mono (h : store.Confined name values) (hsubset : values ⊆ wider) :
    store.Confined name wider :=
  fun value hvalue => hsubset (h value hvalue)

theorem Confined.eq (h : store.Confined name {value}) : (store name).visible = value :=
  h.visible

/-- What a store shows is what it may have, once it is synced. -/
theorem confined_sync (h : (store name).visible ∈ values) : store.sync.Confined name values := by
  intro value hvalue
  rw [sync, Cell.possible_synced, List.mem_singleton] at hvalue
  exact hvalue ▸ h

/-- Syncing loses the values that only a crash would bring back. -/
theorem Confined.sync (h : store.Confined name values) : store.sync.Confined name values :=
  confined_sync h.visible

/-- After a sync nothing is left to a crash. -/
theorem settled_sync (store : DurableStore Name Value) : store.sync.Settled :=
  fun _ => confined_sync rfl

/-- What is settled is confined to what is read. -/
theorem Settled.confined (h : store.Settled) (hvisible : (store name).visible ∈ values) :
    store.Confined name values :=
  (h name).mono (Set.singleton_subset_iff.mpr hvisible)

/-- A loss of power brings nothing that was not there. -/
theorem Confined.restarts (h : store.Confined name values) (hrestarts : Restarts store after) :
    after.Confined name values := by
  intro value hvalue
  obtain ⟨kept, hkept, hafter⟩ := hrestarts name
  rw [hafter, Cell.possible_synced, List.mem_singleton] at hvalue
  exact hvalue ▸ h kept hkept

/-- A loss of power may also take nothing away. -/
theorem restarts_sync (store : DurableStore Name Value) : Restarts store store.sync :=
  fun name => ⟨_, (store name).visible_possible, rfl⟩

section Replacing

variable [DecidableEq Name]

theorem settled_put (store : DurableStore Name Value) (name : Name) (value : Option Value) :
    (store.put name value).Settled :=
  settled_sync _

@[simp] theorem visible_put : (store.put name value name).visible = value := by
  simp [put, DurableStore.sync]

@[simp] theorem visible_put_other (hne : other ≠ name) :
    (store.put name value other).visible = (store other).visible := by
  simp [put, DurableStore.sync, Function.update_of_ne hne]

theorem confined_put (h : value ∈ values) : (store.put name value).Confined name values := by
  apply (settled_put store name value).confined
  rw [visible_put]
  exact h

/-- A replacement leaves the other names alone. -/
theorem Confined.changed_other (h : store.Confined other values)
    (hchanged : Changed store name value after) (hne : other ≠ name) :
    after.Confined other values := by
  cases hchanged with
  | put => exact (settled_put store name value).confined ((visible_put_other hne).symm ▸ h.visible)
  | cut moved =>
      rw [Confined, cut, Function.update_of_ne hne]
      exact h

/-- A change to a confined value keeps the name confined, wherever the change stops. -/
theorem Confined.changed (h : store.Confined name values)
    (hchanged : Changed store name value after) (hvalue : value ∈ values) :
    after.Confined name values := by
  cases hchanged with
  | put => exact confined_put hvalue
  | cut moved =>
      intro held hheld
      rw [cut, Function.update_self] at hheld
      rcases Cell.mem_unsynced hheld with rfl | hpossible
      · exact hvalue
      · exact h held hpossible

/-- Replacing a value by itself shows nothing new, wherever it ends. -/
theorem Changed.visible_same (hchanged : Changed store name value after)
    (hvisible : (store name).visible = value) : (after name).visible = value := by
  cases hchanged with
  | put => exact visible_put
  | cut moved =>
      rw [DurableStore.cut, Function.update_self, Cell.unsynced, hvisible]
      exact ite_self value

theorem Changed.visible_other (hchanged : Changed store name value after) (hne : other ≠ name) :
    (after other).visible = (store other).visible := by
  cases hchanged with
  | put => exact visible_put_other hne
  | cut moved => rw [DurableStore.cut, Function.update_of_ne hne]

end Replacing

end Changes

/-! ## Steps -/

deriving instance DecidableEq for Interruption

inductive StoreError where
  | notFound
  | failed
  deriving DecidableEq, Repr

/-- Errors of a program over a store. -/
class OfStoreError (Error : Type) where
  ofStore : StoreError → Error

instance : OfStoreError StoreError := ⟨id⟩

/-- What becomes of a step, and of the change that it makes. -/
inductive StepFate where
  | succeeds
  | fails (moved : Bool)
  | crashes (moved : Bool)
  deriving DecidableEq, Repr

structure World (Name Value : Type) where
  store : DurableStore Name Value
  fates : Nat → StepFate
  /-- Whether a step that only reads may fail. -/
  readsFail : Bool
  steps : Nat := 0

abbrev StoreM (Name Value Error : Type) := Interruptible Error (World Name Value)

section Steps

variable {Name Value Error Result : Type} [OfStoreError Error]

def World.next (world : World Name Value) (store : DurableStore Name Value) : World Name Value :=
  { world with store := store, steps := world.steps + 1 }

/-- What a name shows. -/
def fetch (name : Name) : StoreM Name Value Error Value := fun world =>
  let answer : Except (Interruption Error) Value :=
    match (world.store name).visible with
    | some value => .ok value
    | none => .error (.raised (OfStoreError.ofStore .notFound))
  match world.fates world.steps with
  | .succeeds => (answer, world.next world.store)
  | .fails _ =>
      (if world.readsFail then .error (.raised (OfStoreError.ofStore .failed)) else answer,
        world.next world.store)
  | .crashes _ => (.error .crashed, world.next world.store)

/-- Whether a name shows anything. -/
def stat (name : Name) : StoreM Name Value Error Unit := do
  let _ ← fetch name

variable [DecidableEq Name]

/-- A change of one name, which is synced when it succeeds. -/
def change (name : Name) (value : Option Value) : StoreM Name Value Error Unit := fun world =>
  match world.fates world.steps with
  | .succeeds => (.ok (), world.next (world.store.put name value))
  | .fails moved =>
      (.error (.raised (OfStoreError.ofStore .failed)), world.next (world.store.cut name value moved))
  | .crashes moved => (.error .crashed, world.next (world.store.cut name value moved))

def replace (name : Name) (value : Value) : StoreM Name Value Error Unit :=
  change name (some value)

/-- Remove a name; whether it was there. -/
def erase (name : Name) : StoreM Name Value Error Bool := do
  let found ← Handler.read fun world => (world.store name).visible.isSome
  change name none
  return found

/-- Sync the store. -/
def commit : StoreM Name Value Error Unit := fun world =>
  match world.fates world.steps with
  | .succeeds => (.ok (), world.next world.store.sync)
  | .fails _ => (.error (.raised (OfStoreError.ofStore .failed)), world.next world.store)
  | .crashes _ => (.error .crashed, world.next world.store)

end Steps

/-! ## What a program does to a store -/

open Interruptible

section Does

variable {Name Value Error Result Other : Type} {readsFail : Bool}

/-- Where `pre` holds, the program leaves `done` when it returns, `failed` when it
raises, and `stopped` when it crashes. -/
def Does (readsFail : Bool) (pre : DurableStore Name Value → Prop)
    (program : StoreM Name Value Error Result)
    (done : Result → DurableStore Name Value → Prop)
    (failed : Error → DurableStore Name Value → Prop)
    (stopped : DurableStore Name Value → Prop) : Prop :=
  Meets (fun world => world.readsFail = readsFail ∧ pre world.store) program {
    returned := fun result world => world.readsFail = readsFail ∧ done result world.store
    raised := fun error world => world.readsFail = readsFail ∧ failed error world.store
    crashed := fun world => world.readsFail = readsFail ∧ stopped world.store }

variable {pre : DurableStore Name Value → Prop} {program : StoreM Name Value Error Result}
variable {done : Result → DurableStore Name Value → Prop}
variable {failed : Error → DurableStore Name Value → Prop}
variable {stopped : DurableStore Name Value → Prop}

theorem Does.weaken {stronger : DurableStore Name Value → Prop}
    {promised : Result → DurableStore Name Value → Prop}
    {less : Error → DurableStore Name Value → Prop} {more : DurableStore Name Value → Prop}
    (hdoes : Does readsFail pre program promised less more)
    (hpre : ∀ store, stronger store → pre store)
    (hdone : ∀ result store, promised result store → done result store)
    (hfailed : ∀ error store, less error store → failed error store)
    (hstopped : ∀ store, more store → stopped store) :
    Does readsFail stronger program done failed stopped :=
  Meets.weaken hdoes (fun _ => And.imp_right (hpre _)) (fun _ _ => And.imp_right (hdone _ _))
    (fun _ _ => And.imp_right (hfailed _ _)) fun _ => And.imp_right (hstopped _)

theorem Does.pure {result : Result} (h : ∀ store, pre store → done result store) :
    Does readsFail pre (Pure.pure result : StoreM Name Value Error Result) done failed stopped :=
  Meets.pure fun _ => And.imp_right (h _)

theorem Does.raise {error : Error} (h : ∀ store, pre store → failed error store) :
    Does readsFail pre (Interruptible.raise error : StoreM Name Value Error Result) done failed
      stopped :=
  Meets.raise fun _ => And.imp_right (h _)

/-- The rule of sequence; a crash between the parts is a crash of the first. -/
theorem Does.bind {next : Result → StoreM Name Value Error Other}
    {middle : Result → DurableStore Name Value → Prop}
    {final : Other → DurableStore Name Value → Prop}
    (hprogram : Does readsFail pre program middle failed stopped)
    (hnext : ∀ result, Does readsFail (middle result) (next result) final failed stopped) :
    Does readsFail pre (program >>= next) final failed stopped :=
  Meets.bind hprogram hnext

/-- The rule of a handler, which no crash reaches. -/
theorem Does.catching {rescue : Error → StoreM Name Value Error Result}
    {missed : Error → DurableStore Name Value → Prop}
    (hprogram : Does readsFail pre program done missed stopped)
    (hrescue : ∀ error, Does readsFail (missed error) (rescue error) done failed stopped) :
    Does readsFail pre (Interruptible.catching program rescue) done failed stopped :=
  Meets.catching hprogram hrescue

/-- Where nothing holds, anything is left. -/
theorem Does.absurd (h : ∀ store, pre store → False) :
    Does readsFail pre program done failed stopped :=
  fun _ hworld => (h _ hworld.2).elim

end Does

/-! ## What the steps do -/

section Rules

variable {Name Value Error : Type} [OfStoreError Error] {readsFail : Bool}
variable {pre : DurableStore Name Value → Prop} {stopped : DurableStore Name Value → Prop}
variable {name : Name} {value : Option Value}

/-- What is fetched is what is shown, and a name that is not found shows nothing. -/
theorem Does.fetch {failed : Error → DurableStore Name Value → Prop}
    (hmissing : ∀ store, pre store → (store name).visible = none →
      failed (OfStoreError.ofStore .notFound) store)
    (hfailed : ∀ store, readsFail = true → pre store → failed (OfStoreError.ofStore .failed) store)
    (hstopped : ∀ store, pre store → stopped store) :
    Does readsFail pre (fetch name : StoreM Name Value Error Value)
      (fun value store => pre store ∧ (store name).visible = some value) failed stopped := by
  rintro world ⟨hfail, hpre⟩
  have hanswer : Outcomes.Holds ⟨fun value world => world.readsFail = readsFail ∧
        (pre world.store ∧ (world.store name).visible = some value),
        fun error world => world.readsFail = readsFail ∧ failed error world.store,
        fun world => world.readsFail = readsFail ∧ stopped world.store⟩
      ((match (world.store name).visible with
        | some value => .ok value
        | none => .error (.raised (OfStoreError.ofStore .notFound)) :
          Except (Interruption Error) Value), world.next world.store) := by
    cases hvisible : (world.store name).visible with
    | none => exact ⟨hfail, hmissing _ hpre hvisible⟩
    | some value => exact ⟨hfail, hpre, hvisible⟩
  unfold DurableStore.fetch Handler.perform
  dsimp only
  split
  · exact hanswer
  · split_ifs with hreads
    · exact ⟨hfail, hfailed _ (hfail.symm.trans hreads) hpre⟩
    · exact hanswer
  · exact ⟨hfail, hstopped _ hpre⟩

/-- The rule of looking at a name, which may fail or find nothing. -/
theorem Does.stat {failed : Error → DurableStore Name Value → Prop}
    (hmissing : ∀ store, pre store → (store name).visible = none →
      failed (OfStoreError.ofStore .notFound) store)
    (hfailed : ∀ store, readsFail = true → pre store → failed (OfStoreError.ofStore .failed) store)
    (hstopped : ∀ store, pre store → stopped store) :
    Does readsFail pre (stat name : StoreM Name Value Error Unit)
      (fun _ store => pre store ∧ (store name).visible.isSome) failed stopped :=
  .bind (.fetch hmissing hfailed hstopped) fun _ => .pure fun _ h => ⟨h.1, by rw [h.2]; rfl⟩

theorem Does.commit {done : Unit → DurableStore Name Value → Prop}
    {failed : Error → DurableStore Name Value → Prop}
    (hdone : ∀ store, pre store → done () store.sync)
    (hfailed : ∀ store, pre store → failed (OfStoreError.ofStore .failed) store)
    (hstopped : ∀ store, pre store → stopped store) :
    Does readsFail pre (commit : StoreM Name Value Error Unit) done failed stopped := by
  rintro world ⟨hfail, hpre⟩
  unfold DurableStore.commit Handler.perform
  dsimp only
  split
  · exact ⟨hfail, hdone _ hpre⟩
  · exact ⟨hfail, hfailed _ hpre⟩
  · exact ⟨hfail, hstopped _ hpre⟩

variable [DecidableEq Name]

/-- The rule of a change, which is done, failed or cut anywhere. -/
theorem Does.change {done : Unit → DurableStore Name Value → Prop}
    {failed : Error → DurableStore Name Value → Prop}
    (hdone : ∀ store, pre store → done () (store.put name value))
    (hfailed : ∀ store moved, pre store →
      failed (OfStoreError.ofStore .failed) (store.cut name value moved))
    (hstopped : ∀ store moved, pre store → stopped (store.cut name value moved)) :
    Does readsFail pre (change name value : StoreM Name Value Error Unit) done failed stopped := by
  rintro world ⟨hfail, hpre⟩
  unfold DurableStore.change Handler.perform
  dsimp only
  split
  · exact ⟨hfail, hdone _ hpre⟩
  · exact ⟨hfail, hfailed _ _ hpre⟩
  · exact ⟨hfail, hstopped _ _ hpre⟩

theorem Does.replace {value : Value} {done : Unit → DurableStore Name Value → Prop}
    {failed : Error → DurableStore Name Value → Prop}
    (hdone : ∀ store, pre store → done () (store.put name (some value)))
    (hfailed : ∀ store moved, pre store →
      failed (OfStoreError.ofStore .failed) (store.cut name (some value) moved))
    (hstopped : ∀ store moved, pre store → stopped (store.cut name (some value) moved)) :
    Does readsFail pre (replace name value : StoreM Name Value Error Unit) done failed stopped :=
  .change hdone hfailed hstopped

/-- A change to none, which tells whether there was a value. -/
theorem Does.erase {done : Bool → DurableStore Name Value → Prop}
    {failed : Error → DurableStore Name Value → Prop}
    (hdone : ∀ store, pre store → done (store name).visible.isSome (store.put name none))
    (hfailed : ∀ store moved, pre store →
      failed (OfStoreError.ofStore .failed) (store.cut name none moved))
    (hstopped : ∀ store moved, pre store → stopped (store.cut name none moved)) :
    Does readsFail pre (erase name : StoreM Name Value Error Bool) done failed stopped := by
  have hread : Does readsFail pre
      (Handler.read fun world : World Name Value => (world.store name).visible.isSome)
      (fun found store => pre store ∧ (store name).visible.isSome = found) failed stopped :=
    Meets.read fun _ h => ⟨h.1, h.2, rfl⟩
  refine .bind hread fun found => .bind (.change ?_ ?_ ?_) fun _ => .pure fun _ h => h
  · exact fun store h => h.2 ▸ hdone store h.1
  · exact fun store moved h => hfailed store moved h.1
  · exact fun store moved h => hstopped store moved h.1

end Rules

/-! ## Stores that change one step after another -/

/-- What is done to a store, and how it ended. -/
inductive Event (Name Value : Type) where
  | changed (name : Name) (value : Option Value) (ended : Ending)
  | synced (ended : Ending)
  | restarted

section Runs

variable {Name Value Error : Type} [DecidableEq Name]

/-- A change that does not return may be made or not, and a sync that does not return
syncs nothing. -/
inductive Step : DurableStore Name Value → Event Name Value → DurableStore Name Value → Prop
  | put {store} (name value) : Step store (.changed name value .returned) (store.put name value)
  | cut {store} (name value) {ended : Ending} (hended : ended ≠ .returned) (moved : Bool) :
      Step store (.changed name value ended) (store.cut name value moved)
  | sync {store} : Step store (.synced .returned) store.sync
  | unsynced {store} {ended : Ending} (hended : ended ≠ .returned) :
      Step store (.synced ended) store
  | restarted {store after} (hrestarts : Restarts store after) : Step store .restarted after

variable [OfStoreError Error]

/-- The steps are those that the programs over a store take. -/
theorem change_step (world : World Name Value) (name : Name) (value : Option Value) :
    Step world.store
      (.changed name value
        (ending ((change name value : StoreM Name Value Error Unit).perform world).1))
      ((change name value : StoreM Name Value Error Unit).perform world).2.store := by
  unfold change Handler.perform
  dsimp only
  have hraised : Ending.raised ≠ .returned := nofun
  have hcrashed : Ending.crashed ≠ .returned := nofun
  cases world.fates world.steps with
  | succeeds => exact .put name value
  | fails moved => exact .cut name value hraised moved
  | crashes moved => exact .cut name value hcrashed moved

theorem commit_step (world : World Name Value) :
    Step world.store
      (.synced (ending ((commit : StoreM Name Value Error Unit).perform world).1))
      ((commit : StoreM Name Value Error Unit).perform world).2.store := by
  unfold commit Handler.perform
  dsimp only
  have hraised : Ending.raised ≠ .returned := nofun
  have hcrashed : Ending.crashed ≠ .returned := nofun
  cases world.fates world.steps with
  | succeeds => exact .sync
  | fails moved => exact .unsynced hraised
  | crashes moved => exact .unsynced hcrashed

end Runs

end DurableStore
