import CompanionBridge.Library.DurableStore

/-!
# Programs that follow a protocol

A protocol says which changes of a store may be made, each where its guard holds. A
program follows it when every run, however it ends, is a path of such changes. What
the protocol keeps is then kept by any sequence of programs, with losses of power
between them.
-/

namespace DurableStore

open Interruptible Relation

variable {Name Value Error Result Other Command : Type}

/-- The changes that a protocol allows. -/
abbrev Protocol (Name Value : Type) : Type :=
  DurableStore Name Value → DurableStore Name Value → Prop

/-! ## Following a protocol -/

/-- Where `pre` holds, a run of the program is a path of the protocol. It leaves `done`
when it returns, and `failed` when it raises. -/
def Follows (protocol : Protocol Name Value) (readsFail : Bool)
    (pre : DurableStore Name Value → Prop) (program : StoreM Name Value Error Result)
    (done : Result → DurableStore Name Value → Prop)
    (failed : Error → DurableStore Name Value → Prop) : Prop :=
  ∀ first, Does readsFail (fun store => ReflTransGen protocol first store ∧ pre store) program
    (fun result store => ReflTransGen protocol first store ∧ done result store)
    (fun error store => ReflTransGen protocol first store ∧ failed error store)
    (ReflTransGen protocol first)

section Rules

variable {protocol : Protocol Name Value} {readsFail : Bool}
variable {pre : DurableStore Name Value → Prop} {program : StoreM Name Value Error Result}
variable {done : Result → DurableStore Name Value → Prop}
variable {failed : Error → DurableStore Name Value → Prop}

theorem Follows.weaken {stronger : DurableStore Name Value → Prop}
    {promised : Result → DurableStore Name Value → Prop}
    {less : Error → DurableStore Name Value → Prop}
    (hfollows : Follows protocol readsFail pre program promised less)
    (hpre : ∀ store, stronger store → pre store)
    (hdone : ∀ result store, promised result store → done result store)
    (hfailed : ∀ error store, less error store → failed error store) :
    Follows protocol readsFail stronger program done failed :=
  fun first => (hfollows first).weaken (fun _ => And.imp_right (hpre _))
    (fun _ _ => And.imp_right (hdone _ _)) (fun _ _ => And.imp_right (hfailed _ _)) fun _ => id

/-- What holds before holds of the start of a run, too. -/
theorem Follows.pure {result : Result} (h : ∀ store, pre store → done result store) :
    Follows protocol readsFail pre (Pure.pure result : StoreM Name Value Error Result) done
      failed :=
  fun _ => .pure fun _ => And.imp_right (h _)

theorem Follows.raise {error : Error} (h : ∀ store, pre store → failed error store) :
    Follows protocol readsFail pre (Interruptible.raise error : StoreM Name Value Error Result)
      done failed :=
  fun _ => .raise fun _ => And.imp_right (h _)

/-- The rule of sequence: each part takes only steps that the protocol allows. -/
theorem Follows.bind {next : Result → StoreM Name Value Error Other}
    {middle : Result → DurableStore Name Value → Prop}
    {final : Other → DurableStore Name Value → Prop}
    (hprogram : Follows protocol readsFail pre program middle failed)
    (hnext : ∀ result, Follows protocol readsFail (middle result) (next result) final failed) :
    Follows protocol readsFail pre (program >>= next) final failed :=
  fun first => .bind (hprogram first) fun result => hnext result first

theorem Follows.catching {rescue : Error → StoreM Name Value Error Result}
    {missed : Error → DurableStore Name Value → Prop}
    (hprogram : Follows protocol readsFail pre program done missed)
    (hrescue : ∀ error, Follows protocol readsFail (missed error) (rescue error) done failed) :
    Follows protocol readsFail pre (Interruptible.catching program rescue) done failed :=
  fun first => .catching (hprogram first) fun error => hrescue error first

theorem Follows.ite {condition : Prop} [Decidable condition]
    {second : StoreM Name Value Error Result}
    (hthen : condition → Follows protocol readsFail pre program done failed)
    (helse : ¬condition → Follows protocol readsFail pre second done failed) :
    Follows protocol readsFail pre (if condition then program else second) done failed := by
  split_ifs with h
  · exact hthen h
  · exact helse h

theorem Follows.crash :
    Follows protocol readsFail pre
      (Handler.lift (.error .crashed) : StoreM Name Value Error Result) done failed :=
  fun _ _ h => ⟨h.1, h.2.1⟩

theorem Follows.absurd (h : ∀ store, pre store → False) :
    Follows protocol readsFail pre program done failed :=
  fun _ => .absurd fun store hstore => h store hstore.2

variable [OfStoreError Error] {name : Name} {value : Option Value}

theorem Follows.fetch {failed : Error → DurableStore Name Value → Prop}
    (hmissing : ∀ store, pre store → (store name).visible = none →
      failed (OfStoreError.ofStore .notFound) store)
    (hfailed : ∀ store, readsFail = true → pre store → failed (OfStoreError.ofStore .failed) store) :
    Follows protocol readsFail pre (fetch name : StoreM Name Value Error Value)
      (fun value store => pre store ∧ (store name).visible = some value) failed :=
  fun _ => (Does.fetch (fun _ h hvisible => ⟨h.1, hmissing _ h.2 hvisible⟩)
      (fun _ hreads h => ⟨h.1, hfailed _ hreads h.2⟩) fun _ h => h.1).weaken (fun _ h => h)
    (fun _ _ h => ⟨h.1.1, h.1.2, h.2⟩) (fun _ _ h => h) fun _ h => h

theorem Follows.stat {failed : Error → DurableStore Name Value → Prop}
    (hmissing : ∀ store, pre store → (store name).visible = none →
      failed (OfStoreError.ofStore .notFound) store)
    (hfailed : ∀ store, readsFail = true → pre store → failed (OfStoreError.ofStore .failed) store) :
    Follows protocol readsFail pre (stat name : StoreM Name Value Error Unit)
      (fun _ store => pre store ∧ (store name).visible.isSome) failed :=
  .bind (.fetch hmissing hfailed) fun _ => .pure fun _ h => ⟨h.1, by rw [h.2]; rfl⟩

/-- A store may be synced wherever the protocol lets it be. -/
theorem Follows.commit {done : Unit → DurableStore Name Value → Prop}
    {failed : Error → DurableStore Name Value → Prop}
    (hsync : ∀ store, pre store → protocol store store.sync)
    (hdone : ∀ store, pre store → done () store.sync)
    (hfailed : ∀ store, pre store → failed (OfStoreError.ofStore .failed) store) :
    Follows protocol readsFail pre (commit : StoreM Name Value Error Unit) done failed :=
  fun _ => .commit (fun _ h => ⟨h.1.tail (hsync _ h.2), hdone _ h.2⟩)
    (fun _ h => ⟨h.1, hfailed _ h.2⟩) fun _ h => h.1

variable [DecidableEq Name]

/-- A change has to be allowed wherever it may end. -/
theorem Follows.change {done : Unit → DurableStore Name Value → Prop}
    {failed : Error → DurableStore Name Value → Prop}
    (hallowed : ∀ store after, pre store → Changed store name value after → protocol store after)
    (hdone : ∀ store, pre store → done () (store.put name value))
    (hfailed : ∀ store moved, pre store →
      failed (OfStoreError.ofStore .failed) (store.cut name value moved)) :
    Follows protocol readsFail pre (change name value : StoreM Name Value Error Unit) done
      failed :=
  fun _ => .change (fun _ h => ⟨h.1.tail (hallowed _ _ h.2 .put), hdone _ h.2⟩)
    (fun _ moved h => ⟨h.1.tail (hallowed _ _ h.2 (.cut moved)), hfailed _ moved h.2⟩)
    fun _ moved h => h.1.tail (hallowed _ _ h.2 (.cut moved))

/-- The rule of a write: the step to it must be allowed, also where it is cut. -/
theorem Follows.replace {value : Value} {done : Unit → DurableStore Name Value → Prop}
    {failed : Error → DurableStore Name Value → Prop}
    (hallowed : ∀ store after, pre store → Changed store name (some value) after →
      protocol store after)
    (hdone : ∀ store, pre store → done () (store.put name (some value)))
    (hfailed : ∀ store moved, pre store →
      failed (OfStoreError.ofStore .failed) (store.cut name (some value) moved)) :
    Follows protocol readsFail pre (replace name value : StoreM Name Value Error Unit) done
      failed :=
  .change hallowed hdone hfailed

theorem Follows.erase {done : Bool → DurableStore Name Value → Prop}
    {failed : Error → DurableStore Name Value → Prop}
    (hallowed : ∀ store after, pre store → Changed store name none after → protocol store after)
    (hdone : ∀ store, pre store → done (store name).visible.isSome (store.put name none))
    (hfailed : ∀ store moved, pre store →
      failed (OfStoreError.ofStore .failed) (store.cut name none moved)) :
    Follows protocol readsFail pre (erase name : StoreM Name Value Error Bool) done failed :=
  fun _ => .erase (fun _ h => ⟨h.1.tail (hallowed _ _ h.2 .put), hdone _ h.2⟩)
    (fun _ moved h => ⟨h.1.tail (hallowed _ _ h.2 (.cut moved)), hfailed _ moved h.2⟩)
    fun _ moved h => h.1.tail (hallowed _ _ h.2 (.cut moved))

end Rules

/-! ## Runs -/

section Runs

variable {protocol : Protocol Name Value}

/-- What the protocol keeps is kept by a path of it. -/
theorem path_keeps {invariant : DurableStore Name Value → Prop}
    (hkeeps : ∀ before after, invariant before → protocol before after → invariant after)
    {before after : DurableStore Name Value} (hbefore : invariant before)
    (hpath : ReflTransGen protocol before after) : invariant after := by
  induction hpath with
  | refl => exact hbefore
  | tail _ hstep ih => exact hkeeps _ _ ih hstep

/-- A run of a program, from any world with a store that meets its precondition. -/
theorem Follows.run {pre : DurableStore Name Value → Prop}
    {program : StoreM Name Value Error Result}
    {done : Result → DurableStore Name Value → Prop}
    {failed : Error → DurableStore Name Value → Prop} {world : World Name Value}
    (hfollows : Follows protocol world.readsFail pre program done failed) (hpre : pre world.store) :
    ReflTransGen protocol world.store (program.perform world).2.store ∧
      ∀ result, (program.perform world).1 = .ok result →
        done result (program.perform world).2.store := by
  have hends := hfollows world.store world ⟨rfl, .refl, hpre⟩
  cases hended : Handler.perform program world with
  | mk outcome after =>
      rw [hended] at hends
      cases outcome with
      | ok result =>
          refine ⟨hends.2.1, fun other hother => ?_⟩
          cases hother
          exact hends.2.2
      | error interruption =>
          cases interruption with
          | raised error => exact ⟨hends.2.1, nofun⟩
          | crashed => exact ⟨hends.2, nofun⟩

variable (program : Command → StoreM Name Value Error Result)
variable (allowed : Command → World Name Value → Prop)

/-- Programs one after another, from the first store to the last, each in a world that
is allowed. Each may end anywhere, and the power may be lost between any two. -/
inductive Lives : List Command → DurableStore Name Value → DurableStore Name Value → Prop
  | start (store) : Lives [] store store
  | runs {commands first} {command : Command} {world : World Name Value}
      (hlives : Lives commands first world.store) (hallowed : allowed command world) :
      Lives (commands ++ [command]) first ((program command).perform world).2.store
  | restarts {commands first last after} (hlives : Lives commands first last)
      (hrestarts : Restarts last after) : Lives commands first after

variable {program allowed}

/-- What every program and every loss of power keeps is kept for ever. -/
theorem Lives.keeps {invariant : DurableStore Name Value → Prop} {commands : List Command}
    {first last : DurableStore Name Value}
    (hlives : Lives program allowed commands first last)
    (hruns : ∀ command world, command ∈ commands → allowed command world →
      invariant world.store → invariant ((program command).perform world).2.store)
    (hrestarts : ∀ before after, invariant before → Restarts before after → invariant after)
    (hfirst : invariant first) : invariant last := by
  induction hlives with
  | start => exact hfirst
  | runs _ hallowed ih =>
      refine hruns _ _ (by simp) hallowed (ih ?_ hfirst)
      exact fun command world hcommand => hruns command world (List.mem_append_left _ hcommand)
  | restarts _ hrestart ih => exact hrestarts _ _ (ih hruns hfirst) hrestart

end Runs

end DurableStore
