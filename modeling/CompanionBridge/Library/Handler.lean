import CompanionBridge.Library.Outcomes
import Mathlib.Order.Defs.Unbundled

/-!
# Handlers that may raise

A handler updates a state and may raise; what it did to the state before it
raised stays done. Two judgements about handlers are composed here. `Keeps`
relates the state before a handler to the state after it, whatever the outcome.
`Ends` also looks at whether the handler raised.
-/

universe u

/-- A stateful computation whose exceptions keep the state. -/
abbrev Handler (Error State : Type) (Result : Type) : Type :=
  ExceptT Error (StateM State) Result

namespace Handler

variable {Error State Result Other : Type}

/-- The outcome of a handler, and the state it leaves. -/
def perform (handler : Handler Error State Result) (state : State) : Except Error Result × State :=
  handler state

/-- Whether an outcome is an exception. -/
def isRaised : Except Error Result → Bool
  | .ok _ => false
  | .error _ => true

/-- Run a handler and take an exception as a value, as the body of a `try`. -/
def attempt (handler : Handler Error State Result) : Handler Error State (Except Error Result) :=
  fun state => let ended := handler.perform state; (.ok ended.1, ended.2)

/-- A part of the state, or something computed from it. -/
def read (view : State → Result) : Handler Error State Result :=
  fun state => (.ok (view state), state)

def update (change : State → State) : Handler Error State Unit :=
  fun state => (.ok (), change state)

/-- A computation that leaves the state alone. -/
def lift (outcome : Except Error Result) : Handler Error State Result :=
  fun state => (outcome, state)

@[simp] theorem perform_pure (result : Result) (state : State) :
    perform (pure result : Handler Error State Result) state = (.ok result, state) := rfl

@[simp] theorem perform_attempt (handler : Handler Error State Result) (state : State) :
    perform (attempt handler) state =
      (.ok (handler.perform state).1, (handler.perform state).2) := rfl

@[simp] theorem perform_read (view : State → Result) (state : State) :
    perform (read view : Handler Error State Result) state = (.ok (view state), state) := rfl

@[simp] theorem perform_update (change : State → State) (state : State) :
    perform (update change : Handler Error State Unit) state = (.ok (), change state) := rfl

@[simp] theorem perform_lift (outcome : Except Error Result) (state : State) :
    perform (lift outcome) state = (outcome, state) := rfl

/-- What follows a handler runs only when the handler did not raise. -/
theorem perform_bind (handler : Handler Error State Result)
    (next : Result → Handler Error State Other) (state : State) :
    perform (handler >>= next) state =
      match handler.perform state with
      | (.ok result, after) => (next result).perform after
      | (.error error, after) => (.error error, after) := by
  simp only [perform, bind, ExceptT.bind, ExceptT.mk, StateT.bind]
  cases hended : handler state with
  | mk outcome after =>
      cases outcome with
      | ok result => rfl
      | error error => rfl

/-- A handler and what follows it both succeed. -/
theorem perform_bind_eq_ok {handler : Handler Error State Result}
    {next : Result → Handler Error State Other} {state after : State} {other : Other}
    (hperform : perform (handler >>= next) state = (.ok other, after)) :
    ∃ result middle, handler.perform state = (.ok result, middle) ∧
      (next result).perform middle = (.ok other, after) := by
  rw [perform_bind] at hperform
  cases hended : handler.perform state with
  | mk outcome middle =>
      rw [hended] at hperform
      cases outcome with
      | ok result => exact ⟨result, middle, rfl, hperform⟩
      | error error => exact absurd hperform (by simp)

/-- A part that returns hands its state to what follows. -/
theorem perform_bind_of_ok {handler : Handler Error State Result}
    {next : Result → Handler Error State Other} {state middle : State} {result : Result}
    (hperform : handler.perform state = (.ok result, middle)) :
    perform (handler >>= next) state = (next result).perform middle := by
  rw [perform_bind, hperform]

/-! ## What a handler does to the state -/

/-- Whatever its outcome, the handler relates the state before it to the state after it. -/
def Keeps (relation : State → State → Prop) (handler : Handler Error State Result) : Prop :=
  ∀ state, relation state (handler.perform state).2

section Keeps

variable {relation : State → State → Prop}

theorem Keeps.pure [Std.Refl relation] (result : Result) :
    Keeps relation (Pure.pure result : Handler Error State Result) :=
  fun state => Std.Refl.refl state

theorem Keeps.lift [Std.Refl relation] (outcome : Except Error Result) :
    Keeps relation (Handler.lift outcome) :=
  fun state => Std.Refl.refl state

theorem Keeps.read [Std.Refl relation] (view : State → Result) :
    Keeps relation (Handler.read view : Handler Error State Result) :=
  fun state => Std.Refl.refl state

theorem Keeps.update {change : State → State} (hchange : ∀ state, relation state (change state)) :
    Keeps relation (Handler.update change : Handler Error State Unit) :=
  hchange

/-- Catching an error undoes no change of the state. -/
theorem Keeps.attempt {handler : Handler Error State Result} (hkeeps : Keeps relation handler) :
    Keeps relation (Handler.attempt handler) :=
  hkeeps

theorem Keeps.bind [IsTrans State relation] {handler : Handler Error State Result}
    {next : Result → Handler Error State Other} (hhandler : Keeps relation handler)
    (hnext : ∀ result, Keeps relation (next result)) : Keeps relation (handler >>= next) := by
  intro state
  have hfirst := hhandler state
  rw [perform_bind]
  cases hended : handler.perform state with
  | mk outcome after =>
      rw [hended] at hfirst
      cases outcome with
      | error error => exact hfirst
      | ok result => exact IsTrans.trans _ _ _ hfirst (hnext result after)

end Keeps

/-! ## How a handler ends -/

/-- `post` relates the state before a handler, whether it raised, and the state after it. -/
def Ends (post : State → Bool → State → Prop) (handler : Handler Error State Result) : Prop :=
  ∀ state, post state (isRaised (handler.perform state).1) (handler.perform state).2

section Ends

variable {post : State → Bool → State → Prop} {relation : State → State → Prop}

/-- A computation without state ends where it started. -/
theorem Ends.lift {outcome : Except Error Result}
    (hpost : ∀ state, post state (isRaised outcome) state) : Ends post (Handler.lift outcome) :=
  hpost

theorem Ends.pure {result : Result} (hpost : ∀ state, post state false state) :
    Ends post (Pure.pure result : Handler Error State Result) :=
  hpost

theorem Ends.update {change : State → State} (hpost : ∀ state, post state false (change state)) :
    Ends post (Handler.update change : Handler Error State Unit) :=
  hpost

/-- A handler whose effect is within `relation` ends in whatever `relation` allows. -/
theorem Ends.of_keeps {handler : Handler Error State Result} (hkeeps : Keeps relation handler)
    (hpost : ∀ state raised after, relation state after → post state raised after) :
    Ends post handler :=
  fun state => hpost state _ _ (hkeeps state)

/-- A first part within `relation` does not change how the rest ends. -/
theorem Ends.bind {handler : Handler Error State Result}
    {next : Result → Handler Error State Other} (hhandler : Keeps relation handler)
    (hraised : ∀ state after, relation state after → post state true after)
    (habsorb : ∀ state middle raised after, relation state middle → post middle raised after →
      post state raised after)
    (hnext : ∀ result, Ends post (next result)) : Ends post (handler >>= next) := by
  intro state
  have hfirst := hhandler state
  rw [perform_bind]
  cases hended : handler.perform state with
  | mk outcome after =>
      rw [hended] at hfirst
      cases outcome with
      | error error => exact hraised state after hfirst
      | ok result => exact habsorb state after _ _ hfirst (hnext result after)

end Ends

end Handler
