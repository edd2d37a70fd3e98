import CompanionBridge.Library.Handler

/-!
# Handlers that a crash may interrupt

A crash ends a handler where it stands, as an exception does, but no handler
catches it. What a handler is to guarantee is therefore stated three times: for
when it returns, when it raises, and when it crashes.
-/

/-- Why a handler did not return. -/
inductive Interruption (Error : Type) where
  | raised (error : Error)
  | crashed

/-- How a handler ended. -/
inductive Ending where
  | returned
  | raised
  | crashed
  deriving DecidableEq, Repr

abbrev Interruptible (Error State Result : Type) : Type :=
  Handler (Interruption Error) State Result

namespace Interruptible

variable {Error State Result Other : Type}

def ending : Except (Interruption Error) Result → Ending
  | .ok _ => .returned
  | .error (.raised _) => .raised
  | .error .crashed => .crashed

def raise (error : Error) : Interruptible Error State Result :=
  Handler.lift (.error (.raised error))

/-- A `try` whose `except` runs `rescue`. -/
def catching (body : Interruptible Error State Result)
    (rescue : Error → Interruptible Error State Result) : Interruptible Error State Result :=
  fun state =>
    match body.perform state with
    | (.ok result, after) => (.ok result, after)
    | (.error (.raised error), after) => (rescue error).perform after
    | (.error .crashed, after) => (.error .crashed, after)

theorem perform_catching (body : Interruptible Error State Result)
    (rescue : Error → Interruptible Error State Result) (state : State) :
    (catching body rescue).perform state =
      match body.perform state with
      | (.ok result, after) => (.ok result, after)
      | (.error (.raised error), after) => (rescue error).perform after
      | (.error .crashed, after) => (.error .crashed, after) := rfl

/-- A `try` whose `except` raises another error returns what its body does. -/
theorem perform_catching_raise_eq_ok {body : Interruptible Error State Result}
    {error : Error → Error} {state after : State} {result : Result} :
    (catching body fun original => raise (error original)).perform state = (.ok result, after) ↔
      body.perform state = (.ok result, after) := by
  rw [perform_catching]
  cases body.perform state with
  | mk outcome middle =>
      cases outcome with
      | ok other => rfl
      | error interruption =>
          cases interruption with
          | raised original => exact ⟨nofun, nofun⟩
          | crashed => rfl

/-- A `try` whose `except` cleans up and raises again. -/
def onError (body : Interruptible Error State Result) (cleanup : Interruptible Error State Unit) :
    Interruptible Error State Result :=
  catching body fun error => do
    cleanup
    raise error

/-- A `try` whose `except` passes. -/
def ignoring (body : Interruptible Error State Unit) : Interruptible Error State Unit :=
  catching body fun _ => pure ()

theorem keeps_raise {relation : State → State → Prop} [Std.Refl relation] (error : Error) :
    Handler.Keeps relation (raise error : Interruptible Error State Result) :=
  .lift _

theorem keeps_catching {relation : State → State → Prop} [IsTrans State relation]
    {body : Interruptible Error State Result} {rescue : Error → Interruptible Error State Result}
    (hbody : Handler.Keeps relation body)
    (hrescue : ∀ error, Handler.Keeps relation (rescue error)) :
    Handler.Keeps relation (catching body rescue) := by
  intro state
  have hfirst := hbody state
  rw [perform_catching]
  cases hended : body.perform state with
  | mk outcome after =>
      rw [hended] at hfirst
      cases outcome with
      | ok result => exact hfirst
      | error interruption =>
          cases interruption with
          | raised error => exact IsTrans.trans _ _ _ hfirst (hrescue error after)
          | crashed => exact hfirst

/-- What is to hold of the state when a handler ends. -/
structure Outcomes (Error State Result : Type) where
  returned : Result → State → Prop
  raised : Error → State → Prop
  crashed : State → Prop

def Outcomes.Holds (post : Outcomes Error State Result) :
    Except (Interruption Error) Result × State → Prop
  | (.ok result, after) => post.returned result after
  | (.error (.raised error), after) => post.raised error after
  | (.error .crashed, after) => post.crashed after

/-- Started where `pre` holds, the handler ends as `post` says. -/
def Meets (pre : State → Prop) (handler : Interruptible Error State Result)
    (post : Outcomes Error State Result) : Prop :=
  ∀ state, pre state → post.Holds (handler.perform state)

variable {pre : State → Prop} {post : Outcomes Error State Result}

theorem Meets.pure {result : Result} (hreturned : ∀ state, pre state → post.returned result state) :
    Meets pre (Pure.pure result) post :=
  hreturned

theorem Meets.raise {error : Error} (hraised : ∀ state, pre state → post.raised error state) :
    Meets pre (Interruptible.raise error) post :=
  hraised

theorem Meets.read {view : State → Result}
    (hreturned : ∀ state, pre state → post.returned (view state) state) :
    Meets pre (Handler.read view) post :=
  hreturned

/-- The handler may start where more is known, and may promise more. -/
theorem Meets.weaken {stronger : State → Prop} {promised : Outcomes Error State Result}
    {handler : Interruptible Error State Result} (hmeets : Meets pre handler promised)
    (hpre : ∀ state, stronger state → pre state)
    (hreturned : ∀ result state, promised.returned result state → post.returned result state)
    (hraised : ∀ error state, promised.raised error state → post.raised error state)
    (hcrashed : ∀ state, promised.crashed state → post.crashed state) :
    Meets stronger handler post := by
  intro state hstate
  have hends := hmeets state (hpre state hstate)
  unfold Outcomes.Holds at hends ⊢
  split
  · rename_i hended
    rw [hended] at hends
    exact hreturned _ _ hends
  · rename_i hended
    rw [hended] at hends
    exact hraised _ _ hends
  · rename_i hended
    rw [hended] at hends
    exact hcrashed _ hends

/-- Two promises about one handler hold together. -/
theorem Meets.and {handler : Interruptible Error State Result} {other : State → Prop}
    {promised : Outcomes Error State Result} (hfirst : Meets pre handler post)
    (hsecond : Meets other handler promised) :
    Meets (fun state => pre state ∧ other state) handler
      ⟨fun result state => post.returned result state ∧ promised.returned result state,
        fun error state => post.raised error state ∧ promised.raised error state,
        fun state => post.crashed state ∧ promised.crashed state⟩ := by
  intro state hstate
  have hleft := hfirst state hstate.1
  have hright := hsecond state hstate.2
  cases hended : handler.perform state with
  | mk outcome after =>
      rw [hended] at hleft hright
      cases outcome with
      | ok result => exact ⟨hleft, hright⟩
      | error interruption => cases interruption <;> exact ⟨hleft, hright⟩

/-- A handler that neither raises nor crashes returns. -/
theorem Meets.returns {handler : Interruptible Error State Result}
    {returned : Result → State → Prop} {state : State}
    (hmeets : Meets pre handler ⟨returned, fun _ _ => False, fun _ => False⟩) (hpre : pre state) :
    ∃ result after, handler.perform state = (.ok result, after) ∧ returned result after := by
  have hends := hmeets state hpre
  cases hended : handler.perform state with
  | mk outcome after =>
      rw [hended] at hends
      cases outcome with
      | ok result => exact ⟨result, after, rfl, hends⟩
      | error interruption => cases interruption <;> cases hends

/-- What a handler keeps carries over to however it ends. -/
theorem Meets.of_keeps {relation : State → State → Prop} {handler : Interruptible Error State Result}
    {after : State → Prop} (hkeeps : Handler.Keeps relation handler)
    (hafter : ∀ first last, pre first → relation first last → after last) :
    Meets pre handler ⟨fun _ => after, fun _ => after, after⟩ := by
  intro state hstate
  have hlast := hafter state _ hstate (hkeeps state)
  cases hended : handler.perform state with
  | mk outcome last =>
      rw [hended] at hlast
      cases outcome with
      | ok result => exact hlast
      | error interruption => cases interruption <;> exact hlast

/-- The rule of sequence; what the first part raises the whole raises. -/
theorem Meets.bind {handler : Interruptible Error State Result}
    {next : Result → Interruptible Error State Other} {middle : Result → State → Prop}
    {final : Outcomes Error State Other}
    (hhandler : Meets pre handler ⟨middle, final.raised, final.crashed⟩)
    (hnext : ∀ result, Meets (middle result) (next result) final) :
    Meets pre (handler >>= next) final := by
  intro state hstate
  have hends := hhandler state hstate
  rw [Handler.perform_bind]
  cases hended : handler.perform state with
  | mk outcome after =>
      rw [hended] at hends
      cases outcome with
      | ok result => exact hnext result after hends
      | error interruption =>
          cases interruption with
          | raised error => exact hends
          | crashed => exact hends

theorem Meets.catching {body : Interruptible Error State Result}
    {rescue : Error → Interruptible Error State Result} {failed : Error → State → Prop}
    (hbody : Meets pre body ⟨post.returned, failed, post.crashed⟩)
    (hrescue : ∀ error, Meets (failed error) (rescue error) post) :
    Meets pre (Interruptible.catching body rescue) post := by
  intro state hstate
  have hends := hbody state hstate
  rw [perform_catching]
  cases hended : body.perform state with
  | mk outcome after =>
      rw [hended] at hends
      cases outcome with
      | ok result => exact hends
      | error interruption =>
          cases interruption with
          | raised error => exact hrescue error after hends
          | crashed => exact hends

/-- The rule of a cleanup, whose own failure replaces the error. -/
theorem Meets.onError {body : Interruptible Error State Result}
    {cleanup : Interruptible Error State Unit} {failed : Error → State → Prop}
    (hbody : Meets pre body ⟨post.returned, failed, post.crashed⟩)
    (hcleanup : ∀ error, Meets (failed error) cleanup
      ⟨fun _ => post.raised error, post.raised, post.crashed⟩) :
    Meets pre (Interruptible.onError body cleanup) post :=
  .catching hbody fun error => .bind (hcleanup error) fun _ => .raise fun _ hstate => hstate

theorem Meets.ignoring {body : Interruptible Error State Unit} {post : Outcomes Error State Unit}
    (hbody : Meets pre body ⟨post.returned, fun _ => post.returned (), post.crashed⟩) :
    Meets pre (Interruptible.ignoring body) post :=
  .catching hbody fun _ => .pure fun _ hstate => hstate

end Interruptible
