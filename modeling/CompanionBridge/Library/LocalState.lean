import CompanionBridge.Library.Interruption

/-!
# Parts of a state, and local variables

A handler of a part of a state is one of the whole state, which leaves the rest
alone. Local variables are such a rest: a `try` makes them, its body assigns
them, and its `except` finds them as the body left them.
-/

/-- A part of a state that can be replaced on its own. -/
structure StatePart (Whole Part : Type) where
  view : Whole → Part
  put : Part → Whole → Whole
  view_put : ∀ part whole, view (put part whole) = part
  put_put : ∀ first second whole, put first (put second whole) = put first whole
  put_view : ∀ whole, put (view whole) whole = whole

namespace StatePart

variable {Whole Part Error Result Other : Type}

/-- The state beside the local variables. -/
def outer (State Locals : Type) : StatePart (State × Locals) State where
  view := Prod.fst
  put state whole := (state, whole.2)
  view_put _ _ := rfl
  put_put _ _ _ := rfl
  put_view _ := rfl

/-- A part of a part. -/
def within {Inner : Type} (whole : StatePart Whole Part) (part : StatePart Part Inner) :
    StatePart Whole Inner where
  view state := part.view (whole.view state)
  put inner state := whole.put (part.put inner (whole.view state)) state
  view_put inner state := by rw [whole.view_put, part.view_put]
  put_put first second state := by rw [whole.view_put, part.put_put, whole.put_put]
  put_view state := by rw [part.put_view, whole.put_view]

/-- A handler of the part, run on the whole. -/
def lift (part : StatePart Whole Part) (handler : Interruptible Error Part Result) :
    Interruptible Error Whole Result := fun whole =>
  ((handler.perform (part.view whole)).1, part.put (handler.perform (part.view whole)).2 whole)

/-- A lifted program runs on its part and leaves the rest. -/
theorem perform_lift (part : StatePart Whole Part) (handler : Interruptible Error Part Result)
    (whole : Whole) :
    (part.lift handler).perform whole =
      ((handler.perform (part.view whole)).1,
        part.put (handler.perform (part.view whole)).2 whole) := rfl

variable (part : StatePart Whole Part)

theorem lift_pure (result : Result) :
    part.lift (pure result : Interruptible Error Part Result) = pure result := by
  funext whole
  exact Prod.ext rfl (part.put_view whole)

theorem lift_raise (error : Error) :
    part.lift (Interruptible.raise error : Interruptible Error Part Result) =
      Interruptible.raise error := by
  funext whole
  exact Prod.ext rfl (part.put_view whole)

theorem lift_bind (handler : Interruptible Error Part Result)
    (next : Result → Interruptible Error Part Other) :
    part.lift (handler >>= next) = part.lift handler >>= fun result => part.lift (next result) := by
  funext whole
  change (part.lift (handler >>= next)).perform whole =
    (part.lift handler >>= fun result => part.lift (next result)).perform whole
  rw [Handler.perform_bind, perform_lift, perform_lift, Handler.perform_bind]
  cases handler.perform (part.view whole) with
  | mk outcome after =>
      cases outcome with
      | ok result =>
          dsimp only
          rw [perform_lift, part.view_put, part.put_put]
      | error interruption => rfl

theorem lift_catching (body : Interruptible Error Part Result)
    (rescue : Error → Interruptible Error Part Result) :
    part.lift (Interruptible.catching body rescue) =
      Interruptible.catching (part.lift body) fun error => part.lift (rescue error) := by
  funext whole
  change (part.lift (Interruptible.catching body rescue)).perform whole =
    (Interruptible.catching (part.lift body) fun error => part.lift (rescue error)).perform whole
  rw [Interruptible.perform_catching, perform_lift, perform_lift, Interruptible.perform_catching]
  cases body.perform (part.view whole) with
  | mk outcome after =>
      cases outcome with
      | ok result => rfl
      | error interruption =>
          cases interruption with
          | raised error =>
              dsimp only
              rw [perform_lift, part.view_put, part.put_put]
          | crashed => rfl

theorem lift_ite (condition : Prop) [Decidable condition]
    (yes no : Interruptible Error Part Result) :
    part.lift (if condition then yes else no) = if condition then part.lift yes else part.lift no :=
  apply_ite part.lift condition yes no

end StatePart

namespace Interruptible

variable {Error State Locals Result : Type}

/-- A `try` with local variables, which its `except` finds as the body left them. -/
def withLocals (initial : Locals) (body : Interruptible Error (State × Locals) Result)
    (rescue : Error → Locals → Interruptible Error State Result) :
    Interruptible Error State Result := fun state =>
  match body.perform (state, initial) with
  | (.ok result, after) => (.ok result, after.1)
  | (.error (.raised error), after) => (rescue error after.2).perform after.1
  | (.error .crashed, after) => (.error .crashed, after.1)

theorem perform_withLocals (initial : Locals) (body : Interruptible Error (State × Locals) Result)
    (rescue : Error → Locals → Interruptible Error State Result) (state : State) :
    (withLocals initial body rescue).perform state =
      match body.perform (state, initial) with
      | (.ok result, after) => (.ok result, after.1)
      | (.error (.raised error), after) => (rescue error after.2).perform after.1
      | (.error .crashed, after) => (.error .crashed, after.1) := rfl

variable {pre : State → Prop} {post : Outcomes Error State Result}

/-- The rule of local variables, which the rescue still sees. -/
theorem Meets.withLocals {initial : Locals} {body : Interruptible Error (State × Locals) Result}
    {rescue : Error → Locals → Interruptible Error State Result}
    {failed : Error → State × Locals → Prop}
    (hbody : Meets (fun whole => pre whole.1 ∧ whole.2 = initial) body
      ⟨fun result whole => post.returned result whole.1, failed, fun whole => post.crashed whole.1⟩)
    (hrescue : ∀ error locals, Meets (fun state => failed error (state, locals))
      (rescue error locals) post) :
    Meets pre (Interruptible.withLocals initial body rescue) post := by
  intro state hstate
  have hends := hbody (state, initial) ⟨hstate, rfl⟩
  rw [perform_withLocals]
  cases hended : body.perform (state, initial) with
  | mk outcome after =>
      rw [hended] at hends
      cases outcome with
      | ok result => exact hends
      | error interruption =>
          cases interruption with
          | raised error => exact hrescue error after.2 after.1 hends
          | crashed => exact hends

/-- What a handler of the outer state guarantees, for the local variables as they are. -/
theorem Meets.outer {whole : State × Locals → Prop} {handler : Interruptible Error State Result}
    {ends : Outcomes Error (State × Locals) Result}
    (hmeets : ∀ locals, Meets (fun state => whole (state, locals)) handler
      ⟨fun result state => ends.returned result (state, locals),
        fun error state => ends.raised error (state, locals),
        fun state => ends.crashed (state, locals)⟩) :
    Meets whole ((StatePart.outer State Locals).lift handler) ends := by
  rintro ⟨state, locals⟩ hstate
  have hends := hmeets locals state hstate
  rw [StatePart.perform_lift]
  cases hended : handler.perform state with
  | mk outcome after =>
      dsimp only [StatePart.outer]
      rw [hended] at hends ⊢
      cases outcome with
      | ok result => exact hends
      | error interruption =>
          cases interruption with
          | raised error => exact hends
          | crashed => exact hends

/-- A handler of a part leaves the rest of the state alone. -/
theorem Meets.lift {Whole Part : Type} {part : StatePart Whole Part}
    {handler : Interruptible Error Part Result} {frame : Whole → Prop}
    (hframe : ∀ inner whole, frame whole → frame (part.put inner whole)) :
    Meets frame (part.lift handler) ⟨fun _ => frame, fun _ => frame, frame⟩ := by
  intro whole hwhole
  rw [StatePart.perform_lift]
  have hafter := hframe (handler.perform (part.view whole)).2 whole hwhole
  cases (handler.perform (part.view whole)).1 with
  | ok result => exact hafter
  | error interruption =>
      cases interruption with
      | raised error => exact hafter
      | crashed => exact hafter

end Interruptible
