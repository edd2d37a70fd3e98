import CompanionBridge.Library.LocalState

/-!
# Handlers that follow another

A handler follows another one, its guide, over an abstraction of the state: it
returns where the guide returns, raises where the guide raises, and leaves what
the guide leaves. Their results are related. What the handler does besides is
not seen in the abstraction.
-/

namespace Interruptible

variable {Error Fault State Abstract Result Other Next Following Locals : Type}

/-- How a handler and its guide end: both return, with related results, or both
raise, whatever they raise. -/
inductive Alike (abstraction : State → Abstract) (related : Result → Other → State → Prop) :
    Except (Interruption Error) Result × State → Except (Interruption Fault) Other × Abstract → Prop
  | returned {result : Result} {other : Other} {after : State}
      (hrelated : related result other after) :
      Alike abstraction related (.ok result, after) (.ok other, abstraction after)
  | raised {error : Interruption Error} {fault : Interruption Fault} {after : State} :
      Alike abstraction related (.error error, after) (.error fault, abstraction after)

namespace Alike

variable {abstraction : State → Abstract} {related : Result → Other → State → Prop}
variable {ended : Except (Interruption Error) Result × State} {left : Abstract}

/-- Where the guide returns, its follower does, with a related result. -/
theorem of_ok {other : Other}
    (halike : Alike abstraction related ended
      ((.ok other, left) : Except (Interruption Fault) Other × Abstract)) :
    ∃ result after, ended = (.ok result, after) ∧ related result other after ∧
      abstraction after = left := by
  cases halike with
  | returned hrelated => exact ⟨_, _, rfl, hrelated, rfl⟩

theorem of_error {fault : Interruption Fault}
    (halike : Alike abstraction related ended (.error fault, left)) :
    ∃ error after, ended = (.error error, after) ∧ abstraction after = left := by
  cases halike with
  | raised => exact ⟨_, _, rfl, rfl⟩

end Alike

/-- The handler follows the guide from the states of `pre`. -/
def Follows (pre : State → Prop) (abstraction : State → Abstract)
    (handler : Interruptible Error State Result) (guide : Interruptible Fault Abstract Other)
    (related : Result → Other → State → Prop) : Prop :=
  ∀ state, pre state →
    Alike abstraction related (handler.perform state) (guide.perform (abstraction state))

/-- The handler changes nothing that the abstraction shows. -/
def Unseen (abstraction : State → Abstract) (handler : Interruptible Error State Result) : Prop :=
  ∀ state, abstraction (handler.perform state).2 = abstraction state

namespace Follows

variable {pre : State → Prop} {abstraction : State → Abstract}
variable {handler : Interruptible Error State Result} {guide : Interruptible Fault Abstract Other}
variable {related : Result → Other → State → Prop}

theorem pure {result : Result} {other : Other}
    (hrelated : ∀ state, pre state → related result other state) :
    Follows pre abstraction (Pure.pure result : Interruptible Error State Result)
      (Pure.pure other : Interruptible Fault Abstract Other) related :=
  fun state hstate => .returned (hrelated state hstate)

theorem refl (handler : Interruptible Error State Result) :
    Follows pre id handler handler fun result other _ => result = other := by
  intro state _
  dsimp only [id]
  cases handler.perform state with
  | mk outcome after =>
      cases outcome with
      | ok result => exact .returned rfl
      | error interruption => exact .raised

theorem raise {error : Error} {fault : Fault} :
    Follows pre abstraction (Interruptible.raise error) (Interruptible.raise fault) related :=
  fun _ _ => .raised

theorem weaken {stronger : State → Prop} {weaker : Result → Other → State → Prop}
    (hfollows : Follows pre abstraction handler guide related)
    (hpre : ∀ state, stronger state → pre state)
    (hrelated : ∀ result other state, related result other state → weaker result other state) :
    Follows stronger abstraction handler guide weaker := by
  intro state hstate
  have hends := hfollows state (hpre state hstate)
  generalize handler.perform state = ended at hends ⊢
  generalize guide.perform (abstraction state) = verdict at hends ⊢
  cases hends with
  | returned hresult => exact .returned (hrelated _ _ _ hresult)
  | raised => exact .raised

/-- What is known where the handler starts may be used to choose its guide. -/
theorem knowing {fact : Prop} (hfact : ∀ state, pre state → fact)
    (hfollows : fact → Follows pre abstraction handler guide related) :
    Follows pre abstraction handler guide related :=
  fun state hstate => hfollows (hfact state hstate) state hstate

/-- A fact that does not depend on the state may be assumed. -/
theorem of_fact {fact : Prop}
    (hfollows : fact → Follows (fun _ => True) abstraction handler guide related) :
    Follows (fun _ => fact) abstraction handler guide related :=
  fun state hfact => hfollows hfact state trivial

/-- Where the handler returns, the guide has returned from a state of `pre`. -/
theorem ran (hfollows : Follows pre abstraction handler guide related) :
    Follows pre abstraction handler guide fun result other after =>
      related result other after ∧ ∃ state, pre state ∧
        guide.perform (abstraction state) = (.ok other, abstraction after) := by
  intro state hstate
  have hends := hfollows state hstate
  generalize handler.perform state = ended at hends ⊢
  generalize hguide : guide.perform (abstraction state) = verdict at hends ⊢
  cases hends with
  | returned hresult => exact .returned ⟨hresult, state, hstate, hguide⟩
  | raised => exact .raised

/-- The rule of sequence: what follows starts from related results. -/
theorem bind {next : Result → Interruptible Error State Next}
    {following : Other → Interruptible Fault Abstract Following}
    {final : Next → Following → State → Prop}
    (hfirst : Follows pre abstraction handler guide related)
    (hnext : ∀ result other, Follows (related result other) abstraction (next result)
      (following other) final) :
    Follows pre abstraction (handler >>= next) (guide >>= following) final := by
  intro state hstate
  have hends := hfirst state hstate
  rw [Handler.perform_bind, Handler.perform_bind]
  generalize handler.perform state = ended at hends ⊢
  generalize guide.perform (abstraction state) = verdict at hends ⊢
  cases hends with
  | returned hresult => exact hnext _ _ _ hresult
  | raised => exact .raised

/-- A first step that always returns, and is not seen. -/
theorem after {first : Interruptible Error State Next}
    {rest : Next → Interruptible Error State Result} {between : Next → State → Prop}
    (hfirst : ∀ state, pre state → ∃ result after, first.perform state = (.ok result, after) ∧
      between result after ∧ abstraction after = abstraction state)
    (hrest : ∀ result, Follows (between result) abstraction (rest result) guide related) :
    Follows pre abstraction (first >>= rest) guide related := by
  intro state hstate
  obtain ⟨result, middle, hperform, hbetween, hsame⟩ := hfirst state hstate
  have hends := hrest result middle hbetween
  rw [hsame] at hends
  rw [Handler.perform_bind_of_ok hperform]
  exact hends

/-- A first step that always returns the same, and is not seen. -/
theorem after_value {first : Interruptible Error State Next} {value : Next}
    {rest : Next → Interruptible Error State Result} {between : State → Prop}
    (hfirst : ∀ state, pre state → ∃ after, first.perform state = (.ok value, after) ∧
      between after ∧ abstraction after = abstraction state)
    (hrest : Follows between abstraction (rest value) guide related) :
    Follows pre abstraction (first >>= rest) guide related := by
  intro state hstate
  obtain ⟨middle, hperform, hbetween, hsame⟩ := hfirst state hstate
  have hends := hrest middle hbetween
  rw [hsame] at hends
  rw [Handler.perform_bind_of_ok hperform]
  exact hends

/-- A handler that always returns, and is not seen, follows one that does nothing. -/
theorem of_unseen {other : Other}
    (hhandler : ∀ state, pre state → ∃ result after, handler.perform state = (.ok result, after) ∧
      related result other after ∧ abstraction after = abstraction state) :
    Follows pre abstraction handler (Pure.pure other : Interruptible Fault Abstract Other)
      related := by
  intro state hstate
  obtain ⟨result, left, hperform, hresult, hsame⟩ := hhandler state hstate
  rw [hperform, Handler.perform_pure, ← hsame]
  exact .returned hresult

/-- A last step that always returns, and is not seen. -/
theorem before {last : Result → Interruptible Error State Next}
    {final : Next → Other → State → Prop}
    (hfirst : Follows pre abstraction handler guide related)
    (hlast : ∀ result other state, related result other state → ∃ next after,
      (last result).perform state = (.ok next, after) ∧ final next other after ∧
        abstraction after = abstraction state) :
    Follows pre abstraction (handler >>= last) guide final := by
  rw [← bind_pure guide]
  exact hfirst.bind fun result other => of_unseen (hlast result other)

/-- A check may be left out that holds wherever the rest of the checks do. -/
theorem implied {check rest : Interruptible Error State Unit} (hcheck : Handler.Keeps Eq check)
    (hrest : Handler.Keeps Eq rest)
    (himplied : ∀ state, rest.perform state = (.ok (), state) →
      check.perform state = (.ok (), state)) :
    Follows pre id rest (check >>= fun _ => rest) fun _ _ _ => True := by
  intro state _
  have hsame := hcheck state
  have hrestSame := hrest state
  dsimp only [id]
  rw [Handler.perform_bind]
  cases hchecked : check.perform state with
  | mk verdict middle =>
      rw [hchecked] at hsame
      obtain rfl : state = middle := hsame
      cases hended : rest.perform state with
      | mk outcome after =>
          rw [hended] at hrestSame
          obtain rfl : state = after := hrestSame
          cases outcome with
          | ok _ =>
              cases hchecked.symm.trans (himplied state hended)
              dsimp only
              rw [hended]
              exact .returned trivial
          | error _ =>
              cases verdict with
              | ok _ =>
                  dsimp only
                  rw [hended]
                  exact .raised
              | error _ => exact .raised

/-- A cleanup after an error that is not seen. -/
theorem onError {cleanup : Interruptible Error State Unit}
    (hbody : Follows pre abstraction handler guide related)
    (hcleanup : Unseen abstraction cleanup) :
    Follows pre abstraction (Interruptible.onError handler cleanup) guide related := by
  intro state hstate
  have hends := hbody state hstate
  unfold Interruptible.onError
  rw [perform_catching]
  generalize handler.perform state = ended at hends ⊢
  generalize guide.perform (abstraction state) = verdict at hends ⊢
  cases hends with
  | returned hresult => exact .returned hresult
  | @raised interruption fault left =>
      cases interruption with
      | crashed => exact .raised
      | raised error =>
          dsimp only
          rw [Handler.perform_bind, ← hcleanup left]
          cases cleanup.perform left with
          | mk cleaned clean =>
              cases cleaned with
              | ok _ => exact .raised
              | error _ => exact .raised

/-- A handler of the outer state, the local variables being what they are. -/
theorem outer {whole : State × Locals → Prop} {shown : Result → Other → State × Locals → Prop}
    (hfollows : ∀ locals, Follows (fun state => whole (state, locals)) abstraction handler guide
      fun result other state => shown result other (state, locals)) :
    Follows whole (fun pair => abstraction pair.1) ((StatePart.outer State Locals).lift handler)
      guide shown := by
  rintro ⟨state, locals⟩ hstate
  have hends := hfollows locals state hstate
  rw [StatePart.perform_lift]
  dsimp only [StatePart.outer]
  generalize handler.perform state = ended at hends ⊢
  generalize guide.perform (abstraction state) = verdict at hends ⊢
  cases hends with
  | @returned result other left hresult =>
      exact @Alike.returned Error Fault (State × Locals) Abstract Result Other
        (fun pair => abstraction pair.1) shown result other (left, locals) hresult
  | @raised interruption fault left =>
      exact @Alike.raised Error Fault (State × Locals) Abstract Result Other
        (fun pair => abstraction pair.1) shown interruption fault (left, locals)

/-- A `try` with local variables whose `except` is not seen and raises. -/
theorem withLocals {initial : Locals} {body : Interruptible Error (State × Locals) Result}
    {rescue : Error → Locals → Interruptible Error State Result}
    (hbody : Follows (fun whole => pre whole.1 ∧ whole.2 = initial)
      (fun whole => abstraction whole.1) body guide
      fun result other whole => related result other whole.1)
    (hunseen : ∀ error locals, Unseen abstraction (rescue error locals))
    (hraises : ∀ error locals state, Handler.isRaised ((rescue error locals).perform state).1) :
    Follows pre abstraction (Interruptible.withLocals initial body rescue) guide related := by
  intro state hstate
  have hends := hbody (state, initial) ⟨hstate, rfl⟩
  rw [perform_withLocals]
  dsimp only at hends
  generalize body.perform (state, initial) = ended at hends ⊢
  generalize guide.perform (abstraction state) = verdict at hends ⊢
  cases hends with
  | returned hresult => exact .returned hresult
  | @raised interruption fault left =>
      cases interruption with
      | crashed => exact .raised
      | raised error =>
          have hraised := hraises error left.2 left.1
          dsimp only
          rw [← hunseen error left.2 left.1]
          generalize (rescue error left.2).perform left.1 = rescued at hraised ⊢
          obtain ⟨outcome, clean⟩ := rescued
          cases outcome with
          | ok _ => cases hraised
          | error _ => exact .raised

/-- On a part of the state, a handler follows what it follows there alone. -/
theorem lift {part : StatePart State Abstract} {inner : Interruptible Error Abstract Result}
    {shown : Result → Other → Abstract → Prop}
    (hinner : Follows (fun _ => True) id inner guide shown)
    (hframe : ∀ left state, pre state → pre (part.put left state)) :
    Follows pre part.view (part.lift inner) guide fun result other state =>
      shown result other (part.view state) ∧ pre state := by
  intro state hstate
  have hends := hinner (part.view state) trivial
  rw [StatePart.perform_lift]
  have hview := part.view_put (inner.perform (part.view state)).2 state
  have hafter := hframe (inner.perform (part.view state)).2 state hstate
  dsimp only [id] at hends
  generalize inner.perform (part.view state) = ended at hends hview hafter ⊢
  generalize guide.perform (part.view state) = verdict at hends ⊢
  cases hends with
  | @returned result other left hresult =>
      dsimp only [id] at hview hafter ⊢
      have hboth : shown result other (part.view (part.put left state)) ∧
          pre (part.put left state) := ⟨by rwa [hview], hafter⟩
      have halike := @Alike.returned Error Fault State Abstract Result Other part.view
        (fun result other state => shown result other (part.view state) ∧ pre state)
        result other (part.put left state) hboth
      rwa [hview] at halike
  | @raised interruption fault left =>
      dsimp only [id] at hview ⊢
      have halike := @Alike.raised Error Fault State Abstract Result Other part.view
        (fun result other state => shown result other (part.view state) ∧ pre state)
        interruption fault (part.put left state)
      rwa [hview] at halike

end Follows

end Interruptible
