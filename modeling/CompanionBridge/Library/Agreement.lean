import CompanionBridge.Library.Interruption

/-!
# Handlers that only look

A handler that only looks leaves the state as it is. Two of them agree on two states when
they look at the same things there: they end alike.
-/

namespace Interruptible

variable {Error State Result Other : Type} {first second : State}

theorem perform_bind_of_error {handler : Interruptible Error State Result}
    {next : Result → Interruptible Error State Other} {state after : State}
    {interruption : Interruption Error}
    (hperform : handler.perform state = (.error interruption, after)) :
    Handler.perform (handler >>= next) state = (.error interruption, after) := by
  rw [Handler.perform_bind, hperform]

/-- Each handler leaves its state as it is, and they end alike. -/
def Agrees (first second : State) (handler other : Interruptible Error State Result) : Prop :=
  ∃ outcome, handler.perform first = (outcome, first) ∧ other.perform second = (outcome, second)

namespace Agrees

variable {handler other : Interruptible Error State Result} {result : Result} {after : State}

/-- What one of them ends with, the other ends with. -/
theorem of_perform (h : Agrees first second handler other)
    {outcome : Except (Interruption Error) Result}
    (hperform : handler.perform first = (outcome, after)) :
    after = first ∧ other.perform second = (outcome, second) := by
  obtain ⟨found, hfirst, hsecond⟩ := h
  obtain ⟨rfl, rfl⟩ := Prod.mk.inj (hfirst.symm.trans hperform)
  exact ⟨rfl, hsecond⟩

theorem pure :
    Agrees first second (Pure.pure result : Interruptible Error State Result) (Pure.pure result) :=
  ⟨.ok result, rfl, rfl⟩

theorem raise {error : Error} :
    Agrees first second (Interruptible.raise error : Interruptible Error State Result)
      (Interruptible.raise error) :=
  ⟨.error (.raised error), rfl, rfl⟩

/-- Programs that agree on their first parts need only agree on what follows the same
result. -/
theorem bind {next following : Result → Interruptible Error State Other}
    (hhandler : Agrees first second handler other)
    (hnext : ∀ result, Agrees first second (next result) (following result)) :
    Agrees first second (handler >>= next) (other >>= following) := by
  obtain ⟨outcome, hfirst, hsecond⟩ := hhandler
  cases outcome with
  | ok result =>
      obtain ⟨last, hfirst', hsecond'⟩ := hnext result
      refine ⟨last, ?_, ?_⟩
      · rw [Handler.perform_bind_of_ok hfirst, hfirst']
      · rw [Handler.perform_bind_of_ok hsecond, hsecond']
  | error interruption =>
      refine ⟨.error interruption, ?_, ?_⟩
      · exact perform_bind_of_error hfirst
      · exact perform_bind_of_error hsecond

theorem map {change : Result → Other} (hhandler : Agrees first second handler other) :
    Agrees first second (change <$> handler) (change <$> other) := by
  rw [map_eq_pure_bind, map_eq_pure_bind]
  exact hhandler.bind fun _ => .pure

/-- And on the rescue of the same error. -/
theorem catching {rescue recover : Error → Interruptible Error State Result}
    (hhandler : Agrees first second handler other)
    (hrescue : ∀ error, Agrees first second (rescue error) (recover error)) :
    Agrees first second (Interruptible.catching handler rescue)
      (Interruptible.catching other recover) := by
  obtain ⟨outcome, hfirst, hsecond⟩ := hhandler
  cases outcome with
  | ok result =>
      refine ⟨.ok result, ?_, ?_⟩
      · rw [perform_catching, hfirst]
      · rw [perform_catching, hsecond]
  | error interruption =>
      cases interruption with
      | raised error =>
          obtain ⟨last, hfirst', hsecond'⟩ := hrescue error
          refine ⟨last, ?_, ?_⟩
          · rw [perform_catching, hfirst]
            exact hfirst'
          · rw [perform_catching, hsecond]
            exact hsecond'
      | crashed =>
          refine ⟨.error .crashed, ?_, ?_⟩
          · rw [perform_catching, hfirst]
          · rw [perform_catching, hsecond]

/-- A condition that both test, where each branch may use it. -/
theorem ite {condition : Prop} [Decidable condition]
    {alternative otherwise : Interruptible Error State Result}
    (hthen : condition → Agrees first second handler other)
    (helse : ¬ condition → Agrees first second alternative otherwise) :
    Agrees first second (if condition then handler else alternative)
      (if condition then other else otherwise) := by
  split_ifs with h
  · exact hthen h
  · exact helse h

end Agrees

end Interruptible
