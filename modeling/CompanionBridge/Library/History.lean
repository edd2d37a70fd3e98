import Mathlib.Data.List.Induction

/-!
# Properties of a history

A history is the list of events so far. A property of it often says, of each
event, what came before: `Always` is that form, and it is enough to look at the
events a step adds.
-/

namespace History

universe uEvent

variable {Event : Type uEvent} {property : List Event → Event → Prop} {log : List Event}

/-- Every event of a history has the property with respect to what came before it. -/
def Always (property : List Event → Event → Prop) (log : List Event) : Prop :=
  ∀ before event after, log = before ++ event :: after → property before event

theorem always_nil : Always property [] := by
  intro before event after hsplit
  exact absurd hsplit.symm (List.append_ne_nil_of_right_ne_nil before (List.cons_ne_nil event after))

theorem Always.left {early late : List Event} (h : Always property (early ++ late)) :
    Always property early := by
  intro before event after hsplit
  refine h before event (after ++ late) ?_
  rw [hsplit, List.append_assoc, List.cons_append]

/-- And holds of the last event. -/
theorem Always.last {event : Event} (h : Always property (log ++ [event])) :
    property log event :=
  h log event [] rfl

/-- One more event only has to have the property itself. -/
theorem Always.snoc {event : Event} (h : Always property log) (hevent : property log event) :
    Always property (log ++ [event]) := by
  intro before held after hsplit
  rcases List.eq_nil_or_concat after with rfl | ⟨rest, last, rfl⟩
  · obtain ⟨rfl, hheld⟩ := List.append_inj' hsplit rfl
    obtain rfl := List.singleton_inj.mp hheld
    exact hevent
  · rw [List.concat_eq_append, ← List.cons_append, ← List.append_assoc] at hsplit
    exact h before held rest (List.append_inj' hsplit rfl).1

/-- Events that have the property wherever they come keep it. -/
theorem Always.append {events : List Event} (h : Always property log)
    (hevents : ∀ early event late, events = early ++ event :: late →
      property (log ++ early) event) : Always property (log ++ events) := by
  induction events using List.reverseRecOn with
  | nil =>
      rw [List.append_nil]
      exact h
  | append_singleton events last ih =>
      rw [← List.append_assoc]
      refine (ih fun early event late hsplit => ?_).snoc (hevents events last [] rfl)
      refine hevents early event (late ++ [last]) ?_
      rw [hsplit, List.append_assoc, List.cons_append]

/-- An induction on the history looks at its last event. -/
theorem always_snoc {event : Event} :
    Always property (log ++ [event]) ↔ Always property log ∧ property log event :=
  ⟨fun h => ⟨h.left, h.last⟩, fun h => h.1.snoc h.2⟩

end History
