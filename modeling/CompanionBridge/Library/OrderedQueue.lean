import Mathlib.Data.List.Nodup
import Mathlib.Data.List.Basic

/-!
# Histories of an ordered queue with withdrawals

An ordered queue accepts items at its tail and begins them from its head;
between the two, items may be withdrawn by a predicate. The history of such a
queue determines what it begins: the accepted items, in acceptance order, less
those withdrawn while they were still pending.
-/

namespace OrderedQueue

universe u

/-- One observable event of an ordered queue. -/
inductive Event (Item : Type u) where
  | accept (item : Item)
  | begin (item : Item)
  | withdraw (gone : Item → Bool)

variable {Item : Type u}

/-- Items accepted by a history, in acceptance order. -/
def accepted (history : List (Event Item)) : List Item :=
  history.filterMap fun
    | .accept item => some item
    | _ => none

/-- Items begun by a history, in the order in which they were begun. -/
def begun (history : List (Event Item)) : List Item :=
  history.filterMap fun
    | .begin item => some item
    | _ => none

/-- The item was withdrawn by an event that found it accepted and not begun. -/
def Withdrawn (history : List (Event Item)) (item : Item) : Prop :=
  ∃ before gone after, history = before ++ .withdraw gone :: after ∧
    item ∈ accepted before ∧ item ∉ begun before ∧ gone item = true

/-- The histories an ordered queue can have, with what they leave pending. -/
inductive Valid : List (Event Item) → List Item → Prop where
  | nil : Valid [] []
  | accept {history pending} (item : Item) (h : Valid history pending) :
      Valid (history ++ [.accept item]) (pending ++ [item])
  | begin {history pending} (item : Item) (h : Valid history (item :: pending)) :
      Valid (history ++ [.begin item]) pending
  | withdraw {history pending} (gone : Item → Bool) (h : Valid history pending) :
      Valid (history ++ [.withdraw gone]) (pending.filter fun item => !gone item)

@[simp] theorem accepted_append (first second : List (Event Item)) :
    accepted (first ++ second) = accepted first ++ accepted second :=
  List.filterMap_append

@[simp] theorem begun_append (first second : List (Event Item)) :
    begun (first ++ second) = begun first ++ begun second :=
  List.filterMap_append

@[simp] theorem accepted_accept (item : Item) : accepted [.accept item] = [item] := rfl
@[simp] theorem accepted_begin (item : Item) : accepted [.begin item] = [] := rfl
@[simp] theorem accepted_withdraw (gone : Item → Bool) : accepted [.withdraw gone] = [] := rfl
@[simp] theorem begun_accept (item : Item) : begun [.accept item] = [] := rfl
@[simp] theorem begun_begin (item : Item) : begun [.begin item] = [item] := rfl
@[simp] theorem begun_withdraw (gone : Item → Bool) : begun [.withdraw gone] = [] := rfl

/-- What was accepted is an event of the history. -/
theorem mem_accepted {history : List (Event Item)} {item : Item} :
    item ∈ accepted history ↔ .accept item ∈ history := by
  simp only [accepted, List.mem_filterMap]
  constructor
  · rintro ⟨event, hevent, hitem⟩
    cases event with
    | accept other => simp only [Option.some.injEq] at hitem; exact hitem ▸ hevent
    | begin other => simp at hitem
    | withdraw gone => simp at hitem
  · intro hmem
    exact ⟨.accept item, hmem, rfl⟩

theorem mem_begun {history : List (Event Item)} {item : Item} :
    item ∈ begun history ↔ .begin item ∈ history := by
  simp only [begun, List.mem_filterMap]
  constructor
  · rintro ⟨event, hevent, hitem⟩
    cases event with
    | accept other => simp at hitem
    | begin other => simp only [Option.some.injEq] at hitem; exact hitem ▸ hevent
    | withdraw gone => simp at hitem
  · intro hmem
    exact ⟨.begin item, hmem, rfl⟩

/-- Extending a history by one event withdraws only what that event withdraws. -/
theorem withdrawn_snoc {history : List (Event Item)} {event : Event Item} {item : Item} :
    Withdrawn (history ++ [event]) item ↔
      Withdrawn history item ∨
        (∃ gone, event = .withdraw gone ∧ item ∈ accepted history ∧ item ∉ begun history ∧
          gone item = true) := by
  constructor
  · rintro ⟨before, gone, after, hsplit, hrest⟩
    rcases List.eq_nil_or_concat after with rfl | ⟨front, last, rfl⟩
    · obtain ⟨hhistory, hevent⟩ := List.append_inj' hsplit rfl
      simp only [List.cons.injEq, and_true] at hevent
      exact Or.inr ⟨gone, hevent, hhistory ▸ hrest⟩
    · rw [List.concat_eq_append, ← List.cons_append, ← List.append_assoc] at hsplit
      obtain ⟨hhistory, -⟩ := List.append_inj' hsplit rfl
      exact Or.inl ⟨before, gone, front, hhistory, hrest⟩
  · rintro (⟨before, gone, after, rfl, hrest⟩ | ⟨gone, rfl, hrest⟩)
    · exact ⟨before, gone, after ++ [event], by simp, hrest⟩
    · exact ⟨history, gone, [], rfl, hrest⟩

/-- A withdrawn item had been accepted. -/
theorem Withdrawn.mem_accepted {history : List (Event Item)} {item : Item}
    (h : Withdrawn history item) : item ∈ accepted history := by
  obtain ⟨before, gone, after, rfl, haccepted, -⟩ := h
  simp [haccepted]

namespace Valid

variable {history : List (Event Item)} {pending : List Item}

/-- Begun and pending items together keep the acceptance order. -/
theorem order (h : Valid history pending) :
    (begun history ++ pending).Sublist (accepted history) := by
  induction h with
  | nil => exact List.Sublist.refl _
  | accept item h ih => simpa [← List.append_assoc] using ih.append (List.Sublist.refl [item])
  | begin item h ih => simpa using ih
  | @withdraw history pending gone h ih =>
      have hfilter : (begun history ++ pending.filter fun item => !gone item).Sublist
          (begun history ++ pending) :=
        (List.Sublist.refl _).append List.filter_sublist
      simpa using hfilter.trans ih

/-- Items accepted once are begun or pending once. -/
theorem nodup (h : Valid history pending) (hnodup : (accepted history).Nodup) :
    (begun history ++ pending).Nodup :=
  h.order.nodup hnodup

/-- A queue from which nothing is withdrawn begins everything it accepts. -/
theorem begun_append_pending (h : Valid history pending)
    (hkept : ∀ gone, .withdraw gone ∉ history) : begun history ++ pending = accepted history := by
  induction h with
  | nil => rfl
  | accept item h ih =>
      have hbefore := ih fun gone hgone => hkept gone (List.mem_append_left _ hgone)
      simp [← hbefore]
  | begin item h ih =>
      have hbefore := ih fun gone hgone => hkept gone (List.mem_append_left _ hgone)
      simp [← hbefore]
  | withdraw gone h ih => exact absurd (by simp) (hkept gone)

open Classical in
/-- What an ordered queue has begun or still holds is exactly what it accepted,
in acceptance order, less what was withdrawn while pending. -/
theorem exact (h : Valid history pending) (hnodup : (accepted history).Nodup) :
    begun history ++ pending =
      (accepted history).filter fun item => decide (¬ Withdrawn history item) := by
  induction h with
  | nil => rfl
  | @accept history pending item h ih =>
      simp only [accepted_append, accepted_accept, List.nodup_append, List.mem_singleton] at hnodup
      have hfresh : item ∉ accepted history := fun hmem => hnodup.2.2 item hmem item rfl rfl
      have hkept : ¬ Withdrawn (history ++ [.accept item]) item := by
        rw [withdrawn_snoc]
        rintro (hwithdrawn | ⟨gone, hevent, -⟩)
        · exact hfresh hwithdrawn.mem_accepted
        · cases hevent
      have hsame : ∀ other, Withdrawn (history ++ [.accept item]) other ↔
          Withdrawn history other := by
        intro other
        simp [withdrawn_snoc]
      simp only [accepted_append, accepted_accept, begun_append, begun_accept, List.append_nil,
        List.filter_append, ← List.append_assoc]
      congr 1
      · simpa only [hsame] using ih hnodup.1
      · rw [List.filter_cons_of_pos (by simpa using hkept)]
        rfl
  | @begin history pending item h ih =>
      have hsame : ∀ other, Withdrawn (history ++ [.begin item]) other ↔
          Withdrawn history other := by
        intro other
        simp [withdrawn_snoc]
      simp only [accepted_append, accepted_begin, begun_append, begun_begin, List.append_nil,
        List.append_assoc, List.singleton_append] at hnodup ⊢
      simpa only [hsame] using ih hnodup
  | @withdraw history pending gone h ih =>
      simp only [accepted_append, accepted_withdraw, begun_append, begun_withdraw,
        List.append_nil] at hnodup ⊢
      have hdisjoint := List.nodup_append.mp (h.nodup hnodup)
      -- an item is kept if it began or the withdrawal spares it
      have hsplit : ∀ other ∈ accepted history,
          decide (¬ Withdrawn (history ++ [.withdraw gone]) other) =
            (decide (other ∈ begun history ∨ gone other = false) &&
              decide (¬ Withdrawn history other)) := by
        intro other hother
        rw [Bool.eq_iff_iff]
        simp only [withdrawn_snoc, decide_eq_true_eq, Bool.and_eq_true, not_or,
          Event.withdraw.injEq]
        constructor
        · rintro ⟨hkept, hevent⟩
          refine ⟨?_, hkept⟩
          by_contra hnot
          rw [not_or] at hnot
          exact hevent ⟨gone, rfl, hother, hnot.1, by simpa using hnot.2⟩
        · rintro ⟨hcase, hkept⟩
          refine ⟨hkept, ?_⟩
          rintro ⟨_, rfl, _, hnot, htrue⟩
          rcases hcase with hbegun | hgone
          · exact hnot hbegun
          · rw [hgone] at htrue
            exact absurd htrue (by decide)
      have hpending : ∀ other ∈ pending,
          decide (other ∈ begun history ∨ gone other = false) = !gone other := by
        intro other hother
        have hnot : other ∉ begun history := fun hmem => hdisjoint.2.2 other hmem other hother rfl
        simp [hnot]
      have hbegun : (begun history).filter
          (fun other => decide (other ∈ begun history ∨ gone other = false)) = begun history := by
        apply List.filter_eq_self.mpr
        intro other hother
        simp [hother]
      rw [List.filter_congr hsplit, ← List.filter_filter, ← ih hnodup, List.filter_append,
        hbegun, List.filter_congr hpending]

end Valid

end OrderedQueue
