import CompanionBridge.Companion.DispatchRefinement
import Mathlib.Data.List.Pairwise

/-!
# The completions of the lane

A completion that is not resolved belongs to a command that is queued or in
flight. A call of a session either leaves such a command where it is or cancels
its completion; the worker resolves it when the dispatch ends. So nothing is
resolved twice, and nothing is left unresolved when the lane is quiet.
-/

namespace CompanionBridge

variable {Owner Check Handler : Type}

namespace CommandDispatchLane

variable {lane before middle after : CommandDispatchLane Owner Check Handler}

/-- The commands in flight and queued, oldest first. -/
def held (lane : CommandDispatchLane Owner Check Handler) : List (QueuedCommand Owner) :=
  lane.current.toList ++ lane.queue

/-- The completions some held command answers for. -/
def awaited (lane : CommandDispatchLane Owner Check Handler) : List Nat :=
  lane.held.filterMap QueuedCommand.completion

/-- A completion is awaited while the lane holds its item. -/
theorem mem_awaited {id : Nat} :
    id ∈ lane.awaited ↔ ∃ item ∈ lane.held, item.completion = some id :=
  List.mem_filterMap

/-- Commands with increasing completions are told apart by them. -/
theorem eq_of_completion {items : List (QueuedCommand Owner)}
    (hsorted : (items.filterMap QueuedCommand.completion).Pairwise (· < ·))
    {item other : QueuedCommand Owner} {id : Nat} (hitem : item ∈ items) (hother : other ∈ items)
    (hid : item.completion = some id) (hid' : other.completion = some id) : item = other := by
  rw [List.pairwise_filterMap] at hsorted
  by_contra hne
  have hapart : items.Pairwise fun first second =>
      ∀ id, first.completion = some id → second.completion ≠ some id := by
    refine hsorted.imp fun hlt id hfirst hsecond => ?_
    exact absurd (hlt id hfirst id hsecond) (lt_irrefl id)
  have hsymm : Std.Symm fun first second : QueuedCommand Owner =>
      ∀ id, first.completion = some id → second.completion ≠ some id :=
    ⟨fun first second hfirst id hsecond hid => hfirst id hid hsecond⟩
  exact hapart.forall hitem hother hne id hid hid'

/-! ## Resolving -/

/-- A completion is resolved at most once. -/
theorem resolveCompletion_resolved {completions : Nat → Completion} {id : Nat}
    (hresolved : completions id ≠ .pending) (state : Completion) (item : QueuedCommand Owner) :
    resolveCompletion completions state item id = completions id := by
  cases hcompletion : item.completion with
  | none => simp [resolveCompletion, hcompletion]
  | some other =>
      by_cases hpending : completions other = .pending
      · have hother : id ≠ other := by
          rintro rfl
          exact hresolved hpending
        simp [resolveCompletion, hcompletion, hpending, hother]
      · simp [resolveCompletion, hcompletion, hpending]

theorem resolveCompletion_own {completions : Nat → Completion} {id : Nat}
    (hpending : completions id = .pending) (state : Completion) {item : QueuedCommand Owner}
    (hitem : item.completion = some id) :
    resolveCompletion completions state item id = state := by
  simp [resolveCompletion, hitem, hpending]

theorem resolveCompletion_other (completions : Nat → Completion) {id : Nat} (state : Completion)
    {item : QueuedCommand Owner} (hitem : item.completion ≠ some id) :
    resolveCompletion completions state item id = completions id := by
  cases hcompletion : item.completion with
  | none => simp [resolveCompletion, hcompletion]
  | some other =>
      have hother : id ≠ other := by
        rintro rfl
        exact hitem hcompletion
      by_cases hpending : completions other = .pending
      · simp [resolveCompletion, hcompletion, hpending, hother]
      · simp [resolveCompletion, hcompletion, hpending]

/-- Cancelling the completions of some items. -/
def cancelAll (completions : Nat → Completion) :
    List (QueuedCommand Owner) → Nat → Completion
  | [] => completions
  | item :: rest => cancelAll (resolveCompletion completions .cancelled item) rest

/-- The loop of the source that cancels a list of items. -/
theorem foldl_eq_cancelAll (completions : Nat → Completion) (items : List (QueuedCommand Owner)) :
    items.foldl (fun completions => resolveCompletion completions .cancelled) completions =
      cancelAll completions items := by
  induction items generalizing completions with
  | nil => rfl
  | cons item rest ih => exact ih _

/-- Cancelling two lists is cancelling their concatenation. -/
theorem cancelAll_append (completions : Nat → Completion)
    (first second : List (QueuedCommand Owner)) :
    cancelAll completions (first ++ second) = cancelAll (cancelAll completions first) second := by
  induction first generalizing completions with
  | nil => rfl
  | cons item rest ih => exact ih _

theorem cancelAll_resolved {completions : Nat → Completion} {id : Nat}
    (hresolved : completions id ≠ .pending) (items : List (QueuedCommand Owner)) :
    cancelAll completions items id = completions id := by
  induction items generalizing completions with
  | nil => rfl
  | cons item rest ih =>
      have hsame := resolveCompletion_resolved hresolved .cancelled item
      rw [cancelAll, ih (hsame ▸ hresolved), hsame]

/-- Items that do not carry a completion leave it alone. -/
theorem cancelAll_other {completions : Nat → Completion} {id : Nat}
    {items : List (QueuedCommand Owner)} (hitems : ∀ item ∈ items, item.completion ≠ some id) :
    cancelAll completions items id = completions id := by
  induction items generalizing completions with
  | nil => rfl
  | cons first rest ih =>
      rw [List.forall_mem_cons] at hitems
      rw [cancelAll, ih hitems.2, resolveCompletion_other completions .cancelled hitems.1]

theorem cancelAll_own {completions : Nat → Completion} {id : Nat}
    (hpending : completions id = .pending) {items : List (QueuedCommand Owner)}
    {item : QueuedCommand Owner} (hmem : item ∈ items) (hitem : item.completion = some id) :
    cancelAll completions items id = .cancelled := by
  induction items generalizing completions with
  | nil => exact absurd hmem (by simp)
  | cons first rest ih =>
      rw [cancelAll]
      by_cases hfirst : first.completion = some id
      · have hcancelled := resolveCompletion_own hpending .cancelled hfirst
        rw [cancelAll_resolved (by simp [hcancelled]), hcancelled]
      · have hsame := resolveCompletion_other completions .cancelled hfirst
        apply ih (hsame.trans hpending)
        rcases List.mem_cons.mp hmem with rfl | hrest
        · exact absurd hitem hfirst
        · exact hrest

/-- Cancelling leaves a completion as it was or cancels it. -/
theorem cancelAll_cases (completions : Nat → Completion) (items : List (QueuedCommand Owner))
    (id : Nat) : cancelAll completions items id = completions id ∨
      completions id = .pending ∧ cancelAll completions items id = .cancelled := by
  by_cases hpending : completions id = .pending
  · by_cases hitems : ∃ item ∈ items, item.completion = some id
    · obtain ⟨item, hmem, hitem⟩ := hitems
      exact Or.inr ⟨hpending, cancelAll_own hpending hmem hitem⟩
    · push Not at hitems
      exact Or.inl (cancelAll_other hitems)
  · exact Or.inl (cancelAll_resolved hpending items)

theorem markCancelled_completion (predicate : QueuedCommand Owner → Bool)
    (item : QueuedCommand Owner) :
    (markCancelled predicate item).completion = item.completion := by
  unfold markCancelled
  split <;> rfl

/-- Withdrawing commands only takes from what is awaited. -/
theorem awaited_purged {predicate : QueuedCommand Owner → Bool}
    (hqueue : after.queue = before.queue.filter fun item => !predicate item)
    (hcurrent : after.current = before.current.map (markCancelled predicate)) :
    after.awaited.Sublist before.awaited := by
  simp only [awaited, held, hqueue, hcurrent, List.filterMap_append]
  apply List.Sublist.append
  · cases before.current with
    | none => exact List.Sublist.refl _
    | some item =>
        rw [Option.map_some, Option.toList_some, Option.toList_some,
          List.filterMap_cons, List.filterMap_cons, markCancelled_completion]
  · exact List.filter_sublist.filterMap _

/-- What ending the commands that satisfy a predicate leaves of the completions. -/
theorem purge_completions (lane : CommandDispatchLane Owner Check Handler) (caller : Caller)
    (predicate : QueuedCommand Owner → Bool) :
    ((lane.discardQueued predicate).cancelCurrent caller predicate).completions =
      cancelAll lane.completions
        (lane.queue.filter predicate ++ (lane.current.filter predicate).toList) := by
  rw [cancelAll_append]
  cases hcurrent : lane.current.filter predicate with
  | none => simp [cancelCurrent, discardQueued, hcurrent, foldl_eq_cancelAll, cancelAll]
  | some item => simp [cancelCurrent, discardQueued, hcurrent, foldl_eq_cancelAll, cancelAll]

/-- What a predicate purges is what the lane holds of it, queued or in flight. -/
theorem mem_purged {predicate : QueuedCommand Owner → Bool} {item : QueuedCommand Owner} :
    item ∈ lane.queue.filter predicate ++ (lane.current.filter predicate).toList ↔
      item ∈ lane.held ∧ predicate item = true := by
  rw [List.mem_append, List.mem_filter, Option.mem_toList, Option.filter_eq_some_iff,
    ← or_and_right, held, List.mem_append, Option.mem_toList, or_comm]

/-! ## The invariant -/

variable [DecidableEq Owner]

/-- The completions of the accepted commands, in acceptance order. -/
def promised (log : List (LaneEvent Owner)) : List Nat :=
  (acceptedItems log).filterMap QueuedCommand.completion

@[simp] theorem promised_append (earlier later : List (LaneEvent Owner)) :
    promised (earlier ++ later) = promised earlier ++ promised later := by
  simp only [promised, acceptedItems_append, List.filterMap_append]

/-- Completions are handed out once and in order, and whoever holds an
unresolved one is still held itself. -/
structure CompletionInvariant (lane : CommandDispatchLane Owner Check Handler) : Prop where
  awaited : lane.awaited.Sublist (promised lane.log)
  increasing : (promised lane.log).Pairwise (· < ·)
  issued : ∀ id ∈ promised lane.log, id < lane.nextCompletion
  /-- Before it is handed out, nobody but its own task can have cancelled a completion. -/
  unissued : ∀ id, lane.nextCompletion ≤ id →
    lane.completions id = .pending ∨ lane.completions id = .cancelled
  owned : ∀ id, id < lane.nextCompletion → lane.completions id = .pending → id ∈ lane.awaited
  closed : lane.stopping = true → ∀ id, id < lane.nextCompletion →
    lane.completions id ≠ .pending
  interrupted : ∀ item id, lane.current = some item → item.cancelled = true →
    item.completion = some id → lane.completions id ≠ .pending

/-- A held item carries a completion that has been issued. -/
theorem CompletionInvariant.lt_next (h : lane.CompletionInvariant) {item : QueuedCommand Owner}
    {id : Nat} (hitem : item ∈ lane.held) (hid : item.completion = some id) :
    id < lane.nextCompletion :=
  h.issued id (h.awaited.mem (mem_awaited.mpr ⟨item, hitem, hid⟩))

/-- A completion identifies the held command it belongs to. -/
theorem CompletionInvariant.held_unique (h : lane.CompletionInvariant)
    {item other : QueuedCommand Owner} {id : Nat} (hitem : item ∈ lane.held)
    (hother : other ∈ lane.held) (hid : item.completion = some id)
    (hid' : other.completion = some id) : item = other :=
  eq_of_completion (h.increasing.sublist h.awaited) hitem hother hid hid'

/-- What an operation that ends no dispatch does: it appends to the record, it
leaves every resolved completion alone, and it cancels an unresolved one of a
held command exactly when it withdraws the command. -/
structure Advances (before : CommandDispatchLane Owner Check Handler)
    (events : List (LaneEvent Owner)) (after : CommandDispatchLane Owner Check Handler) :
    Prop where
  invariant : after.CompletionInvariant
  log : after.log = before.log ++ events
  once : ∀ id, before.completions id ≠ .pending → after.completions id = before.completions id
  unresolved : ∀ id, before.completions id = .pending →
    after.completions id = .pending ∨ after.completions id = .cancelled
  carried : ∀ item ∈ before.held, ∀ id, item.completion = some id →
    before.completions id = .pending →
    (after.completions id = .pending ∧ item ∈ after.held ∧
      ∀ event ∈ events, event.withdraws item = false) ∨
    (after.completions id = .cancelled ∧ ∃ event ∈ events, event.withdraws item = true)

namespace Advances

theorem refl (h : lane.CompletionInvariant) : lane.Advances [] lane where
  invariant := h
  log := (List.append_nil _).symm
  once := fun _ _ => rfl
  unresolved := fun _ hpending => Or.inl hpending
  carried := fun _ hitem _ _ hpending => Or.inl ⟨hpending, hitem, by simp⟩

/-- Advances compose, their events in order. -/
theorem trans {earlier later : List (LaneEvent Owner)} (hfirst : before.Advances earlier middle)
    (hsecond : middle.Advances later after) : before.Advances (earlier ++ later) after where
  invariant := hsecond.invariant
  log := by rw [hsecond.log, hfirst.log, List.append_assoc]
  once := by
    intro id hresolved
    have hsame := hfirst.once id hresolved
    rw [← hsame]
    exact hsecond.once id (hsame ▸ hresolved)
  unresolved := by
    intro id hpending
    rcases hfirst.unresolved id hpending with hmiddle | hmiddle
    · exact hsecond.unresolved id hmiddle
    · have hsame := hsecond.once id (by simp [hmiddle])
      exact Or.inr (hsame.trans hmiddle)
  carried := by
    intro item hitem id hid hpending
    rcases hfirst.carried item hitem id hid hpending with
      ⟨hmiddle, hheld, hspared⟩ | ⟨hmiddle, event, hevent, hwithdrawn⟩
    · rcases hsecond.carried item hheld id hid hmiddle with
        ⟨hafter, hkept, hspared'⟩ | ⟨hafter, event, hevent, hwithdrawn⟩
      · refine Or.inl ⟨hafter, hkept, fun event hevent => ?_⟩
        rcases List.mem_append.mp hevent with hearlier | hlater
        · exact hspared event hearlier
        · exact hspared' event hlater
      · exact Or.inr ⟨hafter, event, List.mem_append_right _ hevent, hwithdrawn⟩
    · have hsame := hsecond.once id (by simp [hmiddle])
      exact Or.inr ⟨hsame.trans hmiddle, event, List.mem_append_left _ hevent, hwithdrawn⟩

end Advances

/-! ## Operations that end no dispatch -/

/-- An operation that leaves the completions, and the commands that have one, as they are. -/
theorem CompletionInvariant.moved (h : before.CompletionInvariant)
    {events : List (LaneEvent Owner)} (hlog : after.log = before.log ++ events)
    (hevents : promised events = [])
    (hspared : ∀ event ∈ events, ∀ item id, item.completion = some id →
      event.withdraws item = false)
    (hawaited : after.awaited = before.awaited)
    (hheld : ∀ item ∈ before.held, ∀ id, item.completion = some id → item ∈ after.held)
    (hcompletions : after.completions = before.completions)
    (hnext : after.nextCompletion = before.nextCompletion)
    (hstopping : after.stopping = before.stopping)
    (hcurrent : ∀ item, after.current = some item → item.cancelled = true →
      before.current = some item) : before.Advances events after where
  invariant := by
    have hpromised : promised after.log = promised before.log := by
      rw [hlog, promised_append, hevents, List.append_nil]
    refine ⟨?_, ?_, ?_, ?_, ?_, ?_, ?_⟩
    · rw [hawaited, hpromised]
      exact h.awaited
    · rw [hpromised]
      exact h.increasing
    · rw [hpromised, hnext]
      exact h.issued
    · rw [hnext, hcompletions]
      exact h.unissued
    · rw [hnext, hcompletions, hawaited]
      exact h.owned
    · rw [hnext, hcompletions, hstopping]
      exact h.closed
    · intro item id hitem hcancelled
      rw [hcompletions]
      exact h.interrupted item id (hcurrent item hitem hcancelled) hcancelled
  log := hlog
  once := fun id _ => congrFun hcompletions id
  unresolved := fun id hpending => Or.inl ((congrFun hcompletions id).trans hpending)
  carried := by
    intro item hitem id hid hpending
    refine Or.inl ⟨(congrFun hcompletions id).trans hpending, hheld item hitem id hid, ?_⟩
    exact fun event hevent => hspared event hevent item id hid

/-- A dispatch whose completion is resolved leaves the worker. -/
theorem CompletionInvariant.landed (h : before.CompletionInvariant)
    (hresolved : ∀ item id, before.current = some item → item.completion = some id →
      id < before.nextCompletion → before.completions id ≠ .pending)
    (hlog : after.log = before.log) (hqueue : after.queue = before.queue)
    (hcurrent : after.current = none) (hcompletions : after.completions = before.completions)
    (hnext : after.nextCompletion = before.nextCompletion)
    (hstopping : after.stopping = before.stopping) : before.Advances [] after := by
  have hheld : after.held = before.queue := by
    rw [CommandDispatchLane.held, hcurrent, hqueue, Option.toList_none, List.nil_append]
  have hshrunk : after.awaited.Sublist before.awaited := by
    rw [CommandDispatchLane.awaited, hheld, CommandDispatchLane.awaited,
      CommandDispatchLane.held]
    exact (List.sublist_append_right _ _).filterMap _
  -- the item in flight is resolved; the queued ones are still there
  have hkept : ∀ item ∈ before.held, ∀ id, item.completion = some id →
      before.completions id = .pending → item ∈ after.held := by
    intro item hitem id hid hpending
    rw [hheld]
    rcases List.mem_append.mp hitem with hflight | hqueued
    · have hflown := Option.mem_toList.mp hflight
      exact absurd hpending (hresolved item id hflown hid (h.lt_next hitem hid))
    · exact hqueued
  refine ⟨⟨?_, ?_, ?_, ?_, ?_, ?_, ?_⟩, by simp [hlog], ?_, ?_, ?_⟩
  · rw [hlog]
    exact hshrunk.trans h.awaited
  · rw [hlog]
    exact h.increasing
  · rw [hlog, hnext]
    exact h.issued
  · rw [hnext, hcompletions]
    exact h.unissued
  · intro id hissued hpending
    rw [hnext] at hissued
    rw [hcompletions] at hpending
    obtain ⟨item, hitem, hid⟩ := mem_awaited.mp (h.owned id hissued hpending)
    exact mem_awaited.mpr ⟨item, hkept item hitem id hid hpending, hid⟩
  · rw [hnext, hcompletions, hstopping]
    exact h.closed
  · intro item id hitem
    rw [hcurrent] at hitem
    exact absurd hitem (by simp)
  · exact fun id _ => congrFun hcompletions id
  · exact fun id hpending => Or.inl ((congrFun hcompletions id).trans hpending)
  · intro item hitem id hid hpending
    refine Or.inl ⟨(congrFun hcompletions id).trans hpending, ?_, by simp⟩
    exact hkept item hitem id hid hpending

/-- Withdrawing the held commands that satisfy a predicate cancels their completions. -/
theorem CompletionInvariant.purged (h : before.CompletionInvariant)
    {predicate : QueuedCommand Owner → Bool} {event : LaneEvent Owner}
    {items : List (QueuedCommand Owner)} (hevent : promised [event] = [])
    (hwithdraws : ∀ item, event.withdraws item = predicate item)
    (hitems : ∀ item, item ∈ items ↔ item ∈ before.held ∧ predicate item = true)
    (hlog : after.log = before.log ++ [event])
    (hqueue : after.queue = before.queue.filter fun item => !predicate item)
    (hcurrent : after.current = before.current.map (markCancelled predicate))
    (hcompletions : after.completions = cancelAll before.completions items)
    (hnext : after.nextCompletion = before.nextCompletion)
    (hstopping : after.stopping = true → before.stopping = true ∨ ∀ item, predicate item = true) :
    before.Advances [event] after := by
  have honce : ∀ id, before.completions id ≠ .pending →
      after.completions id = before.completions id := by
    intro id hresolved
    rw [hcompletions, cancelAll_resolved hresolved]
  have hpromised : promised after.log = promised before.log := by
    rw [hlog, promised_append, hevent, List.append_nil]
  -- what is held either keeps its pending completion or is cancelled with its item
  have hcarried : ∀ item ∈ before.held, ∀ id, item.completion = some id →
      before.completions id = .pending →
      (after.completions id = .pending ∧ item ∈ after.held ∧ predicate item = false) ∨
      (after.completions id = .cancelled ∧ predicate item = true) := by
    intro item hitem id hid hpending
    cases hmatch : predicate item with
    | true =>
        refine Or.inr ⟨?_, rfl⟩
        rw [hcompletions]
        exact cancelAll_own hpending ((hitems item).mpr ⟨hitem, hmatch⟩) hid
    | false =>
        have hspared : after.completions id = .pending := by
          rw [hcompletions, cancelAll_other ?_]
          · exact hpending
          · intro other hother hid'
            obtain ⟨hheld, hmatch'⟩ := (hitems other).mp hother
            rw [h.held_unique hheld hitem hid' hid, hmatch] at hmatch'
            exact absurd hmatch' Bool.false_ne_true
        refine Or.inl ⟨hspared, ?_, rfl⟩
        rw [CommandDispatchLane.held, hqueue, hcurrent]
        rcases List.mem_append.mp hitem with hflight | hqueued
        · rw [Option.mem_toList.mp hflight]
          simp [markCancelled, hmatch]
        · exact List.mem_append_right _ (List.mem_filter.mpr ⟨hqueued, by simp [hmatch]⟩)
  have hpendingBefore : ∀ id, after.completions id = .pending →
      before.completions id = .pending := by
    intro id hpending
    by_contra hresolved
    exact hresolved ((honce id hresolved).symm.trans hpending)
  -- a completion that is still pending belongs to an item that was spared
  have howned : ∀ id, id < before.nextCompletion → after.completions id = .pending →
      ∃ item ∈ after.held, item.completion = some id ∧ predicate item = false := by
    intro id hissued hpending
    have hpending' := hpendingBefore id hpending
    obtain ⟨item, hitem, hid⟩ := mem_awaited.mp (h.owned id hissued hpending')
    rcases hcarried item hitem id hid hpending' with ⟨-, hheld, hspared⟩ | ⟨hcancelled, -⟩
    · exact ⟨item, hheld, hid, hspared⟩
    · rw [hcancelled] at hpending
      exact absurd hpending (by simp)
  refine ⟨⟨?_, ?_, ?_, ?_, ?_, ?_, ?_⟩, hlog, honce, ?_, ?_⟩
  · rw [hpromised]
    exact (awaited_purged hqueue hcurrent).trans h.awaited
  · rw [hpromised]
    exact h.increasing
  · rw [hpromised, hnext]
    exact h.issued
  · intro id hunissued
    rw [hnext] at hunissued
    rw [hcompletions]
    rcases cancelAll_cases before.completions items id with hsame | ⟨-, hcancelled⟩
    · rw [hsame]
      exact h.unissued id hunissued
    · exact Or.inr hcancelled
  · intro id hissued hpending
    obtain ⟨item, hitem, hid, -⟩ := howned id (hnext ▸ hissued) hpending
    exact mem_awaited.mpr ⟨item, hitem, hid⟩
  · intro hclosed id hissued hpending
    obtain ⟨item, -, -, hspared⟩ := howned id (hnext ▸ hissued) hpending
    rcases hstopping hclosed with hbefore | hall
    · exact h.closed hbefore id (hnext ▸ hissued) (hpendingBefore id hpending)
    · rw [hall item] at hspared
      exact absurd hspared (by simp)
  · intro item id hitem hcancelled hid hpending
    rw [hcurrent] at hitem
    obtain ⟨flown, hflown, rfl⟩ := Option.map_eq_some_iff.mp hitem
    rw [markCancelled_completion] at hid
    have hheld : flown ∈ before.held :=
      List.mem_append_left _ (Option.mem_toList.mpr hflown)
    have hpending' := hpendingBefore id hpending
    rcases markCancelled_eq_or predicate flown with ⟨hmatch, -⟩ | ⟨-, hsame⟩
    · rcases hcarried flown hheld id hid hpending' with ⟨-, -, hspared⟩ | ⟨hresolved, -⟩
      · rw [hmatch] at hspared
        exact absurd hspared (by simp)
      · rw [hresolved] at hpending
        exact absurd hpending (by simp)
    · rw [hsame] at hcancelled
      exact h.interrupted flown id hflown hcancelled hid hpending'
  · intro id hpending
    rw [hcompletions]
    rcases cancelAll_cases before.completions items id with hsame | ⟨-, hcancelled⟩
    · exact Or.inl (hsame.trans hpending)
    · exact Or.inr hcancelled
  · intro item hitem id hid hpending
    rcases hcarried item hitem id hid hpending with
      ⟨hspared, hheld, hmatch⟩ | ⟨hcancelled, hmatch⟩
    · refine Or.inl ⟨hspared, hheld, ?_⟩
      simp [hwithdraws, hmatch]
    · refine Or.inr ⟨hcancelled, event, by simp, ?_⟩
      rw [hwithdraws, hmatch]

/-- The end of an owner cancels the completions of all its held items. -/
theorem CompletionInvariant.deactivateOwner (h : lane.CompletionInvariant) (caller : Caller)
    (owner : Owner) (cause : OwnerEnd) :
    lane.Advances [.ownerEnded owner cause] (lane.deactivateOwner caller owner cause) :=
  h.purged rfl (fun _ => rfl) (fun _ => mem_purged) rfl rfl rfl
    (purge_completions
      { lane with owners := fun other => if other = owner then none else lane.owners other }
      caller _)
    rfl Or.inl

/-- The end of a generation cancels those of its held items. -/
theorem CompletionInvariant.cancelGeneration (h : lane.CompletionInvariant) (caller : Caller)
    (owner : Owner) (generation : Nat) :
    lane.Advances [.generationEnded owner generation]
      (lane.cancelGeneration caller owner generation) :=
  h.purged rfl (fun _ => rfl) (fun _ => mem_purged) rfl rfl rfl
    (lane.purge_completions caller _) rfl Or.inl

/-- Closing cancels every pending completion, unless the lane was closed before. -/
theorem CompletionInvariant.close (h : lane.CompletionInvariant) :
    ∃ events, lane.Advances events lane.close := by
  unfold CommandDispatchLane.close
  split
  · exact ⟨[], .refl h⟩
  · refine ⟨[.closed], h.purged rfl (fun _ => rfl) (fun _ => mem_purged) rfl rfl rfl ?_ rfl
      fun _ => Or.inr fun _ => rfl⟩
    exact purge_completions { lane with stopping := true, owners := fun _ => none } .worker _

/-! ## Calls of the sessions -/

/-- A fresh completion whose command is not accepted is cancelled at once. -/
theorem CompletionInvariant.refused (h : lane.CompletionInvariant) :
    lane.Advances []
      { lane with
        nextCompletion := lane.nextCompletion + 1
        completions := fun other =>
          if other = lane.nextCompletion then .cancelled else lane.completions other } := by
  -- a refused submission has its own completion cancelled at once
  have hother : ∀ {id}, id ≠ lane.nextCompletion →
      (if id = lane.nextCompletion then Completion.cancelled else lane.completions id) =
        lane.completions id := fun hne => if_neg hne
  refine ⟨⟨h.awaited, h.increasing, ?_, ?_, ?_, ?_, ?_⟩, by simp, ?_, ?_, ?_⟩
  · exact fun id hid => Nat.lt_succ_of_lt (h.issued id hid)
  · intro id hunissued
    dsimp only at hunissued ⊢
    rw [hother (by omega)]
    exact h.unissued id (by omega)
  · intro id hissued hpending
    dsimp only at hissued hpending
    by_cases hid : id = lane.nextCompletion
    · rw [if_pos hid] at hpending
      exact absurd hpending (by simp)
    · rw [hother hid] at hpending
      exact h.owned id (by omega) hpending
  · intro hclosed id hissued
    dsimp only at hissued ⊢
    by_cases hid : id = lane.nextCompletion
    · simp [hid]
    · rw [hother hid]
      exact h.closed hclosed id (by omega)
  · intro item id hitem hcancelled hid
    have hissued : id < lane.nextCompletion :=
      h.lt_next (List.mem_append_left _ (Option.mem_toList.mpr hitem)) hid
    dsimp only
    rw [hother (by omega)]
    exact h.interrupted item id hitem hcancelled hid
  · intro id hresolved
    dsimp only
    by_cases hid : id = lane.nextCompletion
    · rw [if_pos hid]
      rcases h.unissued id (by omega) with hpending | hcancelled
      · exact absurd hpending hresolved
      · exact hcancelled.symm
    · exact hother hid
  · intro id hpending
    dsimp only
    by_cases hid : id = lane.nextCompletion
    · exact Or.inr (if_pos hid)
    · exact Or.inl ((hother hid).trans hpending)
  · intro item hitem id hid hpending
    have hissued := h.lt_next hitem hid
    exact Or.inl ⟨(hother (by omega)).trans hpending, hitem, by simp⟩

/-- A command that enters the queue with a fresh completion. -/
theorem CompletionInvariant.issue (h : before.CompletionInvariant) {item : QueuedCommand Owner}
    (hopen : before.stopping = false)
    (hitem : item.completion = some before.nextCompletion)
    (hlog : after.log = before.log ++ [.accepted item])
    (hqueue : after.queue = before.queue ++ [item]) (hcurrent : after.current = before.current)
    (hcompletions : after.completions = before.completions)
    (hnext : after.nextCompletion = before.nextCompletion + 1)
    (hstopping : after.stopping = before.stopping) :
    before.Advances [.accepted item] after := by
  have hpromised : promised after.log = promised before.log ++ [before.nextCompletion] := by
    have hlast : promised [LaneEvent.accepted item] = [before.nextCompletion] := by
      simp [promised, acceptedItems, queueHistory, LaneEvent.queueEvent, hitem]
    rw [hlog, promised_append, hlast]
  have hheld : after.held = before.held ++ [item] := by
    rw [CommandDispatchLane.held, hqueue, hcurrent, CommandDispatchLane.held, List.append_assoc]
  -- the new completion is promised last, as its item is queued last
  have hawaited : after.awaited = before.awaited ++ [before.nextCompletion] := by
    rw [CommandDispatchLane.awaited, hheld, List.filterMap_append, CommandDispatchLane.awaited]
    simp [hitem]
  refine ⟨⟨?_, ?_, ?_, ?_, ?_, ?_, ?_⟩, hlog, ?_, ?_, ?_⟩
  · rw [hawaited, hpromised]
    exact h.awaited.append (List.Sublist.refl _)
  · rw [hpromised, List.pairwise_append]
    refine ⟨h.increasing, List.pairwise_singleton _ _, ?_⟩
    intro id hid fresh hfresh
    rw [List.mem_singleton.mp hfresh]
    exact h.issued id hid
  · rw [hpromised, hnext]
    intro id hid
    rcases List.mem_append.mp hid with hearlier | hlast
    · exact Nat.lt_succ_of_lt (h.issued id hearlier)
    · rw [List.mem_singleton.mp hlast]
      exact Nat.lt_succ_self _
  · rw [hnext, hcompletions]
    exact fun id hunissued => h.unissued id (Nat.le_of_succ_le hunissued)
  · rw [hnext, hcompletions, hawaited]
    intro id hissued hpending
    rw [List.mem_append, List.mem_singleton]
    rcases Nat.lt_succ_iff_lt_or_eq.mp hissued with hearlier | hlast
    · exact Or.inl (h.owned id hearlier hpending)
    · exact Or.inr hlast
  · intro hclosed
    rw [hstopping, hopen] at hclosed
    exact absurd hclosed Bool.false_ne_true
  · rw [hcurrent, hcompletions]
    exact h.interrupted
  · exact fun id _ => congrFun hcompletions id
  · exact fun id hpending => Or.inl ((congrFun hcompletions id).trans hpending)
  · intro other hother id _ hpending
    refine Or.inl ⟨(congrFun hcompletions id).trans hpending, ?_, ?_⟩
    · rw [hheld]
      exact List.mem_append_left _ hother
    · simp [LaneEvent.withdraws]

/-- A command that nobody awaits enters the queue, or replaces the tail text. -/
theorem CompletionInvariant.place (h : lane.CompletionInvariant) (owner : Owner)
    (command : Command) (holdGeneration : Option Nat) :
    ∃ events, lane.Advances events (lane.place owner command holdGeneration none).lane := by
  rcases lane.place_cases owner command holdGeneration none with
    ⟨front, tail, replaced, hqueue, hcoalesces, -, -, -, hreply⟩ | ⟨-, hreply⟩ |
    ⟨item, -, hitem, hreply⟩
  -- only a tail that nobody waits for is replaced
  · have htail : tail.completion = none := hcoalesces.2.2.2.1
    have hreplaced : replaced.completion = none := hcoalesces.2.2.2.2
    rw [hreply]
    refine ⟨_, h.moved rfl ?_ ?_ ?_ ?_ rfl rfl rfl fun _ hcurrent _ => hcurrent⟩
    · simp [promised, acceptedItems, queueHistory, LaneEvent.queueEvent, hreplaced,
        OrderedQueue.accepted]
    · intro event hevent item id hid
      rw [List.mem_cons, List.mem_singleton] at hevent
      rcases hevent with rfl | rfl
      · have hne : item ≠ tail := by
          rintro rfl
          rw [htail] at hid
          exact absurd hid (by simp)
        simp [LaneEvent.withdraws, hne]
      · rfl
    · simp [CommandDispatchLane.awaited, held, hqueue, htail, hreplaced]
    · intro item hheld _ hid
      have hne : item ≠ tail := by
        rintro rfl
        rw [htail] at hid
        exact absurd hid (by simp)
      simp only [held, hqueue, List.mem_append, List.mem_singleton, hne, or_false] at hheld ⊢
      exact hheld.imp_right Or.inl
  · exact ⟨[], hreply ▸ .refl h⟩
  · have hnone : item.completion = none := by rw [hitem]
    rw [hreply]
    refine ⟨_, h.moved rfl ?_ ?_ ?_ ?_ rfl rfl rfl fun _ hcurrent _ => hcurrent⟩
    · simp [promised, acceptedItems, queueHistory, LaneEvent.queueEvent, hnone]
    · simp [LaneEvent.withdraws]
    · simp [CommandDispatchLane.awaited, held, hnone]
    · intro other hheld _ _
      rw [held, ← List.append_assoc]
      exact List.mem_append_left _ hheld

theorem CompletionInvariant.submit (h : lane.CompletionInvariant) (evaluate : Check → Option Bool)
    (caller : Caller) (owner : Owner) (command : Command) :
    ∃ events, lane.Advances events (lane.submit evaluate caller owner command).lane := by
  rcases lane.enqueue_cases evaluate caller owner command none none with
    hreply | ⟨registration, check, -, -, -, hreply⟩ | ⟨-, -, hreply⟩
  · exact ⟨[], by rw [CommandDispatchLane.submit, hreply]; exact .refl h⟩
  · exact ⟨_, by
      rw [CommandDispatchLane.submit, hreply]
      exact h.deactivateOwner caller owner .unauthorized⟩
  · rw [CommandDispatchLane.submit, hreply]
    exact h.place owner command none

/-- `submit_and_wait` issues one, which is cancelled at once if the item is refused. -/
theorem CompletionInvariant.submitAndWait (h : lane.CompletionInvariant)
    (evaluate : Check → Option Bool) (caller : Caller) (owner : Owner) (command : Command)
    (holdGeneration : Nat) :
    ∃ events, lane.Advances events
      (lane.submitAndWait evaluate caller owner command holdGeneration).lane := by
  let created := { lane with nextCompletion := lane.nextCompletion + 1 }
  unfold CommandDispatchLane.submitAndWait
  rcases created.enqueue_cases evaluate caller owner command (some holdGeneration)
      (some lane.nextCompletion) with
    hreply | ⟨registration, check, -, -, -, hreply⟩ | ⟨hopen, -, hreply⟩
  · dsimp only
    rw [hreply]
    exact ⟨[], h.refused⟩
  · dsimp only
    rw [hreply]
    have hended := h.deactivateOwner caller owner .unauthorized
    exact ⟨_, hended.trans hended.invariant.refused⟩
  · rcases created.place_cases owner command (some holdGeneration) (some lane.nextCompletion) with
      ⟨front, tail, replaced, -, -, -, -, hnone, -⟩ | ⟨-, hplace⟩ | ⟨item, -, hitem, hplace⟩
    · exact absurd hnone (by simp)
    · dsimp only
      rw [hreply, hplace]
      exact ⟨[], h.refused⟩
    · dsimp only
      rw [hreply, hplace]
      have hid : item.completion = some lane.nextCompletion := by rw [hitem]
      exact ⟨_, h.issue hopen hid rfl rfl rfl rfl rfl rfl⟩

/-- Each call advances the lane by the events it writes. -/
theorem CompletionInvariant.perform (h : lane.CompletionInvariant) (caller : Caller)
    (call : LaneCall Owner Check Handler) :
    ∃ events, lane.Advances events (lane.perform caller call).lane := by
  cases call with
  | activate owner registration =>
      cases hactivate : lane.activate owner registration with
      | none =>
          simp only [CommandDispatchLane.perform, hactivate, Option.getD_none]
          exact ⟨[], .refl h⟩
      | some next =>
          obtain ⟨task, -, rfl⟩ := activate_eq_some hactivate
          simp only [CommandDispatchLane.perform, hactivate, Option.getD_some]
          exact ⟨[], h.moved (by simp) rfl (by simp) rfl (fun _ hheld _ _ => hheld) rfl rfl rfl
            fun _ hcurrent _ => hcurrent⟩
  | submit evaluate owner command => exact h.submit evaluate caller owner command
  | submitAndWait evaluate owner command holdGeneration =>
      exact h.submitAndWait evaluate caller owner command holdGeneration
  | cancelOwner owner => exact ⟨_, h.deactivateOwner caller owner .cancelled⟩
  | cancelGeneration owner holdGeneration =>
      exact ⟨_, h.cancelGeneration caller owner holdGeneration⟩

theorem CompletionInvariant.performAll (h : lane.CompletionInvariant) (caller : Caller)
    (calls : List (LaneCall Owner Check Handler)) :
    ∃ events, lane.Advances events (lane.performAll caller calls) := by
  induction calls generalizing lane with
  | nil => exact ⟨[], .refl h⟩
  | cons call rest ih =>
      obtain ⟨earlier, hfirst⟩ := h.perform caller call
      obtain ⟨later, hrest⟩ := ih hfirst.invariant
      exact ⟨earlier ++ later, hfirst.trans hrest⟩

/-- An operation and the callback it leaves. -/
theorem Advances.runHandler {reply : LaneReply Owner Check Handler}
    {events : List (LaneEvent Owner)} (h : lane.Advances events reply.lane) (caller : Caller)
    (callback : List (LaneCall Owner Check Handler)) :
    ∃ events, lane.Advances events (runHandler reply caller callback) := by
  unfold CommandDispatchLane.runHandler
  split
  · obtain ⟨later, hcallback⟩ := h.invariant.performAll caller callback
    exact ⟨events ++ later, h.trans hcallback⟩
  · exact ⟨events, h⟩

end CommandDispatchLane

end CompanionBridge
