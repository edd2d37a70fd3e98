import CompanionBridge.Library.History
import CompanionBridge.Protocol.PairFailures

/-!
# Failures that are not stored

A limiter that stores nothing while a window is full, beside one that stores
every failure. They decide alike as long as what was dropped would not fill a
window that has room again.
-/

namespace CompanionBridge

namespace PairFailureEvent

/-- Every failure of a history, whether a limiter stores it or not. -/
def recorded (events : List PairFailureEvent) : List (String × ℚ) :=
  events.flatMap fun event =>
    match event with
    | recordFailure source now => [(sourceKey source, now)]
    | check .. => []

end PairFailureEvent

/-- The failures in the window that ends now. -/
def recentFailures (failures : List (String × ℚ)) (now : ℚ) : List (String × ℚ) :=
  failures.filter fun failure => now - pairFailureWindowSeconds < failure.2

def ofSource (failures : List (String × ℚ)) (source : Option String) : List (String × ℚ) :=
  failures.filter fun failure => failure.1 = sourceKey source

/-- The decision of a limiter that has stored every failure. -/
def exactAllows (failures : List (String × ℚ)) (source : Option String) (now : ℚ) : Bool :=
  (recentFailures failures now).length < pairFailuresGlobal &&
    (ofSource (recentFailures failures now) source).length < pairFailuresPerSource

/-- The decisions of the exact limiter over a history. -/
def exactDecisions (failures : List (String × ℚ)) : List PairFailureEvent → List Bool
  | [] => []
  | .recordFailure source now :: rest =>
      exactDecisions (failures ++ [(sourceKey source, now)]) rest
  | .check source now :: rest => exactAllows failures source now :: exactDecisions failures rest

namespace PairFailureLimiter

/-- The decisions of the limiter over a history. -/
def decisions (limiter : PairFailureLimiter) : List PairFailureEvent → List Bool
  | [] => []
  | .recordFailure source now :: rest => (limiter.recordFailure source now).decisions rest
  | .check source now :: rest =>
      (limiter.check source now).2.allowed :: (limiter.check source now).1.decisions rest

/-- When both windows have room, the dropped failures still in them would not fill them. -/
def DroppedFit (limiter : PairFailureLimiter) (dropped : List (String × ℚ))
    (source : Option String) (now : ℚ) : Prop :=
  let pruned := limiter.prune now
  pruned.globalIsFull = false → pruned.sourceIsFull source = false →
    pruned.failures.all.length + (recentFailures dropped now).length < limiter.globalLimit ∧
      (pruned.failures.timesOf (sourceKey source)).length +
        (ofSource (recentFailures dropped now) source).length < limiter.perSourceLimit

variable {limiter : PairFailureLimiter} {stored dropped : List (String × ℚ)} {cutoff now : ℚ}
variable {source : Option String}

/-- The decisions of a history, cut anywhere. -/
theorem decisions_append (limiter : PairFailureLimiter) (early late : List PairFailureEvent) :
    limiter.decisions (early ++ late) =
      limiter.decisions early ++ (limiter.handleAll early).decisions late := by
  induction early generalizing limiter with
  | nil => rfl
  | cons event rest ih =>
      cases event with
      | recordFailure source now => exact ih (limiter.recordFailure source now)
      | check source now =>
          rw [List.cons_append, decisions, ih, decisions, List.cons_append]
          rfl

/-- The decisions of a limiter that drops nothing, cut at the same place. -/
theorem exactDecisions_append (failures : List (String × ℚ))
    (early late : List PairFailureEvent) :
    exactDecisions failures (early ++ late) =
      exactDecisions failures early ++
        exactDecisions (failures ++ PairFailureEvent.recorded early) late := by
  induction early generalizing failures with
  | nil =>
      rw [PairFailureEvent.recorded, List.flatMap_nil, List.append_nil]
      rfl
  | cons event rest ih =>
      cases event with
      | recordFailure source now =>
          rw [List.cons_append, exactDecisions, ih, exactDecisions, List.append_assoc]
          rfl
      | check source now =>
          rw [List.cons_append, exactDecisions, ih, exactDecisions, List.cons_append]
          rfl

/-! ## Every failure is stored or dropped -/

/-- What is recorded is noted by the source key and the time. -/
theorem recorded_eq (limiter : PairFailureLimiter) (events : List PairFailureEvent) :
    PairFailureEvent.recorded events =
      (limiter.notedFailures events).map fun failure => (failure.key, failure.time) := by
  induction events generalizing limiter with
  | nil => rfl
  | cons event rest ih =>
      have hrest := ih (limiter.handle event)
      unfold PairFailureEvent.recorded at hrest ⊢
      rw [List.flatMap_cons, notedFailures, List.map_append, hrest]
      cases event <;> rfl

/-- Of the failures with a property, some are stored and the others are not. -/
theorem recorded_length (limiter : PairFailureLimiter) (events : List PairFailureEvent)
    (property : String × ℚ → Bool) :
    ((PairFailureEvent.recorded events).filter property).length =
      ((limiter.failuresOf events true).filter property).length +
        ((limiter.failuresOf events false).filter property).length := by
  rw [recorded_eq limiter]
  unfold failuresOf
  induction limiter.notedFailures events with
  | nil => rfl
  | cons failure rest ih =>
      obtain ⟨key, time, isStored⟩ := failure
      rw [List.map_cons, List.filter_cons, apply_ite List.length, List.length_cons, ih]
      cases isStored with
      | false =>
          by_cases hproperty : property (key, time) = true
          · simp [hproperty, Nat.add_assoc]
          · simp [hproperty]
      | true =>
          by_cases hproperty : property (key, time) = true
          · simp [hproperty, Nat.add_right_comm]
          · simp [hproperty]

theorem ofSource_recentFailures (failures : List (String × ℚ)) (source : Option String)
    (now : ℚ) :
    ofSource (recentFailures failures now) source =
      failures.filter fun failure => decide (failure.1 = sourceKey source) &&
        decide (now - pairFailureWindowSeconds < failure.2) := by
  rw [ofSource, recentFailures, List.filter_filter]

/-! ## One check -/

/-- The global window counts the recent failures that were stored. -/
theorem Tracks.all_length (h : limiter.Tracks stored (now - 60)) :
    limiter.failures.all.length = (recentFailures stored now).length := by
  rw [h.holds.all, List.filter_map, List.length_map]
  rfl

theorem Tracks.timesOf_length (h : limiter.Tracks stored (now - 60)) :
    (limiter.failures.timesOf (sourceKey source)).length =
      (ofSource (recentFailures stored now) source).length := by
  rw [h.holds.timesOf, List.filter_map, List.length_map, List.filter_filter,
    ofSource_recentFailures]
  apply congrArg List.length
  apply List.filter_congr
  intro failure _
  exact Bool.and_comm _ _

/-- A check decides as the exact limiter does unless what was dropped would fill a window. -/
theorem Tracks.check_eq_exact (h : limiter.Tracks stored cutoff) (hnow : cutoff ≤ now - 60)
    {failures : List (String × ℚ)}
    (hlength : ∀ property : String × ℚ → Bool, (failures.filter property).length =
      (stored.filter property).length + (dropped.filter property).length) :
    (limiter.check source now).2.allowed = exactAllows failures source now ↔
      limiter.DroppedFit dropped source now := by
  have hpruned := h.prune hnow
  have hglobalLimit : limiter.globalLimit = pairFailuresGlobal := by rw [h.limits]
  have hsourceLimit : limiter.perSourceLimit = pairFailuresPerSource := by rw [h.limits]
  have hall := hpruned.all_length
  have hown := @Tracks.timesOf_length _ _ _ source hpruned
  -- the exact count is what the limiter stored and what it dropped
  have hexactAll : (recentFailures failures now).length =
      (limiter.prune now).failures.all.length + (recentFailures dropped now).length := by
    rw [hall]
    exact hlength _
  have hexactOwn : (ofSource (recentFailures failures now) source).length =
      ((limiter.prune now).failures.timesOf (sourceKey source)).length +
        (ofSource (recentFailures dropped now) source).length := by
    rw [hown, ofSource_recentFailures, ofSource_recentFailures, ofSource_recentFailures]
    exact hlength _
  have hallowed := @check_allowed limiter now source (by rw [hglobalLimit]; decide)
    (by rw [hsourceLimit]; decide)
  have hglobal : (limiter.prune now).globalIsFull = false ↔
      (limiter.prune now).failures.all.length < pairFailuresGlobal := by
    rw [← hglobalLimit, globalIsFull, decide_eq_false_iff_not, Nat.not_le]
    rfl
  have hsource : (limiter.prune now).sourceIsFull source = false ↔
      ((limiter.prune now).failures.timesOf (sourceKey source)).length <
        pairFailuresPerSource := by
    rw [← hsourceLimit, sourceIsFull, decide_eq_false_iff_not, Nat.not_le]
    rfl
  have hexact : exactAllows failures source now = true ↔
      (recentFailures failures now).length < pairFailuresGlobal ∧
        (ofSource (recentFailures failures now) source).length < pairFailuresPerSource := by
    simp [exactAllows]
  -- dropping failures can only make the limiter more lenient
  rw [Bool.eq_iff_iff, hallowed, hexact, hexactAll, hexactOwn]
  unfold DroppedFit
  rw [hglobalLimit, hsourceLimit]
  constructor
  · exact fun hsame hglobalRoom hsourceRoom => hsame.mp ⟨hglobalRoom, hsourceRoom⟩
  · intro hfit
    refine ⟨fun hroom => hfit hroom.1 hroom.2, fun hroom => ?_⟩
    rw [hglobal, hsource]
    exact ⟨Nat.lt_of_le_of_lt (Nat.le_add_right _ _) hroom.1,
      Nat.lt_of_le_of_lt (Nat.le_add_right _ _) hroom.2⟩

/-! ## A history -/

/-- What an event of a history finds: at a check, whether the dropped failures fit. -/
def FindsDroppedFit (before : List PairFailureEvent) : PairFailureEvent → Prop
  | .check source now =>
      (handleAll {} before).DroppedFit (failuresOf {} before false) source now
  | .recordFailure .. => True

/-- Dropping failures is neutral exactly when what was dropped fits at each check. -/
theorem dropping_neutral_iff {events : List PairFailureEvent}
    (hordered : PairFailureEvent.Ordered events) :
    ({} : PairFailureLimiter).decisions events = exactDecisions [] events ↔
      History.Always FindsDroppedFit events := by
  induction events using List.reverseRecOn with
  | nil => exact ⟨fun _ => History.always_nil, fun _ => rfl⟩
  | append_singleton events event ih =>
      unfold PairFailureEvent.Ordered at hordered
      rw [List.map_append, List.pairwise_append] at hordered
      have hnow : ∀ earlier ∈ events, earlier.now ≤ event.now := fun earlier hearlier =>
        hordered.2.2 _ (List.mem_map_of_mem hearlier) _ (List.mem_singleton_self _)
      rw [decisions_append, exactDecisions_append, List.nil_append, History.always_snoc,
        ← ih hordered.1]
      cases event with
      | recordFailure source now =>
          show ({} : PairFailureLimiter).decisions events ++ [] = exactDecisions [] events ++ [] ↔ _
          rw [List.append_nil, List.append_nil]
          exact (and_iff_left trivial).symm
      | check source now =>
          obtain ⟨cutoff, hcutoff, htracks⟩ := tracks_history hordered.1 hnow
          show _ ++ [((handleAll {} events).check source now).2.allowed] =
            _ ++ [exactAllows (PairFailureEvent.recorded events) source now] ↔ _
          have hcheck : ((handleAll {} events).check source now).2.allowed =
              exactAllows (PairFailureEvent.recorded events) source now ↔
                FindsDroppedFit events (.check source now) :=
            htracks.check_eq_exact hcutoff (recorded_length {} events)
          rw [List.append_singleton_inj]
          exact and_congr_right fun _ => hcheck

/-- Twenty failures of four sources, one a second, and one more while the window is full. -/
def crowdedFailures : List PairFailureEvent :=
  ((List.range 20).map fun second =>
    .recordFailure (some (toString (second % 4))) (second : ℚ)) ++ [.recordFailure (some "0") 30]

theorem dropping_neutral_crowded :
    ({} : PairFailureLimiter).decisions crowdedFailures = exactDecisions [] crowdedFailures ↔
      History.Always FindsDroppedFit crowdedFailures :=
  dropping_neutral_iff (by decide +kernel)

/-- A minute after the first failure the limiter has room; the exact one does not. -/
theorem dropping_neutral_fails :
    ¬ ∀ events, PairFailureEvent.Ordered events →
      ({} : PairFailureLimiter).decisions events = exactDecisions [] events := by
  intro hall
  have hsame := hall (crowdedFailures ++ [.check (some "phone") 60]) (by decide +kernel)
  exact absurd hsame (by decide +kernel)

end PairFailureLimiter

end CompanionBridge
