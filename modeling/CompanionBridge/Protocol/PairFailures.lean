import CompanionBridge.Protocol.Guardrails
import Mathlib.Tactic.Linarith

/-!
# Failed pairings over time

Histories of failures and checks. A failure that finds a window full is not
stored; `notedFailures` keeps all of them, with whether they were stored.
-/

namespace CompanionBridge

inductive PairFailureEvent where
  | recordFailure (source : Option String) (now : ℚ)
  | check (source : Option String) (now : ℚ)
  deriving DecidableEq

/-- A failure of a source, and whether the limiter stored it. -/
structure NotedFailure where
  key : String
  time : ℚ
  stored : Bool
  deriving DecidableEq

namespace PairFailureEvent

def now : PairFailureEvent → ℚ
  | recordFailure _ now => now
  | check _ now => now

def isCheck : PairFailureEvent → Bool
  | check .. => true
  | recordFailure .. => false

/-- The clock does not go back over a history. -/
def Ordered (events : List PairFailureEvent) : Prop :=
  (events.map now).Pairwise (· ≤ ·)

instance (events : List PairFailureEvent) : Decidable (Ordered events) :=
  inferInstanceAs (Decidable ((events.map now).Pairwise (· ≤ ·)))

end PairFailureEvent

namespace PairFailureLimiter

def handle (limiter : PairFailureLimiter) : PairFailureEvent → PairFailureLimiter
  | .recordFailure source now => limiter.recordFailure source now
  | .check source now => (limiter.check source now).1

def handleAll (limiter : PairFailureLimiter) (events : List PairFailureEvent) :
    PairFailureLimiter :=
  events.foldl handle limiter

/-- Whether a failure recorded now is stored. -/
def stores (limiter : PairFailureLimiter) (source : Option String) (now : ℚ) : Bool :=
  !(limiter.prune now).globalIsFull && !(limiter.prune now).sourceIsFull source

def noted (limiter : PairFailureLimiter) : PairFailureEvent → List NotedFailure
  | .recordFailure source now =>
      [{ key := sourceKey source, time := now, stored := limiter.stores source now }]
  | .check .. => []

def notedFailures (limiter : PairFailureLimiter) : List PairFailureEvent → List NotedFailure
  | [] => []
  | event :: rest => limiter.noted event ++ notedFailures (limiter.handle event) rest

/-- The failures of a history that were stored, or that were not. -/
def failuresOf (limiter : PairFailureLimiter) (events : List PairFailureEvent) (stored : Bool) :
    List (String × ℚ) :=
  ((limiter.notedFailures events).filter fun failure => failure.stored = stored).map
    fun failure => (failure.key, failure.time)

theorem notedFailures_append (limiter : PairFailureLimiter)
    (early late : List PairFailureEvent) :
    limiter.notedFailures (early ++ late) =
      limiter.notedFailures early ++ (limiter.handleAll early).notedFailures late := by
  induction early generalizing limiter with
  | nil => rfl
  | cons event rest ih =>
      rw [List.cons_append, notedFailures, ih, notedFailures, List.append_assoc]
      rfl

theorem handleAll_snoc (limiter : PairFailureLimiter) (events : List PairFailureEvent)
    (event : PairFailureEvent) :
    limiter.handleAll (events ++ [event]) = (limiter.handleAll events).handle event := by
  unfold handleAll
  rw [List.foldl_append]
  rfl

theorem failuresOf_snoc (limiter : PairFailureLimiter) (events : List PairFailureEvent)
    (event : PairFailureEvent) (stored : Bool) :
    limiter.failuresOf (events ++ [event]) stored =
      limiter.failuresOf events stored ++
        (((limiter.handleAll events).noted event).filter fun failure =>
          failure.stored = stored).map fun failure => (failure.key, failure.time) := by
  unfold failuresOf
  rw [notedFailures_append, List.filter_append, List.map_append, notedFailures, notedFailures,
    List.append_nil]

/-! ## What the queues hold -/

/-- A limiter of the server, and the stored failures it still holds. -/
structure Tracks (limiter : PairFailureLimiter) (stored : List (String × ℚ)) (cutoff : ℚ) :
    Prop where
  limits : limiter = { failures := limiter.failures }
  holds : limiter.failures.Holds stored cutoff
  sorted : (stored.map Prod.snd).Pairwise (· ≤ ·)
  all : limiter.failures.all.length ≤ limiter.globalLimit
  timesOf : ∀ key, (limiter.failures.timesOf key).length ≤ limiter.perSourceLimit

variable {limiter : PairFailureLimiter} {stored : List (String × ℚ)} {cutoff now : ℚ}
variable {source : Option String}

namespace Tracks

/-- The windows of the limiter hold at most what its limits allow. -/
theorem capped (h : limiter.Tracks stored cutoff) :
    limiter.failures.Capped stored cutoff limiter.globalLimit limiter.perSourceLimit where
  holds := h.holds
  sorted := h.sorted
  all := h.all
  timesOf := h.timesOf

theorem of_capped (hlimits : limiter = { failures := limiter.failures })
    (hcapped : limiter.failures.Capped stored cutoff limiter.globalLimit limiter.perSourceLimit) :
    limiter.Tracks stored cutoff where
  limits := hlimits
  holds := hcapped.holds
  sorted := hcapped.sorted
  all := hcapped.all
  timesOf := hcapped.timesOf

/-- A new limiter tracks an empty history. -/
theorem empty (cutoff : ℚ) : ({} : PairFailureLimiter).Tracks [] cutoff :=
  of_capped rfl (.empty cutoff _ _)

theorem windowSeconds (h : limiter.Tracks stored cutoff) : limiter.windowSeconds = 60 := by
  rw [h.limits]
  rfl

theorem globalLimit (h : limiter.Tracks stored cutoff) : limiter.globalLimit = 20 := by
  rw [h.limits]
  rfl

theorem perSourceLimit (h : limiter.Tracks stored cutoff) : limiter.perSourceLimit = 5 := by
  rw [h.limits]
  rfl

theorem maxSources (h : limiter.Tracks stored cutoff) : limiter.maxSources = 256 := by
  rw [h.limits]
  rfl

/-- More sources may be tracked than failures are held, so none is forgotten. -/
theorem globalLimit_lt (h : limiter.Tracks stored cutoff) :
    limiter.globalLimit < limiter.maxSources := by
  rw [h.globalLimit, h.maxSources]
  decide

theorem prune (h : limiter.Tracks stored cutoff) (hnow : cutoff ≤ now - 60) :
    (limiter.prune now).Tracks stored (now - 60) := by
  apply of_capped
  · rw [h.limits]
    rfl
  · have hpruned := h.capped.prune hnow
    rw [← h.windowSeconds] at hpruned ⊢
    exact hpruned

/-- A failure is recorded while neither window is full. -/
theorem record (h : limiter.Tracks stored cutoff) (hnow : cutoff < now)
    (hlast : ∀ failure ∈ stored, failure.2 ≤ now) (hglobal : limiter.globalIsFull = false)
    (hsource : limiter.sourceIsFull source = false) :
    ({ limiter with
        failures := limiter.failures.record limiter.maxSources (sourceKey source) now } :
      PairFailureLimiter).Tracks (stored ++ [(sourceKey source, now)]) cutoff := by
  simp only [globalIsFull, decide_eq_false_iff_not, Nat.not_le] at hglobal
  simp only [sourceIsFull, decide_eq_false_iff_not, Nat.not_le] at hsource
  apply of_capped
  · rw [h.limits]
  · exact h.capped.record h.globalLimit_lt hnow hlast hglobal hsource

end Tracks

theorem check_limiter (limiter : PairFailureLimiter) (source : Option String) (now : ℚ) :
    (limiter.check source now).1 = limiter.prune now := by
  unfold check
  dsimp only
  split <;> rfl

/-- A failure is stored exactly when both windows have room. -/
theorem stores_eq_true : limiter.stores source now = true ↔
    (limiter.prune now).globalIsFull = false ∧ (limiter.prune now).sourceIsFull source = false := by
  simp [stores]

theorem recordFailure_of_full (hfull : limiter.stores source now = false) :
    limiter.recordFailure source now = limiter.prune now := by
  unfold recordFailure
  by_cases hglobal : (limiter.prune now).globalIsFull = true
  · rw [if_pos hglobal]
  · have hsource : (limiter.prune now).sourceIsFull source = true := by
      simpa [stores, hglobal] using hfull
    rw [if_neg hglobal, if_pos hsource]

/-- With room, it is added to its own window and the global one. -/
theorem recordFailure_of_room (hroom : limiter.stores source now = true) :
    limiter.recordFailure source now =
      { limiter.prune now with
        failures := (limiter.prune now).failures.record (limiter.prune now).maxSources
          (sourceKey source) now } := by
  obtain ⟨hglobal, hsource⟩ := stores_eq_true.mp hroom
  unfold recordFailure
  rw [if_neg (by simp [hglobal]), if_neg (by simp [hsource])]

/-- One event prunes the queues, and adds the failure it stores. -/
theorem Tracks.handle (h : limiter.Tracks stored cutoff) {event : PairFailureEvent}
    (hnow : cutoff ≤ event.now - 60) (hlast : ∀ failure ∈ stored, failure.2 ≤ event.now) :
    (limiter.handle event).Tracks
      (stored ++ ((limiter.noted event).filter fun failure => failure.stored).map
        fun failure => (failure.key, failure.time)) (event.now - 60) := by
  cases event with
  | check source now =>
      show (limiter.check source now).1.Tracks (stored ++ []) (now - 60)
      rw [check_limiter, List.append_nil]
      exact h.prune hnow
  | recordFailure source now =>
      have hpruned : (limiter.prune now).Tracks stored (now - 60) := h.prune hnow
      show (limiter.recordFailure source now).Tracks _ (now - 60)
      unfold noted
      cases hstores : limiter.stores source now with
      | false =>
          rw [recordFailure_of_full hstores]
          simpa [hstores] using hpruned
      | true =>
          obtain ⟨hglobal, hsource⟩ := stores_eq_true.mp hstores
          have hcutoff : now - 60 < now := by linarith
          rw [recordFailure_of_room hstores]
          simpa [hstores] using hpruned.record hcutoff hlast hglobal hsource

/-- Every failure has the time of its event. -/
theorem failuresOf_time {events : List PairFailureEvent} {side : Bool} {failure : String × ℚ}
    (hfailure : failure ∈ limiter.failuresOf events side) :
    failure.2 ∈ events.map PairFailureEvent.now := by
  induction events generalizing limiter with
  | nil => exact absurd hfailure List.not_mem_nil
  | cons event rest ih =>
      unfold failuresOf at hfailure
      rw [notedFailures, List.filter_append, List.map_append, List.mem_append] at hfailure
      rw [List.map_cons, List.mem_cons]
      rcases hfailure with hfirst | hrest
      · obtain ⟨noted, hnoted, rfl⟩ := List.mem_map.mp hfirst
        have hnoted := (List.mem_filter.mp hnoted).1
        cases event with
        | check source now => exact absurd hnoted List.not_mem_nil
        | recordFailure source now =>
            obtain rfl := List.mem_singleton.mp hnoted
            exact Or.inl rfl
      · exact Or.inr (ih hrest)

/-- After a history the limiter holds the stored failures that are left. -/
theorem tracks_history {events : List PairFailureEvent} (hordered : PairFailureEvent.Ordered events)
    (hnow : ∀ event ∈ events, event.now ≤ now) :
    ∃ cutoff ≤ now - 60, (handleAll {} events).Tracks (failuresOf {} events true) cutoff := by
  induction events using List.reverseRecOn generalizing now with
  | nil => exact ⟨now - 60, le_refl _, Tracks.empty _⟩
  | append_singleton events event ih =>
      unfold PairFailureEvent.Ordered at hordered
      rw [List.map_append, List.pairwise_append] at hordered
      have hevents : ∀ earlier ∈ events, earlier.now ≤ event.now := fun earlier hearlier =>
        hordered.2.2 _ (List.mem_map_of_mem hearlier) _ (List.mem_singleton_self _)
      obtain ⟨cutoff, hcutoff, htracks⟩ := ih hordered.1 hevents
      refine ⟨event.now - 60, ?_, ?_⟩
      · linarith [hnow event (List.mem_append_right _ (List.mem_singleton_self event))]
      · rw [handleAll_snoc, failuresOf_snoc]
        have hlast : ∀ failure ∈ failuresOf {} events true, failure.2 ≤ event.now := by
          intro failure hfailure
          obtain ⟨earlier, hearlier, htime⟩ := List.mem_map.mp (failuresOf_time hfailure)
          rw [← htime]
          exact hevents earlier hearlier
        have hhandled := htracks.handle hcutoff hlast
        simpa using hhandled

/-! ## Decisions -/

/-- A source has nothing to wait for when both windows have room. -/
theorem candidates_eq_nil (hglobal : 0 < limiter.globalLimit)
    (hsource : 0 < limiter.perSourceLimit) :
    limiter.candidates source = [] ↔
      limiter.globalIsFull = false ∧ limiter.sourceIsFull source = false := by
  have htake : ∀ {limit : Nat} {times : List ℚ}, 0 < limit → limit ≤ times.length →
      times.take 1 ≠ [] := by
    intro limit times hlimit hlength hnil
    cases times with
    | nil => exact absurd hlength (Nat.not_le_of_lt hlimit)
    | cons oldest rest => cases hnil
  unfold candidates
  rw [List.append_eq_nil_iff]
  constructor
  · rintro ⟨hall, hown⟩
    constructor
    · by_contra hfull
      rw [Bool.not_eq_false] at hfull
      rw [if_pos hfull] at hall
      exact htake hglobal (of_decide_eq_true hfull) hall
    · by_contra hfull
      rw [Bool.not_eq_false] at hfull
      rw [if_pos hfull] at hown
      exact htake hsource (of_decide_eq_true hfull) hown
  · rintro ⟨hall, hown⟩
    rw [hall, hown]
    exact ⟨rfl, rfl⟩

theorem check_of_none (hnone : ((limiter.prune now).candidates source).min? = none) :
    (limiter.check source now).2 = { allowed := true } := by
  unfold check
  dsimp only
  rw [hnone]

/-- The wait is until the oldest failure of a full window leaves it. -/
theorem check_of_some {oldest : ℚ}
    (hsome : ((limiter.prune now).candidates source).min? = some oldest) :
    (limiter.check source now).2 =
      { allowed := false, retryAfter := limiter.retryAfter now oldest } := by
  unfold check
  dsimp only
  rw [hsome]
  rfl

/-- A check allows when neither window is full. -/
theorem check_allowed (hglobal : 0 < limiter.globalLimit) (hsource : 0 < limiter.perSourceLimit) :
    (limiter.check source now).2.allowed = true ↔
      (limiter.prune now).globalIsFull = false ∧
        (limiter.prune now).sourceIsFull source = false := by
  have hcandidates := @candidates_eq_nil (limiter.prune now) source hglobal hsource
  rw [← hcandidates, ← List.min?_eq_none_iff]
  cases hmin : ((limiter.prune now).candidates source).min? with
  | none => simp [check_of_none hmin]
  | some oldest => simp [check_of_some hmin]

end PairFailureLimiter

end CompanionBridge
