import CompanionBridge.Protocol.PairFailures

/-!
# How long a refused source waits

A check refuses for one full window or for two, and computes the wait in doubles
from the oldest failure of all. The wait falls short when the other full window
outlives the first, and by one second when the rounded differences reach a whole
number that the exact ones pass.
-/

namespace CompanionBridge

namespace PairFailureLimiter

variable {limiter : PairFailureLimiter} {stored : List (String × ℚ)} {cutoff now : ℚ}
variable {source : Option String}

/-- The wait is the least number of whole seconds, at least one, that doubles
put between the reading and the end of the failure's window. -/
theorem retryAfter_le_iff {oldest : ℚ} {seconds : Nat} :
    limiter.retryAfter now oldest ≤ seconds ↔
      1 ≤ seconds ∧
        Doubles.sub limiter.windowSeconds (Doubles.sub now oldest) ≤ seconds := by
  rw [retryAfter, Int.toNat_le, max_le_iff, Int.ceil_le, Int.cast_natCast]
  exact and_congr_left' Nat.one_le_cast

/-- Some failures of a limiter are gone, the oldest first. -/
structure Thinned (before after : PairFailureLimiter) : Prop where
  limits : after = { before with failures := after.failures }
  all : after.failures.all <:+ before.failures.all
  timesOf : ∀ key, after.failures.timesOf key <:+ before.failures.timesOf key
  keys : (after.failures.byKey.map Prod.fst).Nodup

theorem Thinned.prune {before after : PairFailureLimiter} (h : Thinned before after) (now : ℚ) :
    Thinned before (after.prune now) where
  limits := by rw [h.limits, PairFailureLimiter.prune]
  all := SlidingWindow.expire_suffix.trans h.all
  timesOf := by
    intro key
    have hqueue : (after.prune now).failures.timesOf key =
        SlidingWindow.expire (now - after.windowSeconds) (after.failures.timesOf key) :=
      KeyedWindows.lookup_expireEach h.keys
    rw [hqueue]
    exact SlidingWindow.expire_suffix.trans (h.timesOf key)
  keys := h.keys.sublist (KeyedWindows.expireEach_keys_sublist _ _)

theorem Thinned.handleAll {before after : PairFailureLimiter} (h : Thinned before after)
    {checks : List PairFailureEvent} (hchecks : ∀ event ∈ checks, event.isCheck = true) :
    Thinned before (after.handleAll checks) := by
  induction checks generalizing after with
  | nil => exact h
  | cons event rest ih =>
      have hrest : ∀ other ∈ rest, other.isCheck = true := fun other hother =>
        hchecks other (List.mem_cons_of_mem event hother)
      cases event with
      | check source now =>
          have hpruned : Thinned before (after.check source now).1 := by
            rw [check_limiter]
            exact h.prune now
          exact ih hpruned hrest
      | recordFailure source now => exact absurd (hchecks _ List.mem_cons_self) Bool.false_ne_true

/-- A window that stays full has lost nothing, and its oldest failure is recent. -/
theorem Thinned.full {before after : PairFailureLimiter} (h : Thinned before after)
    {later : ℚ} (hlength : before.failures.all.length ≤ before.globalLimit)
    (hfull : (after.prune later).globalIsFull = true) :
    before.globalIsFull = true ∧
      ∀ oldest ∈ before.failures.all.head?, later < oldest + before.windowSeconds := by
  have hpruned := h.prune later
  have hlimit : before.globalLimit ≤ (after.prune later).failures.all.length := by
    have hlimit := of_decide_eq_true hfull
    rw [hpruned.limits] at hlimit
    exact hlimit
  have hsame := hpruned.all.eq_of_length_le (hlength.trans hlimit)
  refine ⟨decide_eq_true (hsame ▸ hlimit), ?_⟩
  intro oldest holdest
  rw [← hsame] at holdest
  have hrecent := SlidingWindow.lt_of_mem_head?_expire holdest
  have hwindow : after.windowSeconds = before.windowSeconds := by rw [h.limits]
  rw [hwindow] at hrecent
  linarith

/-- A window that is full later was full before, with the same failures. -/
theorem Thinned.sourceFull {before after : PairFailureLimiter} (h : Thinned before after)
    {later : ℚ}
    (hlength : (before.failures.timesOf (sourceKey source)).length ≤ before.perSourceLimit)
    (hfull : (after.prune later).sourceIsFull source = true) :
    before.sourceIsFull source = true ∧
      ∀ oldest ∈ (before.failures.timesOf (sourceKey source)).head?,
        later < oldest + before.windowSeconds := by
  have hpruned := h.prune later
  have hlimit : before.perSourceLimit ≤
      ((after.prune later).failures.timesOf (sourceKey source)).length := by
    have hlimit := of_decide_eq_true hfull
    rw [hpruned.limits] at hlimit
    exact hlimit
  have hsame := (hpruned.timesOf (sourceKey source)).eq_of_length_le (hlength.trans hlimit)
  refine ⟨decide_eq_true (hsame ▸ hlimit), ?_⟩
  intro oldest holdest
  have hqueue : (after.prune later).failures.timesOf (sourceKey source) =
      SlidingWindow.expire (later - after.windowSeconds)
        (after.failures.timesOf (sourceKey source)) :=
    KeyedWindows.lookup_expireEach h.keys
  rw [← hsame, hqueue] at holdest
  have hrecent := SlidingWindow.lt_of_mem_head?_expire holdest
  have hwindow : after.windowSeconds = before.windowSeconds := by rw [h.limits]
  rw [hwindow] at hrecent
  linarith

/-- The time is the oldest failure of a window that is full. -/
def OldestOfFull (limiter : PairFailureLimiter) (source : Option String) (time : ℚ) : Prop :=
  (limiter.globalIsFull = true ∧ time ∈ limiter.failures.all.head?) ∨
    (limiter.sourceIsFull source = true ∧
      time ∈ (limiter.failures.timesOf (sourceKey source)).head?)

/-- Whoever comes back after whole seconds that reach, as doubles count them, the
end of the first full window comes after the end of every full one. -/
def BackoffCovers (limiter : PairFailureLimiter) (source : Option String) (now : ℚ) : Prop :=
  ∀ first last : ℚ,
    (limiter.prune now).OldestOfFull source first →
    (∀ other, (limiter.prune now).OldestOfFull source other → first ≤ other) →
    (limiter.prune now).OldestOfFull source last →
    ∀ (seconds : Nat) (later : ℚ), 1 ≤ seconds →
      Doubles.sub limiter.windowSeconds (Doubles.sub now first) ≤ seconds →
      Doubles.IsDouble later → now + seconds ≤ later → last + limiter.windowSeconds ≤ later

/-- The wait is computed from the oldest failures of the full windows. -/
theorem mem_candidates {time : ℚ} :
    time ∈ limiter.candidates source ↔ limiter.OldestOfFull source time := by
  have htake : ∀ times : List ℚ, time ∈ times.take 1 ↔ time ∈ times.head? := by
    intro times
    cases times with
    | nil => simp
    | cons oldest rest => simp [eq_comm]
  unfold candidates OldestOfFull
  rw [List.mem_append]
  apply or_congr
  · cases limiter.globalIsFull with
    | false => simp
    | true => simp [htake]
  · cases limiter.sourceIsFull source with
    | false => simp
    | true => simp [htake]

theorem exists_mem_head? {times : List ℚ} {limit : Nat} (hlimit : 0 < limit)
    (hlength : limit ≤ times.length) : ∃ oldest, oldest ∈ times.head? := by
  cases times with
  | nil => exact absurd hlength (Nat.not_le_of_lt hlimit)
  | cons first rest => exact ⟨first, rfl⟩

/-- A full queue that has room afterwards has lost its oldest time. -/
theorem oldest_gone {times : List ℚ} {limit : Nat} {oldest cutoff : ℚ}
    (hfull : limit ≤ times.length) (holdest : oldest ∈ times.head?)
    (hroom : (SlidingWindow.expire cutoff times).length < limit) : oldest ≤ cutoff := by
  obtain ⟨first, hfirst, hgone⟩ :=
    SlidingWindow.expire_length_lt_iff.mp (Nat.lt_of_lt_of_le hroom hfull)
  rw [Option.mem_unique holdest hfirst]
  exact hgone

/-- A denial names the wait for the first of the full windows. -/
theorem check_denied_iff {wait : Nat} :
    (limiter.check source now).2 = { allowed := false, retryAfter := wait } ↔
      ∃ first, (limiter.prune now).OldestOfFull source first ∧
        (∀ other, (limiter.prune now).OldestOfFull source other → first ≤ other) ∧
        wait = limiter.retryAfter now first := by
  constructor
  · intro hdenied
    cases hmin : ((limiter.prune now).candidates source).min? with
    | none =>
        rw [check_of_none hmin] at hdenied
        exact absurd (congrArg PairThrottle.allowed hdenied) Bool.true_eq_false.mp
    | some first =>
        rw [check_of_some hmin] at hdenied
        obtain ⟨hmem, hleast⟩ := List.min?_eq_some_iff.mp hmin
        refine ⟨first, mem_candidates.mp hmem, ?_, (congrArg PairThrottle.retryAfter hdenied).symm⟩
        intro other hother
        exact hleast other (mem_candidates.mpr hother)
  · intro hwait
    obtain ⟨first, hfirst, hleast, hwait⟩ := hwait
    rw [hwait]
    apply check_of_some
    rw [List.min?_eq_some_iff]
    refine ⟨mem_candidates.mpr hfirst, ?_⟩
    intro other hother
    exact hleast other (mem_candidates.mp hother)

/-- A source that waits as long as it was told is allowed, at whichever reading of
the clock it comes back. -/
def BackoffSuffices (limiter : PairFailureLimiter) (source : Option String) (now : ℚ) : Prop :=
  ∀ wait : Nat,
    (limiter.check source now).2 = { allowed := false, retryAfter := wait } →
    ∀ (checks : List PairFailureEvent) (later : ℚ),
      (∀ event ∈ checks, event.isCheck = true) → Doubles.IsDouble later → now + wait ≤ later →
      ((((limiter.check source now).1).handleAll checks).check source later).2.allowed = true

/-- The condition on the stored times is enough. -/
theorem Tracks.backoffSuffices (h : limiter.Tracks stored cutoff) (hnow : cutoff ≤ now - 60)
    (hcovers : limiter.BackoffCovers source now) : limiter.BackoffSuffices source now := by
  intro wait hdenied checks later hchecks hdouble hlater
  obtain ⟨first, hfirst, hleast, rfl⟩ := check_denied_iff.mp hdenied
  obtain ⟨hone, hreached⟩ := retryAfter_le_iff.mp (le_refl (limiter.retryAfter now first))
  have hgone : ∀ last, (limiter.prune now).OldestOfFull source last →
      last + limiter.windowSeconds ≤ later := by
    intro last hlast
    exact hcovers first last hfirst hleast hlast _ later hone hreached hdouble hlater
  have hpruned := h.prune hnow
  have hself : Thinned (limiter.prune now) (limiter.prune now) :=
    ⟨rfl, List.suffix_refl _, fun _ => List.suffix_refl _, hpruned.holds.keys⟩
  have hthinned := hself.handleAll hchecks
  rw [check_limiter, check_allowed]
  · -- A window that is full then has been full all along, and its oldest failure is gone.
    constructor
    · by_contra hfull
      rw [Bool.not_eq_false] at hfull
      obtain ⟨hglobal, hrecent⟩ := hthinned.full hpruned.all hfull
      obtain ⟨oldest, holdest⟩ := exists_mem_head? (hpruned.globalLimit ▸ (by decide : 0 < 20))
        (of_decide_eq_true hglobal)
      exact absurd (hgone oldest (.inl ⟨hglobal, holdest⟩)) (hrecent oldest holdest).not_ge
    · by_contra hfull
      rw [Bool.not_eq_false] at hfull
      obtain ⟨hsource, hrecent⟩ := hthinned.sourceFull (hpruned.timesOf _) hfull
      obtain ⟨oldest, holdest⟩ := exists_mem_head? (hpruned.perSourceLimit ▸ (by decide : 0 < 5))
        (of_decide_eq_true hsource)
      exact absurd (hgone oldest (.inr ⟨hsource, holdest⟩)) (hrecent oldest holdest).not_ge
  · rw [hthinned.limits]
    exact hpruned.globalLimit ▸ (by decide : 0 < 20)
  · rw [hthinned.limits]
    exact hpruned.perSourceLimit ▸ (by decide : 0 < 5)

/-- And it is needed: where it fails, a check after the wait is refused. -/
theorem Tracks.backoffCovers (h : limiter.Tracks stored cutoff) (hnow : cutoff ≤ now - 60)
    (hsuffices : limiter.BackoffSuffices source now) : limiter.BackoffCovers source now := by
  intro first last hfirst hleast hlast seconds later hone hreached hdouble hlater
  have hdenied := check_denied_iff.mpr ⟨first, hfirst, hleast, rfl⟩
  have hwait : (limiter.retryAfter now first : ℚ) ≤ seconds :=
    Nat.cast_le.mpr (retryAfter_le_iff.mpr ⟨hone, hreached⟩)
  have hallowed := hsuffices _ hdenied [] later (fun _ hmem => absurd hmem List.not_mem_nil)
    hdouble (by linarith)
  have hpruned := h.prune hnow
  rw [check_limiter] at hallowed
  change ((limiter.prune now).check source later).2.allowed = true at hallowed
  rw [check_allowed (by rw [hpruned.globalLimit]; decide)
    (by rw [hpruned.perSourceLimit]; decide)] at hallowed
  obtain ⟨hglobalRoom, hsourceRoom⟩ := hallowed
  have hgone : last ≤ later - limiter.windowSeconds := by
    rcases hlast with ⟨hglobal, hhead⟩ | ⟨hsource, hhead⟩
    · exact oldest_gone (of_decide_eq_true hglobal) hhead
        (Nat.not_le.mp (of_decide_eq_false hglobalRoom))
    · have hqueue := @KeyedWindows.lookup_expireEach _ _ _ (sourceKey source) _ _
        (later - limiter.windowSeconds) hpruned.holds.keys
      exact oldest_gone (of_decide_eq_true hsource) hhead
        (lt_of_eq_of_lt (congrArg List.length hqueue.symm)
          (Nat.not_le.mp (of_decide_eq_false hsourceRoom)))
  linarith

/-- The wait a denial names suffices exactly when it covers both full windows. -/
theorem retryAfter_sufficient_iff {events : List PairFailureEvent}
    (hordered : PairFailureEvent.Ordered events) (hnow : ∀ event ∈ events, event.now ≤ now) :
    (handleAll {} events).BackoffSuffices source now ↔
      (handleAll {} events).BackoffCovers source now := by
  obtain ⟨cutoff, hcutoff, htracks⟩ := tracks_history hordered hnow
  exact ⟨htracks.backoffCovers hcutoff, htracks.backoffSuffices hcutoff⟩

/-- Fifteen failures of three sources at one moment, and five of a fourth half a
minute later. -/
def staggeredFailures : List PairFailureEvent :=
  (["a", "b", "c"].flatMap fun source =>
    List.replicate 5 (.recordFailure (some source) 0)) ++
    List.replicate 5 (.recordFailure (some "d") 30)

theorem retryAfter_sufficient_staggered :
    (handleAll {} staggeredFailures).BackoffSuffices (some "a") 30 ↔
      (handleAll {} staggeredFailures).BackoffCovers (some "a") 30 :=
  retryAfter_sufficient_iff (by decide +kernel) (by decide +kernel)

/-- Five failures of one source at one moment. -/
def sourceFailures (time : ℚ) : List PairFailureEvent :=
  List.replicate 5 (.recordFailure (some "a") time)

-- One full window, and differences of doubles that come out as 37 and 23 seconds.
example :
    ((handleAll {} (sourceFailures (6098684876658951 / 9007199254740992))).check (some "a")
        (1325644755086233 / 35184372088832)).2 = { allowed := false, retryAfter := 23 } ∧
      ((handleAll {} (sourceFailures (6098684876658951 / 9007199254740992))).check (some "a")
        (1325644755086233 / 35184372088832 + 23)).2.allowed = false := by
  decide +kernel

theorem retryAfter_sufficient_fails :
    ¬ ∀ (events : List PairFailureEvent) (source : Option String) (now : ℚ),
      PairFailureEvent.Ordered events → (∀ event ∈ events, event.now ≤ now) →
      (handleAll {} events).BackoffSuffices source now := by
  intro hall
  have hsuffices := hall staggeredFailures (some "d") 30 (by decide +kernel) (by decide +kernel)
  have hallowed := hsuffices 30 (by decide +kernel) [] 60 (by decide +kernel)
    (by decide +kernel) (by norm_num)
  exact absurd hallowed (by decide +kernel)

end PairFailureLimiter

end CompanionBridge
