import CompanionBridge.Protocol.Auth
import CompanionBridge.Protocol.Guardrails
import Mathlib.Tactic.Linarith

/-!
# Starts of pair-setup

A pair-setup M1 is admitted before an SRP session can be allocated, and stays
counted until it has left the window, whatever becomes of its connection.
-/

namespace CompanionBridge

def pairSetupAttemptsPerSource : Nat := 5

def pairSetupAttemptsGlobal : Nat := 20

def pairSetupAttemptWindowSeconds : ℚ := 60

def maxTrackedPairSetupSources : Nat := 256

/-- Atomically admit pair-setup M1 starts before an SRP session can be allocated. -/
structure PairSetupAttemptLimiter where
  perSourceLimit : Nat := pairSetupAttemptsPerSource
  globalLimit : Nat := pairSetupAttemptsGlobal
  windowSeconds : ℚ := pairSetupAttemptWindowSeconds
  maxSources : Nat := maxTrackedPairSetupSources
  /-- Anything else raises when the limiter is made. -/
  positive : 0 < perSourceLimit ∧ 0 < globalLimit ∧ 0 < windowSeconds ∧ 0 < maxSources := by
    decide
  attempts : KeyedWindows String ℚ := {}

namespace PairSetupAttemptLimiter

/-- `_prune`. -/
def prune (limiter : PairSetupAttemptLimiter) (now : ℚ) : PairSetupAttemptLimiter :=
  { limiter with attempts := limiter.attempts.prune (now - limiter.windowSeconds) }

/-- `_retry_after`. -/
def retryAfter (limiter : PairSetupAttemptLimiter) (now oldest : ℚ) : Nat :=
  (max 1 ⌈Doubles.sub limiter.windowSeconds (Doubles.sub now oldest)⌉).toNat

/-- Consume and admit one M1, or report a rate limit. A queue at its limit has an
oldest time. -/
def admitAttempt (limiter : PairSetupAttemptLimiter) (source : Option String) (now : ℚ) :
    PairSetupAttemptLimiter × PairSetupAttemptAdmission :=
  let pruned := limiter.prune now
  let key := sourceKey source
  let sourceAttempts := pruned.attempts.timesOf key
  -- a source over its own limit is told so even where the global limit is reached
  if pruned.perSourceLimit ≤ sourceAttempts.length then
    (pruned,
      { allowed := false
        error := some .maxTries
        retryAfter := pruned.retryAfter now (sourceAttempts.headD now) })
  else if pruned.globalLimit ≤ pruned.attempts.all.length then
    (pruned,
      { allowed := false
        error := some .busy
        retryAfter := pruned.retryAfter now (pruned.attempts.all.headD now) })
  else
    -- only an admitted attempt is recorded
    ({ pruned with attempts := pruned.attempts.record pruned.maxSources key now },
      { allowed := true })

/-- The limiter of `serve`, and the admitted starts it counts. -/
structure Counts (limiter : PairSetupAttemptLimiter) (admitted : List (String × ℚ)) (cutoff : ℚ) :
    Prop where
  limits : limiter = { attempts := limiter.attempts }
  capped : limiter.attempts.Capped admitted cutoff pairSetupAttemptsGlobal
    pairSetupAttemptsPerSource

/-- No window of a minute holds more starts than are admitted in one. -/
structure WithinWindows (admitted : List (String × ℚ)) : Prop where
  source : ∀ key ends, (SlidingWindow.inWindow (· - 60)
    (admitted.filter fun record => record.1 = key) ends).length ≤ 5
  total : ∀ ends, (SlidingWindow.inWindow (· - 60) admitted ends).length ≤ 20

variable {limiter : PairSetupAttemptLimiter} {admitted : List (String × ℚ)} {cutoff now : ℚ}
variable {source : Option String}

/-- A new limiter has admitted nothing. -/
theorem Counts.empty (cutoff : ℚ) : ({} : PairSetupAttemptLimiter).Counts [] cutoff :=
  ⟨rfl, .empty cutoff _ _⟩

theorem WithinWindows.nil : WithinWindows [] :=
  ⟨fun _ _ => Nat.zero_le _, fun _ => Nat.zero_le _⟩

/-- The limits are those of the source. -/
theorem Counts.windowSeconds (h : limiter.Counts admitted cutoff) : limiter.windowSeconds = 60 := by
  rw [h.limits]
  rfl

theorem Counts.perSourceLimit (h : limiter.Counts admitted cutoff) :
    limiter.perSourceLimit = pairSetupAttemptsPerSource := by
  rw [h.limits]

theorem Counts.globalLimit (h : limiter.Counts admitted cutoff) :
    limiter.globalLimit = pairSetupAttemptsGlobal := by
  rw [h.limits]

theorem Counts.maxSources (h : limiter.Counts admitted cutoff) :
    limiter.maxSources = maxTrackedPairSetupSources := by
  rw [h.limits]

theorem Counts.prune (h : limiter.Counts admitted cutoff) (hnow : cutoff ≤ now - 60) :
    (limiter.prune now).Counts admitted (now - 60) where
  limits := by
    rw [h.limits]
    rfl
  capped := by
    have hpruned := h.capped.prune hnow
    rw [← h.windowSeconds] at hpruned ⊢
    exact hpruned

/-- A start is refused, or admitted into windows with room. -/
theorem admit_cases (limiter : PairSetupAttemptLimiter) (source : Option String) (now : ℚ) :
    ((limiter.admitAttempt source now).1 = limiter.prune now ∧
      (limiter.admitAttempt source now).2.allowed = false) ∨
    (((limiter.prune now).attempts.timesOf (sourceKey source)).length < limiter.perSourceLimit ∧
      (limiter.prune now).attempts.all.length < limiter.globalLimit ∧
      limiter.admitAttempt source now =
        ({ limiter.prune now with
            attempts := (limiter.prune now).attempts.record limiter.maxSources
              (sourceKey source) now }, { allowed := true })) := by
  unfold admitAttempt
  dsimp only
  split
  · exact .inl ⟨rfl, rfl⟩
  · rename_i hsource
    split
    · exact .inl ⟨rfl, rfl⟩
    · rename_i hglobal
      exact .inr ⟨Nat.lt_of_not_le hsource, Nat.lt_of_not_le hglobal, rfl⟩

/-- The start that a decision adds to the admitted ones. -/
def admittedBy (limiter : PairSetupAttemptLimiter) (source : Option String) (now : ℚ) :
    List (String × ℚ) :=
  if (limiter.admitAttempt source now).2.allowed then [(sourceKey source, now)] else []

theorem monotone_windowStart : Monotone fun now : ℚ => now - 60 := by
  intro first second hle
  dsimp only
  linarith

/-- A start admitted into windows with room leaves every window within its limit. -/
theorem WithinWindows.snoc (h : WithinWindows admitted)
    (hsource : ((admitted.filter fun record => record.1 = sourceKey source).filter
      fun record => now - 60 < record.2).length < 5)
    (htotal : (admitted.filter fun record => now - 60 < record.2).length < 20) :
    WithinWindows (admitted ++ [(sourceKey source, now)]) where
  source := by
    intro key ends
    rw [List.filter_append]
    by_cases hkey : key = sourceKey source
    · have hown : [(sourceKey source, now)].filter (fun record => record.1 = key) =
          [(sourceKey source, now)] := by
        simp [hkey]
      rw [hown]
      apply SlidingWindow.inWindow_snoc monotone_windowStart
      · rw [hkey]
        exact hsource
      · exact h.source key
    · have hother : [(sourceKey source, now)].filter (fun record => record.1 = key) = [] := by
        simp [Ne.symm hkey]
      rw [hother, List.append_nil]
      exact h.source key ends
  total := SlidingWindow.inWindow_snoc monotone_windowStart htotal h.total

/-- A decision counts what it admits, and admits only into windows with room. -/
theorem Counts.admitAttempt (h : limiter.Counts admitted cutoff) (hwithin : WithinWindows admitted)
    (hnow : cutoff ≤ now - 60) (hlast : ∀ record ∈ admitted, record.2 ≤ now) :
    (limiter.admitAttempt source now).1.Counts (admitted ++ limiter.admittedBy source now)
        (now - 60) ∧
      WithinWindows (admitted ++ limiter.admittedBy source now) := by
  have hpruned : (limiter.prune now).Counts admitted (now - 60) := h.prune hnow
  unfold admittedBy
  obtain ⟨hlimiter, hrefused⟩ | ⟨hsource, hglobal, hadmitted⟩ := limiter.admit_cases source now
  · rw [hlimiter, if_neg (by rw [hrefused]; exact Bool.false_ne_true), List.append_nil]
    exact ⟨hpruned, hwithin⟩
  · rw [hadmitted, if_pos rfl]
    rw [h.perSourceLimit] at hsource
    rw [h.globalLimit] at hglobal
    rw [h.maxSources]
    have hcutoff : now - 60 < now := by linarith
    have hall := hpruned.capped.holds.all
    have hown := hpruned.capped.holds.timesOf (sourceKey source)
    refine ⟨⟨?_, ?_⟩, hwithin.snoc ?_ ?_⟩
    · rw [hpruned.limits]
    · exact hpruned.capped.record (by decide) hcutoff hlast hglobal hsource
    · rw [hown, List.filter_map, List.length_map] at hsource
      exact hsource
    · rw [hall, List.filter_map, List.length_map] at hglobal
      exact hglobal

end PairSetupAttemptLimiter

end CompanionBridge
