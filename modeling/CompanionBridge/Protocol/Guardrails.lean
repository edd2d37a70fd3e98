import CompanionBridge.Library.Doubles
import CompanionBridge.Library.SlidingWindow
import Mathlib.Data.Finset.Card
import Mathlib.Data.List.DropRight
import Mathlib.Data.Rat.Floor

/-!
# Connection admission and failed-pairing throttling

The guardrails every Companion connection passes: how many connections the
server holds at a time, how many of them may still be unauthenticated, and how
many pair-setups may fail in a minute. Connections are told apart by identity,
which a number stands for. Readings of the clock are rational seconds, and a wait
is rounded the way doubles round it; a window's start is exact.
-/

namespace CompanionBridge

def maxConnections : Nat := 16

def maxUnauthenticatedConnections : Nat := 8

/-- Track total and pre-authenticated connections with idempotent release. -/
structure ConnectionAdmission where
  maxConnections : Nat := CompanionBridge.maxConnections
  maxUnauthenticated : Nat := maxUnauthenticatedConnections
  connections : Finset Nat := ∅
  unauthenticated : Finset Nat := ∅

namespace ConnectionAdmission

def connectionCount (admission : ConnectionAdmission) : Nat :=
  admission.connections.card

def unauthenticatedCount (admission : ConnectionAdmission) : Nat :=
  admission.unauthenticated.card

/-- Admit a new connection, or return the applicable capacity reason. -/
def acquire (admission : ConnectionAdmission) (connection : Nat) :
    ConnectionAdmission × Option String :=
  if connection ∈ admission.connections then (admission, none)
  else if admission.maxConnections ≤ admission.connectionCount then
    (admission, some "total connection limit")
  else if admission.maxUnauthenticated ≤ admission.unauthenticatedCount then
    (admission, some "unauthenticated connection limit")
  else
    ({ admission with
        connections := insert connection admission.connections
        unauthenticated := insert connection admission.unauthenticated }, none)

/-- Move an admitted connection out of the pre-authentication budget. -/
def authenticated (admission : ConnectionAdmission) (connection : Nat) : ConnectionAdmission :=
  { admission with unauthenticated := admission.unauthenticated.erase connection }

/-- Release any connection state; safe to call repeatedly. -/
def release (admission : ConnectionAdmission) (connection : Nat) : ConnectionAdmission :=
  { admission with
    connections := admission.connections.erase connection
    unauthenticated := admission.unauthenticated.erase connection }

/-- Both counts are within their limits. -/
structure Bounded (admission : ConnectionAdmission) : Prop where
  connections : admission.connectionCount ≤ admission.maxConnections
  unauthenticated : admission.unauthenticatedCount ≤ admission.maxUnauthenticated

variable {admission : ConnectionAdmission}

/-- A new connection is refused and nothing changes, or it takes a slot of both budgets. -/
theorem acquire_cases {connection : Nat} (hnew : connection ∉ admission.connections) :
    (∃ reason, admission.acquire connection = (admission, some reason)) ∨
      admission.connectionCount < admission.maxConnections ∧
        admission.unauthenticatedCount < admission.maxUnauthenticated ∧
        admission.acquire connection =
          ({ admission with
              connections := insert connection admission.connections
              unauthenticated := insert connection admission.unauthenticated }, none) := by
  unfold acquire
  rw [if_neg hnew]
  split
  · exact Or.inl ⟨_, rfl⟩
  · rename_i htotal
    split
    · exact Or.inl ⟨_, rfl⟩
    · rename_i hunauthenticated
      exact Or.inr ⟨Nat.lt_of_not_le htotal, Nat.lt_of_not_le hunauthenticated, rfl⟩

/-- An admission is refused before it would pass a limit. -/
theorem Bounded.acquire (h : admission.Bounded) {connection : Nat}
    (hnew : connection ∉ admission.connections) : (admission.acquire connection).1.Bounded := by
  rcases admission.acquire_cases hnew with ⟨reason, hrefused⟩ | ⟨htotal, hunauthenticated, hgranted⟩
  · rw [hrefused]
    exact h
  · rw [hgranted]
    exact ⟨(Finset.card_insert_le _ _).trans htotal,
      (Finset.card_insert_le _ _).trans hunauthenticated⟩

/-- An authenticated peer leaves the smaller set. -/
theorem Bounded.authenticated (h : admission.Bounded) (connection : Nat) :
    (admission.authenticated connection).Bounded :=
  ⟨h.connections, Finset.card_erase_le.trans h.unauthenticated⟩

/-- A released peer leaves both. -/
theorem Bounded.release (h : admission.Bounded) (connection : Nat) :
    (admission.release connection).Bounded :=
  ⟨Finset.card_erase_le.trans h.connections, Finset.card_erase_le.trans h.unauthenticated⟩

end ConnectionAdmission

/-! ## Failed pairings -/

def pairFailuresPerSource : Nat := 5

def pairFailuresGlobal : Nat := 20

def pairFailureWindowSeconds : ℚ := 60

def maxTrackedPairSources : Nat := 256

/-- The characters `str.strip` takes off. -/
def isStripped (char : Char) : Bool :=
  let code := char.toNat
  (0x09 ≤ code && code ≤ 0x0D) || (0x1C ≤ code && code ≤ 0x20) || code = 0x85 || code = 0xA0 ||
    code = 0x1680 || (0x2000 ≤ code && code ≤ 0x200A) || code = 0x2028 || code = 0x2029 ||
    code = 0x202F || code = 0x205F || code = 0x3000

/-- Normalize unavailable or malformed peer metadata into one conservative source bucket. -/
def sourceKey (source : Option String) : String :=
  let stripped := ((source.getD "").toList.dropWhile isStripped).rdropWhile isStripped
  if stripped = [] then "<unknown>" else String.ofList (stripped.take 64)

/-- The current failed-pair admission decision. -/
structure PairThrottle where
  allowed : Bool
  retryAfter : Nat := 0
  deriving DecidableEq, Repr

/-- Bound failed pair-setup attempts globally and by source. -/
structure PairFailureLimiter where
  perSourceLimit : Nat := pairFailuresPerSource
  globalLimit : Nat := pairFailuresGlobal
  windowSeconds : ℚ := pairFailureWindowSeconds
  maxSources : Nat := maxTrackedPairSources
  failures : KeyedWindows String ℚ := {}

namespace PairFailureLimiter

/-- `_prune`, in exact arithmetic: `le_windowStart_iff` says that doubles keep the same. -/
def prune (limiter : PairFailureLimiter) (now : ℚ) : PairFailureLimiter :=
  { limiter with failures := limiter.failures.prune (now - limiter.windowSeconds) }

def globalIsFull (limiter : PairFailureLimiter) : Bool :=
  limiter.globalLimit ≤ limiter.failures.all.length

def sourceIsFull (limiter : PairFailureLimiter) (source : Option String) : Bool :=
  limiter.perSourceLimit ≤ (limiter.failures.timesOf (sourceKey source)).length

/-- The start of the window as doubles compute it keeps and drops the same failures. -/
theorem le_windowStart_iff {now oldest : ℚ} (hdouble : Doubles.IsDouble now)
    (hhigh : now < 2 ^ (53 : ℤ)) (holdest : 0 ≤ oldest) :
    oldest ≤ Doubles.sub now pairFailureWindowSeconds ↔
      oldest ≤ now - pairFailureWindowSeconds := by
  by_cases hearly : now < 30
  · -- The whole window lies before the first reading.
    have hbefore : now - pairFailureWindowSeconds ≤ -1 := by
      rw [pairFailureWindowSeconds]
      linarith
    have hrounded := Doubles.rounded_neg hbefore
    constructor
    · intro hle
      exact absurd (holdest.trans hle) hrounded.not_ge
    · intro hle
      exact absurd (holdest.trans hle) (hbefore.trans_lt (by norm_num)).not_ge
  · rw [not_lt] at hearly
    have hexact := @Doubles.sub_natCast now hdouble (by linarith) hhigh 60
      (by push_cast; linarith)
    rw [Nat.cast_ofNat] at hexact
    rw [pairFailureWindowSeconds, hexact]

/-- The whole seconds, at least one, until a failure has left the window. -/
def retryAfter (limiter : PairFailureLimiter) (now oldest : ℚ) : Nat :=
  (max 1 ⌈Doubles.sub limiter.windowSeconds (Doubles.sub now oldest)⌉).toNat

/-- The oldest failure of each window that is full. -/
def candidates (limiter : PairFailureLimiter) (source : Option String) : List ℚ :=
  (if limiter.globalIsFull then limiter.failures.all.take 1 else []) ++
    if limiter.sourceIsFull source then
      (limiter.failures.timesOf (sourceKey source)).take 1
    else []

/-- Return whether a pair setup M1 may start now. -/
def check (limiter : PairFailureLimiter) (source : Option String) (now : ℚ) :
    PairFailureLimiter × PairThrottle :=
  let pruned := limiter.prune now
  match (pruned.candidates source).min? with
  | none => (pruned, { allowed := true })
  | some oldest => (pruned, { allowed := false, retryAfter := pruned.retryAfter now oldest })

/-- Record one failed pair setup. Once either limit is full, nothing is stored. -/
def recordFailure (limiter : PairFailureLimiter) (source : Option String) (now : ℚ) :
    PairFailureLimiter :=
  let pruned := limiter.prune now
  if pruned.globalIsFull then pruned
  else if pruned.sourceIsFull source then pruned
  else
    { pruned with
      failures := pruned.failures.record pruned.maxSources (sourceKey source) now }

end PairFailureLimiter

end CompanionBridge
