import Mathlib.Data.Int.Log
import Mathlib.Data.Rat.Floor
import Mathlib.Algebra.Order.Floor.Ring
import Mathlib.Tactic.Linarith
import Mathlib.Tactic.NormNum
import Mathlib.Tactic.Ring

/-!
# Doubles

The values of a binary double and the rounding to the nearest one, ties to
even. A magnitude is beyond them from halfway between the greatest double and
the next power of two on. A difference of two doubles on one grid is exact while
it is no more than a significand of steps.
-/

namespace Doubles

/-- The value of a double. The sign of a zero is left out. -/
inductive Double where
  | finite (value : ℚ)
  | infinite (negative : Bool)
  | nan
  deriving DecidableEq

/-- The nearest integer, the even one of two. -/
def halfEven (value : ℚ) : ℤ :=
  if value - ⌊value⌋ < 1 / 2 then ⌊value⌋
  else if 1 / 2 < value - ⌊value⌋ then ⌊value⌋ + 1
  else if ⌊value⌋ % 2 = 0 then ⌊value⌋ else ⌊value⌋ + 1

/-- The distance of neighbouring doubles of a magnitude. -/
def spacing (magnitude : ℚ) : ℚ :=
  (2 : ℚ) ^ max (Int.log 2 magnitude - 52) (-1074)

/-- The nearest double of a magnitude, if doubles had no upper bound. -/
def onGrid (magnitude : ℚ) : ℚ :=
  halfEven (magnitude / spacing magnitude) * spacing magnitude

/-- The nearest double of a value, if doubles had no upper bound. -/
def rounded (value : ℚ) : ℚ :=
  if value < 0 then -onGrid |value| else onGrid |value|

/-- The nearest double. -/
def nearest (value : ℚ) : Double :=
  if (2 : ℚ) ^ (1024 : ℤ) ≤ onGrid |value| then .infinite (value < 0)
  else .finite (rounded value)

/-- A finite double is its own nearest one. -/
def IsDouble (value : ℚ) : Prop :=
  nearest value = .finite value

instance (value : ℚ) : Decidable (IsDouble value) :=
  inferInstanceAs (Decidable (nearest value = .finite value))

/-- The difference of two doubles of one sign, which no bound is in the way of. -/
def sub (minuend subtrahend : ℚ) : ℚ :=
  rounded (minuend - subtrahend)

/-! ## Rounding to an integer -/

/-- Rounding to an integer does not pass an integer above. -/
theorem halfEven_le {value : ℚ} {bound : ℤ} (hbound : value ≤ bound) :
    halfEven value ≤ bound := by
  have hfloor : ⌊value⌋ ≤ bound := Int.floor_le_iff.mpr (by linarith)
  rcases hfloor.lt_or_eq with hbelow | rfl
  · unfold halfEven
    split_ifs <;> omega
  · have hexact : value - ⌊value⌋ < 1 / 2 := by linarith
    rw [halfEven, if_pos hexact]

theorem le_halfEven {value : ℚ} {bound : ℤ} (hbound : (bound : ℚ) ≤ value) :
    bound ≤ halfEven value := by
  have hfloor : bound ≤ ⌊value⌋ := Int.le_floor.mpr hbound
  unfold halfEven
  split_ifs <;> omega

/-- From halfway on an even number is the nearest one. -/
theorem le_halfEven_iff {value : ℚ} {bound : ℤ} (heven : bound % 2 = 0) :
    bound ≤ halfEven value ↔ (bound : ℚ) - 1 / 2 ≤ value := by
  constructor
  · intro hreached
    by_contra hshort
    rw [not_le] at hshort
    have hfloor : ⌊value⌋ < bound := Int.floor_lt.mpr (by linarith)
    by_cases hnext : ⌊value⌋ + 1 = bound
    · have hcast : (⌊value⌋ : ℚ) + 1 = bound := by exact_mod_cast hnext
      rw [halfEven, if_pos (by linarith)] at hreached
      omega
    · unfold halfEven at hreached
      split_ifs at hreached <;> omega
  · intro hhalf
    by_cases hwhole : (bound : ℚ) ≤ value
    · exact le_halfEven hwhole
    · rw [not_le] at hwhole
      have hfloor : ⌊value⌋ = bound - 1 := by
        rw [Int.floor_eq_iff]
        push_cast
        constructor <;> linarith
      have hcast : (⌊value⌋ : ℚ) = bound - 1 := by
        rw [hfloor]
        push_cast
        rfl
      rw [halfEven, if_neg (by linarith)]
      split_ifs <;> omega

/-! ## Overflow -/

theorem spacing_pos (magnitude : ℚ) : 0 < spacing magnitude :=
  zpow_pos (by norm_num) _

/-- A power of two from the spacing on is a whole number of spacings. -/
theorem zpow_eq_mul_spacing {magnitude : ℚ} {exponent : ℕ}
    (hexponent : max (Int.log 2 magnitude - 52) (-1074) ≤ exponent) :
    ∃ steps : ℕ, (2 : ℚ) ^ (exponent : ℤ) = ((2 ^ steps : ℤ) : ℚ) * spacing magnitude ∧
      (steps : ℤ) = exponent - max (Int.log 2 magnitude - 52) (-1074) := by
  refine ⟨(exponent - max (Int.log 2 magnitude - 52) (-1074)).toNat, ?_, ?_⟩
  · rw [spacing]
    push_cast
    rw [← zpow_natCast, ← zpow_add₀ (by norm_num)]
    congr 1
    omega
  · omega

/-- The magnitudes that no double reaches: from halfway between the greatest
double and the next power of two on. -/
theorem overflow_iff {magnitude : ℚ} (hpositive : 0 < magnitude) :
    (2 : ℚ) ^ (1024 : ℤ) ≤ onGrid magnitude ↔
      (2 : ℚ) ^ (1024 : ℤ) - 2 ^ (970 : ℤ) ≤ magnitude := by
  have hspacing := spacing_pos magnitude
  have hlow := Int.zpow_log_le_self (b := 2) one_lt_two hpositive
  have hhigh := Int.lt_zpow_succ_log_self (b := 2) one_lt_two magnitude
  push_cast at hlow hhigh
  have htwice : (2 : ℚ) ^ (1024 : ℤ) = 2 * 2 ^ (1023 : ℤ) := by
    rw [← zpow_one_add₀ (by norm_num)]
    norm_num
  have hsmall : (2 : ℚ) ^ (970 : ℤ) ≤ 2 ^ (1023 : ℤ) :=
    zpow_le_zpow_right₀ one_le_two (by norm_num)
  rcases lt_trichotomy (Int.log 2 magnitude) 1023 with hless | hequal | hmore
  · -- Below half the bound nothing rounds up to it.
    have hbelow : magnitude < 2 ^ (1023 : ℤ) :=
      hhigh.trans_le (zpow_le_zpow_right₀ one_le_two (by omega))
    obtain ⟨steps, hgrid, -⟩ := @zpow_eq_mul_spacing magnitude 1023 (by omega)
    have hrounded : onGrid magnitude ≤ 2 ^ (1023 : ℤ) := by
      have hsteps : magnitude / spacing magnitude ≤ ((2 ^ steps : ℤ) : ℚ) := by
        rw [div_le_iff₀ hspacing, ← hgrid]
        exact hbelow.le
      calc onGrid magnitude
          ≤ ((2 ^ steps : ℤ) : ℚ) * spacing magnitude := by
            refine mul_le_mul_of_nonneg_right ?_ hspacing.le
            exact_mod_cast halfEven_le hsteps
        _ = 2 ^ (1023 : ℤ) := hgrid.symm
    have hgrows : (0 : ℚ) < 2 ^ (1023 : ℤ) := zpow_pos (by norm_num) _
    rw [htwice]
    clear hlow hhigh htwice hgrid
    generalize (2 : ℚ) ^ (1023 : ℤ) = half at *
    generalize (2 : ℚ) ^ (970 : ℤ) = tie at *
    constructor <;> intro hreached <;> linarith
  · -- One binade below the bound it is a whole, even number of spacings.
    obtain ⟨steps, hgrid, hcount⟩ := @zpow_eq_mul_spacing magnitude 1024 (by omega)
    have hsteps : steps = 53 := by omega
    subst hsteps
    have hhalf : spacing magnitude = 2 * 2 ^ (970 : ℤ) := by
      rw [spacing, hequal, ← zpow_one_add₀ (by norm_num)]
      norm_num
    have heven : ((2 : ℤ) ^ 53) % 2 = 0 := by norm_num
    rw [show ((1024 : ℕ) : ℤ) = 1024 from rfl] at hgrid
    calc (2 : ℚ) ^ (1024 : ℤ) ≤ onGrid magnitude
        ↔ ((2 ^ 53 : ℤ) : ℚ) * spacing magnitude ≤
            halfEven (magnitude / spacing magnitude) * spacing magnitude := by
          rw [hgrid, onGrid]
      _ ↔ (2 : ℤ) ^ 53 ≤ halfEven (magnitude / spacing magnitude) := by
          rw [mul_le_mul_iff_left₀ hspacing]
          exact Int.cast_le
      _ ↔ ((2 ^ 53 : ℤ) : ℚ) - 1 / 2 ≤ magnitude / spacing magnitude :=
          le_halfEven_iff heven
      _ ↔ ((2 ^ 53 : ℤ) : ℚ) * spacing magnitude - 1 / 2 * spacing magnitude ≤ magnitude := by
          rw [le_div_iff₀ hspacing, sub_mul]
      _ ↔ (2 : ℚ) ^ (1024 : ℤ) - 2 ^ (970 : ℤ) ≤ magnitude := by
          rw [← hgrid, hhalf]
          ring_nf
  · -- From the bound on the spacing divides a power of two below the magnitude.
    have hgrid : ((2 ^ 52 : ℤ) : ℚ) * spacing magnitude = 2 ^ Int.log 2 magnitude := by
      have hfactor : ((2 ^ 52 : ℤ) : ℚ) = 2 ^ (52 : ℤ) := by norm_num
      have hexponent : 52 + (Int.log 2 magnitude - 52) = Int.log 2 magnitude := by omega
      rw [spacing, max_eq_left (by omega), hfactor, ← zpow_add₀ (by norm_num), hexponent]
    have hbound : (2 : ℚ) ^ (1024 : ℤ) ≤ 2 ^ Int.log 2 magnitude :=
      zpow_le_zpow_right₀ one_le_two (by omega)
    have hsteps : ((2 ^ 52 : ℤ) : ℚ) ≤ magnitude / spacing magnitude := by
      rw [le_div_iff₀ hspacing, hgrid]
      exact hlow
    have hrounded : (2 : ℚ) ^ Int.log 2 magnitude ≤ onGrid magnitude := by
      rw [← hgrid]
      refine mul_le_mul_of_nonneg_right ?_ hspacing.le
      exact_mod_cast le_halfEven hsteps
    have hpower : (0 : ℚ) < 2 ^ (970 : ℤ) := zpow_pos (by norm_num) _
    refine ⟨fun _ => ?_, fun _ => hbound.trans hrounded⟩
    exact (sub_le_self _ hpower.le).trans (hbound.trans hlow)

/-! ## Exact results -/

/-- An integer is its own rounding. -/
theorem halfEven_intCast (value : ℤ) : halfEven value = value :=
  le_antisymm (halfEven_le le_rfl) (le_halfEven le_rfl)

/-- A whole number of spacings is a value of the grid. -/
theorem onGrid_of_whole {magnitude : ℚ}
    (hwhole : ∃ count : ℤ, magnitude = count * spacing magnitude) :
    onGrid magnitude = magnitude := by
  obtain ⟨count, hcount⟩ := hwhole
  have hquotient : magnitude / spacing magnitude = count :=
    (div_eq_iff (spacing_pos magnitude).ne').mpr hcount
  rw [onGrid, hquotient, halfEven_intCast, ← hcount]

/-- Steps of a power of two, no more of them than a significand counts. -/
theorem onGrid_of_steps {steps : ℕ} {exponent : ℤ} (hsteps : steps ≤ 2 ^ 53)
    (hexponent : -1074 ≤ exponent) :
    onGrid (steps * (2 : ℚ) ^ exponent) = steps * (2 : ℚ) ^ exponent := by
  have hpower : (0 : ℚ) < 2 ^ exponent := zpow_pos two_pos _
  rcases hsteps.lt_or_eq with hbelow | hfull
  · -- The spacing divides the step, so every step is on the grid.
    have hlog : Int.log 2 ((steps : ℚ) * 2 ^ exponent) ≤ exponent + 52 ∨ steps = 0 := by
      rcases Nat.eq_zero_or_pos steps with hzero | hpos
      · exact .inr hzero
      · left
        have hmagnitude : (0 : ℚ) < steps * 2 ^ exponent :=
          mul_pos (Nat.cast_pos.mpr hpos) hpower
        have hlow := Int.zpow_log_le_self (b := 2) one_lt_two hmagnitude
        push_cast at hlow
        have hcount : (steps : ℚ) < 2 ^ (53 : ℤ) := by exact_mod_cast hbelow
        have hhigh : (2 : ℚ) ^ Int.log 2 ((steps : ℚ) * 2 ^ exponent) < 2 ^ (53 + exponent) := by
          rw [zpow_add₀ two_ne_zero]
          exact hlow.trans_lt (mul_lt_mul_of_pos_right hcount hpower)
        have hless := (zpow_lt_zpow_iff_right₀ one_lt_two).mp hhigh
        omega
    rcases hlog with hlog | rfl
    · obtain ⟨extra, hextra⟩ : ∃ extra : ℕ, (extra : ℤ) =
          exponent - max (Int.log 2 ((steps : ℚ) * 2 ^ exponent) - 52) (-1074) :=
        ⟨_, Int.toNat_of_nonneg (by omega)⟩
      have hpowers : (2 : ℚ) ^ exponent =
          ((2 ^ extra : ℤ) : ℚ) * spacing ((steps : ℚ) * 2 ^ exponent) := by
        rw [spacing]
        push_cast
        rw [← zpow_natCast, ← zpow_add₀ two_ne_zero, hextra]
        congr 1
        omega
      apply onGrid_of_whole
      refine ⟨(steps : ℤ) * 2 ^ extra, ?_⟩
      calc (steps : ℚ) * 2 ^ exponent
          = steps * (((2 ^ extra : ℤ) : ℚ) * spacing ((steps : ℚ) * 2 ^ exponent)) := by
            rw [← hpowers]
        _ = (((steps : ℤ) * 2 ^ extra : ℤ) : ℚ) * spacing ((steps : ℚ) * 2 ^ exponent) := by
            push_cast
            ring
    · rw [Nat.cast_zero, zero_mul]
      exact onGrid_of_whole ⟨0, by rw [Int.cast_zero, zero_mul]⟩
  · -- A full significand is half as many steps of the next spacing.
    have hmagnitude : (steps : ℚ) * 2 ^ exponent = 2 ^ (53 + exponent) := by
      rw [hfull, zpow_add₀ two_ne_zero]
      norm_num
    have hlog : Int.log 2 ((steps : ℚ) * 2 ^ exponent) = 53 + exponent := by
      rw [hmagnitude]
      exact_mod_cast Int.log_zpow (R := ℚ) one_lt_two (53 + exponent)
    have hfactor : ((2 ^ 52 : ℤ) : ℚ) = 2 ^ (52 : ℤ) := by norm_num
    have hexponents : 52 + (53 + exponent - 52) = 53 + exponent := by omega
    apply onGrid_of_whole
    refine ⟨2 ^ 52, ?_⟩
    rw [spacing, hlog, max_eq_left (by omega), hmagnitude, hfactor, ← zpow_add₀ two_ne_zero,
      hexponents]

/-- A double is a significand of steps of its own spacing. -/
theorem IsDouble.exists_steps {value : ℚ} (hdouble : IsDouble value) (hpositive : 0 < value) :
    ∃ steps : ℤ, 0 ≤ steps ∧ steps ≤ 2 ^ 53 ∧ value = steps * spacing value := by
  have hspacing := spacing_pos value
  have hgrid : value = halfEven (value / spacing value) * spacing value := by
    unfold IsDouble nearest at hdouble
    split_ifs at hdouble
    have hrounded := Double.finite.inj hdouble
    rw [rounded, if_neg hpositive.not_gt, abs_of_pos hpositive, onGrid] at hrounded
    exact hrounded.symm
  refine ⟨halfEven (value / spacing value), ?_, ?_, hgrid⟩
  · apply le_halfEven
    exact_mod_cast (div_pos hpositive hspacing).le
  · apply halfEven_le
    have hhigh := Int.lt_zpow_succ_log_self (b := 2) one_lt_two value
    push_cast at hhigh
    have hfactor : ((2 ^ 53 : ℤ) : ℚ) = 2 ^ (53 : ℤ) := by norm_num
    rw [div_le_iff₀ hspacing, hfactor, spacing, ← zpow_add₀ two_ne_zero]
    exact hhigh.le.trans (zpow_le_zpow_right₀ one_le_two (by omega))

/-- One is a whole number of the spacings from one to the last whole significand. -/
theorem exists_one_eq_mul_spacing {value : ℚ} (hlow : 1 ≤ value) (hhigh : value < 2 ^ (53 : ℤ)) :
    ∃ whole : ℤ, 0 ≤ whole ∧ 1 = whole * spacing value := by
  have hlog : Int.log 2 value < 53 := by
    have hself := Int.zpow_log_le_self (b := 2) one_lt_two (one_pos.trans_le hlow)
    push_cast at hself
    exact (zpow_lt_zpow_iff_right₀ one_lt_two).mp (hself.trans_lt hhigh)
  have hlognonneg : 0 ≤ Int.log 2 value := by
    have hone := Int.log_mono_right (b := 2) one_pos hlow
    rwa [Int.log_one_right] at hone
  obtain ⟨exponent, hexponent⟩ : ∃ exponent : ℕ, (exponent : ℤ) = 52 - Int.log 2 value :=
    ⟨_, Int.toNat_of_nonneg (by omega)⟩
  have hcancel : 52 - Int.log 2 value + (Int.log 2 value - 52) = 0 := by ring
  refine ⟨2 ^ exponent, by positivity, ?_⟩
  rw [spacing, max_eq_left (by omega)]
  push_cast
  rw [← zpow_natCast, ← zpow_add₀ two_ne_zero, hexponent, hcancel, zpow_zero]

/-- A number of few enough steps on a fine enough grid is a double. -/
theorem rounded_of_steps {value : ℚ} {steps exponent : ℤ} (hvalue : value = steps * 2 ^ exponent)
    (hsteps : steps.natAbs ≤ 2 ^ 53) (hexponent : -1074 ≤ exponent) : rounded value = value := by
  have hmagnitude : |value| = (steps.natAbs : ℚ) * 2 ^ exponent := by
    have hpower : (0 : ℚ) < 2 ^ exponent := zpow_pos two_pos _
    rw [hvalue, abs_mul, abs_of_pos hpower, ← Int.cast_abs, Nat.cast_natAbs]
  have hexact : onGrid |value| = |value| := by
    rw [hmagnitude]
    exact onGrid_of_steps hsteps hexponent
  rw [rounded, hexact]
  split
  · rename_i hnegative
    rw [abs_of_neg hnegative, neg_neg]
  · rename_i hnonneg
    exact abs_of_nonneg (not_lt.mp hnonneg)

/-- A whole number that is at most twice a double is taken from it exactly. -/
theorem sub_natCast {value : ℚ} (hdouble : IsDouble value) (hlow : 1 ≤ value)
    (hhigh : value < 2 ^ (53 : ℤ)) {count : ℕ} (hcount : (count : ℚ) ≤ 2 * value) :
    sub value count = value - count := by
  obtain ⟨steps, hnonneg, hsteps, hvalue⟩ := hdouble.exists_steps (one_pos.trans_le hlow)
  obtain ⟨whole, hwhole, hone⟩ := exists_one_eq_mul_spacing hlow hhigh
  have htaken : (count : ℚ) = ((count * whole : ℤ) : ℚ) * spacing value := by
    push_cast
    rw [mul_assoc, ← hone, mul_one]
  have hdifference : value - count = ((steps - count * whole : ℤ) : ℚ) * spacing value := by
    rw [Int.cast_sub, sub_mul, ← hvalue, ← htaken]
  have htwice : count * whole ≤ 2 * steps := by
    have hscaled : ((count * whole : ℤ) : ℚ) * spacing value ≤
        ((2 * steps : ℤ) : ℚ) * spacing value := by
      rw [← htaken, Int.cast_mul, mul_assoc, ← hvalue]
      exact hcount
    exact_mod_cast le_of_mul_le_mul_right hscaled (spacing_pos value)
  have hsmall : (steps - count * whole).natAbs ≤ 2 ^ 53 := by
    have hcounted : 0 ≤ count * whole := mul_nonneg (Int.natCast_nonneg count) hwhole
    generalize count * whole = taken at *
    omega
  exact rounded_of_steps hdifference hsmall (le_max_right _ _)

/-- What is below zero by more than the finest step stays below it. -/
theorem rounded_neg {value : ℚ} (hvalue : value ≤ -1) : rounded value < 0 := by
  have hnegative : value < 0 := hvalue.trans_lt (by norm_num)
  have hmagnitude : 1 ≤ |value| := by
    rw [abs_of_neg hnegative]
    linarith
  have hspacing := spacing_pos |value|
  have hfine : spacing |value| ≤ |value| := by
    have hpositive : 0 < |value| := one_pos.trans_le hmagnitude
    have hself := Int.zpow_log_le_self (b := 2) one_lt_two hpositive
    have hlog := Int.log_mono_right (b := 2) one_pos hmagnitude
    rw [Int.log_one_right] at hlog
    push_cast at hself
    rw [spacing]
    exact (zpow_le_zpow_right₀ one_le_two (by omega)).trans hself
  have hsteps : (1 : ℤ) ≤ halfEven (|value| / spacing |value|) := by
    apply le_halfEven
    rw [Int.cast_one, le_div_iff₀ hspacing, one_mul]
    exact hfine
  rw [rounded, if_pos hnegative, onGrid]
  have hcast : (1 : ℚ) ≤ halfEven (|value| / spacing |value|) := by exact_mod_cast hsteps
  have := mul_pos (one_pos.trans_le hcast) hspacing
  linarith

/-- The double of an integer; `none` when it is too large for one. -/
def ofInt (value : ℤ) : Option ℚ :=
  match nearest value with
  | .finite double => some double
  | .infinite _ | .nan => none

/-- The least magnitude of an integer that is too large for a double. -/
def overflowBound : ℤ := 2 ^ 1024 - 2 ^ 970

/-- The least magnitude that rounds beyond the largest double. -/
theorem overflowBound_cast :
    ((overflowBound : ℤ) : ℚ) = (2 : ℚ) ^ (1024 : ℤ) - 2 ^ (970 : ℤ) := by
  rw [overflowBound, Int.cast_sub, Int.cast_pow, Int.cast_pow, Int.cast_ofNat]
  exact congrArg₂ (· - ·) (zpow_natCast 2 1024).symm (zpow_natCast 2 970).symm

theorem overflowBound_pos : 0 < overflowBound :=
  Int.sub_pos_of_lt (pow_lt_pow_right₀ one_lt_two (by omega))

/-- When `float` of an integer raises `OverflowError`. -/
theorem ofInt_eq_none_iff (value : ℤ) : ofInt value = none ↔ overflowBound ≤ |value| := by
  have hoverflow : ofInt value = none ↔ (2 : ℚ) ^ (1024 : ℤ) ≤ onGrid |(value : ℚ)| := by
    unfold ofInt nearest
    by_cases hlarge : (2 : ℚ) ^ (1024 : ℤ) ≤ onGrid |(value : ℚ)|
    · rw [if_pos hlarge]
      exact iff_of_true rfl hlarge
    · rw [if_neg hlarge]
      exact iff_of_false (Option.some_ne_none _) hlarge
  rw [hoverflow]
  rcases eq_or_ne value 0 with rfl | hvalue
  · have hzero : onGrid |((0 : ℤ) : ℚ)| = 0 := by
      have hhalf : halfEven 0 = 0 :=
        le_antisymm (halfEven_le le_rfl) (le_halfEven le_rfl)
      rw [Int.cast_zero, abs_zero, onGrid, zero_div, hhalf, Int.cast_zero, zero_mul]
    rw [hzero, abs_zero]
    have hpower : (0 : ℚ) < 2 ^ (1024 : ℤ) := zpow_pos two_pos _
    exact ⟨fun hreached => absurd hreached hpower.not_ge,
      fun hreached => absurd hreached overflowBound_pos.not_ge⟩
  · have hmagnitude : 0 < |(value : ℚ)| := abs_pos.mpr (Int.cast_ne_zero.mpr hvalue)
    rw [overflow_iff hmagnitude, ← overflowBound_cast, ← Int.cast_abs, Int.cast_le]

/-! ## Integers against doubles -/

/-- The product of an integer and a double; `none` when no double is near the integer. -/
def mulInt (value : ℤ) (factor : ℚ) : Option Double :=
  (ofInt value).map fun double => nearest (double * factor)

/-- An integer is below a double; the comparison itself is exact. -/
def intLt (value : ℤ) : Double → Bool
  | .finite double => (value : ℚ) < double
  | .infinite negative => !negative
  | .nan => false

/-- When an integer times a float does. -/
theorem mulInt_eq_none_iff {value : ℤ} {factor : ℚ} :
    mulInt value factor = none ↔ overflowBound ≤ |value| := by
  rw [mulInt, Option.map_eq_none_iff, ofInt_eq_none_iff]

end Doubles
