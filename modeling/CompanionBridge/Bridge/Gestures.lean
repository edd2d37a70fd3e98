import CompanionBridge.Bridge.Keymap
import CompanionBridge.Library.Doubles

/-!
# Touch stream to discrete directions

`SwipeTranslator` keeps the start and the last point of the gesture in
progress and resolves it on release: a tap within `tapMaxTravel`, a direction
past `swipeThreshold` when one axis dominates, and nothing in between. Coordinates
are integers of any size, and the comparison of the axes goes through a double:
where none is near the shorter axis, it raises.
-/

namespace CompanionBridge

/-- Normalised touch phases. `other` stands for any action name outside the table. -/
inductive TouchAction where
  | press | hold | release | click | other
  deriving DecidableEq, Repr

/-- `TOUCH_ACTION_NAMES`: the raw Companion `_tPh` codes. -/
def touchActionNames (phase : Int) : Option TouchAction :=
  if phase = 1 then some .press
  else if phase = 2 then some .hold
  else if phase = 3 then some .hold
  else if phase = 4 then some .release
  else if phase = 5 then some .click
  else none

/-- Tuning of the swipe interpreter. -/
structure GestureConfig where
  tapMaxTravel : Int := 60
  swipeThreshold : Int := 120
  dominantRatio : ℚ := Doubles.rounded (13 / 10)
  repeatEvery : Int := 0
  maxRepeat : Int := 10
  invertX : Bool := false
  invertY : Bool := false
  deriving DecidableEq

/-- The gesture in progress: where it started and the last point reported. -/
structure Track where
  startX : Int
  startY : Int
  lastX : Int
  lastY : Int
  deriving DecidableEq, Repr

structure SwipeTranslator where
  config : GestureConfig := {}
  track : Option Track := none
  deriving DecidableEq

namespace SwipeTranslator

def applyInversion (config : GestureConfig) (dx dy : Int) : Int × Int :=
  (if config.invertX then -dx else dx, if config.invertY then -dy else dy)

/-- The dominant direction of a displacement and its travel, when it is a clear
swipe; `none` when the comparison raises. -/
def dominantDirection (config : GestureConfig) (dx dy : Int) : Option (Option (Gesture × Int)) :=
  let absDx := |dx|
  let absDy := |dy|
  if max absDx absDy < config.swipeThreshold then some none
  else if absDx ≥ absDy then
    -- The product is an `OverflowError` for an integer that has no double.
    (Doubles.mulInt absDy config.dominantRatio).map fun bound =>
      if Doubles.intLt absDx bound then none
      else some (if dx > 0 then .right else .left, absDx)
  else
    (Doubles.mulInt absDx config.dominantRatio).map fun bound =>
      if Doubles.intLt absDy bound then none
      else some (if dy > 0 then .down else .up, absDy)

def repeatCount (config : GestureConfig) (dominantTravel : Int) : Int :=
  if config.repeatEvery ≤ 0 then 1
  else min (max 1 (dominantTravel / config.repeatEvery)) config.maxRepeat

/-- Resolve a finished gesture from its two end points. -/
def resolve (config : GestureConfig) (x₀ y₀ x₁ y₁ : Int) : Option (List Gesture) :=
  let d := applyInversion config (x₁ - x₀) (y₁ - y₀)
  if max |d.1| |d.2| ≤ config.tapMaxTravel then some [.select]
  else
    (dominantDirection config d.1 d.2).map fun resolved =>
      match resolved with
      | none => []
      | some (direction, dominant) =>
          List.replicate (repeatCount config dominant).toNat direction

/-- Feed one touch point. Unknown actions leave the translator alone; a release
forgets the gesture before it resolves it, also when that raises. -/
def feed (swipe : SwipeTranslator) (action : TouchAction) (cx cy : Int) :
    SwipeTranslator × Option (List Gesture) :=
  match action with
  | .press => ({ swipe with track := some ⟨cx, cy, cx, cy⟩ }, some [])
  | .hold =>
      match swipe.track with
      | none => (swipe, some [])
      | some track =>
          ({ swipe with track := some { track with lastX := cx, lastY := cy } }, some [])
  -- a click ends the touch without a release of its own
  | .click => ({ swipe with track := none }, some [.select])
  -- only the release resolves a direction, which may raise
  | .release =>
      match swipe.track with
      | none => (swipe, some [])
      | some track =>
          ({ swipe with track := none }, resolve swipe.config track.startX track.startY cx cy)
  | .other => (swipe, some [])

/-- The direction the gesture in progress points to so far, if it is a clear swipe. -/
def currentDirection (swipe : SwipeTranslator) : Option (Option Gesture) :=
  match swipe.track with
  | none => some none
  | some track =>
      let d := applyInversion swipe.config (track.lastX - track.startX)
        (track.lastY - track.startY)
      (dominantDirection swipe.config d.1 d.2).map fun resolved => resolved.map Prod.fst

/-- Feeding never changes the configuration. -/
@[simp] theorem feed_config (swipe : SwipeTranslator) (action : TouchAction) (cx cy : Int) :
    (swipe.feed action cx cy).1.config = swipe.config := by
  cases action <;> simp only [feed] <;> cases swipe.track <;> rfl

/-- A clear swipe never points to a tap. -/
theorem dominantDirection_ne_select {config : GestureConfig} {dx dy : Int} {direction : Gesture}
    {dominant : Int} (hdominant : dominantDirection config dx dy = some (some (direction, dominant))) :
    direction ≠ .select := by
  simp only [dominantDirection] at hdominant
  split at hdominant
  · exact absurd (Option.some.inj hdominant) (Option.some_ne_none _).symm
  · split at hdominant
    all_goals
      rw [Option.map_eq_some_iff] at hdominant
      obtain ⟨bound, -, hdirection⟩ := hdominant
      split_ifs at hdirection
      all_goals
        obtain ⟨rfl, -⟩ := Prod.mk.inj (Option.some.inj hdirection)
        decide

/-- The direction in progress is never a tap. -/
theorem currentDirection_ne_select (swipe : SwipeTranslator) :
    swipe.currentDirection ≠ some (some .select) := by
  intro hselect
  unfold currentDirection at hselect
  cases htrack : swipe.track with
  | none => simp [htrack] at hselect
  | some track =>
      simp only [htrack, Option.map_eq_some_iff] at hselect
      obtain ⟨resolved, hdominant, ⟨direction, dominant⟩, rfl, rfl⟩ := hselect
      exact dominantDirection_ne_select hdominant rfl

/-- The comparison of the axes raises past the threshold, when no double is near
the shorter one. -/
theorem dominantDirection_eq_none_iff {config : GestureConfig} {dx dy : Int} :
    dominantDirection config dx dy = none ↔
      config.swipeThreshold ≤ max |dx| |dy| ∧ Doubles.overflowBound ≤ min |dx| |dy| := by
  unfold dominantDirection
  by_cases hshort : max |dx| |dy| < config.swipeThreshold
  · rw [if_pos hshort]
    exact iff_of_false nofun fun hlong => absurd hlong.1 hshort.not_ge
  · rw [if_neg hshort]
    by_cases haxis : |dx| ≥ |dy|
    · rw [if_pos haxis, Option.map_eq_none_iff, Doubles.mulInt_eq_none_iff, abs_abs,
        min_eq_right haxis]
      exact (and_iff_right (not_lt.mp hshort)).symm
    · rw [if_neg haxis, Option.map_eq_none_iff, Doubles.mulInt_eq_none_iff, abs_abs,
        min_eq_left (not_le.mp haxis).le]
      exact (and_iff_right (not_lt.mp hshort)).symm

/-- Inversion may turn a distance round, and never changes its length. -/
theorem abs_applyInversion (config : GestureConfig) (dx dy : Int) :
    |(applyInversion config dx dy).1| = |dx| ∧ |(applyInversion config dx dy).2| = |dy| := by
  unfold applyInversion
  constructor
  · dsimp only
    split
    · exact abs_neg dx
    · rfl
  · dsimp only
    split
    · exact abs_neg dy
    · rfl

/-- How far a gesture has gone when no double is near its shorter axis. -/
def OutOfRange (config : GestureConfig) (track : Track) (cx cy : Int) : Prop :=
  config.swipeThreshold ≤ max |cx - track.startX| |cy - track.startY| ∧
    Doubles.overflowBound ≤ min |cx - track.startX| |cy - track.startY|

instance (config : GestureConfig) (track : Track) (cx cy : Int) :
    Decidable (OutOfRange config track cx cy) :=
  inferInstanceAs (Decidable (_ ∧ _))

/-- The dominant direction fails exactly on the distances that are out of range, inverted or
not. -/
theorem dominantDirection_applyInversion (config : GestureConfig) (track : Track) (cx cy : Int) :
    dominantDirection config
        (applyInversion config (cx - track.startX) (cy - track.startY)).1
        (applyInversion config (cx - track.startX) (cy - track.startY)).2 = none ↔
      OutOfRange config track cx cy := by
  obtain ⟨habsX, habsY⟩ := abs_applyInversion config (cx - track.startX) (cy - track.startY)
  rw [dominantDirection_eq_none_iff, habsX, habsY]
  exact Iff.rfl

/-- Asking for the direction after a hold frame raises. -/
theorem currentDirection_feed_hold {swipe : SwipeTranslator} {cx cy : Int} :
    (swipe.feed .hold cx cy).1.currentDirection = none ↔
      ∃ track ∈ swipe.track, OutOfRange swipe.config track cx cy := by
  cases htrack : swipe.track with
  | none => simp [feed, currentDirection, htrack]
  | some track =>
      simp only [feed, currentDirection, htrack, Option.map_eq_none_iff, Option.mem_some_iff,
        exists_eq_left']
      exact dominantDirection_applyInversion swipe.config track cx cy

/-- Resolving a gesture raises on a release, past the travel of a tap. -/
theorem feed_eq_none_iff {swipe : SwipeTranslator} {action : TouchAction} {cx cy : Int} :
    (swipe.feed action cx cy).2 = none ↔
      action = .release ∧ ∃ track ∈ swipe.track, OutOfRange swipe.config track cx cy ∧
        swipe.config.tapMaxTravel < max |cx - track.startX| |cy - track.startY| := by
  cases action with
  | press => simp [feed]
  | hold => cases htrack : swipe.track <;> simp [feed, htrack]
  | click => simp [feed]
  | other => simp [feed]
  | release =>
      cases htrack : swipe.track with
      | none => simp [feed, htrack]
      | some track =>
          obtain ⟨habsX, habsY⟩ :=
            abs_applyInversion swipe.config (cx - track.startX) (cy - track.startY)
          simp only [feed, htrack, resolve, habsX, habsY, Option.mem_some_iff, exists_eq_left',
            true_and]
          split
          · rename_i htap
            exact iff_of_false nofun fun hfar => absurd htap hfar.2.not_ge
          · rename_i hfar
            rw [Option.map_eq_none_iff, dominantDirection_applyInversion]
            exact (and_iff_left (not_le.mp hfar)).symm

end SwipeTranslator

end CompanionBridge
