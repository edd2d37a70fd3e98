import CompanionBridge.Library.Brackets
import CompanionBridge.Library.History
import CompanionBridge.Companion.Relay

/-!
# The holds of a touch stream

Over any sequence of touch points the relay's START and STOP commands bracket
one hold at a time, and a START silences taps and swipes until the next press. It
is earned by a dwell of hold frames that agree on a direction, as long as the
direction of each can be computed and the time that passed is not rounded up.
-/

namespace CompanionBridge

open Brackets

/-- One call of `on_touch` with the clock reading it can make. -/
structure TouchCall where
  nowMs : ℚ
  action : TouchAction
  cx : Int
  cy : Int
  deriving DecidableEq

/-- What a command does to the hold in progress. The key is the Samsung key. -/
def holdMove (command : Command) : Move (Option String) :=
  match command.repeatPhase with
  | some .start => .opens command.samsungKey
  | some .stop => .closes command.samsungKey
  | none => .passes

namespace CommandRelay

/-- A relay as `__init__` leaves it. -/
def create (gestureConfig : GestureConfig) (holdConfig : DirectionalHoldConfig)
    (selectDedupeMs : ℚ) : CommandRelay :=
  { swipe := { config := gestureConfig }, holdConfig := holdConfig,
    selectDedupeMs := selectDedupeMs }

def touch (relay : CommandRelay) (call : TouchCall) : CommandRelay × List Command :=
  relay.onTouch call.nowMs call.action call.cx call.cy

/-- The relay after a sequence of touch points. -/
def afterTouches (relay : CommandRelay) (calls : List TouchCall) : CommandRelay :=
  calls.foldl (fun reached call => (reached.touch call).1) relay

/-- What the last of a sequence of touch points hands to the sink. -/
def commandsAt (relay : CommandRelay) (calls : List TouchCall) (call : TouchCall) : List Command :=
  ((relay.afterTouches calls).touch call).2

/-- Everything a sequence of touch points hands to the sink. -/
def touchCommands : CommandRelay → List TouchCall → List Command
  | _, [] => []
  | relay, call :: rest => (relay.touch call).2 ++ (relay.touch call).1.touchCommands rest

/-- The direction of the gesture in progress once a touch point was fed; `none`
when asking for it raises. -/
def reportedAt (relay : CommandRelay) (calls : List TouchCall) (call : TouchCall) :
    Option (Option Gesture) :=
  ((relay.afterTouches calls).feedSwipe call.action call.cx call.cy).1.swipe.currentDirection

/-- From the hold frame at `sinceMs` on, every hold frame reported `direction`
and nothing but hold frames and unknown actions came. -/
def DwellsFrom (relay : CommandRelay) (calls : List TouchCall) (direction : Gesture)
    (sinceMs : ℚ) : Prop :=
  ∃ early first dwell, calls = early ++ first :: dwell ∧ first.action = .hold ∧
    first.nowMs = sinceMs ∧
    History.Always (fun before call => call.action = .other ∨
      call.action = .hold ∧ relay.reportedAt (early ++ before) call = some (some direction))
      (first :: dwell)

/-- A direction is remembered and its hold has not started. -/
def Dwelling (relay : CommandRelay) : Prop :=
  relay.holdDir ≠ none ∧ relay.holdActive = false

/-- A hold frame of a dwell whose axes doubles can compare, at a reading that is not
rounded up to the end of the dwell. -/
structure Measured (relay : CommandRelay) (call : TouchCall) : Prop where
  inRange : ∀ track ∈ relay.swipe.track,
    ¬ SwipeTranslator.OutOfRange relay.swipe.config track call.cx call.cy
  unrounded : call.nowMs - relay.holdSinceMs < relay.holdConfig.activateMs →
    Doubles.sub call.nowMs relay.holdSinceMs < relay.holdConfig.activateMs

/-- Every hold frame of a dwell is measured. -/
def MeasuredThroughout (relay : CommandRelay) (calls : List TouchCall) : Prop :=
  History.Always (fun before call => call.action = .hold → (relay.afterTouches before).Dwelling →
    (relay.afterTouches before).Measured call) calls

variable {relay : CommandRelay} {calls : List TouchCall} {call : TouchCall}

@[simp] theorem afterTouches_nil : relay.afterTouches [] = relay := rfl

@[simp] theorem afterTouches_snoc :
    relay.afterTouches (calls ++ [call]) = ((relay.afterTouches calls).touch call).1 := by
  simp [afterTouches, List.foldl_append]

theorem touchCommands_snoc :
    relay.touchCommands (calls ++ [call]) = relay.touchCommands calls ++ relay.commandsAt calls call := by
  induction calls generalizing relay with
  | nil => simp [touchCommands, commandsAt]
  | cons first rest ih =>
      simp only [List.cons_append, touchCommands, ih, List.append_assoc]
      rfl

/-- With holds, a hold frame feeds the translator and then looks at the dwell. -/
theorem touch_of_hold (henabled : relay.holdConfig.enabled = true) (haction : call.action = .hold) :
    relay.touch call = (relay.feedSwipe .hold call.cx call.cy).1.updateHold call.nowMs := by
  simp only [touch, onTouch, henabled, haction]
  rfl

/-- An action the relay does not know is ignored. -/
theorem touch_of_other (henabled : relay.holdConfig.enabled = true)
    (haction : call.action = .other) : relay.touch call = (relay, []) := by
  simp only [touch, onTouch, henabled, haction]
  rfl

theorem touch_of_ended (henabled : relay.holdConfig.enabled = true)
    (haction : call.action = .release ∨ call.action = .click) :
    relay.touch call = relay.finishTouch call.nowMs call.action call.cx call.cy := by
  rcases haction with haction | haction
  all_goals
    simp only [touch, onTouch, henabled, haction]
    rfl

/-! ## One bracket at a time -/

/-- The hold in progress, as the bracket that is open. -/
def openHold (relay : CommandRelay) : Option (Option String) :=
  relay.heldKey.map some

/-- A change of the hold opens or closes one bracket. -/
theorem HoldChange.bracketed {decision : CommandRelay × List Command}
    (hchange : relay.HoldChange decision) :
    Bracketed holdMove relay.openHold decision.2 decision.1.openHold := by
  have hpasses : ∀ commands : List Command, (∀ command ∈ commands, command.repeatPhase = none) →
      ∀ command ∈ commands, holdMove command = .passes := by
    intro commands hplain command hcommand
    simp only [holdMove, hplain command hcommand]
  cases hchange with
  | unchanged after commands hkey hplain =>
      simp only [openHold, hkey]
      exact .of_passes (hpasses commands hplain) _
  | stopped after direction commands hbefore hafter hplain =>
      simp only [openHold, hbefore, hafter, Option.map_some, Option.map_none]
      exact .closes rfl (.of_passes (hpasses commands hplain) none)
  | started after direction hbefore hafter =>
      simp only [openHold, hbefore, hafter, Option.map_some, Option.map_none]
      exact .opens rfl (.nil _)

theorem touch_holdInvariant (hhold : relay.HoldInvariant) (call : TouchCall) :
    (relay.touch call).1.HoldInvariant :=
  (onTouch_change hhold call.nowMs call.action call.cx call.cy).2

theorem afterTouches_holdInvariant (hhold : relay.HoldInvariant) (calls : List TouchCall) :
    (relay.afterTouches calls).HoldInvariant := by
  induction calls using List.reverseRecOn with
  | nil => exact hhold
  | append_singleton calls call ih =>
      rw [afterTouches_snoc]
      exact touch_holdInvariant ih call

/-- The commands of any sequence of touch points are well bracketed. -/
theorem touchCommands_bracketed (hhold : relay.HoldInvariant) (calls : List TouchCall) :
    Bracketed holdMove relay.openHold (relay.touchCommands calls)
      (relay.afterTouches calls).openHold := by
  induction calls using List.reverseRecOn with
  | nil => exact .nil _
  | append_singleton calls call ih =>
      rw [touchCommands_snoc, afterTouches_snoc]
      have hreached := afterTouches_holdInvariant hhold calls
      exact ih.append (onTouch_change hreached call.nowMs call.action call.cx call.cy).1.bracketed

/-- Once a press, a release or a click was handled every START is closed. -/
theorem openHold_of_ended (hhold : relay.HoldInvariant) (calls : List TouchCall)
    (haction : call.action = .press ∨ call.action = .release ∨ call.action = .click) :
    (relay.afterTouches (calls ++ [call])).openHold = none := by
  rw [afterTouches_snoc, touch, openHold,
    onTouch_heldKey_eq_none (afterTouches_holdInvariant hhold calls) call.nowMs haction]
  rfl

/-! ## The dwell that earns a START -/

/-- A hold frame keeps the direction that dwells, or starts a dwell of the one it reports. -/
theorem updateHold_dwell {direction : Option Gesture}
    (hcurrent : relay.swipe.currentDirection = some direction) (nowMs : ℚ) :
    (relay.updateHold nowMs).1.holdDir = direction ∧
      (relay.holdDir = direction →
        (relay.updateHold nowMs).1.holdSinceMs = relay.holdSinceMs ∧
          ((relay.updateHold nowMs).1.holdActive = false → relay.holdActive = false)) ∧
      (relay.holdDir ≠ direction → direction.isSome = true →
        (relay.updateHold nowMs).1.holdSinceMs = nowMs) := by
  unfold updateHold
  rw [hcurrent]
  dsimp only
  by_cases hchanged : direction ≠ relay.holdDir
  · rw [if_pos hchanged]
    refine ⟨rfl, fun hsame => absurd hsame.symm hchanged, fun _ hsome => ?_⟩
    simp only [hsome, if_true]
  · rw [if_neg hchanged]
    rw [not_not] at hchanged
    subst hchanged
    refine ⟨?_, fun _ => ?_, fun hdiffers => absurd rfl hdiffers⟩
    all_goals
      cases hdir : relay.holdDir with
      | none => simp [hdir]
      | some held =>
          obtain ⟨lastMs, hemit, -⟩ := relay.emit_cases nowMs (holdCommand held .start)
          dsimp only
          split <;> simp [hemit, hdir]

/-- A hold frame whose direction cannot be computed changes nothing. -/
theorem updateHold_raised (hcurrent : relay.swipe.currentDirection = none) (nowMs : ℚ) :
    relay.updateHold nowMs = (relay, []) := by
  rw [updateHold, hcurrent]

/-- A START comes out of a hold frame alone, for the direction that has dwelled. -/
theorem updateHold_start {nowMs : ℚ} {command : Command}
    (hcommand : command ∈ (relay.updateHold nowMs).2)
    (hstart : command.repeatPhase = some .start) (hhold : relay.HoldInvariant) :
    ∃ direction, relay.holdDir = some direction ∧ relay.holdActive = false ∧
      relay.swipe.currentDirection = some (some direction) ∧
      relay.holdConfig.activateMs ≤ Doubles.sub nowMs relay.holdSinceMs ∧
      (relay.updateHold nowMs).2 = [holdCommand direction .start] ∧
      (relay.updateHold nowMs).1.holdWasActive = true := by
  cases hcurrent : relay.swipe.currentDirection with
  | none =>
      rw [updateHold_raised hcurrent] at hcommand
      exact absurd hcommand List.not_mem_nil
  | some direction =>
      unfold updateHold at hcommand ⊢
      rw [hcurrent] at hcommand ⊢
      dsimp only at hcommand ⊢
      by_cases hchanged : direction ≠ relay.holdDir
      · rw [if_pos hchanged] at hcommand
        rcases endHoldIfActive_cases hhold nowMs with ⟨-, hended⟩ | ⟨held, -, hended⟩
        · simp only [hended, List.not_mem_nil] at hcommand
        · simp only [hended, List.mem_singleton] at hcommand
          subst hcommand
          exact absurd hstart (by simp [holdCommand])
      · rw [if_neg hchanged] at hcommand ⊢
        rw [not_not] at hchanged
        cases direction with
        | none => exact absurd hcommand List.not_mem_nil
        | some held =>
            have hselect : held ≠ .select := by
              intro hsame
              apply relay.swipe.currentDirection_ne_select
              rw [hcurrent, hsame]
            simp only [emit_holdCommand _ _ hselect] at hcommand ⊢
            split at hcommand
            · rename_i hdwelled
              rw [if_pos hdwelled]
              rw [Bool.and_eq_true, Bool.not_eq_true', decide_eq_true_eq] at hdwelled
              exact ⟨held, hchanged.symm, hdwelled.1, rfl, hdwelled.2, rfl, rfl⟩
            · exact absurd hcommand List.not_mem_nil

theorem feed_ended_track (swipe : SwipeTranslator) {action : TouchAction}
    (haction : action = .release ∨ action = .click) (cx cy : Int) :
    (swipe.feed action cx cy).1.track = none := by
  rcases haction with rfl | rfl
  · simp only [SwipeTranslator.feed]
    split
    · assumption
    · rfl
  · rfl

/-- The end of a touch keeps the configuration and forgets the gesture, also when
its resolution raises. -/
theorem finishTouch_keeps (hhold : relay.HoldInvariant) (nowMs : ℚ) {action : TouchAction}
    (haction : action = .release ∨ action = .click) (cx cy : Int) :
    (relay.finishTouch nowMs action cx cy).1.holdConfig = relay.holdConfig ∧
      (relay.finishTouch nowMs action cx cy).1.swipe.track = none := by
  have htrack := feed_ended_track relay.swipe haction cx cy
  rcases finishTouch_cases hhold nowMs action cx cy with
    ⟨-, hafter⟩ | ⟨directions, -, ⟨-, hafter⟩ | ⟨-, -, -, hafter⟩ | ⟨-, -, hafter⟩⟩
  · rw [hafter]
    exact ⟨rfl, htrack⟩
  · rw [hafter]
    exact ⟨rfl, htrack⟩
  · rw [hafter]
    exact ⟨rfl, htrack⟩
  · obtain ⟨lastMs, hemitted, -⟩ :=
      (relay.fedAtRest action cx cy).emitGestures_cases nowMs directions
    rw [hafter, hemitted]
    exact ⟨rfl, htrack⟩

/-- A hold frame leaves the configuration, the translator and the silence alone. -/
theorem updateHold_keeps (hhold : relay.HoldInvariant) (nowMs : ℚ) :
    (relay.updateHold nowMs).1.holdConfig = relay.holdConfig ∧
      (relay.updateHold nowMs).1.swipe = relay.swipe ∧
      (relay.updateHold nowMs).1.suppressClickUntilPress = relay.suppressClickUntilPress ∧
      (relay.holdWasActive = true → (relay.updateHold nowMs).1.holdWasActive = true) := by
  unfold updateHold
  cases relay.swipe.currentDirection with
  | none => exact ⟨rfl, rfl, rfl, id⟩
  | some direction =>
      dsimp only
      split
      · rw [endHoldIfActive_holdActive hhold]
        exact ⟨rfl, rfl, rfl, id⟩
      · cases direction with
        | none => exact ⟨rfl, rfl, rfl, id⟩
        | some held =>
            obtain ⟨lastMs, hemit, -⟩ := relay.emit_cases nowMs (holdCommand held .start)
            dsimp only
            split
            · rw [hemit]
              exact ⟨rfl, rfl, rfl, fun _ => rfl⟩
            · exact ⟨rfl, rfl, rfl, id⟩

theorem touch_holdConfig (hhold : relay.HoldInvariant) (call : TouchCall) :
    (relay.touch call).1.holdConfig = relay.holdConfig := by
  unfold touch onTouch
  split
  · obtain ⟨lastMs, hemitted, -⟩ :=
      (relay.feedSwipe call.action call.cx call.cy).1.emitGestures_cases call.nowMs
        ((relay.feedSwipe call.action call.cx call.cy).2.getD [])
    rw [hemitted]
    rfl
  · cases call.action with
    | press => simp only [endHoldIfActive_holdActive hhold, feedSwipe, resetHoldState]
    | hold =>
        have hfed : (relay.feedSwipe .hold call.cx call.cy).1.HoldInvariant := ⟨hhold.1, hhold.2⟩
        exact (updateHold_keeps hfed call.nowMs).1
    | release => exact (finishTouch_keeps hhold call.nowMs (.inl rfl) call.cx call.cy).1
    | click => exact (finishTouch_keeps hhold call.nowMs (.inr rfl) call.cx call.cy).1
    | other => rfl

theorem afterTouches_holdConfig (hhold : relay.HoldInvariant) (calls : List TouchCall) :
    (relay.afterTouches calls).holdConfig = relay.holdConfig := by
  induction calls using List.reverseRecOn with
  | nil => rfl
  | append_singleton calls call ih =>
      rw [afterTouches_snoc, touch_holdConfig (afterTouches_holdInvariant hhold calls), ih]

/-- A dwell goes on through frames that report the same direction. -/
theorem DwellsFrom.snoc {direction : Gesture} {sinceMs : ℚ}
    (hdwells : relay.DwellsFrom calls direction sinceMs)
    (hcall : call.action = .other ∨
      call.action = .hold ∧ relay.reportedAt calls call = some (some direction)) :
    relay.DwellsFrom (calls ++ [call]) direction sinceMs := by
  obtain ⟨early, first, dwell, rfl, hfirst, hsince, halways⟩ := hdwells
  refine ⟨early, first, dwell ++ [call], by simp, hfirst, hsince, ?_⟩
  rw [← List.cons_append]
  exact halways.snoc hcall

/-- The last touch point of a dwell reports its direction, unless its action is unknown. -/
theorem DwellsFrom.last {direction : Gesture} {sinceMs : ℚ}
    (hdwells : relay.DwellsFrom (calls ++ [call]) direction sinceMs) :
    call.action = .other ∨
      call.action = .hold ∧ relay.reportedAt calls call = some (some direction) := by
  obtain ⟨early, first, dwell, hsplit, -, -, halways⟩ := hdwells
  rcases List.eq_nil_or_concat dwell with rfl | ⟨rest, last, rfl⟩
  · obtain ⟨rfl, hlast⟩ := List.append_inj' hsplit rfl
    obtain rfl := List.singleton_inj.mp hlast
    have hreported := halways [] call [] rfl
    dsimp only at hreported
    rwa [List.append_nil] at hreported
  · rw [List.concat_eq_append, ← List.cons_append, ← List.append_assoc] at hsplit
    obtain ⟨rfl, hlast⟩ := List.append_inj' hsplit rfl
    obtain rfl := List.singleton_inj.mp hlast
    exact halways (first :: rest) call [] (by rw [List.concat_eq_append, List.cons_append])

/-- A hold frame that reports a direction begins its dwell. -/
theorem DwellsFrom.begin {direction : Gesture} (haction : call.action = .hold)
    (hreported : relay.reportedAt calls call = some (some direction)) :
    relay.DwellsFrom (calls ++ [call]) direction call.nowMs := by
  refine ⟨calls, call, [], rfl, haction, rfl, ?_⟩
  refine History.always_nil.snoc (Or.inr ⟨haction, ?_⟩)
  rw [List.append_nil]
  exact hreported

/-- A hold frame that does not go out of range reports a direction or none. -/
theorem Measured.reports {relay : CommandRelay} {call : TouchCall} (h : relay.Measured call) :
    ∃ direction,
      (relay.feedSwipe .hold call.cx call.cy).1.swipe.currentDirection = some direction := by
  apply Option.ne_none_iff_exists'.mp
  intro hraised
  obtain ⟨track, htrack, hrange⟩ := SwipeTranslator.currentDirection_feed_hold.mp hraised
  exact h.inRange track htrack hrange

/-- A gesture in progress reports a direction only where it started from a press. -/
theorem track_ne_none_of_currentDirection {swipe : SwipeTranslator} {direction : Gesture}
    (hcurrent : swipe.currentDirection = some (some direction)) : swipe.track ≠ none := by
  intro htrack
  rw [SwipeTranslator.currentDirection, htrack] at hcurrent
  cases hcurrent

theorem feed_hold_track {swipe : SwipeTranslator} {cx cy : Int}
    (htrack : (swipe.feed .hold cx cy).1.track ≠ none) : swipe.track ≠ none := by
  intro hnone
  apply htrack
  simp only [SwipeTranslator.feed, hnone]

/-- The direction the relay remembers, with a gesture in progress and no hold
started, has dwelled since the instant it remembers. -/
theorem afterTouches_dwells (hhold : relay.HoldInvariant)
    (henabled : relay.holdConfig.enabled = true) (hfresh : relay.holdDir = none)
    (hmeasured : relay.MeasuredThroughout calls) {direction : Gesture}
    (hdir : (relay.afterTouches calls).holdDir = some direction)
    (hinactive : (relay.afterTouches calls).holdActive = false)
    (htrack : (relay.afterTouches calls).swipe.track ≠ none) :
    relay.DwellsFrom calls direction (relay.afterTouches calls).holdSinceMs := by
  induction calls using List.reverseRecOn generalizing direction with
  | nil => simp [hfresh] at hdir
  | append_singleton calls call ih =>
      obtain ⟨hearlier, hcall⟩ := History.always_snoc.mp hmeasured
      have hreached := afterTouches_holdInvariant hhold calls
      have hconfig : (relay.afterTouches calls).holdConfig.enabled = true := by
        rw [afterTouches_holdConfig hhold, henabled]
      rw [afterTouches_snoc] at hdir hinactive htrack ⊢
      cases haction : call.action with
      | press =>
          -- A press leaves no direction to remember.
          simp only [touch, onTouch, hconfig, haction] at hdir
          cases hdir
      | release | click =>
          have hended : call.action = .release ∨ call.action = .click := by simp [haction]
          rw [touch_of_ended hconfig hended] at htrack
          exact absurd (finishTouch_keeps hreached call.nowMs hended call.cx call.cy).2 htrack
      | other =>
          rw [touch_of_other hconfig haction] at hdir hinactive htrack ⊢
          exact (ih hearlier hdir hinactive htrack).snoc (Or.inl haction)
      | hold =>
          have hfed : ((relay.afterTouches calls).feedSwipe .hold call.cx call.cy).1.HoldInvariant :=
            ⟨hreached.1, hreached.2⟩
          rw [touch_of_hold hconfig haction] at hdir hinactive htrack ⊢
          rw [(updateHold_keeps hfed call.nowMs).2.1] at htrack
          have hbefore := feed_hold_track htrack
          cases hcurrent : ((relay.afterTouches calls).feedSwipe .hold call.cx
              call.cy).1.swipe.currentDirection with
          | none =>
              -- A dwell is measured, so a frame that raises comes before it or after its START.
              rw [updateHold_raised hcurrent] at hdir hinactive
              obtain ⟨reported, hreported⟩ :=
                (hcall haction ⟨hdir ▸ Option.some_ne_none _, hinactive⟩).reports
              rw [hcurrent] at hreported
              cases hreported
          | some reported =>
              obtain ⟨hreports, hkept, hbegun⟩ := updateHold_dwell hcurrent call.nowMs
              rw [hreports] at hdir
              subst hdir
              have hreported : relay.reportedAt calls call = some (some direction) := by
                rw [reportedAt, haction, hcurrent]
              by_cases hsame : (relay.afterTouches calls).holdDir = some direction
              · obtain ⟨hsince, hstill⟩ := hkept hsame
                rw [hsince]
                exact (ih hearlier hsame (hstill hinactive) hbefore).snoc
                  (Or.inr ⟨haction, hreported⟩)
              · rw [hbegun hsame rfl]
                exact .begin haction hreported

theorem HoldChange.heldKey_ne_none {decision : CommandRelay × List Command}
    (hchange : relay.HoldChange decision) {command : Command} (hcommand : command ∈ decision.2)
    (hstart : command.repeatPhase = some .start) : decision.1.heldKey ≠ none := by
  cases hchange with
  | unchanged after commands hkey hplain =>
      rw [hplain command hcommand] at hstart
      cases hstart
  | stopped after direction commands hbefore hafter hplain =>
      rcases List.mem_cons.mp hcommand with rfl | hrest
      · simp [holdCommand] at hstart
      · rw [hplain command hrest] at hstart
        cases hstart
  | started after direction hbefore hafter =>
      rw [hafter]
      exact Option.some_ne_none _

/-- With holds disabled a touch point emits discrete commands only. -/
theorem touch_plain_of_disabled (hdisabled : relay.holdConfig.enabled = false) (call : TouchCall) :
    ∀ command ∈ (relay.touch call).2, command.repeatPhase = none := by
  simp only [touch, onTouch, hdisabled, Bool.not_false, if_true]
  exact (emitGestures_cases _ call.nowMs _).choose_spec.2

/-- A START is emitted by a hold frame that keeps the remembered direction. -/
theorem commandsAt_start (hhold : relay.HoldInvariant) {command : Command}
    (hcommand : command ∈ relay.commandsAt calls call)
    (hstart : command.repeatPhase = some .start) :
    relay.holdConfig.enabled = true ∧
    (relay.afterTouches (calls ++ [call])).holdWasActive = true ∧
    call.action = .hold ∧
    ∃ direction, relay.commandsAt calls call = [holdCommand direction .start] ∧
      (relay.afterTouches calls).holdDir = some direction ∧
      (relay.afterTouches calls).holdActive = false ∧
      relay.reportedAt calls call = some (some direction) ∧
      relay.holdConfig.activateMs ≤
        Doubles.sub call.nowMs (relay.afterTouches calls).holdSinceMs := by
  have hreached := afterTouches_holdInvariant hhold calls
  have hconfig := afterTouches_holdConfig hhold calls
  have henabled : relay.holdConfig.enabled = true := by
    by_contra hdisabled
    rw [Bool.not_eq_true, ← hconfig] at hdisabled
    rw [touch_plain_of_disabled hdisabled call command hcommand] at hstart
    cases hstart
  have hopen := (onTouch_change hreached call.nowMs call.action call.cx call.cy).1.heldKey_ne_none
    hcommand hstart
  have hended := fun haction =>
    @onTouch_heldKey_eq_none _ hreached call.nowMs call.action haction call.cx call.cy
  rw [← hconfig] at henabled
  refine ⟨hconfig ▸ henabled, ?_⟩
  cases haction : call.action with
  | press | release | click =>
      exact absurd (hended (by simp [haction])) hopen
  | other =>
      rw [commandsAt, touch_of_other henabled haction] at hcommand
      exact absurd hcommand List.not_mem_nil
  | hold =>
      have htouch := touch_of_hold henabled haction
      rw [commandsAt, htouch] at hcommand
      obtain ⟨direction, hdir, hinactive, hreports, hlong, hcommands, hwas⟩ :=
        updateHold_start hcommand hstart ⟨hreached.1, hreached.2⟩
      rw [afterTouches_snoc, htouch]
      refine ⟨hwas, rfl, direction, ?_, hdir, hinactive, ?_, ?_⟩
      · rw [commandsAt, htouch, hcommands]
      · rw [reportedAt, haction, hreports]
      · rw [← hconfig]
        exact hlong

/-- In a measured run a START has been earned by the dwell of its direction. -/
theorem commandsAt_earned (hhold : relay.HoldInvariant) (hfresh : relay.holdDir = none)
    (hmeasured : relay.MeasuredThroughout (calls ++ [call])) {command : Command}
    (hcommand : command ∈ relay.commandsAt calls call)
    (hstart : command.repeatPhase = some .start) :
    ∃ direction sinceMs, command = holdCommand direction .start ∧
      relay.DwellsFrom calls direction sinceMs ∧
      call.action = .hold ∧ relay.reportedAt calls call = some (some direction) ∧
      relay.holdConfig.activateMs ≤ call.nowMs - sinceMs := by
  obtain ⟨henabled, -, haction, direction, hcommands, hdir, hinactive, hreported, hlong⟩ :=
    commandsAt_start hhold hcommand hstart
  obtain ⟨hearlier, hcall⟩ := History.always_snoc.mp hmeasured
  have hdwelling : (relay.afterTouches calls).Dwelling :=
    ⟨hdir ▸ Option.some_ne_none _, hinactive⟩
  have htrack : (relay.afterTouches calls).swipe.track ≠ none := by
    rw [reportedAt, haction] at hreported
    exact feed_hold_track (track_ne_none_of_currentDirection hreported)
  rw [hcommands, List.mem_singleton] at hcommand
  refine ⟨direction, _, hcommand,
    afterTouches_dwells hhold henabled hfresh hearlier hdir hinactive htrack, haction, hreported, ?_⟩
  by_contra hshort
  have hrounded := (hcall haction hdwelling).unrounded
  rw [afterTouches_holdConfig hhold] at hrounded
  exact absurd hlong (hrounded (not_le.mp hshort)).not_ge

/-! ## The silence after a START -/

/-- A hold was active in this gesture, or its gesture is over and no press came since. -/
def Muted (relay : CommandRelay) : Prop :=
  relay.holdWasActive = true ∨ relay.suppressClickUntilPress = true ∧ relay.swipe.track = none

theorem endHoldIfActive_commands (hhold : relay.HoldInvariant) (nowMs : ℚ) :
    ∀ command ∈ (relay.endHoldIfActive nowMs).2, command.repeatPhase = some .stop := by
  intro command hcommand
  rcases endHoldIfActive_cases hhold nowMs with ⟨-, hended⟩ | ⟨direction, -, hended⟩
  · simp only [hended, List.not_mem_nil] at hcommand
  · simp only [hended, List.mem_singleton] at hcommand
    rw [hcommand]
    rfl

/-- Without a press a gesture resolves to nothing or to a lone tap. -/
theorem feed_ended_untracked {swipe : SwipeTranslator} (htrack : swipe.track = none)
    {action : TouchAction} (haction : action = .release ∨ action = .click) (cx cy : Int) :
    (swipe.feed action cx cy).2 = some [] ∨ (swipe.feed action cx cy).2 = some [.select] := by
  rcases haction with rfl | rfl
  · left
    simp only [SwipeTranslator.feed, htrack]
  · right
    rfl

/-- What ends the gesture of a hold emits its STOP, no tap and no swipe. -/
theorem finishTouch_muted (hhold : relay.HoldInvariant) (hmuted : relay.Muted) (nowMs : ℚ)
    {action : TouchAction} (haction : action = .release ∨ action = .click) (cx cy : Int) :
    (∀ command ∈ (relay.finishTouch nowMs action cx cy).2, command.repeatPhase = some .stop) ∧
      (relay.finishTouch nowMs action cx cy).1.Muted := by
  have hstops := endHoldIfActive_commands hhold nowMs
  have htrack := feed_ended_track relay.swipe haction cx cy
  rcases finishTouch_cases hhold nowMs action cx cy with
    ⟨hraised, hafter⟩ | ⟨directions, hfed, ⟨hwas, hafter⟩ | ⟨hwas, hsuppress, htap, hafter⟩ |
      ⟨hwas, htail, hafter⟩⟩
  · -- Only a gesture in progress raises, and its hold is remembered then.
    rw [hafter]
    refine ⟨hstops, ?_⟩
    rcases hmuted with hactive | ⟨hsuppressed, huntracked⟩
    · exact Or.inl hactive
    · exact Or.inr ⟨hsuppressed, htrack⟩
  · rw [hafter]
    exact ⟨hstops, Or.inr ⟨rfl, htrack⟩⟩
  · rw [hafter]
    exact ⟨hstops, Or.inr ⟨hsuppress, htrack⟩⟩
  · obtain ⟨hsuppress, huntracked⟩ := hmuted.resolve_left (by simp [hwas])
    rcases feed_ended_untracked huntracked haction cx cy with hnone | htap
    · rw [hnone, Option.some_inj] at hfed
      subst hfed
      rw [hafter, emitGestures, List.append_nil]
      exact ⟨hstops, Or.inr ⟨hsuppress, htrack⟩⟩
    · rw [htap, Option.some_inj] at hfed
      exact absurd ⟨hsuppress, hfed.symm⟩ htail

/-- A dwell emits only phases of a hold. -/
theorem updateHold_commands (hhold : relay.HoldInvariant) (nowMs : ℚ) :
    ∀ command ∈ (relay.updateHold nowMs).2, command.repeatPhase ≠ none := by
  unfold updateHold
  cases relay.swipe.currentDirection with
  | none => simp
  | some direction =>
      dsimp only
      split
      · intro command hcommand
        rw [endHoldIfActive_commands hhold nowMs command hcommand]
        exact Option.some_ne_none _
      · cases direction with
        | none => simp
        | some held =>
            obtain ⟨lastMs, -, hsame⟩ := relay.emit_cases nowMs (holdCommand held .start)
            dsimp only
            split
            · intro command hcommand
              rw [hsame command hcommand]
              exact Option.some_ne_none _
            · simp

/-- Until the next press only STOP and START come out of a touch point. -/
theorem touch_muted (hhold : relay.HoldInvariant) (henabled : relay.holdConfig.enabled = true)
    (hmuted : relay.Muted) (hpress : call.action ≠ .press) :
    (∀ command ∈ (relay.touch call).2, command.repeatPhase ≠ none) ∧
      (relay.touch call).1.Muted := by
  cases haction : call.action with
  | press => exact absurd haction hpress
  | other =>
      rw [touch_of_other henabled haction]
      exact ⟨by simp, hmuted⟩
  | release | click =>
      have hended : call.action = .release ∨ call.action = .click := by simp [haction]
      rw [touch_of_ended henabled hended]
      obtain ⟨hstops, hafter⟩ := finishTouch_muted hhold hmuted call.nowMs hended call.cx call.cy
      refine ⟨fun command hcommand => ?_, hafter⟩
      rw [hstops command hcommand]
      exact Option.some_ne_none _
  | hold =>
      rw [touch_of_hold henabled haction]
      have hfed : (relay.feedSwipe .hold call.cx call.cy).1.HoldInvariant := ⟨hhold.1, hhold.2⟩
      obtain ⟨-, hswipe, hsuppress, hwas⟩ := updateHold_keeps hfed call.nowMs
      refine ⟨updateHold_commands hfed call.nowMs, ?_⟩
      rcases hmuted with hactive | ⟨hsuppressed, htrack⟩
      · exact Or.inl (hwas hactive)
      · refine Or.inr ⟨hsuppress.trans hsuppressed, ?_⟩
        rw [hswipe]
        simp only [feedSwipe, SwipeTranslator.feed, htrack]

/-- Calls one after the other. -/
theorem afterTouches_append (early late : List TouchCall) :
    relay.afterTouches (early ++ late) = (relay.afterTouches early).afterTouches late := by
  simp [afterTouches, List.foldl_append]

/-- A track that is muted stays so until the next press. -/
theorem afterTouches_muted (hhold : relay.HoldInvariant)
    (henabled : relay.holdConfig.enabled = true) (hmuted : relay.Muted)
    (hpress : ∀ call ∈ calls, call.action ≠ .press) : (relay.afterTouches calls).Muted := by
  induction calls using List.reverseRecOn with
  | nil => exact hmuted
  | append_singleton calls call ih =>
      rw [afterTouches_snoc]
      have hreached := ih fun earlier hearlier => hpress earlier (by simp [hearlier])
      refine (touch_muted (afterTouches_holdInvariant hhold calls) ?_ hreached ?_).2
      · rw [afterTouches_holdConfig hhold, henabled]
      · exact hpress call (by simp)

/-! ## Well bracketed holds -/

/-- Every START of a sequence of touch points was earned: consecutive hold frames
have reported its direction for at least `activateMs`. -/
def StartsEarned (relay : CommandRelay) (calls : List TouchCall) : Prop :=
  History.Always (fun before call => ∀ command ∈ relay.commandsAt before call,
    command.repeatPhase = some .start →
      ∃ direction sinceMs, command = holdCommand direction .start ∧
        relay.DwellsFrom before direction sinceMs ∧
        call.action = .hold ∧ relay.reportedAt before call = some (some direction) ∧
        relay.holdConfig.activateMs ≤ call.nowMs - sinceMs) calls

/-- The holds of every sequence of touch points, at any clock: START and STOP
alternate with matching keys, none is open once a gesture ended, and nothing
discrete follows a START before the next press. In a run whose dwells are measured
every START was earned. -/
theorem touch_holds_bracketed (gestureConfig : GestureConfig)
    (holdConfig : DirectionalHoldConfig) (selectDedupeMs : ℚ) :
    let relay := create gestureConfig holdConfig selectDedupeMs
    (∀ calls, ∃ held, Bracketed holdMove none (relay.touchCommands calls) held) ∧
    (∀ calls call, call.action = .press ∨ call.action = .release ∨ call.action = .click →
      Bracketed holdMove none (relay.touchCommands (calls ++ [call])) none) ∧
    (∀ calls, relay.MeasuredThroughout calls → relay.StartsEarned calls) ∧
    (∀ calls starting later call, ∀ command ∈ relay.commandsAt calls starting,
      command.repeatPhase = some .start →
      (∀ touched ∈ later ++ [call], touched.action ≠ .press) →
      ∀ emitted ∈ relay.commandsAt (calls ++ starting :: later) call,
        emitted.repeatPhase ≠ none) := by
  intro relay
  have hhold : relay.HoldInvariant := .of_inactive rfl
  refine ⟨fun calls => ⟨_, touchCommands_bracketed hhold calls⟩, ?_, ?_, ?_⟩
  · intro calls call haction
    have hbracketed := touchCommands_bracketed hhold (calls ++ [call])
    rw [openHold_of_ended hhold calls haction] at hbracketed
    exact hbracketed
  · intro calls hmeasured before call after hsplit command hcommand hstart
    have hearlier : relay.MeasuredThroughout (before ++ [call]) := by
      rw [hsplit, List.append_cons] at hmeasured
      exact hmeasured.left
    exact commandsAt_earned hhold rfl hearlier hcommand hstart
  · intro calls starting later call command hcommand hstart hpress
    obtain ⟨henabled, hwas, -⟩ := commandsAt_start hhold hcommand hstart
    have hsplit : calls ++ starting :: later = (calls ++ [starting]) ++ later := by simp
    have hstarted := afterTouches_holdInvariant hhold (calls ++ [starting])
    have hconfig : (relay.afterTouches (calls ++ [starting])).holdConfig.enabled = true := by
      rw [afterTouches_holdConfig hhold, henabled]
    have hmuted : (relay.afterTouches (calls ++ starting :: later)).Muted := by
      rw [hsplit, afterTouches_append]
      exact afterTouches_muted hstarted hconfig (Or.inl hwas)
        fun touched htouched => hpress touched (by simp [htouched])
    refine (touch_muted (afterTouches_holdInvariant hhold _) ?_ hmuted
      (hpress call (by simp))).1
    rw [afterTouches_holdConfig hhold, henabled]

/-- A finger that moved right and stayed there for 410 ms. -/
theorem touch_holds_bracketed_swipe :
    let relay := create {} { enabled := true } 400
    let calls := [⟨0, .press, 500, 500⟩, ⟨10, .hold, 800, 500⟩, ⟨420, .hold, 800, 500⟩]
    relay.touchCommands calls = [holdCommand .right .start] ∧ relay.StartsEarned calls := by
  intro relay calls
  refine ⟨by decide +kernel, ?_⟩
  apply (touch_holds_bracketed {} { enabled := true } 400).2.2.1 calls
  have hpressed : relay.MeasuredThroughout [⟨0, .press, 500, 500⟩] :=
    History.always_nil.snoc fun haction => absurd haction (by decide)
  have hmoved : relay.MeasuredThroughout [⟨0, .press, 500, 500⟩, ⟨10, .hold, 800, 500⟩] :=
    hpressed.snoc fun _ hdwelling => absurd hdwelling.1 (by decide +kernel)
  exact hmoved.snoc fun _ _ => ⟨by decide +kernel, by decide +kernel⟩

-- 400.7 and 0.7 as doubles: less than 400 ms lie between them, and 400 with rounding.
example :
    (create {} { enabled := true } 400).commandsAt
        [⟨0, .press, 0, 0⟩, ⟨3152519739159347 / 4503599627370496, .hold, 800, 0⟩]
        ⟨7049188947997491 / 17592186044416, .hold, 800, 0⟩ = [holdCommand .right .start] ∧
      (7049188947997491 / 17592186044416 - 3152519739159347 / 4503599627370496 : ℚ) < 400 := by
  decide +kernel

/-- In the midst of a dwell the finger is reported out of range, and the START
comes as if it had stayed. -/
theorem touch_holds_bracketed_fails :
    ¬ ∀ (gestureConfig : GestureConfig) (holdConfig : DirectionalHoldConfig)
      (selectDedupeMs : ℚ) (calls : List TouchCall),
      (create gestureConfig holdConfig selectDedupeMs).StartsEarned calls := by
  intro hall
  let before : List TouchCall :=
    [⟨0, .press, 0, 0⟩, ⟨10, .hold, 800, 0⟩, ⟨200, .hold, 10 ^ 400, 10 ^ 400⟩]
  let call : TouchCall := ⟨420, .hold, 800, 0⟩
  have hstart : holdCommand .right .start ∈
      (create {} { enabled := true } 400).commandsAt before call := by
    decide +kernel
  obtain ⟨direction, sinceMs, -, hdwells, -⟩ :=
    hall {} { enabled := true } 400 (before ++ [call]) before call [] rfl _ hstart rfl
  have hraised : (create {} { enabled := true } 400).reportedAt
      [⟨0, .press, 0, 0⟩, ⟨10, .hold, 800, 0⟩] ⟨200, .hold, 10 ^ 400, 10 ^ 400⟩ = none := by
    decide +kernel
  have hlast := @DwellsFrom.last (create {} { enabled := true } 400)
    [⟨0, .press, 0, 0⟩, ⟨10, .hold, 800, 0⟩] ⟨200, .hold, 10 ^ 400, 10 ^ 400⟩ direction sinceMs
    hdwells
  rcases hlast with hother | ⟨-, hreported⟩
  · cases hother
  · rw [hraised] at hreported
    cases hreported

end CommandRelay

end CompanionBridge
