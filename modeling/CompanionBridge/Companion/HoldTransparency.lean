import CompanionBridge.Companion.TouchHolds

/-!
# Holds do not disturb plain gestures

A relay with holds enabled shares its translator and its SELECT de-dupe with
plain gesture resolution. As long as no START comes out of it, it hands the
same commands to the sink as a relay with holds disabled.
-/

namespace CompanionBridge

/-- One call into the relay with the clock reading it can make. -/
inductive RelayCall where
  | touch (call : TouchCall)
  | button (nowMs : ℚ) (hidCode buttonState : Int)
  deriving DecidableEq

namespace CommandRelay

def call (relay : CommandRelay) : RelayCall → CommandRelay × List Command
  | .touch touched => relay.touch touched
  | .button nowMs hidCode buttonState => relay.onButton nowMs hidCode buttonState

/-- What each call of a sequence hands to the sink. -/
def callCommands : CommandRelay → List RelayCall → List (List Command)
  | _, [] => []
  | relay, first :: rest => (relay.call first).2 :: (relay.call first).1.callCommands rest

/-- A relay that tracks holds but never started one, beside a relay without holds. -/
structure Resembles (holding plain : CommandRelay) : Prop where
  enabled : holding.holdConfig.enabled = true
  disabled : plain.holdConfig.enabled = false
  swipe : holding.swipe = plain.swipe
  dedupe : holding.selectDedupeMs = plain.selectDedupeMs
  lastSelect : holding.lastSelectMs = plain.lastSelectMs
  inactive : holding.holdActive = false
  wasInactive : holding.holdWasActive = false
  unsuppressed : holding.suppressClickUntilPress = false

variable {holding plain : CommandRelay}

/-- The de-dupe decides alike, and its memory stays the same. -/
theorem Resembles.emit (h : Resembles holding plain) (nowMs : ℚ) (command : Command) :
    Resembles (holding.emit nowMs command).1 (plain.emit nowMs command).1 ∧
      (holding.emit nowMs command).2 = (plain.emit nowMs command).2 := by
  simp only [CommandRelay.emit, h.dedupe, h.lastSelect]
  split
  · split
    · exact ⟨h, rfl⟩
    · exact ⟨{ h with dedupe := rfl, lastSelect := rfl }, rfl⟩
  · exact ⟨h, rfl⟩

/-- A button goes through both relays alike. -/
theorem Resembles.onButton (h : Resembles holding plain) (nowMs : ℚ)
    (hidCode buttonState : Int) :
    Resembles (holding.onButton nowMs hidCode buttonState).1
        (plain.onButton nowMs hidCode buttonState).1 ∧
      (holding.onButton nowMs hidCode buttonState).2 =
        (plain.onButton nowMs hidCode buttonState).2 := by
  simp only [CommandRelay.onButton]
  split
  · exact ⟨h, rfl⟩
  · split
    · exact ⟨h, rfl⟩
    · exact h.emit nowMs _

/-- So do the gestures of one touch, one by one. -/
theorem Resembles.emitGestures (h : Resembles holding plain) (nowMs : ℚ)
    (directions : List Gesture) :
    Resembles (holding.emitGestures nowMs directions).1 (plain.emitGestures nowMs directions).1 ∧
      (holding.emitGestures nowMs directions).2 = (plain.emitGestures nowMs directions).2 := by
  induction directions generalizing holding plain with
  | nil => exact ⟨h, rfl⟩
  | cons direction rest ih =>
      obtain ⟨hfirst, hcommand⟩ := h.emit nowMs
        { action := .sendKey, samsungKey := some (gestureToSamsung direction),
          source := s!"gesture:{direction.name}" }
      obtain ⟨hrest, hcommands⟩ := ih hfirst
      simp only [CommandRelay.emitGestures, emitGesture]
      exact ⟨hrest, congrArg₂ (· ++ ·) hcommand hcommands⟩

theorem Resembles.feedSwipe (h : Resembles holding plain) (action : TouchAction) (cx cy : Int) :
    Resembles (holding.feedSwipe action cx cy).1 (plain.feedSwipe action cx cy).1 ∧
      (holding.feedSwipe action cx cy).2 = (plain.feedSwipe action cx cy).2 := by
  refine ⟨{ h with swipe := ?_ }, ?_⟩
  all_goals simp only [CommandRelay.feedSwipe, h.swipe]

/-- A relay that resembles one without holds has no hold to end. -/
theorem Resembles.endHoldIfActive (h : Resembles holding plain) (nowMs : ℚ) :
    holding.endHoldIfActive nowMs = (holding, []) := by
  simp only [CommandRelay.endHoldIfActive, h.inactive]
  rw [← h.inactive]

/-- Only the end of a gesture resolves to directions. -/
theorem feedSwipe_quiet (relay : CommandRelay) {action : TouchAction}
    (haction : action ≠ .release ∧ action ≠ .click) (cx cy : Int) :
    (relay.feedSwipe action cx cy).2 = some [] := by
  cases action with
  | press | other => rfl
  | hold =>
      simp only [feedSwipe, SwipeTranslator.feed]
      split <;> rfl
  | release => exact absurd rfl haction.1
  | click => exact absurd rfl haction.2

/-- A hold frame that starts no hold emits nothing. -/
theorem Resembles.updateHold (h : Resembles holding plain) (nowMs : ℚ)
    (hquiet : ∀ command ∈ (holding.updateHold nowMs).2, command.repeatPhase ≠ some .start) :
    Resembles (holding.updateHold nowMs).1 plain ∧ (holding.updateHold nowMs).2 = [] := by
  have hhold : holding.HoldInvariant := .of_inactive h.inactive
  unfold CommandRelay.updateHold at hquiet ⊢
  cases hcurrent : holding.swipe.currentDirection with
  | none => exact ⟨h, rfl⟩
  | some direction =>
      rw [hcurrent] at hquiet
      dsimp only at hquiet ⊢
      rw [h.endHoldIfActive] at hquiet ⊢
      by_cases hchanged : direction ≠ holding.holdDir
      · rw [if_pos hchanged]
        exact ⟨{ h with }, rfl⟩
      · rw [if_neg hchanged] at hquiet ⊢
        cases direction with
        | none => exact ⟨h, rfl⟩
        | some held =>
            have hselect : held ≠ .select := by
              intro htap
              apply holding.swipe.currentDirection_ne_select
              rw [hcurrent, htap]
            simp only [emit_holdCommand _ _ hselect] at hquiet ⊢
            split
            · rename_i hdwelled
              rw [if_pos hdwelled] at hquiet
              exact absurd rfl (hquiet (holdCommand held .start) (List.mem_singleton_self _))
            · exact ⟨h, rfl⟩

theorem Resembles.reset (h : Resembles holding plain) :
    Resembles holding.resetHoldState plain :=
  { h with inactive := rfl, wasInactive := rfl }

theorem onTouch_of_disabled (hdisabled : plain.holdConfig.enabled = false) (nowMs : ℚ)
    (action : TouchAction) (cx cy : Int) :
    plain.onTouch nowMs action cx cy =
      (plain.feedSwipe action cx cy).1.emitGestures nowMs
        ((plain.feedSwipe action cx cy).2.getD []) := by
  simp only [onTouch, hdisabled]
  rfl

/-- Without holds, only a release or a click emits. -/
theorem onTouch_quiet_of_disabled (hdisabled : plain.holdConfig.enabled = false) (nowMs : ℚ)
    {action : TouchAction} (haction : action ≠ .release ∧ action ≠ .click) (cx cy : Int) :
    plain.onTouch nowMs action cx cy = ((plain.feedSwipe action cx cy).1, []) := by
  rw [onTouch_of_disabled hdisabled, feedSwipe_quiet plain haction, Option.getD_some, emitGestures]

/-- The end of a gesture that was no hold resolves, or raises, as it does without holds. -/
theorem Resembles.finishTouch (h : Resembles holding plain) (nowMs : ℚ) (action : TouchAction)
    (cx cy : Int) :
    Resembles (holding.finishTouch nowMs action cx cy).1 (plain.onTouch nowMs action cx cy).1 ∧
      (holding.finishTouch nowMs action cx cy).2 = (plain.onTouch nowMs action cx cy).2 := by
  have hhold : holding.HoldInvariant := .of_inactive h.inactive
  have hfed : Resembles (holding.fedAtRest action cx cy) (plain.feedSwipe action cx cy).1 :=
    { (h.feedSwipe action cx cy).1 with inactive := rfl }
  have hdirections : (plain.feedSwipe action cx cy).2 = (holding.swipe.feed action cx cy).2 := by
    rw [CommandRelay.feedSwipe, h.swipe]
  rw [onTouch_of_disabled h.disabled, hdirections]
  rcases finishTouch_cases hhold nowMs action cx cy with
    ⟨hraised, hafter⟩ | ⟨directions, hresolved, ⟨hwas, -⟩ | ⟨-, hsuppress, -⟩ | ⟨-, -, hafter⟩⟩
  · rw [hafter, hraised, h.endHoldIfActive, Option.getD_none, CommandRelay.emitGestures]
    exact ⟨hfed, rfl⟩
  · rw [h.wasInactive] at hwas
    cases hwas
  · rw [h.unsuppressed] at hsuppress
    cases hsuppress
  · obtain ⟨hemitted, hcommands⟩ := hfed.emitGestures nowMs directions
    rw [hafter, hresolved, h.endHoldIfActive, Option.getD_some, List.nil_append]
    exact ⟨hemitted.reset, hcommands⟩

/-- A touch point from which no START comes. -/
theorem Resembles.onTouch (h : Resembles holding plain) (nowMs : ℚ) (action : TouchAction)
    (cx cy : Int)
    (hquiet : ∀ command ∈ (holding.onTouch nowMs action cx cy).2,
      command.repeatPhase ≠ some .start) :
    Resembles (holding.onTouch nowMs action cx cy).1 (plain.onTouch nowMs action cx cy).1 ∧
      (holding.onTouch nowMs action cx cy).2 = (plain.onTouch nowMs action cx cy).2 := by
  obtain ⟨hfed, -⟩ := h.feedSwipe action cx cy
  -- without holds the translator is fed in the same way, so both feeds agree
  cases action with
  | press =>
      have hpress : holding.onTouch nowMs .press cx cy =
          (({ holding.resetHoldState with suppressClickUntilPress := false }.feedSwipe
            .press cx cy).1, []) := by
        simp only [CommandRelay.onTouch, h.enabled, h.endHoldIfActive]
        rfl
      rw [hpress, onTouch_quiet_of_disabled h.disabled nowMs (by decide)]
      have hcleared : Resembles { holding.resetHoldState with suppressClickUntilPress := false }
          plain := { h.reset with unsuppressed := rfl }
      exact ⟨(hcleared.feedSwipe .press cx cy).1, rfl⟩
  | hold =>
      have hhold : holding.onTouch nowMs .hold cx cy =
          (holding.feedSwipe .hold cx cy).1.updateHold nowMs := by
        simp only [CommandRelay.onTouch, h.enabled]
        rfl
      rw [hhold] at hquiet ⊢
      rw [onTouch_quiet_of_disabled h.disabled nowMs (by decide)]
      exact hfed.updateHold nowMs hquiet
  | other =>
      have hother : holding.onTouch nowMs .other cx cy =
          ((holding.feedSwipe .other cx cy).1, []) := by
        simp only [CommandRelay.onTouch, h.enabled]
        rfl
      rw [hother, onTouch_quiet_of_disabled h.disabled nowMs (by decide)]
      exact ⟨hfed, rfl⟩
  | release =>
      have hrelease : holding.onTouch nowMs .release cx cy =
          holding.finishTouch nowMs .release cx cy := by
        simp only [CommandRelay.onTouch, h.enabled]
        rfl
      rw [hrelease]
      exact h.finishTouch nowMs .release cx cy
  | click =>
      have hclick : holding.onTouch nowMs .click cx cy =
          holding.finishTouch nowMs .click cx cy := by
        simp only [CommandRelay.onTouch, h.enabled]
        rfl
      rw [hclick]
      exact h.finishTouch nowMs .click cx cy

/-- One call in which no hold starts emits the same and keeps the resemblance. -/
theorem Resembles.call (h : Resembles holding plain) (first : RelayCall)
    (hquiet : ∀ command ∈ (holding.call first).2, command.repeatPhase ≠ some .start) :
    Resembles (holding.call first).1 (plain.call first).1 ∧
      (holding.call first).2 = (plain.call first).2 := by
  cases first with
  | touch touched => exact h.onTouch touched.nowMs touched.action touched.cx touched.cy hquiet
  | button nowMs hidCode buttonState => exact h.onButton nowMs hidCode buttonState

/-- The two relays hand over the same commands call by call. -/
theorem Resembles.callCommands (h : Resembles holding plain) (calls : List RelayCall)
    (hquiet : ∀ commands ∈ holding.callCommands calls, ∀ command ∈ commands,
      command.repeatPhase ≠ some .start) :
    holding.callCommands calls = plain.callCommands calls := by
  induction calls generalizing holding plain with
  | nil => rfl
  | cons first rest ih =>
      simp only [CommandRelay.callCommands, List.mem_cons, forall_eq_or_imp] at hquiet ⊢
      obtain ⟨hreached, hcommands⟩ := h.call first hquiet.1
      rw [hcommands, ih hreached hquiet.2]

/-- Enabling holds changes no command of a run that starts no hold. -/
theorem holds_transparent (gestureConfig : GestureConfig)
    (holdConfig plainConfig : DirectionalHoldConfig) (selectDedupeMs : ℚ)
    (henabled : holdConfig.enabled = true) (hdisabled : plainConfig.enabled = false)
    (calls : List RelayCall)
    (hquiet : ∀ commands ∈
      (create gestureConfig holdConfig selectDedupeMs).callCommands calls,
      ∀ command ∈ commands, command.repeatPhase ≠ some .start) :
    (create gestureConfig holdConfig selectDedupeMs).callCommands calls =
      (create gestureConfig plainConfig selectDedupeMs).callCommands calls := by
  have hfresh : Resembles (create gestureConfig holdConfig selectDedupeMs)
      (create gestureConfig plainConfig selectDedupeMs) :=
    ⟨henabled, hdisabled, rfl, rfl, rfl, rfl, rfl, rfl⟩
  exact hfresh.callCommands calls hquiet

/-- A swipe released after a short stay, and a button beside it. -/
theorem holds_transparent_swipe :
    let calls : List RelayCall :=
      [.touch ⟨0, .press, 500, 500⟩, .touch ⟨10, .hold, 800, 500⟩,
        .touch ⟨300, .hold, 810, 500⟩, .button 320 6 2, .touch ⟨380, .release, 820, 500⟩]
    (create {} { enabled := true } 400).callCommands calls =
      (create {} {} 400).callCommands calls := by
  intro calls
  exact holds_transparent {} { enabled := true } {} 400 rfl rfl calls (by decide +kernel)

end CommandRelay

end CompanionBridge
