import CompanionBridge.Bridge.Gestures

/-!
# Relay decisions

The relay turns decoded Companion input into Samsung-bound commands: buttons on
their release edge, swipes and taps through `SwipeTranslator`, and a held swipe
as a START/STOP pair. It performs no I/O; every operation returns the commands
it hands to the sink, in order, also where an exception of the translator ends it.
Readings of the clock are doubles, and what lies between two of them is rounded.
-/

namespace CompanionBridge

/-- Hold lifecycle of a held directional swipe. -/
inductive RepeatPhase where
  | start
  | stop
  deriving DecidableEq, Repr

/-- A resolved instruction for the Samsung side. -/
structure Command where
  action : Action
  samsungKey : Option String := none
  cmd : String := "Click"
  source : String := ""
  text : Option String := none
  repeatPhase : Option RepeatPhase := none
  fast : Bool := false
  deriving DecidableEq, Repr

/-- Tuning of swipe-and-hold auto-repeat. -/
structure DirectionalHoldConfig where
  enabled : Bool := false
  activateMs : ℚ := 400
  initialDelay : ℚ := 1 / 4
  interval : ℚ := Doubles.rounded (3 / 25)
  maxHold : ℚ := 15
  deriving DecidableEq

def Gesture.name : Gesture → String
  | .up => "UP"
  | .down => "DOWN"
  | .left => "LEFT"
  | .right => "RIGHT"
  | .select => "SELECT"

structure CommandRelay where
  swipe : SwipeTranslator := {}
  holdConfig : DirectionalHoldConfig := {}
  selectDedupeMs : ℚ := 400
  lastSelectMs : ℚ := 0
  holdDir : Option Gesture := none
  holdSinceMs : ℚ := 0
  holdActive : Bool := false
  holdWasActive : Bool := false
  suppressClickUntilPress : Bool := false
  deriving DecidableEq

namespace CommandRelay

/-- Forward a command, collapsing a second SELECT within the de-dupe window. -/
def emit (relay : CommandRelay) (nowMs : ℚ) (command : Command) : CommandRelay × List Command :=
  if command.samsungKey = some "KEY_ENTER" then
    if Doubles.sub nowMs relay.lastSelectMs < relay.selectDedupeMs then (relay, [])
    else ({ relay with lastSelectMs := nowMs }, [command])
  else (relay, [command])

/-- `_hidC` states that count as a release: 2 from iOS, 0 from watchOS. -/
def isButtonRelease (buttonState : Int) : Bool :=
  buttonState = 0 || buttonState = 2

/-- Resolve a button and emit it once, on its release edge. -/
def onButton (relay : CommandRelay) (nowMs : ℚ) (hidCode buttonState : Int) :
    CommandRelay × List Command :=
  if !isButtonRelease buttonState then (relay, [])
  else
    let mapping := resolve hidCode
    if mapping.action = .unmapped then (relay, [])
    else relay.emit nowMs
      { action := mapping.action, samsungKey := mapping.samsungKey,
        source := s!"button:{hidCode}" }

def emitGesture (relay : CommandRelay) (nowMs : ℚ) (direction : Gesture) :
    CommandRelay × List Command :=
  relay.emit nowMs
    { action := .sendKey, samsungKey := some (gestureToSamsung direction),
      source := s!"gesture:{direction.name}" }

def emitGestures (relay : CommandRelay) (nowMs : ℚ) : List Gesture → CommandRelay × List Command
  | [] => (relay, [])
  | direction :: rest =>
      let first := relay.emitGesture nowMs direction
      let others := first.1.emitGestures nowMs rest
      (others.1, first.2 ++ others.2)

/-- The command that begins or ends the hold of a direction. -/
def holdCommand (direction : Gesture) (phase : RepeatPhase) : Command :=
  { action := .sendKey, samsungKey := some (gestureToSamsung direction),
    source := s!"gesture:{direction.name}", repeatPhase := some phase,
    fast := phase == .start }

/-- Emit a STOP for the direction that is repeating, if any. -/
def endHoldIfActive (relay : CommandRelay) (nowMs : ℚ) : CommandRelay × List Command :=
  match relay.holdActive, relay.holdDir with
  | true, some direction =>
      let stopped := relay.emit nowMs (holdCommand direction .stop)
      ({ stopped.1 with holdActive := false }, stopped.2)
  | _, _ => ({ relay with holdActive := false }, [])

def resetHoldState (relay : CommandRelay) : CommandRelay :=
  { relay with holdDir := none, holdSinceMs := 0, holdActive := false, holdWasActive := false }

/-- One hold frame: re-arm on a changed direction, START once the dwell is long enough. -/
def updateHold (relay : CommandRelay) (nowMs : ℚ) : CommandRelay × List Command :=
  match relay.swipe.currentDirection with
  -- The comparison of the axes raised: the dwell goes on as if no frame had come.
  | none => (relay, [])
  | some direction =>
      if direction ≠ relay.holdDir then
        let ended := relay.endHoldIfActive nowMs
        ({ ended.1 with
            holdDir := direction
            holdSinceMs := if direction.isSome then nowMs else 0 }, ended.2)
      else
        match direction with
        | none => (relay, [])
        | some held =>
            if !relay.holdActive &&
                relay.holdConfig.activateMs ≤ Doubles.sub nowMs relay.holdSinceMs then
              let started := relay.emit nowMs (holdCommand held .start)
              ({ started.1 with holdActive := true, holdWasActive := true }, started.2)
            else (relay, [])

/-- Feed the translator and keep the directions it resolves. -/
def feedSwipe (relay : CommandRelay) (action : TouchAction) (cx cy : Int) :
    CommandRelay × Option (List Gesture) :=
  let fed := relay.swipe.feed action cx cy
  ({ relay with swipe := fed.1 }, fed.2)

/-- The end of a touch: STOP a hold, and resolve the gesture unless it was one. -/
def finishTouch (relay : CommandRelay) (nowMs : ℚ) (action : TouchAction) (cx cy : Int) :
    CommandRelay × List Command :=
  let ended := relay.endHoldIfActive nowMs
  let fed := ended.1.feedSwipe action cx cy
  match fed.2 with
  -- The resolution raised: the STOP is out, and the rest of the hold state stays.
  | none => (fed.1, ended.2)
  | some directions =>
      if fed.1.holdWasActive then
        ({ fed.1 with suppressClickUntilPress := true }.resetHoldState, ended.2)
      else if fed.1.suppressClickUntilPress ∧ directions = [.select] then
        (fed.1.resetHoldState, ended.2)
      else
        let emitted := fed.1.emitGestures nowMs directions
        (emitted.1.resetHoldState, ended.2 ++ emitted.2)

/-- Feed one touch point. `nowMs` is the one clock reading such a call can make. -/
def onTouch (relay : CommandRelay) (nowMs : ℚ) (action : TouchAction) (cx cy : Int) :
    CommandRelay × List Command :=
  if !relay.holdConfig.enabled then
    let fed := relay.feedSwipe action cx cy
    fed.1.emitGestures nowMs (fed.2.getD [])
  else
    match action with
    | .press =>
        let ended := relay.endHoldIfActive nowMs
        let cleared := { ended.1.resetHoldState with suppressClickUntilPress := false }
        ((cleared.feedSwipe action cx cy).1, ended.2)
    | .hold => (relay.feedSwipe action cx cy).1.updateHold nowMs
    | .release | .click => relay.finishTouch nowMs action cx cy
    | .other => ((relay.feedSwipe action cx cy).1, [])

/-- Whether `onTouch` ends in the exception of the translator, once its commands
are handed over: a release that resolves, or a hold frame that asks for the direction. -/
def touchRaises (relay : CommandRelay) (action : TouchAction) (cx cy : Int) : Bool :=
  let fed := relay.swipe.feed action cx cy
  fed.2.isNone ||
    (relay.holdConfig.enabled && action == .hold && fed.1.currentDirection.isNone)

/-- Whether a touch point leads the gesture in progress out of range: a release that
is no tap or, with holds enabled, a hold frame. -/
def touchOutOfRange (relay : CommandRelay) (action : TouchAction) (cx cy : Int) : Bool :=
  relay.swipe.track.any fun track =>
    decide (SwipeTranslator.OutOfRange relay.swipe.config track cx cy) &&
      (decide (action = .release ∧ relay.swipe.config.tapMaxTravel <
          max |cx - track.startX| |cy - track.startY|) ||
        decide (action = .hold ∧ relay.holdConfig.enabled = true))

/-- A call raises exactly when it leads the gesture in progress out of range. -/
theorem touchRaises_eq (relay : CommandRelay) (action : TouchAction) (cx cy : Int) :
    relay.touchRaises action cx cy = relay.touchOutOfRange action cx cy := by
  unfold touchRaises touchOutOfRange
  dsimp only
  rw [Bool.eq_iff_iff, Bool.or_eq_true, Option.isNone_iff_eq_none,
    SwipeTranslator.feed_eq_none_iff, Bool.and_eq_true, Bool.and_eq_true, beq_iff_eq,
    Option.isNone_iff_eq_none, Option.any_eq_true]
  simp only [Bool.and_eq_true, Bool.or_eq_true, decide_eq_true_eq]
  constructor
  · intro hraises
    rcases hraises with ⟨haction, track, htrack, hrange, hfar⟩ | ⟨⟨henabled, haction⟩, hraised⟩
    · exact ⟨track, htrack, hrange, .inl ⟨haction, hfar⟩⟩
    · subst haction
      obtain ⟨track, htrack, hrange⟩ := SwipeTranslator.currentDirection_feed_hold.mp hraised
      exact ⟨track, htrack, hrange, .inr ⟨rfl, henabled⟩⟩
  · intro hrange
    obtain ⟨track, htrack, hrange, ⟨haction, hfar⟩ | ⟨haction, henabled⟩⟩ := hrange
    · exact .inl ⟨haction, track, htrack, hrange, hfar⟩
    · subst haction
      exact .inr ⟨⟨henabled, rfl⟩,
        SwipeTranslator.currentDirection_feed_hold.mpr ⟨track, htrack, hrange⟩⟩

/-! ## The hold in progress -/

/-- The Samsung key of the hold that was STARTed and not yet STOPped. -/
def heldKey (relay : CommandRelay) : Option String :=
  if relay.holdActive then relay.holdDir.map gestureToSamsung else none

/-- An active hold has a direction, and only when holds are enabled. -/
structure HoldInvariant (relay : CommandRelay) : Prop where
  direction : relay.holdActive = true → ∃ held, held ≠ .select ∧ relay.holdDir = some held
  enabled : relay.holdActive = true → relay.holdConfig.enabled = true

theorem gestureToSamsung_ne_enter {direction : Gesture} (hdirection : direction ≠ .select) :
    gestureToSamsung direction ≠ "KEY_ENTER" := by
  cases direction with
  | select => exact absurd rfl hdirection
  | up | down | left | right => decide

/-- The hold of a direction is never taken for a repeated SELECT. -/
theorem emit_holdCommand (relay : CommandRelay) (nowMs : ℚ) {direction : Gesture}
    (hdirection : direction ≠ .select) (phase : RepeatPhase) :
    relay.emit nowMs (holdCommand direction phase) = (relay, [holdCommand direction phase]) := by
  simp [emit, holdCommand, gestureToSamsung_ne_enter hdirection]

/-- Emitting either sends the command or drops it as a repeated select; the relay remembers
when. -/
theorem emit_cases (relay : CommandRelay) (nowMs : ℚ) (command : Command) :
    ∃ lastSelectMs, (relay.emit nowMs command).1 = { relay with lastSelectMs := lastSelectMs } ∧
      ∀ emitted ∈ (relay.emit nowMs command).2, emitted = command := by
  unfold emit
  split
  · split
    · exact ⟨relay.lastSelectMs, rfl, by simp⟩
    · exact ⟨nowMs, rfl, by simp⟩
  · exact ⟨relay.lastSelectMs, rfl, by simp⟩

/-- The gestures that are emitted are plain commands. -/
theorem emitGestures_cases (relay : CommandRelay) (nowMs : ℚ) (directions : List Gesture) :
    ∃ lastSelectMs,
      (relay.emitGestures nowMs directions).1 = { relay with lastSelectMs := lastSelectMs } ∧
      ∀ emitted ∈ (relay.emitGestures nowMs directions).2, emitted.repeatPhase = none := by
  induction directions generalizing relay with
  | nil => exact ⟨relay.lastSelectMs, rfl, by simp [emitGestures]⟩
  | cons direction rest ih =>
      obtain ⟨firstMs, hfirst, hcommand⟩ := relay.emit_cases nowMs
        { action := .sendKey, samsungKey := some (gestureToSamsung direction),
          source := s!"gesture:{direction.name}" }
      obtain ⟨lastMs, hlast, hcommands⟩ := ih (relay.emitGesture nowMs direction).1
      refine ⟨lastMs, ?_, ?_⟩
      · simp only [emitGestures]
        rw [hlast, emitGesture, hfirst]
      · intro emitted hemitted
        simp only [emitGestures, List.mem_append] at hemitted
        rcases hemitted with hemitted | hemitted
        · rw [hcommand emitted hemitted]
        · exact hcommands emitted hemitted

/-- Ending the hold emits one STOP for the held key, or nothing. -/
theorem endHoldIfActive_cases {relay : CommandRelay} (hhold : relay.HoldInvariant) (nowMs : ℚ) :
    (relay.heldKey = none ∧
      relay.endHoldIfActive nowMs = ({ relay with holdActive := false }, [])) ∨
    ∃ direction, relay.heldKey = some (gestureToSamsung direction) ∧
      relay.endHoldIfActive nowMs =
        ({ relay with holdActive := false }, [holdCommand direction .stop]) := by
  cases hactive : relay.holdActive with
  | false => exact Or.inl ⟨by simp [heldKey, hactive], by simp [endHoldIfActive, hactive]⟩
  | true =>
      obtain ⟨held, hselect, hdirection⟩ := hhold.direction hactive
      refine Or.inr ⟨held, by simp [heldKey, hactive, hdirection], ?_⟩
      simp only [endHoldIfActive, hactive, hdirection, emit_holdCommand _ _ hselect]

/-- What a relay operation does to the hold: nothing, one STOP of the held key
before any other command, or one START when no key was held. -/
inductive HoldChange (relay : CommandRelay) : CommandRelay × List Command → Prop where
  | unchanged (after : CommandRelay) (commands : List Command)
      (hkey : after.heldKey = relay.heldKey)
      (hplain : ∀ command ∈ commands, command.repeatPhase = none) :
      HoldChange relay (after, commands)
  | stopped (after : CommandRelay) (direction : Gesture) (commands : List Command)
      (hbefore : relay.heldKey = some (gestureToSamsung direction))
      (hafter : after.heldKey = none)
      (hplain : ∀ command ∈ commands, command.repeatPhase = none) :
      HoldChange relay (after, holdCommand direction .stop :: commands)
  | started (after : CommandRelay) (direction : Gesture) (hbefore : relay.heldKey = none)
      (hafter : after.heldKey = some (gestureToSamsung direction)) :
      HoldChange relay (after, [holdCommand direction .start])

/-- Plain commands on an unchanged hold are no change of it. -/
theorem HoldChange.of_plain {relay : CommandRelay} (decision : CommandRelay × List Command)
    (hkey : decision.1.heldKey = relay.heldKey)
    (hplain : ∀ command ∈ decision.2, command.repeatPhase = none) : relay.HoldChange decision := by
  obtain ⟨after, commands⟩ := decision
  exact .unchanged after commands hkey hplain

theorem HoldInvariant.of_inactive {relay : CommandRelay} (hinactive : relay.holdActive = false) :
    relay.HoldInvariant :=
  ⟨by simp [hinactive], by simp [hinactive]⟩

theorem heldKey_of_inactive {relay : CommandRelay} (hinactive : relay.holdActive = false) :
    relay.heldKey = none := by
  simp [heldKey, hinactive]

/-- After a hold that ended, with `commands` still to emit. -/
theorem HoldChange.ended {relay : CommandRelay} (hhold : relay.HoldInvariant) (nowMs : ℚ)
    (after : CommandRelay) (hafter : after.heldKey = none) (commands : List Command)
    (hplain : ∀ command ∈ commands, command.repeatPhase = none) :
    relay.HoldChange (after, (relay.endHoldIfActive nowMs).2 ++ commands) := by
  rcases endHoldIfActive_cases hhold nowMs with ⟨hkey, hended⟩ | ⟨direction, hkey, hended⟩
  · rw [hended]
    exact .unchanged after commands (by rw [hafter, hkey]) hplain
  · rw [hended]
    exact .stopped after direction commands hkey hafter hplain

/-- After the end of a hold none is active, and nothing else has changed. -/
theorem endHoldIfActive_holdActive {relay : CommandRelay} (hhold : relay.HoldInvariant)
    (nowMs : ℚ) : (relay.endHoldIfActive nowMs).1 = { relay with holdActive := false } := by
  rcases endHoldIfActive_cases hhold nowMs with ⟨-, hended⟩ | ⟨direction, -, hended⟩ <;>
    rw [hended]

/-- One hold frame keeps the hold, re-arms, or starts it. -/
theorem updateHold_change {relay : CommandRelay} (hhold : relay.HoldInvariant)
    (henabled : relay.holdConfig.enabled = true) (nowMs : ℚ) :
    relay.HoldChange (relay.updateHold nowMs) ∧ (relay.updateHold nowMs).1.HoldInvariant := by
  have hkept : relay.HoldChange (relay, []) ∧ relay.HoldInvariant :=
    ⟨.unchanged relay [] rfl (by simp), hhold⟩
  unfold updateHold
  cases hcurrent : relay.swipe.currentDirection with
  | none => exact hkept
  | some direction =>
      dsimp only
      -- a change of direction ends the hold and starts the dwell again
      by_cases hchanged : direction ≠ relay.holdDir
      · rw [if_pos hchanged]
        refine ⟨?_, .of_inactive (by rw [endHoldIfActive_holdActive hhold])⟩
        have hended := HoldChange.ended hhold nowMs
          { (relay.endHoldIfActive nowMs).1 with
            holdDir := direction
            holdSinceMs := if direction.isSome then nowMs else 0 }
          (heldKey_of_inactive (by rw [endHoldIfActive_holdActive hhold])) [] (by simp)
        rwa [List.append_nil] at hended
      · rw [if_neg hchanged]
        rw [not_not] at hchanged
        cases direction with
        | none => exact hkept
        | some held =>
            have hselect : held ≠ .select := by
              intro hsame
              apply relay.swipe.currentDirection_ne_select
              rw [hcurrent, hsame]
            simp only [emit_holdCommand _ _ hselect]
            split
            · rename_i hstart
              rw [Bool.and_eq_true, Bool.not_eq_true'] at hstart
              have hdir := hchanged.symm
              refine ⟨.started _ held (heldKey_of_inactive hstart.1) (by simp [heldKey, hdir]),
                ?_, ?_⟩
              · exact fun _ => ⟨held, hselect, hdir⟩
              · exact fun _ => henabled
            · exact hkept

/-- The relay once a touch point was fed and its hold is over. -/
def fedAtRest (relay : CommandRelay) (action : TouchAction) (cx cy : Int) : CommandRelay :=
  { relay with swipe := (relay.swipe.feed action cx cy).1, holdActive := false }

/-- What the end of a touch can do: after the STOP its resolution raises, or belongs
to a hold, or is a tap that trails one, or is emitted. -/
theorem finishTouch_cases {relay : CommandRelay} (hhold : relay.HoldInvariant) (nowMs : ℚ)
    (action : TouchAction) (cx cy : Int) :
    ((relay.swipe.feed action cx cy).2 = none ∧ relay.finishTouch nowMs action cx cy =
        (relay.fedAtRest action cx cy, (relay.endHoldIfActive nowMs).2)) ∨
      ∃ directions, (relay.swipe.feed action cx cy).2 = some directions ∧
        ((relay.holdWasActive = true ∧ relay.finishTouch nowMs action cx cy =
            ({ relay.fedAtRest action cx cy with suppressClickUntilPress := true }.resetHoldState,
              (relay.endHoldIfActive nowMs).2)) ∨
          (relay.holdWasActive = false ∧ relay.suppressClickUntilPress = true ∧
            directions = [.select] ∧ relay.finishTouch nowMs action cx cy =
              ((relay.fedAtRest action cx cy).resetHoldState, (relay.endHoldIfActive nowMs).2)) ∨
          (relay.holdWasActive = false ∧
            ¬ (relay.suppressClickUntilPress = true ∧ directions = [.select]) ∧
            relay.finishTouch nowMs action cx cy =
              (((relay.fedAtRest action cx cy).emitGestures nowMs directions).1.resetHoldState,
                (relay.endHoldIfActive nowMs).2 ++
                  ((relay.fedAtRest action cx cy).emitGestures nowMs directions).2))) := by
  have hfed : (relay.endHoldIfActive nowMs).1.feedSwipe action cx cy =
      (relay.fedAtRest action cx cy, (relay.swipe.feed action cx cy).2) := by
    rw [endHoldIfActive_holdActive hhold]
    rfl
  unfold finishTouch
  dsimp only
  rw [hfed]
  cases hdirections : (relay.swipe.feed action cx cy).2 with
  | none => exact .inl ⟨rfl, rfl⟩
  | some directions =>
      refine .inr ⟨directions, rfl, ?_⟩
      dsimp only
      by_cases hwas : relay.holdWasActive = true
      · exact .inl ⟨hwas, if_pos hwas⟩
      · rw [Bool.not_eq_true] at hwas
        rw [if_neg (by simp [fedAtRest, hwas])]
        by_cases htail : relay.suppressClickUntilPress = true ∧ directions = [.select]
        · exact .inr (.inl ⟨hwas, htail.1, htail.2, if_pos htail⟩)
        · exact .inr (.inr ⟨hwas, htail, if_neg htail⟩)

theorem finishTouch_holdActive {relay : CommandRelay} (hhold : relay.HoldInvariant) (nowMs : ℚ)
    (action : TouchAction) (cx cy : Int) :
    (relay.finishTouch nowMs action cx cy).1.holdActive = false := by
  rcases finishTouch_cases hhold nowMs action cx cy with
    ⟨-, hafter⟩ | ⟨directions, -, ⟨-, hafter⟩ | ⟨-, -, -, hafter⟩ | ⟨-, -, hafter⟩⟩
  all_goals
    rw [hafter]
    rfl

/-- The end of a touch stops the hold it had, once. -/
theorem finishTouch_change {relay : CommandRelay} (hhold : relay.HoldInvariant) (nowMs : ℚ)
    (action : TouchAction) (cx cy : Int) :
    relay.HoldChange (relay.finishTouch nowMs action cx cy) ∧
      (relay.finishTouch nowMs action cx cy).1.HoldInvariant := by
  have hinactive := finishTouch_holdActive hhold nowMs action cx cy
  refine ⟨?_, .of_inactive hinactive⟩
  have hended := fun commands => HoldChange.ended hhold nowMs _ (heldKey_of_inactive hinactive)
    commands
  have hquiet := hended [] (by simp)
  rw [List.append_nil] at hquiet
  rcases finishTouch_cases hhold nowMs action cx cy with
    ⟨-, hafter⟩ | ⟨directions, -, ⟨-, hafter⟩ | ⟨-, -, -, hafter⟩ | ⟨-, -, hafter⟩⟩
  · rw [hafter] at hquiet ⊢
    exact hquiet
  · rw [hafter] at hquiet ⊢
    exact hquiet
  · rw [hafter] at hquiet ⊢
    exact hquiet
  · rw [hafter] at hended ⊢
    exact hended _ (emitGestures_cases _ nowMs directions).choose_spec.2

/-- A touch point changes the hold in one of the three ways. -/
theorem onTouch_change {relay : CommandRelay} (hhold : relay.HoldInvariant) (nowMs : ℚ)
    (action : TouchAction) (cx cy : Int) :
    relay.HoldChange (relay.onTouch nowMs action cx cy) ∧
      (relay.onTouch nowMs action cx cy).1.HoldInvariant := by
  unfold onTouch
  by_cases henabled : relay.holdConfig.enabled = true
  · simp only [henabled, Bool.not_true, Bool.false_eq_true, if_false]
    cases action with
    | press =>
        refine ⟨?_, .of_inactive rfl⟩
        have hended := HoldChange.ended hhold nowMs
          (({ (relay.endHoldIfActive nowMs).1.resetHoldState with
            suppressClickUntilPress := false }.feedSwipe .press cx cy).1)
          (heldKey_of_inactive rfl) [] (by simp)
        rwa [List.append_nil] at hended
    | hold =>
        have hfed : ((relay.feedSwipe .hold cx cy).1).HoldInvariant := ⟨hhold.1, hhold.2⟩
        obtain ⟨hchange, hafter⟩ := updateHold_change hfed henabled nowMs
        refine ⟨?_, hafter⟩
        generalize (relay.feedSwipe .hold cx cy).1.updateHold nowMs = decision at hchange
        cases hchange with
        | unchanged after commands hkey hplain => exact .unchanged after commands hkey hplain
        | stopped after direction commands hbefore hafter hplain =>
            exact .stopped after direction commands hbefore hafter hplain
        | started after direction hbefore hafter => exact .started after direction hbefore hafter
    | release => exact finishTouch_change hhold nowMs .release cx cy
    | click => exact finishTouch_change hhold nowMs .click cx cy
    | other => exact ⟨.unchanged _ [] rfl (by simp), ⟨hhold.1, hhold.2⟩⟩
  · simp only [henabled, Bool.not_false, if_true]
    obtain ⟨lastMs, hafter, hplain⟩ := (relay.feedSwipe action cx cy).1.emitGestures_cases nowMs
      ((relay.feedSwipe action cx cy).2.getD [])
    refine ⟨.of_plain _ ?_ hplain, ?_⟩
    · rw [hafter]
      rfl
    · rw [hafter]
      exact ⟨hhold.1, hhold.2⟩

/-- Commands that are not part of a hold leave it alone. -/
theorem emit_change (relay : CommandRelay) (nowMs : ℚ) (command : Command)
    (hplain : command.repeatPhase = none) :
    relay.HoldChange (relay.emit nowMs command) ∧
      (relay.HoldInvariant → (relay.emit nowMs command).1.HoldInvariant) := by
  obtain ⟨lastMs, hafter, hsame⟩ := relay.emit_cases nowMs command
  refine ⟨.of_plain _ ?_ ?_, ?_⟩
  · rw [hafter]
    rfl
  · intro emitted hemitted
    rw [hsame emitted hemitted, hplain]
  · intro hhold
    rw [hafter]
    exact ⟨hhold.1, hhold.2⟩

theorem onButton_change (relay : CommandRelay) (nowMs : ℚ) (hidCode buttonState : Int) :
    relay.HoldChange (relay.onButton nowMs hidCode buttonState) ∧
      (relay.HoldInvariant → (relay.onButton nowMs hidCode buttonState).1.HoldInvariant) := by
  simp only [onButton]
  split
  · exact ⟨.unchanged _ [] rfl (by simp), id⟩
  · split
    · exact ⟨.unchanged _ [] rfl (by simp), id⟩
    · exact emit_change relay nowMs _ rfl

/-- After a press, a release or a click no hold is in progress. -/
theorem onTouch_heldKey_eq_none {relay : CommandRelay} (hhold : relay.HoldInvariant) (nowMs : ℚ)
    {action : TouchAction} (haction : action = .press ∨ action = .release ∨ action = .click)
    (cx cy : Int) : (relay.onTouch nowMs action cx cy).1.heldKey = none := by
  unfold onTouch
  by_cases henabled : relay.holdConfig.enabled = true
  · simp only [henabled, Bool.not_true, Bool.false_eq_true, if_false]
    rcases haction with rfl | rfl | rfl
    · exact heldKey_of_inactive rfl
    · exact heldKey_of_inactive (finishTouch_holdActive hhold nowMs .release cx cy)
    · exact heldKey_of_inactive (finishTouch_holdActive hhold nowMs .click cx cy)
  · have hinactive : relay.holdActive = false := by
      by_contra hactive
      rw [Bool.not_eq_false] at hactive
      exact henabled (hhold.enabled hactive)
    simp only [henabled, Bool.not_false, if_true]
    obtain ⟨lastMs, hafter, -⟩ := (relay.feedSwipe action cx cy).1.emitGestures_cases nowMs
      ((relay.feedSwipe action cx cy).2.getD [])
    rw [hafter]
    exact heldKey_of_inactive hinactive

end CommandRelay

end CompanionBridge
