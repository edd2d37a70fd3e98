import CompanionBridge.Companion.ReleaseFrames

/-!
# The point of a release

A release without coordinates is read as one at the origin, so the gesture is
resolved from its start to the origin and not to the last point reported. The
two agree when the gesture was a hold, or when both ends resolve alike.
-/

namespace CompanionBridge

/-- A touch as the relay is given it. -/
structure TouchReport where
  nowMs : ℚ
  action : TouchAction
  cx : Int
  cy : Int
  deriving DecidableEq

/-- What the relay is given of a touch message handled at a time. -/
def touchReport? (text : PyText) (touch : ℚ × OpackValue) : Option TouchReport :=
  match touchPoint touch.2 text with
  | .error _ => none
  | .ok (rawPhase, cx, cy) =>
      (touchActionNames rawPhase).map fun action => ⟨touch.1, action, cx, cy⟩

/-- A release message that carries neither coordinate. -/
structure ReleasesWithoutPoint (text : PyText) (message content : OpackValue) (phase : Int) :
    Prop where
  hasContent : touchContent message = .ok content
  hasPhase : touchPhase text message = .ok phase
  release : touchActionNames phase = some .release
  noX : content.get "_cx" = .ok none
  noY : content.get "_cy" = .ok none

namespace CommandRelay

/-- The touches of a sequence, each with the commands it emits. -/
def onTouches (relay : CommandRelay) : List TouchReport → CommandRelay × List Command
  | [] => (relay, [])
  | touch :: rest =>
      let first := relay.onTouch touch.nowMs touch.action touch.cx touch.cy
      let others := first.1.onTouches rest
      (others.1, first.2 ++ others.2)

/-- The touch messages of a sequence; the relay sees those whose point is read. -/
def onTouchMessages (relay : CommandRelay) (text : PyText) (touches : List (ℚ × OpackValue)) :
    CommandRelay × List Command :=
  relay.onTouches (touches.filterMap (touchReport? text))

/-- What a gesture from one point to another emits now: nothing when it cannot be
resolved, and nothing for a SELECT that comes too soon after the last one. -/
def resolvedNow (relay : CommandRelay) (nowMs : ℚ) (startX startY cx cy : Int) : List Gesture :=
  let directions := (SwipeTranslator.resolve relay.swipe.config startX startY cx cy).getD []
  if directions = [.select] ∧ Doubles.sub nowMs relay.lastSelectMs < relay.selectDedupeMs then []
  else directions

/-- Whether the gesture in progress was a hold. -/
def wasHold (relay : CommandRelay) : Bool :=
  relay.holdConfig.enabled && relay.holdWasActive

theorem onTouches_append (relay : CommandRelay) (first second : List TouchReport) :
    relay.onTouches (first ++ second) =
      (((relay.onTouches first).1.onTouches second).1,
        (relay.onTouches first).2 ++ ((relay.onTouches first).1.onTouches second).2) := by
  induction first generalizing relay with
  | nil => simp [onTouches]
  | cons touch rest ih => simp only [List.cons_append, onTouches, ih, List.append_assoc]

/-! ## What a gesture emits -/

def gestureCommand (direction : Gesture) : Command :=
  { action := .sendKey, samsungKey := some (gestureToSamsung direction),
    source := s!"gesture:{direction.name}" }

/-- Different gestures are different keys. -/
theorem gestureToSamsung_injective : Function.Injective gestureToSamsung := by
  intro first second hsame
  cases first <;> cases second <;> first | rfl | exact absurd hsame (by decide)

theorem gestureCommand_injective : Function.Injective gestureCommand := by
  intro first second hsame
  apply gestureToSamsung_injective
  have hkey := congrArg Command.samsungKey hsame
  exact Option.some.inj hkey

/-- A direction other than a tap is emitted as often as it was resolved. -/
theorem emitGestures_replicate (relay : CommandRelay) (nowMs : ℚ) {direction : Gesture}
    (hdirection : direction ≠ .select) (count : Nat) :
    relay.emitGestures nowMs (List.replicate count direction) =
      (relay, (List.replicate count direction).map gestureCommand) := by
  have hkey := gestureToSamsung_ne_enter hdirection
  induction count with
  | zero => rfl
  | succ count ih =>
      rw [List.replicate_succ, List.map_cons]
      simp only [emitGestures]
      have hemit : relay.emitGesture nowMs direction = (relay, [gestureCommand direction]) := by
        simp [emitGesture, emit, hkey, gestureCommand]
      rw [hemit, ih]
      rfl

/-- A select is dropped when it follows another too soon. -/
theorem emitGestures_select (relay : CommandRelay) (nowMs : ℚ) :
    (relay.emitGestures nowMs [.select]).2 =
      if Doubles.sub nowMs relay.lastSelectMs < relay.selectDedupeMs then []
      else [gestureCommand .select] := by
  simp only [emitGestures, emitGesture, emit, gestureToSamsung, if_true]
  split <;> rfl

/-- A gesture resolves to one tap, or to one direction some times, or not at all. -/
theorem resolve_cases (config : GestureConfig) (startX startY cx cy : Int) :
    SwipeTranslator.resolve config startX startY cx cy = some [.select] ∨
    ∃ direction count, direction ≠ .select ∧
      (SwipeTranslator.resolve config startX startY cx cy).getD [] =
        List.replicate count direction := by
  unfold SwipeTranslator.resolve
  dsimp only
  split
  · exact Or.inl rfl
  · right
    cases hdominant : SwipeTranslator.dominantDirection config
        (SwipeTranslator.applyInversion config (cx - startX) (cy - startY)).1
        (SwipeTranslator.applyInversion config (cx - startX) (cy - startY)).2 with
    | none => exact ⟨.up, 0, by decide, rfl⟩
    | some resolved =>
        cases resolved with
        | none => exact ⟨.up, 0, by decide, rfl⟩
        | some swiped =>
            exact ⟨swiped.1, _, SwipeTranslator.dominantDirection_ne_select hdominant, rfl⟩

theorem replicate_ne_select {direction : Gesture} (hdirection : direction ≠ .select)
    (count : Nat) : List.replicate count direction ≠ [.select] := by
  intro hsame
  have hmem : Gesture.select ∈ List.replicate count direction := by rw [hsame]; simp
  exact hdirection (List.eq_of_mem_replicate hmem).symm

/-- The commands of a resolved gesture. -/
theorem emitGestures_resolve (relay : CommandRelay) (nowMs : ℚ) (startX startY cx cy : Int) :
    (relay.emitGestures nowMs
      ((SwipeTranslator.resolve relay.swipe.config startX startY cx cy).getD [])).2 =
      (relay.resolvedNow nowMs startX startY cx cy).map gestureCommand := by
  unfold resolvedNow
  rcases resolve_cases relay.swipe.config startX startY cx cy with
    htap | ⟨direction, count, hdirection, hswipe⟩
  · simp only [htap, Option.getD_some, emitGestures_select, true_and]
    split <;> rfl
  · have hnoTap := replicate_ne_select hdirection count
    simp only [hswipe, emitGestures_replicate relay nowMs hdirection, hnoTap, false_and, if_false]

/-! ## A gesture in progress -/

/-- The relay between the press of a gesture and its release. -/
structure InGesture (relay : CommandRelay) (track : Track) : Prop where
  track : relay.swipe.track = some track
  unsuppressed : relay.holdConfig.enabled = true → relay.suppressClickUntilPress = false
  wasActive : relay.holdConfig.enabled = true → relay.holdActive = true →
    relay.holdWasActive = true

/-- Emitting changes nothing but the time of the last SELECT. -/
theorem endHoldIfActive_relay (relay : CommandRelay) (nowMs : ℚ) :
    ∃ lastSelectMs, (relay.endHoldIfActive nowMs).1 =
      { relay with lastSelectMs := lastSelectMs, holdActive := false } := by
  unfold endHoldIfActive
  split
  · rename_i direction _ _
    obtain ⟨lastSelectMs, hrelay, -⟩ := relay.emit_cases nowMs (holdCommand direction .stop)
    refine ⟨lastSelectMs, ?_⟩
    simp only [hrelay]
  · exact ⟨relay.lastSelectMs, rfl⟩

/-- A press begins a gesture at its own point, wherever the last one ended. -/
theorem onTouch_press (relay : CommandRelay) (nowMs : ℚ) (cx cy : Int) :
    InGesture (relay.onTouch nowMs .press cx cy).1 ⟨cx, cy, cx, cy⟩ := by
  unfold onTouch
  by_cases henabled : relay.holdConfig.enabled = true
  · simp only [henabled, Bool.not_true, Bool.false_eq_true, if_false]
    exact ⟨rfl, fun _ => rfl, fun _ hactive => absurd hactive Bool.false_ne_true⟩
  · simp only [henabled, Bool.not_false, if_true]
    obtain ⟨lastMs, hafter, -⟩ := (relay.feedSwipe .press cx cy).1.emitGestures_cases nowMs
      ((relay.feedSwipe .press cx cy).2.getD [])
    rw [hafter]
    exact ⟨rfl, fun h => absurd h henabled, fun h => absurd h henabled⟩

/-- A hold frame moves the last point and may start or stop a hold. -/
theorem onTouch_hold {relay : CommandRelay} {track : Track} (h : relay.InGesture track)
    (nowMs : ℚ) (cx cy : Int) :
    (relay.onTouch nowMs .hold cx cy).1.InGesture { track with lastX := cx, lastY := cy } := by
  have hfeed : relay.feedSwipe .hold cx cy =
      ({ relay with
          swipe := { relay.swipe with track := some { track with lastX := cx, lastY := cy } } },
        some []) := by
    simp only [feedSwipe, SwipeTranslator.feed, h.track]
  unfold onTouch
  by_cases henabled : relay.holdConfig.enabled = true
  · simp only [henabled, Bool.not_true, Bool.false_eq_true, if_false, hfeed]
    have hmoved : InGesture
        { relay with
          swipe := { relay.swipe with track := some { track with lastX := cx, lastY := cy } } }
        { track with lastX := cx, lastY := cy } := ⟨rfl, h.unsuppressed, h.wasActive⟩
    -- what follows depends on the moved relay through its gesture alone
    generalize
      ({ relay with
          swipe := { relay.swipe with track := some { track with lastX := cx, lastY := cy } } } :
        CommandRelay) = moved at hmoved
    unfold updateHold
    cases moved.swipe.currentDirection with
    | none => exact hmoved
    | some direction =>
        dsimp only
        split
        · obtain ⟨lastMs, hended⟩ := moved.endHoldIfActive_relay nowMs
          rw [hended]
          exact ⟨hmoved.track, hmoved.unsuppressed, fun _ hactive => absurd hactive (by simp)⟩
        · cases direction with
          | none => exact hmoved
          | some held =>
              dsimp only
              split
              · obtain ⟨lastMs, hstarted, -⟩ := moved.emit_cases nowMs (holdCommand held .start)
                rw [hstarted]
                exact ⟨hmoved.track, hmoved.unsuppressed, fun _ _ => rfl⟩
              · exact hmoved
  · simp only [henabled, Bool.not_false, if_true, hfeed, Option.getD_some, emitGestures]
    exact ⟨rfl, fun h => absurd h henabled, fun h => absurd h henabled⟩

/-- The track of a gesture: its press, and the last of its moves. -/
theorem onTouches_inGesture {relay : CommandRelay} {track : Track} (h : relay.InGesture track)
    {moves : List TouchReport} (hmoves : ∀ move ∈ moves, move.action = .hold) :
    (relay.onTouches moves).1.InGesture
      (moves.foldl (fun track move => { track with lastX := move.cx, lastY := move.cy }) track) := by
  induction moves generalizing relay track with
  | nil => exact h
  | cons move rest ih =>
      simp only [List.mem_cons, forall_eq_or_imp] at hmoves
      simp only [onTouches, hmoves.1, List.foldl_cons]
      exact ih (onTouch_hold h move.nowMs move.cx move.cy) hmoves.2

/-- The track after the moves of a gesture ends at the last of them. -/
theorem track_of_moves (press : TouchReport) (moves : List TouchReport) :
    moves.foldl (fun track move => { track with lastX := move.cx, lastY := move.cy })
        (⟨press.cx, press.cy, press.cx, press.cy⟩ : Track) =
      ⟨press.cx, press.cy, (moves.getLastD press).cx, (moves.getLastD press).cy⟩ := by
  induction moves using List.reverseRecOn with
  | nil => rfl
  | append_singleton moves move ih =>
      rw [List.foldl_append, ih]
      simp

/-- A gesture towards the origin is a tap exactly when it began near it. -/
theorem resolve_origin (config : GestureConfig) (startX startY : Int) :
    SwipeTranslator.resolve config startX startY 0 0 = some [.select] ↔
      max |startX| |startY| ≤ config.tapMaxTravel := by
  have htravel : max |(SwipeTranslator.applyInversion config (0 - startX) (0 - startY)).1|
      |(SwipeTranslator.applyInversion config (0 - startX) (0 - startY)).2| =
      max |startX| |startY| := by
    simp only [SwipeTranslator.applyInversion]
    split <;> split <;> simp
  simp only [SwipeTranslator.resolve, htravel]
  by_cases hnear : max |startX| |startY| ≤ config.tapMaxTravel
  · simp [hnear]
  · simp only [hnear, if_false, iff_false, Option.map_eq_some_iff]
    intro hresolved
    obtain ⟨resolved, hdominant, htap⟩ := hresolved
    cases resolved with
    | none => cases htap
    | some swiped =>
        exact replicate_ne_select (SwipeTranslator.dominantDirection_ne_select hdominant) _ htap

/-! ## The release -/

/-- The commands of a release: those that end the hold, and the gesture unless it was one. -/
theorem onTouch_release {relay : CommandRelay} {track : Track} (h : relay.InGesture track)
    (nowMs : ℚ) (cx cy : Int) :
    (relay.onTouch nowMs .release cx cy).2 =
      if relay.wasHold then (relay.endHoldIfActive nowMs).2
      else (relay.resolvedNow nowMs track.startX track.startY cx cy).map gestureCommand := by
  unfold onTouch wasHold
  by_cases henabled : relay.holdConfig.enabled = true
  · simp only [henabled, Bool.not_true, Bool.false_eq_true, if_false, Bool.true_and]
    obtain ⟨lastMs, hended⟩ := relay.endHoldIfActive_relay nowMs
    by_cases hheld : relay.holdWasActive = true
    · simp only [finishTouch, feedSwipe, hended, hheld, if_true]
      split <;> rfl
    · have hquiet : relay.endHoldIfActive nowMs = ({ relay with holdActive := false }, []) := by
        have hinactive : relay.holdActive = false := by
          by_contra hactive
          exact hheld (h.wasActive henabled (by simpa using hactive))
        simp only [endHoldIfActive, hinactive]
      have hopen := h.unsuppressed henabled
      have hemitted := emitGestures_resolve
        { relay with
          holdActive := false
          holdWasActive := false
          suppressClickUntilPress := false
          swipe := { relay.swipe with track := none } } nowMs track.startX track.startY cx cy
      simp only [finishTouch, feedSwipe, hquiet, SwipeTranslator.feed, h.track, hheld, hopen,
        Bool.false_eq_true, if_false, false_and, List.nil_append]
      split
      · rename_i hraised
        refine Eq.trans ?_ hemitted
        simp only [hraised, Option.getD_none, emitGestures]
      · rename_i directions hresolved
        refine Eq.trans ?_ hemitted
        simp only [hresolved, Option.getD_some]
  · simp only [henabled, Bool.not_false, if_true, Bool.false_and, Bool.false_eq_true, if_false,
      feedSwipe, SwipeTranslator.feed, h.track]
    exact emitGestures_resolve { relay with swipe := { relay.swipe with track := none } } nowMs
      track.startX track.startY cx cy

end CommandRelay

/-- A release without coordinates is reported at the origin. -/
theorem ReleasesWithoutPoint.report {text : PyText} {message content : OpackValue} {phase : Int}
    (h : ReleasesWithoutPoint text message content phase) (nowMs : ℚ) :
    touchReport? text (nowMs, message) = some ⟨nowMs, .release, 0, 0⟩ := by
  have hphase := h.hasPhase
  unfold touchPhase at hphase
  simp only [Outcome.bind_eq_ok] at hphase
  obtain ⟨held, hheld, value, hvalue, hphase⟩ := hphase
  obtain rfl : content = held := Except.ok.inj (h.hasContent.symm.trans hheld)
  have hpoint : touchPoint message text = .ok (phase, 0, 0) := by
    rw [touchPoint_eq]
    simp only [Outcome.bind_eq_ok]
    refine ⟨content, hheld, value, hvalue, phase, hphase, 0, ?_, 0, ?_, rfl⟩
    · simp only [optionalInt, h.noX]
      rfl
    · simp only [optionalInt, h.noY]
      rfl
  simp [touchReport?, hpoint, h.release]

/-- A gesture ended by a release without coordinates emits what a release at the
origin would; that is what a release at the last reported point would emit
exactly when the gesture was a hold or both ends resolve alike. Without movement
it resolves to a tap exactly near the origin. -/
theorem release_without_point (text : PyText) (relay : CommandRelay)
    {touches : List (ℚ × OpackValue)} {press : TouchReport} {moves : List TouchReport}
    {nowMs : ℚ} {message content : OpackValue} {phase : Int}
    (htouches : touches.filterMap (touchReport? text) = press :: moves)
    (hpress : press.action = .press) (hmoves : ∀ move ∈ moves, move.action = .hold)
    (hrelease : ReleasesWithoutPoint text message content phase) :
    let emitted := fun ending => (relay.onTouchMessages text (touches ++ [(nowMs, ending)])).2
    let state := (relay.onTouchMessages text touches).1
    let last := moves.getLastD press
    (∀ origin, touchReport? text (nowMs, origin) = some ⟨nowMs, .release, 0, 0⟩ →
      emitted message = emitted origin) ∧
    (∀ carried, touchReport? text (nowMs, carried) = some ⟨nowMs, .release, last.cx, last.cy⟩ →
      (emitted message = emitted carried ↔
        state.wasHold = true ∨
          state.resolvedNow nowMs press.cx press.cy 0 0 =
            state.resolvedNow nowMs press.cx press.cy last.cx last.cy)) ∧
    (moves = [] →
      (SwipeTranslator.resolve state.swipe.config press.cx press.cy 0 0 = some [.select] ↔
      max |press.cx| |press.cy| ≤ state.swipe.config.tapMaxTravel)) := by
  intro emitted state last
  have hstate : state = ((relay.onTouch press.nowMs .press press.cx press.cy).1.onTouches moves).1 := by
    simp only [state, CommandRelay.onTouchMessages, htouches, CommandRelay.onTouches, hpress]
  have hgesture := CommandRelay.onTouches_inGesture
    (relay.onTouch_press press.nowMs press.cx press.cy) hmoves
  rw [← hstate, CommandRelay.track_of_moves] at hgesture
  have hemitted : ∀ ending cx cy,
      touchReport? text (nowMs, ending) = some ⟨nowMs, .release, cx, cy⟩ →
      emitted ending = (relay.onTouchMessages text touches).2 ++
        (state.onTouch nowMs .release cx cy).2 := by
    intro ending cx cy hreport
    simp only [emitted, state, CommandRelay.onTouchMessages, List.filterMap_append,
      List.filterMap_cons, hreport, List.filterMap_nil, CommandRelay.onTouches_append,
      CommandRelay.onTouches, List.append_nil]
  have horigin := hemitted message 0 0 (hrelease.report nowMs)
  refine ⟨?_, ?_, ?_⟩
  · intro origin hreport
    rw [horigin, hemitted origin 0 0 hreport]
  · intro carried hreport
    rw [horigin, hemitted carried last.cx last.cy hreport, List.append_cancel_left_eq,
      CommandRelay.onTouch_release hgesture, CommandRelay.onTouch_release hgesture]
    by_cases hheld : state.wasHold = true
    · simp [hheld]
    · simp only [hheld, Bool.false_eq_true, if_false, false_or]
      exact (List.map_injective_iff.mpr CommandRelay.gestureCommand_injective).eq_iff
  · intro hnone
    exact CommandRelay.resolve_origin _ _ _

/-- A press at a point and a release without one. -/
def pressAt (cx cy : Nat) : ℚ × OpackValue :=
  (0, touchMessage 1 [(.ofStr "_cx", .ofInt cx), (.ofStr "_cy", .ofInt cy)])

/-- Near the origin the release without coordinates is the tap it would have been. -/
theorem release_without_point_tap :
    let emitted := fun coordinates =>
      (CommandRelay.onTouchMessages { lastSelectMs := -1000 } transparentBridge.text
        [pressAt 20 30, (50, touchMessage 4 coordinates)]).2
    emitted [] = emitted [(.ofStr "_cx", .ofInt 20), (.ofStr "_cy", .ofInt 30)] := by
  intro emitted
  have hpress : [pressAt 20 30].filterMap (touchReport? transparentBridge.text) =
      [⟨0, .press, 20, 30⟩] := by
    decide +kernel
  have hrelease : ReleasesWithoutPoint transparentBridge.text (touchMessage 4 [])
      (.dict [(.ofStr "_tPh", .ofInt 4)]) 4 := ⟨rfl, rfl, rfl, rfl, rfl⟩
  have hthree := @release_without_point transparentBridge.text { lastSelectMs := -1000 }
    [pressAt 20 30] _ [] 50 _ _ _ hpress rfl (by simp) hrelease
  exact (hthree.2.1 _ (by decide +kernel)).mpr (Or.inr (by decide +kernel))

/-- A tap on the right edge whose release has no coordinates is taken for a left swipe. -/
theorem release_without_point_fails :
    let emitted := fun coordinates =>
      (CommandRelay.onTouchMessages { lastSelectMs := -1000 } transparentBridge.text
        [pressAt 900 100, (50, touchMessage 4 coordinates)]).2.map Command.samsungKey
    emitted [] = [some "KEY_LEFT"] ∧
      emitted [(.ofStr "_cx", .ofInt 900), (.ofStr "_cy", .ofInt 100)] = [some "KEY_ENTER"] := by
  decide +kernel

end CompanionBridge
