import CompanionBridge.Companion.FrameEnds
import CompanionBridge.Protocol.OpackSizes

/-!
# Button messages

The base handler keeps the pressed set and answers; its override decides what
is relayed. For a well-shaped `_hidC` message both are read off the button, its
state and the set of pressed buttons, each from a table of its own.
-/

namespace CompanionBridge

open Handler

/-- The button and the state of a well-shaped `_hidC` message. -/
def buttonMessage? (text : PyText) (message : OpackValue) : Option (HidCommand × Nat) := do
  let handler ← (requestedHandler text message).toOption
  let xid ← (message.getItem "_x").toOption
  let content ← (message.getItem "_c").toOption
  let code ← (content.getItem "_hidC").toOption
  let buttonState ← (content.getItem "_hBtS").toOption
  match handler, xid, code, buttonState with
  | some .hidc, .scalar (.int _ _), .scalar (.int code _), .scalar (.int buttonState _) =>
      if buttonState ≤ 2 then
        (HidCommand.all.find? fun button => button.code = code).map fun button =>
          (button, buttonState)
      else none
  | _, _, _, _ => none

/-- What a button message makes of the pressed set. -/
def pressedAfter (pressed : Finset HidCommand) : HidCommand × Nat → Finset HidCommand
  | (button, buttonState) =>
      if buttonState = 1 ∧ button ≠ .siri then insert button pressed
      else if buttonState = 2 ∧ (button = .sleep ∨ button = .wake ∨ button = .pageUp) then pressed
      else pressed.erase button

/-- A release in state 2 of a button that is not pressed, or that the base table does not name. -/
def isStrayRelease (pressed : Finset HidCommand) (button : HidCommand) (buttonState : Nat) : Bool :=
  buttonState = 2 && button ≠ .siri && button ≠ .sleep && button ≠ .wake &&
    (button.buttonName?.isNone || button ∉ pressed)

/-- A message correlated with a request. -/
def isResponse (message : OpackValue) : Bool :=
  match message.getItem "_t" with
  | .ok kind => kind.eqScalar (.int 3 none)
  | .error _ => false

/-! ## The shape of the message -/

theorem eqScalar_int (value other : Nat) (size : Option Nat) :
    (OpackValue.scalar (.int value size)).eqScalar (.int other none) = decide (value = other) := by
  have hunit : (floatUnit : Int) ≠ 0 := Int.natCast_ne_zero.mpr floatUnit_pos.ne'
  simp only [OpackValue.eqScalar, OpackScalar.pyEq, OpackScalar.number?, PyNumber.finite.injEq,
    mul_eq_mul_right_iff, hunit, or_false, Nat.cast_inj]

/-- A button message in its parts. -/
structure ButtonMessage (text : PyText) (message : OpackValue) (button : HidCommand)
    (buttonState : Nat) : Prop where
  handler : requestedHandler text message = .ok (some .hidc)
  xid : ∃ xid size, message.getItem "_x" = .ok (.scalar (.int xid size))
  content : ∃ content codeSize stateSize, message.getItem "_c" = .ok content ∧
    content.getItem "_hidC" = .ok (.scalar (.int button.code codeSize)) ∧
    content.getItem "_hBtS" = .ok (.scalar (.int buttonState stateSize))
  bounded : buttonState ≤ 2

theorem toOption_eq_some {Result : Type} {outcome : Except PyError Result} {result : Result} :
    outcome.toOption = some result ↔ outcome = .ok result := by
  cases outcome with
  | ok held => simp [Except.toOption]
  | error error => simp [Except.toOption]

/-- The partial function that recognises a button message is exact. -/
theorem buttonMessage?_eq_some {text : PyText} {message : OpackValue} {button : HidCommand}
    {buttonState : Nat} (hbutton : buttonMessage? text message = some (button, buttonState)) :
    ButtonMessage text message button buttonState := by
  unfold buttonMessage? at hbutton
  simp only [Option.bind_eq_bind, Option.bind_eq_some_iff, toOption_eq_some] at hbutton
  obtain ⟨handler, hhandler, xid, hxid, content, hcontent, code, hcode, held, hheld, hbutton⟩ :=
    hbutton
  split at hbutton
  · split at hbutton
    · rename_i hbounded
      rw [Option.map_eq_some_iff] at hbutton
      obtain ⟨found, hfound, hpair⟩ := hbutton
      obtain ⟨rfl, rfl⟩ := Prod.mk.inj hpair
      have hcodes := List.find?_some hfound
      rw [decide_eq_true_eq] at hcodes
      subst hcodes
      exact ⟨hhandler, ⟨_, _, hxid⟩, ⟨content, _, _, hcontent, hcode, hheld⟩, hbounded⟩
    · exact absurd hbutton (by simp)
  · exact absurd hbutton (by simp)

/-- The identifier of a message for the button handler. -/
theorem ButtonMessage.identifier {text : PyText} {message : OpackValue} {button : HidCommand}
    {buttonState : Nat} (hshape : ButtonMessage text message button buttonState) :
    ∃ identifier, message.getItem "_i" = .ok (.ofStr identifier) ∧
      text.lower identifier = "_hidc" := by
  have hhandler := hshape.handler
  unfold requestedHandler at hhandler
  rw [Outcome.bind_eq_ok] at hhandler
  obtain ⟨identifier, hidentifier, hhandler⟩ := hhandler
  rw [Outcome.bind_eq_ok] at hhandler
  obtain ⟨method, hmethod, hhandler⟩ := hhandler
  have hfound : method.bind MessageHandler.ofName? = some .hidc := Except.ok.inj hhandler
  rw [Option.bind_eq_some_iff] at hfound
  obtain ⟨name, rfl, hname⟩ := hfound
  have hnames := List.find?_some hname
  rw [decide_eq_true_eq] at hnames
  unfold requestedMethod at hmethod
  split at hmethod
  · rename_i held
    refine ⟨held, hidentifier, ?_⟩
    rw [Except.ok.injEq, Option.some.injEq] at hmethod
    rw [hmethod, ← hnames]
    rfl
  · exact absurd hmethod (by simp)
  · exact absurd hmethod (by simp)

/-- A button message always gets its answer from its own handler. -/
theorem ButtonMessage.not_startup {text : PyText} {message : OpackValue} {button : HidCommand}
    {buttonState : Nat} (hshape : ButtonMessage text message button buttonState) :
    isStartupResponse message = false := by
  obtain ⟨identifier, hidentifier, -⟩ := hshape.identifier
  unfold isStartupResponse
  cases message with
  | dict entries =>
      unfold OpackValue.getItem at hidentifier
      dsimp only at hidentifier ⊢
      cases hlookup : OpackValue.lookup "_i" entries with
      | none => simp [hlookup] at hidentifier
      | some held => simp
  | _ => rfl

/-! ## The handler of a button message -/

/-- The answer to a button message. -/
def answerButton (externals : BridgeExternals) (message : OpackValue) (button : HidCommand)
    (buttonState : Nat) (pressed : Finset HidCommand) : HandlerM Unit :=
  if buttonState = 2 ∧ button ≠ .siri ∧ button ≠ .sleep ∧ button ≠ .wake then
    if button.buttonName?.isNone then pure ()
    else if button ∉ pressed then
      sendError externals message s!"Missing button DOWN for {button.name}"
    else do
      let volume ← Handler.read fun connection => connection.state.volume
      if button = .volumeUp then volumeChanged externals (volume + volumeStep)
      else if button = .volumeDown then volumeChanged externals (volume - volumeStep)
      else pure ()
      sendResponse externals message emptyDict
  else sendResponse externals message emptyDict

theorem ofValue?_code (button : HidCommand) (size : Option Nat) :
    HidCommand.ofValue? (.scalar (.int button.code size)) = some button := by
  unfold HidCommand.ofValue? OpackValue.enumMember?
  simp only [eqScalar_int]
  cases button <;> decide

theorem find?_code (button : HidCommand) :
    (HidCommand.all.find? fun command => (command.code : Int) = (button.code : Int)) =
      some button := by
  cases button <;> decide

/-- What `handle__hidc` reads from the message is the button and the state it names. -/
theorem hidButton_eq {text : PyText} {message : OpackValue} {button : HidCommand}
    {buttonState : Nat} (hshape : ButtonMessage text message button buttonState) :
    hidButton message text = .ok ((button.code : Int), (buttonState : Int)) := by
  obtain ⟨content, codeSize, stateSize, hcontent, hcode, hstate⟩ := hshape.content
  unfold hidButton
  simp only [Outcome.bind_eq_ok]
  exact ⟨content, hcontent, _, hcode, _, rfl, _, hstate, _, rfl, rfl⟩

variable {externals : BridgeExternals} {inputs : BridgeInputs} {message : OpackValue}
variable {button : HidCommand} {buttonState : Nat}

def BridgeConnection.withPressed (connection : BridgeConnection) (pressed : Finset HidCommand) :
    BridgeConnection :=
  { connection with session := { connection.session with pressedButtons := pressed } }

/-- Updating the pressed buttons changes nothing else. -/
theorem updatePressedButtons_perform (change : Finset HidCommand → Finset HidCommand)
    (connection : BridgeConnection) :
    (updatePressedButtons change).perform connection =
      (.ok (), connection.withPressed (change connection.session.pressedButtons)) := rfl

/-- The base handler changes the pressed set, and then answers. -/
theorem handleHidcBase_perform (hshape : ButtonMessage externals.text message button buttonState)
    (hstate : buttonState ≠ 0) (connection : BridgeConnection) :
    (handleHidcBase externals message).perform connection =
      (do
        updatePressedButtons fun pressed => pressedAfter pressed (button, buttonState)
        answerButton externals message button buttonState
          connection.session.pressedButtons).perform connection := by
  obtain ⟨content, codeSize, stateSize, hcontent, hcode, hbutton⟩ := hshape.content
  have hbounded := hshape.bounded
  unfold handleHidcBase
  simp only [perform_bind, perform_lift, hcontent, hcode, hbutton, ofValue?_code, eqScalar_int]
  unfold answerButton
  -- The source looks at Siri first, then at the state, then at the power buttons.
  by_cases hsiri : button = .siri
  · simp [hsiri, perform_bind, pressedAfter]
  · rw [if_neg hsiri]
    by_cases hdown : buttonState = 1
    · simp [hdown, hsiri, perform_bind, pressedAfter]
    · have hrelease : buttonState = 2 := by omega
      by_cases hpower : button = .sleep ∨ button = .wake
      · rcases hpower with rfl | rfl
        · simp [hrelease, pressedAfter]
          rfl
        · simp [hrelease, pressedAfter]
          rfl
      · rw [not_or] at hpower
        cases hname : button.buttonName? with
        | none =>
            have hpage : button = .pageUp := by
              cases button <;> simp_all [HidCommand.buttonName?]
            subst hpage
            simp [hrelease, pressedAfter]
            rfl
        | some name =>
            have hpage : button ≠ .pageUp := by
              rintro rfl
              exact absurd hname (by simp [HidCommand.buttonName?])
            -- erasing a button that is not pressed leaves the set as it is
            by_cases hpressed : button ∈ connection.session.pressedButtons
            · simp [hrelease, hsiri, hpower, hpage, hpressed, pressedAfter, perform_bind,
                updatePressedButtons_perform]
            · simp [hrelease, hsiri, hpower, hpage, hpressed, pressedAfter, perform_bind,
                updatePressedButtons_perform]
              rfl

/-- A button message changes the pressed set, is answered, and is then relayed. -/
theorem handleHidc_perform (hshape : ButtonMessage externals.text message button buttonState)
    (connection : BridgeConnection) :
    (handleHidc externals inputs message).perform connection =
      (do
        updatePressedButtons fun pressed => pressedAfter pressed (button, buttonState)
        answerButton externals message button buttonState connection.session.pressedButtons
        relayCommands inputs fun relay =>
          relay.onButton inputs.nowMs button.code buttonState).perform connection := by
  unfold handleHidc
  rw [hidButton_eq hshape]
  dsimp only
  by_cases hzero : buttonState = 0
  · rw [if_pos (by simp [hzero]), find?_code]
    simp [hzero, answerButton, pressedAfter]
  · rw [if_neg (by simp [hzero]), perform_bind, handleHidcBase_perform hshape hzero]
    simp only [perform_bind, updatePressedButtons_perform]

/-! ## The size of an answer -/

/-- The response to a request whose identifier is short is short. -/
theorem response_length_le {depth : Nat} {identifier : String} {xid : Nat} {size : Option Nat}
    {encoded : Bytes} (hshort : identifier.length ≤ 5)
    (hencoded : pack depth
      (responseMessage (.ofStr identifier) (.scalar (.int xid size)) emptyDict) = some encoded) :
    encoded.length ≤ maxApplicationPayload := by
  have htext : ∀ text : String, text.length ≤ 5 → ∀ held,
      (OpackScalar.str text).pack = some held → held.length ≤ 25 := by
    intro text htext held hheld
    have hutf8 := utf8_length_le text
    have hpacked := packStr_length_le hheld
    omega
  have hnumber : ∀ value size held,
      (OpackScalar.int value size).pack = some held → held.length ≤ 25 :=
    fun value size held hheld => (packInt_length_le hheld).trans (by decide)
  have hitems : ∀ {depth}, ∀ value ∈ flattenEntries [(.ofStr "_i", .ofStr identifier),
      (.ofStr "_x", .scalar (.int xid size)), (.ofStr "_t", .ofInt 3), (.ofStr "_c", emptyDict)],
      ∀ {objects packed after},
        packWith depth value objects = some (packed, after) → packed.length ≤ 34 := by
    intro depth value hvalue objects packed after hpacked
    -- A value of the answer is one of its keys, the identifier or a small number.
    have hkey : ∀ key : String, key.length ≤ 5 → value = .ofStr key → packed.length ≤ 34 := by
      rintro key hlength rfl
      exact packWith_scalar_length_le (htext key hlength) hpacked
    have hint : ∀ held width, value = .scalar (.int held width) → packed.length ≤ 34 := by
      rintro held width rfl
      exact packWith_scalar_length_le (hnumber held width) hpacked
    simp only [flattenEntries, List.flatMap_cons, List.flatMap_nil, List.cons_append,
      List.nil_append, List.mem_cons, List.not_mem_nil, or_false] at hvalue
    rcases hvalue with hvalue | hvalue | hvalue | hvalue | hvalue | hvalue | hvalue | hvalue
    · exact hkey "_i" (by decide) hvalue
    · exact hkey identifier hshort hvalue
    · exact hkey "_x" (by decide) hvalue
    · exact hint xid size hvalue
    · exact hkey "_t" (by decide) hvalue
    · exact hint 3 none hvalue
    · exact hkey "_c" (by decide) hvalue
    · subst hvalue
      cases depth with
      | zero => exact absurd hpacked (by simp [packWith])
      | succ depth =>
          have hempty := @packWith_dict_length_le [] 0 depth (by simp [flattenEntries]) _ _ _ hpacked
          exact hempty.trans (by decide)
  unfold pack at hencoded
  rw [Option.map_eq_some_iff] at hencoded
  obtain ⟨⟨packed, after⟩, hpacked, rfl⟩ := hencoded
  cases depth with
  | zero => exact absurd hpacked (by simp [packWith])
  | succ depth =>
      have hlength := packWith_dict_length_le (fun value hvalue => hitems value hvalue) hpacked
      exact hlength.trans (by simp [flattenEntries, maxApplicationPayload])

end CompanionBridge
