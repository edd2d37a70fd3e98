import CompanionBridge.Companion.ButtonMessages
import CompanionBridge.Companion.FrameEnds

/-!
# The text field of a session

The phone sends edits of a text field, and the bridge keeps what the field holds
and submits the whole of it whenever an edit changed it. The field is compared
with what it held before the edit, and not with what the lane accepted last, so
an edit that changes nothing is dropped also when the text was never accepted.
-/

namespace CompanionBridge

open Handler

/-! ## Edits -/

/-- One change of a text field: replace it, delete its end, append to it. -/
structure TextEdit where
  replacement : Option (List Char) := none
  deleted : Nat := 0
  inserted : List Char := []
  deriving DecidableEq

/-- The field after an edit, capped. -/
def TextEdit.edit (change : TextEdit) (field : List Char) : List Char :=
  let kept := change.replacement.getD field
  (kept.take (kept.length - change.deleted) ++ change.inserted).take rtiMaxText

/-- The field after some edits. -/
def editField (field : List Char) (edits : List TextEdit) : List Char :=
  edits.foldl (fun field change => change.edit field) field

/-- An edit leaves at most the text that the source keeps. -/
theorem TextEdit.edit_length (change : TextEdit) (field : List Char) :
    (change.edit field).length ≤ rtiMaxText := by
  simp only [TextEdit.edit, List.length_take]
  exact Nat.min_le_left _ _

theorem editField_length {field : List Char} (hfield : field.length ≤ rtiMaxText)
    (edits : List TextEdit) : (editField field edits).length ≤ rtiMaxText := by
  induction edits using List.reverseRecOn with
  | nil => exact hfield
  | append_singleton edits change _ =>
      simp only [editField, List.foldl_append, List.foldl_cons, List.foldl_nil]
      exact change.edit_length _

section Operations

variable (externals : BridgeExternals)

theorem toList_ite_take (text : String) :
    (if rtiMaxText < text.length then String.ofList (text.toList.take rtiMaxText) else text) =
      String.ofList (text.toList.take rtiMaxText) := by
  split
  · rfl
  · rename_i hshort
    have hlength : text.toList.length ≤ rtiMaxText := by
      rw [String.length_toList]
      exact Nat.le_of_not_lt hshort
    rw [List.take_of_length_le hlength, String.ofList_toList]

/-- `old[:-count]`, also where the count is not positive or too large. -/
theorem deleteLast_toList (text : String) (count : Int) :
    (deleteLast text count).toList = text.toList.take (text.toList.length - count.toNat) := by
  simp only [deleteLast, String.toList_ofList, String.length_toList]
  congr 1
  omega

/-- What an operation replaces the field by. -/
def TextOperation.replacement (operation : TextOperation) : Except PyError (Option (List Char)) :=
  match operation.textToAssert with
  | .null => .ok none
  | value => (plistStr externals value).map fun text => some text.toList

/-- What an operation appends. -/
def TextOperation.inserted (operation : TextOperation) : Except PyError (List Char) :=
  match operation.insertionText with
  | .null => .ok []
  | value => (plistStr externals value).map String.toList

/-- How many characters an operation deletes; a count that is no number raises. -/
def TextOperation.deleted (operation : TextOperation) : Except PyError Nat :=
  if operation.deletionCount.truthy then
    (operation.deletionCount.toInt externals.text).map Int.toNat
  else .ok 0

/-- The edit an operation stands for. -/
def TextOperation.edit? (operation : TextOperation) : Except PyError TextEdit := do
  let replacement ← operation.replacement externals
  let deleted ← operation.deleted externals
  let inserted ← operation.inserted externals
  return { replacement, deleted, inserted }

theorem TextOperation.asserted_eq (operation : TextOperation) (old : String) :
    operation.asserted externals old =
      (operation.replacement externals).map fun text =>
        String.ofList (text.getD old.toList) := by
  unfold TextOperation.asserted TextOperation.replacement
  cases operation.textToAssert with
  | null => exact congrArg Except.ok String.ofList_toList.symm
  | _ =>
      dsimp only
      generalize plistStr externals _ = outcome
      cases outcome with
      | error error => rfl
      | ok text => exact congrArg Except.ok String.ofList_toList.symm

theorem TextOperation.shortened_eq (operation : TextOperation) (asserted : String) :
    operation.shortened externals asserted =
      (operation.deleted externals).map fun count =>
        String.ofList (asserted.toList.take (asserted.toList.length - count)) := by
  unfold TextOperation.shortened TextOperation.deleted
  split
  · cases operation.deletionCount.toInt externals.text with
    | error error => rfl
    | ok count =>
        dsimp only [Except.map]
        rw [← deleteLast_toList, String.ofList_toList]
  · dsimp only [Except.map]
    rw [Nat.sub_zero, List.take_length, String.ofList_toList]

theorem TextOperation.appended_eq (operation : TextOperation) (kept : String) :
    operation.appended externals kept =
      (operation.inserted externals).map fun text => String.ofList (kept.toList ++ text) := by
  unfold TextOperation.appended TextOperation.inserted
  cases operation.insertionText with
  | null =>
      dsimp only [Except.map]
      rw [List.append_nil, String.ofList_toList]
  | _ =>
      dsimp only
      generalize plistStr externals _ = outcome
      cases outcome with
      | error error => rfl
      | ok text =>
          dsimp only [Except.map]
          rw [← String.toList_append, String.ofList_toList]

/-- Applying an operation is the edit it stands for. -/
theorem TextOperation.apply_eq (operation : TextOperation) (old : String) :
    operation.apply externals old =
      (operation.edit? externals).map fun change => String.ofList (change.edit old.toList) := by
  unfold TextOperation.apply TextOperation.edit?
  rw [TextOperation.asserted_eq]
  cases operation.replacement externals with
  | error error => rfl
  | ok replacement =>
      dsimp only [Except.map, bind, Except.bind]
      rw [TextOperation.shortened_eq, String.toList_ofList]
      cases operation.deleted externals with
      | error error => rfl
      | ok deleted =>
          dsimp only [Except.map]
          rw [TextOperation.appended_eq, String.toList_ofList]
          cases operation.inserted externals with
          | error error => rfl
          | ok inserted =>
              dsimp only [Except.map, pure, Except.pure]
              rw [toList_ite_take, String.toList_ofList]
              rfl

end Operations

/-! ## A session -/

/-- The operation of a message that changes the text, and what it reads as. -/
def ticEdit (externals : BridgeExternals) (message : OpackValue) : Option TextEdit := do
  let kind := (← (message.get "_t").toOption).getD (.scalar .null)
  if kind.eqScalar (.int 1 none) then
    let operation ← textOperation externals message
    (operation.edit? externals).toOption
  else none

/-- Whether a `_tiStart` begins a text session. -/
def startsText (message : OpackValue) : Bool :=
  match message.get "_t" with
  | .ok kind => (kind.getD (.scalar .null)).eqScalar (.int 2 none)
  | .error _ => false

/-- A connection with what became of its text field. `baseline` is what the
field held when it was last reset, and `edits` what was done to it since; the
commands submitted before the reset are counted. The field of a new session is
untouched until a reset or a changed text. -/
structure TextSession where
  connection : BridgeConnection
  baseline : List Char
  edits : List TextEdit := []
  acceptedBefore : Nat
  untouched : Bool := true

/-- A message for the text handlers, or the TV's text-field events. -/
inductive TextLabel where
  | tic (message : OpackValue) (inputs : BridgeInputs)
  | tiStart (message : OpackValue) (inputs : BridgeInputs)
  | imeStart
  | imeEnd

namespace BridgeConnection

/-- What the text field holds. -/
def fieldText (connection : BridgeConnection) : List Char :=
  (connection.session.rtiText.getD "").toList

end BridgeConnection

namespace TextSession

variable (externals : BridgeExternals)

/-- A session whose connection was just made. -/
def begin (connection : BridgeConnection) : TextSession where
  connection := { connection with session := {} }
  baseline := (({} : FakeCompanionSessionState).rtiText.getD "").toList
  acceptedBefore := connection.submitted.length

/-- The field was emptied. -/
def reset (connection : BridgeConnection) : TextSession where
  connection := connection
  baseline := []
  acceptedBefore := connection.submitted.length
  untouched := false

def edited (session : TextSession) (connection : BridgeConnection) (change : TextEdit) :
    TextSession :=
  { session with
    connection := connection
    edits := session.edits ++ [change]
    untouched := session.untouched && connection.fieldText = session.connection.fieldText }

def step (session : TextSession) : TextLabel → Option TextSession
  | .tic message inputs =>
      if requestedHandler externals.text message = .ok (some .tic) then
        let next := (session.connection.handleMessage externals message inputs).1
        match ticEdit externals message with
        | none => some { session with connection := next }
        | some change => some (session.edited next change)
      else none
  | .tiStart message inputs =>
      if requestedHandler externals.text message = .ok (some .tiStart) then
        let next := (session.connection.handleMessage externals message inputs).1
        -- a start of another kind leaves the tracked text alone
        if startsText message then some (reset next) else some { session with connection := next }
      else none
  | .imeStart =>
      let next := session.connection.imeStart externals
      -- a field already in focus is not opened again
      if session.connection.isActiveRtiSession ∧
          session.connection.session.rtiFocusState ≠ .focused then
        some (reset next)
      else some { session with connection := next }
  | .imeEnd => some { session with connection := session.connection.imeEnd externals }

/-- The text the lane accepted last since the field was reset. -/
def lastAccepted (session : TextSession) : Option String :=
  ((session.connection.submitted.drop session.acceptedBefore).filter
    fun command => command.action = .sendText).getLast?.bind Command.text

end TextSession

/-! ## What the handlers do to the field -/

/-- The text field and the commands submitted are as they were. -/
structure TextKept (connection next : BridgeConnection) : Prop where
  text : next.session.rtiText = connection.session.rtiText
  submitted : next.submitted = connection.submitted

instance : Std.Refl TextKept where
  refl := fun _ => ⟨rfl, rfl⟩

instance : IsTrans BridgeConnection TextKept where
  trans := fun _ _ _ hfirst hsecond =>
    ⟨hsecond.text.trans hfirst.text, hsecond.submitted.trans hfirst.submitted⟩

theorem TextKept.fieldText {connection next : BridgeConnection} (h : TextKept connection next) :
    next.fieldText = connection.fieldText := by
  unfold BridgeConnection.fieldText
  rw [h.text]

/-- The lane takes a command of the connection. -/
def BridgeConnection.laneTakes (connection : BridgeConnection) (inputs : BridgeInputs) : Bool :=
  connection.laneInstalled && connection.dispatchOwner && inputs.lane 0 = .accepted

theorem malformedFrame_textKept (connection : BridgeConnection) :
    TextKept connection connection.malformedFrame.1 := by
  unfold BridgeConnection.malformedFrame
  dsimp only
  split <;> exact ⟨rfl, rfl⟩

/-- A handler that a message asks for by name is not taken for a startup response. -/
theorem requested_not_startup {text : PyText} {message : OpackValue} {handler : MessageHandler}
    (hrequested : requestedHandler text message = .ok (some handler)) :
    isStartupResponse message = false := by
  unfold requestedHandler at hrequested
  rw [Outcome.bind_eq_ok] at hrequested
  obtain ⟨identifier, hidentifier, -⟩ := hrequested
  unfold isStartupResponse
  cases message with
  | dict entries =>
      unfold OpackValue.getItem at hidentifier
      dsimp only at hidentifier ⊢
      cases hlookup : OpackValue.lookup "_i" entries with
      | none => simp [hlookup] at hidentifier
      | some held => simp
  | _ => rfl

section Fields

variable {externals : BridgeExternals} {message : OpackValue} {inputs : BridgeInputs}
variable {connection : BridgeConnection}

/-- The handler of a message runs; an exception of it is reported. -/
theorem handleMessage_requested {handler : MessageHandler}
    (hrequested : requestedHandler externals.text message = .ok (some handler)) :
    (connection.handleMessage externals message inputs).1 =
      match (handler.call externals inputs message).perform connection.countHandled with
      | (.ok _, after) => after
      | (.error _, after) => after.malformedFrame.1 := by
  unfold BridgeConnection.handleMessage dispatchMessage
  rw [if_neg (by simp [requested_not_startup hrequested]), perform_bind, perform_lift, hrequested]
  dsimp only
  split <;> rename_i hperform <;> rw [hperform]

/-- An exception of the handler is reported, which leaves the field alone. -/
theorem handleMessage_performed {handler : MessageHandler}
    (hrequested : requestedHandler externals.text message = .ok (some handler)) :
    TextKept ((handler.call externals inputs message).perform connection.countHandled).2
      (connection.handleMessage externals message inputs).1 := by
  rw [handleMessage_requested hrequested]
  split
  · rename_i hperform
    rw [hperform]
    exact ⟨rfl, rfl⟩
  · rename_i after hperform
    rw [hperform]
    exact malformedFrame_textKept after

/-- A handler that keeps the text keeps it for its whole message. -/
theorem handleMessage_textKept {handler : MessageHandler}
    (hrequested : requestedHandler externals.text message = .ok (some handler))
    (hkept : Keeps TextKept (handler.call externals inputs message)) :
    TextKept connection (connection.handleMessage externals message inputs).1 := by
  have hperformed := hkept connection.countHandled
  have hreported := @handleMessage_performed externals message inputs connection handler hrequested
  exact ⟨hreported.text.trans hperformed.text, hreported.submitted.trans hperformed.submitted⟩

/-- A plain command changes at most what was submitted. -/
theorem dispatchSink_text (connection : BridgeConnection) (inputs : BridgeInputs)
    {command : Command} (hplain : command.repeatPhase = none) :
    (connection.dispatchSink (inputs.lane 0) command).session = connection.session ∧
      (connection.dispatchSink (inputs.lane 0) command).submitted =
        if connection.laneTakes inputs then connection.submitted ++ [command]
        else connection.submitted := by
  unfold BridgeConnection.dispatchSink BridgeConnection.submitDispatch BridgeConnection.laneTakes
  rw [hplain]
  dsimp only
  cases connection.laneInstalled <;> cases connection.dispatchOwner <;>
    cases inputs.lane 0 <;> exact ⟨rfl, rfl⟩

theorem sendMessage_textKept (sent : OpackValue) :
    Keeps TextKept (sendMessage externals sent) :=
  fun _ => ⟨rfl, rfl⟩

theorem sendResponse_textKept (content : OpackValue) :
    Keeps TextKept (sendResponse externals message content) :=
  .bind (.lift _) fun _ => .bind (.lift _) fun _ => sendMessage_textKept _

theorem setRtiFocusState_textKept (value : KeyboardFocusState) :
    Keeps TextKept (setRtiFocusState externals value) := by
  refine .bind (.read _) fun session => ?_
  split
  · exact .pure _
  · refine .bind (.update fun _ => ⟨rfl, rfl⟩) fun _ => .bind (.read _) fun active => ?_
    split
    · exact .pure _
    · refine .bind (.attempt ?_) fun pushed => ?_
      · cases value with
        | focused => exact sendMessage_textKept _
        | unfocused => exact sendMessage_textKept _
        | unknown => exact .pure _
      · cases pushed with
        | ok _ => exact .pure _
        | error _ => exact .update fun _ => ⟨rfl, rfl⟩

/-- What a text message that is read does: the field is edited, and a changed
text is submitted. -/
structure FieldEdited (connection next : BridgeConnection) (inputs : BridgeInputs)
    (change : TextEdit) : Prop where
  text : next.session.rtiText = some (String.ofList (change.edit connection.fieldText))
  same : next.fieldText = connection.fieldText → next.submitted = connection.submitted
  changed : next.fieldText ≠ connection.fieldText → next.submitted =
    if connection.laneTakes inputs then
      connection.submitted ++
        [{ action := .sendText, text := some (String.ofList next.fieldText), source := "rti" }]
    else connection.submitted

theorem FieldEdited.fieldText {next : BridgeConnection} {change : TextEdit}
    (h : FieldEdited connection next inputs change) :
    next.fieldText = change.edit connection.fieldText := by
  have htext := h.text
  unfold BridgeConnection.fieldText at htext ⊢
  rw [htext, Option.getD_some, String.toList_ofList]

/-- The field is set, and its text is submitted when it changed. -/
theorem fieldEdited_of_text (connection : BridgeConnection) (inputs : BridgeInputs)
    (change : TextEdit) :
    let text := String.ofList (change.edit connection.fieldText)
    let set : BridgeConnection :=
      { connection.countHandled with session := { connection.session with rtiText := some text } }
    FieldEdited connection
      (if text = connection.session.rtiText.getD "" then set
        else set.dispatchSink (inputs.lane 0)
          { action := .sendText, text := some text, source := "rti" }) inputs change := by
  intro text set
  have hfield : set.fieldText = change.edit connection.fieldText := by
    simp [BridgeConnection.fieldText, set, text]
  by_cases hsame : text = connection.session.rtiText.getD ""
  · rw [if_pos hsame]
    refine ⟨rfl, fun _ => rfl, fun hchanged => absurd ?_ hchanged⟩
    simp [BridgeConnection.fieldText, set, hsame]
  · rw [if_neg hsame]
    obtain ⟨hsession, hsubmitted⟩ := dispatchSink_text set inputs
      (show ({ action := .sendText, text := some text, source := "rti" } : Command).repeatPhase =
        none from rfl)
    have htext : (set.dispatchSink (inputs.lane 0)
        { action := .sendText, text := some text, source := "rti" }).fieldText =
        change.edit connection.fieldText := by
      rw [← hfield]
      unfold BridgeConnection.fieldText
      rw [hsession]
    refine ⟨by rw [hsession], fun hkept => absurd ?_ hsame, fun _ => ?_⟩
    · rw [htext] at hkept
      show String.ofList (change.edit connection.fieldText) = _
      rw [hkept]
      exact String.ofList_toList
    · rw [hsubmitted, htext]
      rfl

/-- The operation of a message that edits the field. -/
theorem ticEdit_cases (externals : BridgeExternals) (message : OpackValue) :
    (∃ change kind operation, ticEdit externals message = some change ∧
      message.get "_t" = .ok kind ∧ (kind.getD (.scalar .null)).eqScalar (.int 1 none) = true ∧
      textOperation externals message = some operation ∧
      operation.edit? externals = .ok change) ∨
    (ticEdit externals message = none ∧
      ∀ kind, message.get "_t" = .ok kind →
        (kind.getD (.scalar .null)).eqScalar (.int 1 none) = true →
        ∀ operation, textOperation externals message = some operation →
          ∃ error, operation.edit? externals = .error error) := by
  unfold ticEdit
  cases message.get "_t" with
  | error error => exact Or.inr ⟨rfl, fun kind hkind => absurd hkind (by simp)⟩
  | ok kind =>
      by_cases hone : (kind.getD (.scalar .null)).eqScalar (.int 1 none) = true
      · cases hoperation : textOperation externals message with
        | none => exact Or.inr ⟨by simp [Except.toOption], by simp⟩
        | some operation =>
            cases hedit : operation.edit? externals with
            | error error =>
                refine Or.inr ⟨by simp [Except.toOption, hedit], ?_⟩
                rintro other - - held hheld
                obtain rfl := Option.some.inj hheld
                exact ⟨error, hedit⟩
            | ok change =>
                refine Or.inl ⟨change, kind, operation, ?_, rfl, hone, rfl, hedit⟩
                simp [Except.toOption, hone, hedit]
      · refine Or.inr ⟨by simp [Except.toOption, hone], ?_⟩
        intro other hother hkind
        obtain rfl := Except.ok.inj hother
        exact absurd hkind hone

/-- A message that cannot be read leaves the field alone. -/
theorem handleTic_unread
    (hrequested : requestedHandler externals.text message = .ok (some .tic))
    (hunread : ticEdit externals message = none) :
    TextKept connection (connection.handleMessage externals message inputs).1 := by
  have hkept : Keeps TextKept (handleTic externals inputs message) := by
    rcases ticEdit_cases externals message with ⟨change, -, -, hread, -⟩ | ⟨-, hrefused⟩
    · rw [hunread] at hread
      exact absurd hread (by simp)
    · intro before
      unfold handleTic
      rw [perform_bind, perform_lift]
      cases hkind : message.get "_t" with
      | error error => exact ⟨rfl, rfl⟩
      | ok kind =>
          dsimp only
          by_cases hone : (kind.getD (.scalar .null)).eqScalar (.int 1 none) = true
          · rw [if_neg (by simp [hone])]
            cases hoperation : textOperation externals message with
            | none => exact malformedFrame_textKept before
            | some operation =>
                obtain ⟨error, hedit⟩ := hrefused kind hkind hone operation hoperation
                dsimp only
                rw [perform_bind, perform_read]
                dsimp only
                rw [perform_bind, perform_lift, operation.apply_eq, hedit]
                exact ⟨rfl, rfl⟩
          · rw [if_pos (by simp [hone])]
            exact ⟨rfl, rfl⟩
  exact handleMessage_textKept hrequested hkept

/-- A message that is read edits the field, and submits the text when it changed. -/
theorem handleTic_read {change : TextEdit}
    (hrequested : requestedHandler externals.text message = .ok (some .tic))
    (hread : ticEdit externals message = some change) :
    FieldEdited connection (connection.handleMessage externals message inputs).1 inputs change := by
  rcases ticEdit_cases externals message with
    ⟨held, kind, operation, hheld, hkind, hone, hoperation, hedit⟩ | ⟨hnone, -⟩
  · rw [hread] at hheld
    obtain rfl := Option.some.inj hheld
    rw [handleMessage_requested hrequested]
    show FieldEdited connection (match (handleTic externals inputs message).perform
      connection.countHandled with
      | (.ok _, after) => after
      | (.error _, after) => after.malformedFrame.1) inputs change
    -- the handler updates the tracked text first and submits only a change
    have hperform : (handleTic externals inputs message).perform connection.countHandled =
        (.ok (),
          if String.ofList (change.edit connection.fieldText) =
              connection.session.rtiText.getD "" then
            { connection.countHandled with
              session :=
                { connection.session with
                  rtiText := some (String.ofList (change.edit connection.fieldText)) } }
          else
            BridgeConnection.dispatchSink
              { connection.countHandled with
                session :=
                  { connection.session with
                    rtiText := some (String.ofList (change.edit connection.fieldText)) } }
              (inputs.lane 0)
              { action := .sendText
                text := some (String.ofList (change.edit connection.fieldText))
                source := "rti" }) := by
      unfold handleTic
      rw [perform_bind, perform_lift, hkind]
      dsimp only
      rw [if_neg (by simp [hone]), hoperation]
      dsimp only
      rw [perform_bind, perform_read]
      dsimp only
      rw [perform_bind, perform_lift, operation.apply_eq, hedit]
      dsimp only [Except.map]
      rw [perform_bind]
      unfold updateSession
      rw [perform_update]
      dsimp only
      by_cases hsame : String.ofList (change.edit connection.fieldText) =
          connection.session.rtiText.getD ""
      · have hkept : String.ofList (change.edit
            (connection.countHandled.session.rtiText.getD "").toList) =
            connection.countHandled.session.rtiText.getD "" := hsame
        rw [if_pos hsame, if_pos hkept]
        rfl
      · have hchanged : ¬ String.ofList (change.edit
            (connection.countHandled.session.rtiText.getD "").toList) =
            connection.countHandled.session.rtiText.getD "" := hsame
        rw [if_neg hsame, if_neg hchanged]
        rfl
    rw [hperform]
    exact fieldEdited_of_text connection inputs change
  · rw [hread] at hnone
    exact absurd hnone (by simp)

/-- A text session begins with an empty field; any other message of the kind
leaves the field alone. -/
theorem handleTiStart_field
    (hrequested : requestedHandler externals.text message = .ok (some .tiStart)) :
    let next := (connection.handleMessage externals message inputs).1
    (startsText message = true → next.session.rtiText = some "" ∧
      next.submitted = connection.submitted) ∧
    (startsText message = false → TextKept connection next) := by
  intro next
  constructor
  · intro hstarts
    have hreported := @handleMessage_performed externals message inputs connection .tiStart
      hrequested
    have hrest : Keeps TextKept (do
        setRtiFocusState externals .unfocused
        updateSession fun session => { session with rtiRegistered := true }
        sendResponse externals message emptyDict) :=
      .bind (setRtiFocusState_textKept _) fun _ => .bind (.update fun _ => ⟨rfl, rfl⟩) fun _ =>
        sendResponse_textKept _
    have hperform : ((MessageHandler.tiStart.call externals inputs message).perform
        connection.countHandled).2.session.rtiText = some "" ∧
        ((MessageHandler.tiStart.call externals inputs message).perform
          connection.countHandled).2.submitted = connection.submitted := by
      show ((handleTiStart externals message).perform connection.countHandled).2.session.rtiText =
        some "" ∧ ((handleTiStart externals message).perform connection.countHandled).2.submitted =
          connection.submitted
      unfold startsText at hstarts
      unfold handleTiStart
      rw [perform_bind, perform_lift]
      cases hkind : message.get "_t" with
      | error error => simp [hkind] at hstarts
      | ok kind =>
          rw [hkind] at hstarts
          dsimp only at hstarts ⊢
          rw [if_neg (by simp [hstarts]), perform_bind]
          unfold updateSession
          rw [perform_update]
          have hkept := hrest
            { connection.countHandled with
              session :=
                { connection.session with
                  rtiSessionUuid := some (utf8 "0123456789abcdef"), rtiText := some "" } }
          exact ⟨hkept.text, hkept.submitted⟩
    exact ⟨hreported.text.trans hperform.1, hreported.submitted.trans hperform.2⟩
  · intro hother
    refine handleMessage_textKept hrequested ?_
    intro before
    show TextKept before ((handleTiStart externals message).perform before).2
    unfold handleTiStart
    rw [perform_bind, perform_lift]
    unfold startsText at hother
    cases hkind : message.get "_t" with
    | error error => exact ⟨rfl, rfl⟩
    | ok kind =>
        rw [hkind] at hother
        dsimp only at hother ⊢
        rw [if_pos (by simp [hother])]
        exact ⟨rfl, rfl⟩

/-- A new input session starts with an empty field, if there was none. -/
theorem imeStart_field (externals : BridgeExternals) (connection : BridgeConnection) :
    (connection.isActiveRtiSession ∧ connection.session.rtiFocusState ≠ .focused →
      (connection.imeStart externals).session.rtiText = some "" ∧
        (connection.imeStart externals).submitted = connection.submitted) ∧
    (¬ (connection.isActiveRtiSession ∧ connection.session.rtiFocusState ≠ .focused) →
      TextKept connection (connection.imeStart externals)) := by
  unfold BridgeConnection.imeStart
  constructor
  · intro hfocuses
    rw [if_pos hfocuses]
    have hkept := @setRtiFocusState_textKept externals .focused
      { connection with session := { connection.session with rtiText := some "" } }
    exact ⟨hkept.text, hkept.submitted⟩
  · intro hquiet
    rw [if_neg hquiet]
    exact ⟨rfl, rfl⟩

theorem imeEnd_textKept (externals : BridgeExternals) (connection : BridgeConnection) :
    TextKept connection (connection.imeEnd externals) := by
  unfold BridgeConnection.imeEnd
  split
  · exact setRtiFocusState_textKept .unfocused connection
  · exact ⟨rfl, rfl⟩

end Fields

/-! ## Runs -/

namespace TextSession

variable {externals : BridgeExternals} {session next : TextSession}

/-- The field holds the edits made since it was last reset. -/
structure FieldMatches (session : TextSession) : Prop where
  text : session.connection.session.rtiText =
    some (String.ofList (editField session.baseline session.edits))
  baseline : session.baseline.length ≤ rtiMaxText
  before : session.acceptedBefore ≤ session.connection.submitted.length

/-- The field is the baseline with all edits since. -/
theorem FieldMatches.fieldText (h : session.FieldMatches) :
    session.connection.fieldText = editField session.baseline session.edits := by
  unfold BridgeConnection.fieldText
  rw [h.text, Option.getD_some, String.toList_ofList]

theorem FieldMatches.of_kept (h : session.FieldMatches) {connection : BridgeConnection}
    (hkept : TextKept session.connection connection) :
    FieldMatches { session with connection := connection } where
  text := hkept.text.trans h.text
  baseline := h.baseline
  before := by
    show session.acceptedBefore ≤ connection.submitted.length
    rw [hkept.submitted]
    exact h.before

theorem reset_fieldMatches {connection : BridgeConnection}
    (htext : connection.session.rtiText = some "") : (reset connection).FieldMatches where
  text := htext
  baseline := Nat.zero_le _
  before := le_rfl

/-- The text of the field was accepted last, unless it is empty or was never touched. -/
def Served (session : TextSession) : Prop :=
  session.connection.fieldText = [] ∨ session.untouched = true ∨
    session.lastAccepted = some (String.ofList session.connection.fieldText)

/-- A changed text is taken by the lane, and an unchanged one is not that of an
untouched field. -/
def Takes (externals : BridgeExternals) (session : TextSession) : TextLabel → Prop
  | .tic message inputs => ∀ change, ticEdit externals message = some change →
      (change.edit session.connection.fieldText ≠ session.connection.fieldText →
        session.connection.laneTakes inputs = true) ∧
      (change.edit session.connection.fieldText = session.connection.fieldText →
        session.untouched = false)
  | _ => True

/-- A text message that is read submits nothing, because it changes nothing in a
field that is not empty. -/
def Suppresses (externals : BridgeExternals) (session : TextSession) : TextLabel → Prop
  | .tic message _ => ∃ change, ticEdit externals message = some change ∧
      change.edit session.connection.fieldText = session.connection.fieldText ∧
      session.connection.fieldText ≠ []
  | _ => False

/-- The last text the lane took, after one more submission. -/
theorem lastAccepted_snoc {connection : BridgeConnection} {count : Nat} {text : String}
    {earlier : List Command} {baseline : List Char} {edits : List TextEdit} {untouched : Bool}
    (hcount : count ≤ earlier.length)
    (hsubmitted : connection.submitted =
      earlier ++ [{ action := .sendText, text := some text, source := "rti" }]) :
    lastAccepted ⟨connection, baseline, edits, count, untouched⟩ = some text := by
  simp [lastAccepted, hsubmitted, List.drop_append_of_le_length hcount, List.filter_append]

/-- One more edit on both sides. -/
theorem FieldMatches.edited (h : session.FieldMatches) {connection : BridgeConnection}
    {inputs : BridgeInputs} {change : TextEdit}
    (hedited : FieldEdited session.connection connection inputs change) :
    (session.edited connection change).FieldMatches where
  text := by
    show connection.session.rtiText = some (String.ofList (editField session.baseline
      (session.edits ++ [change])))
    rw [hedited.text, h.fieldText]
    simp [editField, List.foldl_append]
  baseline := h.baseline
  before := by
    show session.acceptedBefore ≤ connection.submitted.length
    have hbefore := h.before
    by_cases hsame : connection.fieldText = session.connection.fieldText
    · rw [hedited.same hsame]
      exact hbefore
    · rw [hedited.changed hsame]
      split
      · rw [List.length_append]
        omega
      · exact hbefore

/-- If the lane takes the text, the television is up to date again. -/
theorem Served.edited (h : session.FieldMatches) (hserved : session.Served)
    {connection : BridgeConnection} {inputs : BridgeInputs} {change : TextEdit}
    (hedited : FieldEdited session.connection connection inputs change)
    (htakes : change.edit session.connection.fieldText ≠ session.connection.fieldText →
      session.connection.laneTakes inputs = true) :
    (session.edited connection change).Served := by
  by_cases hsame : connection.fieldText = session.connection.fieldText
  · have hsubmitted := hedited.same hsame
    rcases hserved with hempty | huntouched | hlast
    · exact Or.inl (hsame.trans hempty)
    · exact Or.inr (Or.inl (by simp [TextSession.edited, huntouched, hsame]))
    · refine Or.inr (Or.inr ?_)
      show lastAccepted _ = some (String.ofList connection.fieldText)
      rw [hsame, ← hlast]
      simp only [lastAccepted, TextSession.edited, hsubmitted]
  · have hchanged := hedited.changed hsame
    rw [if_pos (htakes (by rw [← hedited.fieldText]; exact hsame))] at hchanged
    exact Or.inr (Or.inr (lastAccepted_snoc h.before hchanged))

/-- Every step keeps the field and, when the lane takes each changed text, keeps it served. -/
theorem step_kept (h : session.FieldMatches) {label : TextLabel}
    (hstep : session.step externals label = some next) :
    next.FieldMatches ∧ (session.Served → session.Takes externals label → next.Served) := by
  have hstill : ∀ connection, TextKept session.connection connection →
      ({ session with connection := connection } : TextSession).FieldMatches ∧
      (session.Served → ({ session with connection := connection } : TextSession).Served) := by
    intro connection hkept
    refine ⟨h.of_kept hkept, fun hserved => ?_⟩
    unfold Served lastAccepted at hserved ⊢
    dsimp only
    rw [hkept.fieldText, hkept.submitted]
    exact hserved
  -- a reset field is empty and so has nothing to be sent
  have hreset : ∀ connection : BridgeConnection, connection.session.rtiText = some "" →
      (reset connection).FieldMatches ∧ (reset connection).Served := by
    intro connection htext
    refine ⟨reset_fieldMatches htext, Or.inl ?_⟩
    show connection.fieldText = []
    unfold BridgeConnection.fieldText
    rw [htext]
    rfl
  cases label with
  | tic message inputs =>
      simp only [step] at hstep
      split at hstep
      · rename_i hrequested
        cases hread : ticEdit externals message with
        | none =>
            rw [hread] at hstep
            obtain rfl := Option.some.inj hstep
            obtain ⟨hfield, hserved⟩ := hstill _
              (@handleTic_unread externals message inputs session.connection hrequested hread)
            exact ⟨hfield, fun hbefore _ => hserved hbefore⟩
        | some change =>
            rw [hread] at hstep
            obtain rfl := Option.some.inj hstep
            have hedited := @handleTic_read externals message inputs session.connection change
              hrequested hread
            exact ⟨h.edited hedited, fun hserved htakes =>
              hserved.edited h hedited (htakes change hread).1⟩
      · exact absurd hstep (by simp)
  | tiStart message inputs =>
      simp only [step] at hstep
      split at hstep
      · rename_i hrequested
        obtain ⟨hstarts, hother⟩ := @handleTiStart_field externals message inputs
          session.connection hrequested
        split at hstep
        · rename_i hstart
          obtain rfl := Option.some.inj hstep
          obtain ⟨hfield, hserved⟩ := hreset _ (hstarts hstart).1
          exact ⟨hfield, fun _ _ => hserved⟩
        · rename_i hstart
          obtain rfl := Option.some.inj hstep
          obtain ⟨hfield, hserved⟩ := hstill _ (hother (by simpa using hstart))
          exact ⟨hfield, fun hbefore _ => hserved hbefore⟩
      · exact absurd hstep (by simp)
  | imeStart =>
      simp only [step] at hstep
      obtain ⟨hstarts, hother⟩ := imeStart_field externals session.connection
      split at hstep
      · rename_i hfocuses
        obtain rfl := Option.some.inj hstep
        obtain ⟨hfield, hserved⟩ := hreset _ (hstarts hfocuses).1
        exact ⟨hfield, fun _ _ => hserved⟩
      · rename_i hquiet
        obtain rfl := Option.some.inj hstep
        obtain ⟨hfield, hserved⟩ := hstill _ (hother hquiet)
        exact ⟨hfield, fun hbefore _ => hserved hbefore⟩
  | imeEnd =>
      obtain rfl := Option.some.inj hstep
      obtain ⟨hfield, hserved⟩ := hstill _ (imeEnd_textKept externals session.connection)
      exact ⟨hfield, fun hbefore _ => hserved hbefore⟩

/-- Both invariants over a run, by induction on the labels. -/
theorem run_served {start : TextSession} (hstart : start.FieldMatches) (hserved : start.Served)
    {labels : List TextLabel} {final : TextSession}
    (hrun : Machine.run (step externals) start labels = some final) :
    final.FieldMatches ∧
      (Machine.Throughout (step externals) start labels (Takes externals) → final.Served) := by
  constructor
  · exact Machine.run_invariant FieldMatches
      (fun session label next h hstep => (step_kept h hstep).1) hstart hrun
  · intro htakes
    refine (Machine.run_throughout_invariant
      (fun session => session.FieldMatches ∧ session.Served) ?_ ⟨hstart, hserved⟩ hrun htakes).2
    intro session label next h htaken hstep
    obtain ⟨hfield, hkept⟩ := step_kept h.1 hstep
    exact ⟨hfield, hkept h.2 htaken⟩

/-- The placeholder of a new session fits the field. -/
theorem begin_fieldMatches (connection : BridgeConnection) :
    (TextSession.begin connection).FieldMatches where
  text := rfl
  baseline := by
    have hplaceholder :
        (({} : FakeCompanionSessionState).rtiText.getD "").toList.length ≤ rtiMaxText := by
      decide
    exact hplaceholder
  before := le_rfl

/-- A session in which nothing has been typed. -/
theorem begin_served (connection : BridgeConnection) :
    (TextSession.begin connection).Served :=
  Or.inr (Or.inl rfl)

/-- In a run that takes each changed text, a text message that submits nothing
finds its text accepted. -/
theorem Served.suppressed (h : session.Served) {label : TextLabel}
    (htakes : session.Takes externals label) (hsuppresses : session.Suppresses externals label) :
    session.lastAccepted = some (String.ofList session.connection.fieldText) := by
  cases label with
  | tic message inputs =>
      obtain ⟨change, hread, hsame, hfield⟩ := hsuppresses
      have htouched := (htakes change hread).2 hsame
      rcases h with hempty | huntouched | hlast
      · exact absurd hempty hfield
      · rw [htouched] at huntouched
        exact absurd huntouched Bool.false_ne_true
      · exact hlast
  | tiStart message inputs => exact hsuppresses.elim
  | imeStart => exact hsuppresses.elim
  | imeEnd => exact hsuppresses.elim

/-- The field of a session holds the edits made since it was last reset, capped;
and where the lane takes each changed text, a text message submits nothing only
when the lane accepted its text last. -/
theorem text_sessions (externals : BridgeExternals) (connection : BridgeConnection)
    {labels : List TextLabel} {final : TextSession}
    (hrun : Machine.run (step externals)
      (TextSession.begin connection) labels = some final) :
    (final.connection.session.rtiText =
        some (String.ofList (editField final.baseline final.edits)) ∧
      final.connection.fieldText.length ≤ rtiMaxText) ∧
    (Machine.Throughout (step externals) (TextSession.begin connection) labels
        (Takes externals) →
      Machine.Throughout (step externals) (TextSession.begin connection) labels
        fun session label => Suppresses externals session label →
          session.lastAccepted = some (String.ofList session.connection.fieldText)) := by
  have hstart := begin_fieldMatches connection
  have hserved := begin_served connection
  obtain ⟨hfield, -⟩ := run_served hstart hserved hrun
  refine ⟨⟨hfield.text, ?_⟩, ?_⟩
  · rw [hfield.fieldText]
    exact editField_length hfield.baseline _
  · intro htakes before label after session hsplit hsession hsuppresses
    have htaken := htakes before label after session hsplit hsession
    rw [hsplit] at htakes
    obtain ⟨-, hkept⟩ := run_served hstart hserved hsession
    exact (hkept htakes.left).suppressed htaken hsuppresses

/-! ## Runs that can be evaluated -/

instance (session : TextSession) (label : TextLabel) :
    Decidable (session.Takes externals label) :=
  match label with
  | .tic message inputs =>
      inferInstanceAs (Decidable (∀ change ∈ ticEdit externals message,
        (change.edit session.connection.fieldText ≠ session.connection.fieldText →
          session.connection.laneTakes inputs = true) ∧
        (change.edit session.connection.fieldText = session.connection.fieldText →
          session.untouched = false)))
  | .tiStart _ _ => .isTrue trivial
  | .imeStart => .isTrue trivial
  | .imeEnd => .isTrue trivial

/-- The archive of an operation that appends a text, as a property list. -/
def appendedPlist (text : String) : Bytes :=
  utf8 ("<plist><dict><key>$objects</key><array/><key>$top</key><dict><key>textOperations</key>" ++
    "<dict><key>keyboardOutput</key><dict><key>insertionText</key><string>" ++ text ++
    "</string></dict></dict></dict></dict></plist>")

def appendedArchive (text : String) : PlistValue :=
  .dict [(.str "$objects", .array []),
    (.str "$top", .dict [(.str "textOperations", .dict [(.str "keyboardOutput",
      .dict [(.str "insertionText", .str text)])])])]

/-- A bridge that decodes two property lists. -/
def typingBridge : BridgeExternals :=
  { transparentBridge with
    loadPlist := fun
      | .scalar (.bytes bytes) =>
          ["a", ""].findSome? fun text =>
            if bytes = appendedPlist text then some (appendedArchive text) else none
      | _ => none }

/-- The `_tiC` message that appends a text, with the lane's answer. -/
def typed (text : String) (answer : LaneAnswer) : TextLabel :=
  .tic (.dict [(.ofStr "_i", .ofStr "_tiC"), (.ofStr "_t", .ofInt 1), (.ofStr "_c",
    .dict [(.ofStr "_tiD", .scalar (.bytes (appendedPlist text)))])])
    { lane := fun _ => answer }

def textStarted : TextLabel :=
  .tiStart (.dict [(.ofStr "_i", .ofStr "_tiStart"), (.ofStr "_x", .ofInt 7),
    (.ofStr "_t", .ofInt 2), (.ofStr "_c", .dict [])]) {}

/-- A connection with a TV Remote session. -/
def typingConnection : BridgeConnection :=
  { newConnection with dispatchOwner := true }

theorem text_sessions_typed :
    ∃ session final,
      Machine.run (step typingBridge) (TextSession.begin typingConnection)
        [textStarted, typed "a" .accepted] = some session ∧
      Machine.run (step typingBridge) (TextSession.begin typingConnection)
        [textStarted, typed "a" .accepted, typed "" .accepted] = some final ∧
      final.connection.session.rtiText =
        some (String.ofList (editField final.baseline final.edits)) ∧
      session.connection.fieldText = ['a'] ∧
      session.lastAccepted = some (String.ofList session.connection.fieldText) := by
  obtain ⟨session, hsession⟩ := Option.isSome_iff_exists.mp
    (show (Machine.run (step typingBridge) (TextSession.begin typingConnection)
      [textStarted, typed "a" .accepted]).isSome = true by decide +kernel)
  obtain ⟨final, hfinal⟩ := Option.isSome_iff_exists.mp
    (show (Machine.run (step typingBridge) (TextSession.begin typingConnection)
      [textStarted, typed "a" .accepted, typed "" .accepted]).isSome = true by decide +kernel)
  have hfield : (Machine.run (step typingBridge) (TextSession.begin typingConnection)
      [textStarted, typed "a" .accepted]).map (fun session => session.connection.fieldText) =
      some ['a'] := by decide +kernel
  rw [hsession] at hfield
  have htext : session.connection.fieldText = ['a'] := Option.some.inj hfield
  have htakes : Machine.Throughout (step typingBridge)
      (TextSession.begin typingConnection)
      [textStarted, typed "a" .accepted, typed "" .accepted] (Takes typingBridge) := by
    intro before label after state hsplit hstate
    exact of_decide_eq_true (Machine.throughout_of_check
      (show Machine.checkThroughout (step typingBridge)
        (fun session label => decide (session.Takes typingBridge label))
        (TextSession.begin typingConnection)
        [textStarted, typed "a" .accepted, typed "" .accepted] = true by decide +kernel)
      before label after state hsplit hstate)
  obtain ⟨⟨hmatches, -⟩, hsuppressed⟩ := text_sessions typingBridge typingConnection hfinal
  refine ⟨session, final, hsession, hfinal, hmatches, htext, ?_⟩
  refine hsuppressed htakes [textStarted, typed "a" .accepted] (typed "" .accepted) [] session rfl
    hsession ⟨{ inserted := [] }, by decide +kernel, ?_, ?_⟩
  · rw [htext]
    decide
  · rw [htext]
    decide

/-- A lane that is full drops the text, and the next message finds it in the field. -/
theorem text_sessions_fails :
    ¬ Machine.Throughout (step typingBridge) (TextSession.begin typingConnection)
      [textStarted, typed "a" .dropped, typed "" .accepted]
      fun session label => Suppresses typingBridge session label →
        session.lastAccepted = some (String.ofList session.connection.fieldText) := by
  intro h
  obtain ⟨session, hsession⟩ := Option.isSome_iff_exists.mp
    (show (Machine.run (step typingBridge) (TextSession.begin typingConnection)
      [textStarted, typed "a" .dropped]).isSome = true by decide +kernel)
  have hended : (Machine.run (step typingBridge) (TextSession.begin typingConnection)
      [textStarted, typed "a" .dropped]).map
        (fun session => (session.connection.fieldText, session.lastAccepted)) =
      some (['a'], none) := by decide +kernel
  rw [hsession] at hended
  have htext : session.connection.fieldText = ['a'] :=
    congrArg Prod.fst (Option.some.inj hended)
  have hlast : session.lastAccepted = none := congrArg Prod.snd (Option.some.inj hended)
  have hsuppresses : Suppresses typingBridge session (typed "" .accepted) := by
    refine ⟨{ inserted := [] }, by decide +kernel, ?_, ?_⟩
    · rw [htext]
      decide
    · rw [htext]
      decide
  have haccepted := h [textStarted, typed "a" .dropped] (typed "" .accepted) [] session rfl
    hsession hsuppresses
  rw [hlast] at haccepted
  exact absurd haccepted (by simp)

end TextSession

end CompanionBridge
