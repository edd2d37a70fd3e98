import CompanionBridge.Library.Outcomes
import CompanionBridge.State.WindowRecord

/-!
# What the record reader survives

`active` turns every content of the record into a window or into none, but for
two kinds: a text nested too deep for the decoder, and an otherwise plausible
record whose expiry is an integer beyond all doubles.
-/

namespace CompanionBridge

open Doubles

/-- Each field of a window as `_parse_window` demands it. -/
structure StoredWindow.Valid (digits : DigitTable) (window : StoredWindow) : Prop where
  pin : isStrongWindowPin digits window.pin = some true
  generation : isGeneration window.generation = true
  binding : isValidBinding window.serverIdentifier window.serverGeneration = true

/-- A record with a valid PIN and generation and an expiry too large for a double. -/
structure OversizedExpiry (digits : DigitTable) (members : List (PyString × Json)) : Prop where
  pin : ∃ pin, textField members "pin" = .ok pin ∧ isStrongWindowPin digits pin = some true
  generation : ∃ generation, textField members "generation" = .ok generation ∧
    isGeneration generation = true
  expiry : ∃ value, Json.get members (PyString.ofString "expires_at") = some (.integer value) ∧
    overflowBound ≤ |value|

/-- A content whose reading raises more than `active` catches. -/
def Escapes (digits : DigitTable) (depth : Nat) (content : Bytes) : Prop :=
  ∃ text, decodeUtf8 content = some text ∧
    (Json.loads depth (universalNewlines text.toList) = .error .tooDeep ∨
      ∃ members, Json.loads depth (universalNewlines text.toList) =
        .ok (.object members) ∧ OversizedExpiry digits members)

/-! ## The fields -/

theorem textField_error {members : List (PyString × Json)} {name : String} {error : RecordError}
    (herror : textField members name = .error error) : error = .valueError := by
  unfold textField at herror
  split at herror
  · cases herror
  · exact (Except.error.inj herror).symm

theorem require_ok {condition : Bool} {passed : Unit} :
    require condition = .ok passed ↔ condition = true := by
  unfold require
  split <;> simp [*]

/-- A required condition that fails raises `ValueError`. -/
theorem require_error {condition : Bool} {error : RecordError}
    (herror : require condition = .error error) : error = .valueError ∧ condition = false := by
  unfold require at herror
  split at herror
  · cases herror
  · rename_i hfalse
    exact ⟨(Except.error.inj herror).symm, Bool.eq_false_iff.mpr hfalse⟩

/-- The expiry is refused with `OverflowError` only beyond the doubles. -/
theorem expiryField_error {members : List (PyString × Json)} {error : RecordError}
    (herror : expiryField members = .error error) :
    error = .valueError ∨ error = .overflowError ∧
      ∃ value, Json.get members (PyString.ofString "expires_at") = some (.integer value) ∧
        overflowBound ≤ |value| := by
  unfold expiryField at herror
  split at herror
  · rename_i value hvalue
    split at herror
    · cases herror
    · rename_i hlarge
      refine Or.inr ⟨(Except.error.inj herror).symm, value, hvalue, ?_⟩
      exact (ofInt_eq_none_iff value).mp hlarge
  · cases herror
  · exact Or.inl (Except.error.inj herror).symm

/-- An expiry too large for a double raises `OverflowError`. -/
theorem expiryField_oversized {members : List (PyString × Json)} {value : ℤ}
    (hvalue : Json.get members (PyString.ofString "expires_at") = some (.integer value))
    (hlarge : overflowBound ≤ |value|) : expiryField members = .error .overflowError := by
  have hnone := (ofInt_eq_none_iff value).mpr hlarge
  simp only [expiryField, hvalue, hnone]

/-! ## The record as a whole -/

/-- A window comes out of a record only when each of its fields was valid. -/
theorem parseWindow_ok {digits : DigitTable} {value : Json} {window : StoredWindow}
    (hparsed : parseWindow digits value = .ok window) : window.Valid digits := by
  unfold parseWindow at hparsed
  split at hparsed
  · simp only [Outcome.bind_eq_ok, require_ok, decide_eq_true_eq] at hparsed
    obtain ⟨pin, -, -, hpin, generation, -, -, hgeneration, expiresAt, -, identifier, -,
      serverGeneration, -, -, hbinding, hwindow⟩ := hparsed
    obtain rfl := Except.ok.inj hwindow
    exact ⟨hpin, hgeneration, hbinding⟩
  · cases hparsed

/-- The window parser raises `ValueError`, or `OverflowError` for an oversized expiry. -/
theorem parseWindow_error {digits : DigitTable} {value : Json} {error : RecordError}
    (hparsed : parseWindow digits value = .error error) :
    error = .valueError ∨ error = .overflowError ∧
      ∃ members, value = .object members ∧ OversizedExpiry digits members := by
  unfold parseWindow at hparsed
  split at hparsed
  · rename_i members
    rcases Outcome.bind_eq_error.mp hparsed with h | ⟨pin, hpin, hparsed⟩
    · exact Or.inl (textField_error h)
    rcases Outcome.bind_eq_error.mp hparsed with h | ⟨_, hstrong, hparsed⟩
    · exact Or.inl (require_error h).1
    rcases Outcome.bind_eq_error.mp hparsed with h | ⟨generation, hgeneration, hparsed⟩
    · exact Or.inl (textField_error h)
    rcases Outcome.bind_eq_error.mp hparsed with h | ⟨_, hhex, hparsed⟩
    · exact Or.inl (require_error h).1
    rw [require_ok] at hhex
    rw [require_ok, decide_eq_true_eq] at hstrong
    rcases Outcome.bind_eq_error.mp hparsed with h | ⟨expiresAt, -, hparsed⟩
    · rcases expiryField_error h with hvalue | ⟨hoverflow, hexpiry⟩
      · exact Or.inl hvalue
      · exact Or.inr ⟨hoverflow, members, rfl, ⟨pin, hpin, hstrong⟩,
          ⟨generation, hgeneration, hhex⟩, hexpiry⟩
    rcases Outcome.bind_eq_error.mp hparsed with h | ⟨identifier, -, hparsed⟩
    · exact Or.inl (textField_error h)
    rcases Outcome.bind_eq_error.mp hparsed with h | ⟨serverGeneration, -, hparsed⟩
    · exact Or.inl (textField_error h)
    rcases Outcome.bind_eq_error.mp hparsed with h | ⟨_, -, hparsed⟩
    · exact Or.inl (require_error h).1
    · cases hparsed
  · exact Or.inl (Except.error.inj hparsed).symm

/-- A record with an oversized expiry raises `OverflowError`. -/
theorem parseWindow_oversized {digits : DigitTable} {members : List (PyString × Json)}
    (hoversized : OversizedExpiry digits members) :
    parseWindow digits (.object members) = .error .overflowError := by
  obtain ⟨⟨pin, hpin, hstrong⟩, ⟨generation, hgeneration, hhex⟩, ⟨value, hvalue, hlarge⟩⟩ :=
    hoversized
  unfold parseWindow
  refine Outcome.bind_eq_error.mpr (Or.inr ⟨pin, hpin, ?_⟩)
  refine Outcome.bind_eq_error.mpr (Or.inr ⟨(), require_ok.mpr (decide_eq_true hstrong), ?_⟩)
  refine Outcome.bind_eq_error.mpr (Or.inr ⟨generation, hgeneration, ?_⟩)
  refine Outcome.bind_eq_error.mpr (Or.inr ⟨(), require_ok.mpr hhex, ?_⟩)
  exact Outcome.bind_eq_error.mpr (Or.inl (expiryField_oversized hvalue hlarge))

/-! ## The lookups -/

namespace WindowStore

/-- The reader of one content, with no reset in progress. -/
def reading (digits : DigitTable) (depth : Nat) (content : Bytes) : WindowStore where
  digits := digits
  depth := depth
  record := .ok content

variable {digits : DigitTable} {depth : Nat} {content : Bytes} {now : ℚ}

/-- What the record is, or the error of reading it. -/
def parsed (store : WindowStore) : Except RecordError StoredWindow :=
  store.record >>= loadRecord store.depth >>= parseWindow store.digits

/-- A content that escapes is parsed to an error nothing catches. -/
theorem parsed_of_escapes (hescapes : Escapes digits depth content) :
    ∃ error, (reading digits depth content).parsed = .error error ∧ error.isCaught = false := by
  obtain ⟨text, htext, hdeep | ⟨members, hmembers, hoversized⟩⟩ := hescapes
  · refine ⟨.recursionError, Outcome.bind_eq_error.mpr (Or.inl ?_), rfl⟩
    refine Outcome.bind_eq_error.mpr (Or.inr ⟨content, rfl, ?_⟩)
    simp only [reading, loadRecord, htext, loadText, hdeep]
  · refine ⟨.overflowError, ?_, rfl⟩
    refine Outcome.bind_eq_error.mpr (Or.inr ⟨.object members, ?_, parseWindow_oversized hoversized⟩)
    refine Outcome.bind_eq_ok.mpr ⟨content, rfl, ?_⟩
    simp only [reading, loadRecord, htext, loadText, hmembers]

/-- A loaded record is UTF-8 text that parses as JSON. -/
theorem loadRecord_ok {value : Json} (hloaded : loadRecord depth content = .ok value) :
    ∃ text, decodeUtf8 content = some text ∧
      Json.loads depth (universalNewlines text.toList) = .ok value := by
  unfold loadRecord at hloaded
  split at hloaded
  · cases hloaded
  · rename_i text htext
    unfold loadText at hloaded
    split at hloaded
    · rename_i found hfound
      obtain rfl := Except.ok.inj hloaded
      exact ⟨text, htext, hfound⟩
    all_goals cases hloaded

/-- The only error of loading that nothing catches is the recursion limit. -/
theorem loadRecord_uncaught {error : RecordError}
    (hloaded : loadRecord depth content = .error error) (huncaught : error.isCaught = false) :
    ∃ text, decodeUtf8 content = some text ∧
      Json.loads depth (universalNewlines text.toList) = .error .tooDeep := by
  unfold loadRecord at hloaded
  split at hloaded
  · obtain rfl := Except.error.inj hloaded
    cases huncaught
  · rename_i text htext
    unfold loadText at hloaded
    split at hloaded
    · cases hloaded
    · obtain rfl := Except.error.inj hloaded
      cases huncaught
    · rename_i hdeep
      exact ⟨text, htext, hdeep⟩

/-- Only the contents that escape are parsed to an error nothing catches. -/
theorem escapes_of_uncaught {error : RecordError}
    (hparsed : (reading digits depth content).parsed = .error error)
    (huncaught : error.isCaught = false) : Escapes digits depth content := by
  rcases Outcome.bind_eq_error.mp hparsed with hread | ⟨value, hvalue, hwindow⟩
  · rcases Outcome.bind_eq_error.mp hread with hrecord | ⟨found, hfound, hload⟩
    · cases hrecord
    · obtain rfl := Except.ok.inj hfound
      obtain ⟨text, htext, hdeep⟩ := loadRecord_uncaught hload huncaught
      exact ⟨text, htext, Or.inl hdeep⟩
  · obtain ⟨found, hfound, hload⟩ := Outcome.bind_eq_ok.mp hvalue
    obtain rfl := Except.ok.inj hfound
    obtain ⟨text, htext, hloads⟩ := loadRecord_ok hload
    rcases parseWindow_error hwindow with rfl | ⟨-, members, rfl, hoversized⟩
    · cases huncaught
    · exact ⟨text, htext, Or.inr ⟨members, hloads, hoversized⟩⟩

/-- A caught error makes the window inactive, any other leaves the reader. -/
theorem active_of_error {store : WindowStore} {error : RecordError}
    (hreset : store.resetInProgress = false) (hparsed : store.parsed = .error error) :
    store.active now = if error.isCaught then .ok none else .error error := by
  unfold parsed at hparsed
  simp only [active, hreset, hparsed, Bool.false_eq_true, if_false]

/-- A window that parses is active until it expires. -/
theorem active_of_window {store : WindowStore} {window : StoredWindow}
    (hreset : store.resetInProgress = false) (hparsed : store.parsed = .ok window) :
    store.active now = .ok (if now < window.expiresAt then some window else none) := by
  unfold parsed at hparsed
  simp only [active, hreset, hparsed, Bool.false_eq_true, if_false]

/-- The reader returns for every content but those two kinds. -/
theorem active_returns_iff :
    (∃ result, (reading digits depth content).active now = .ok result) ↔
      ¬Escapes digits depth content := by
  constructor
  · rintro ⟨result, hresult⟩ hescapes
    obtain ⟨error, herror, huncaught⟩ := parsed_of_escapes hescapes
    rw [active_of_error rfl herror, huncaught] at hresult
    cases hresult
  · intro hsafe
    cases hparsed : (reading digits depth content).parsed with
    | ok window => exact ⟨_, active_of_window rfl hparsed⟩
    | error error =>
        refine ⟨none, ?_⟩
        cases hcaught : error.isCaught with
        | true => rw [active_of_error rfl hparsed, if_pos hcaught]
        | false => exact absurd (escapes_of_uncaught hparsed hcaught) hsafe

/-- What it returns is valid and in force. -/
theorem active_valid {window : StoredWindow}
    (hactive : (reading digits depth content).active now = .ok (some window)) :
    window.Valid digits ∧ now < window.expiresAt := by
  cases hparsed : (reading digits depth content).parsed with
  | error error =>
      rw [active_of_error rfl hparsed] at hactive
      split at hactive <;> cases hactive
  | ok found =>
      rw [active_of_window rfl hparsed, Except.ok.injEq] at hactive
      split at hactive
      · rename_i hfuture
        obtain rfl := Option.some.inj hactive
        obtain ⟨value, -, hwindow⟩ := Outcome.bind_eq_ok.mp hparsed
        exact ⟨parseWindow_ok hwindow, hfuture⟩
      · cases hactive

/-- A request that `open_locked` does not refuse for its arguments. -/
structure OpenRequest.Valid (request : OpenRequest) : Prop where
  duration : 0 < request.durationSeconds ∧ request.durationSeconds ≤ 24 * 60 * 60
  binding : isValidBinding request.serverIdentifier request.serverGeneration = true

/-- A record is replaced whenever it can be read at all. -/
theorem openLocked_returns_iff {request : OpenRequest} (hrequest : request.Valid)
    (pins tokens : List PyString) (openedAt : ℚ) :
    (∃ opened, (reading digits depth content).openLocked now request pins tokens openedAt =
        .ok opened) ↔
      ∃ result, (reading digits depth content).active now = .ok result := by
  have hreset : (reading digits depth content).resetInProgress = false := rfl
  simp only [openLocked, hreset, hrequest.duration, hrequest.binding, and_self, not_true_eq_false,
    Bool.not_true, Bool.false_eq_true, if_false]
  cases (reading digits depth content).active now with
  | error error => exact ⟨nofun, nofun⟩
  | ok previous => exact ⟨fun _ => ⟨previous, rfl⟩, fun _ => ⟨_, rfl⟩⟩

/-- Pair-Setup M1 gets an answer whenever the record can be read at all. -/
theorem activeForServer_returns_iff {serverIdentifier serverGeneration : PyString}
    (hbinding : isValidBinding serverIdentifier serverGeneration = true) :
    (∃ result, (reading digits depth content).activeForServer now serverIdentifier
        serverGeneration = .ok result) ↔
      ∃ result, (reading digits depth content).active now = .ok result := by
  simp only [activeForServer, hbinding, Bool.not_true, Bool.false_eq_true, if_false]
  cases (reading digits depth content).active now with
  | error error => exact ⟨nofun, nofun⟩
  | ok current => exact ⟨fun _ => ⟨current, rfl⟩, fun _ => ⟨_, rfl⟩⟩

/-- For every content: `active` returns none or a valid window in force, the
`pair` command can replace the record and M1 gets its answer, exactly when the
content is of neither kind that the reader does not survive. -/
theorem record_reader_total_iff (digits : DigitTable) (depth : Nat) (content : Bytes) (now : ℚ) :
    ((∃ result, (reading digits depth content).active now = .ok result ∧
        ∀ window, result = some window → window.Valid digits ∧ now < window.expiresAt) ↔
      ¬Escapes digits depth content) ∧
    (∀ (request : OpenRequest) (pins tokens : List PyString) (openedAt : ℚ), request.Valid →
      ((∃ opened, (reading digits depth content).openLocked now request pins tokens openedAt =
          .ok opened) ↔
        ¬Escapes digits depth content)) ∧
    (∀ serverIdentifier serverGeneration,
      isValidBinding serverIdentifier serverGeneration = true →
      ((∃ result, (reading digits depth content).activeForServer now serverIdentifier
          serverGeneration = .ok result) ↔
        ¬Escapes digits depth content)) := by
  refine ⟨?_, fun request pins tokens openedAt hrequest => ?_, fun _ _ hbinding => ?_⟩
  · rw [← @active_returns_iff digits depth content now]
    constructor
    · rintro ⟨result, hresult, -⟩
      exact ⟨result, hresult⟩
    · rintro ⟨result, hresult⟩
      refine ⟨result, hresult, ?_⟩
      rintro window rfl
      exact active_valid hresult
  · exact (openLocked_returns_iff hrequest pins tokens openedAt).trans active_returns_iff
  · exact (activeForServer_returns_iff hbinding).trans active_returns_iff

/-! ## Two records that are not survived -/

/-- The digits below the first non-ASCII character, and no others. -/
def asciiDigits : DigitTable where
  isDigit point := 0x30 ≤ point && point ≤ 0x39
  decimal point := if 0x30 ≤ point ∧ point ≤ 0x39 then some (point - 0x30) else none
  isDigit_of_decimal := by
    intro point hdecimal
    split at hdecimal
    · simpa [Bool.and_eq_true] using ‹_›
    · cases hdecimal
  ascii := fun _ _ => rfl

/-- The bytes of a text without line ends. -/
def recordOf (text : List Char) : Bytes :=
  utf8 (String.ofList text)

/-- A record written from a text is parsed as that text. -/
theorem parsed_recordOf (digits : DigitTable) (depth : Nat) (text : List Char) :
    (reading digits depth (recordOf text)).parsed =
      loadText depth (universalNewlines text) >>= parseWindow digits := by
  have hload : loadRecord depth (recordOf text) = loadText depth (universalNewlines text) := by
    rw [loadRecord, recordOf, decodeUtf8_utf8]
    simp
  rw [← hload]
  rfl

/-- A record of 1001 opening brackets. -/
def nestedRecord : List Char :=
  List.replicate 1001 '['

/-- A record that is valid but for an expiry of 401 digits. -/
def oversizedRecord : List Char :=
  "\x7b\"pin\":\"5718\",\"generation\":\"0123456789abcdef0123456789abcdef\"".toList ++
    ",\"expires_at\":1".toList ++ List.replicate 400 '0' ++ ['\x7d']

/-- Repeating a character other than a carriage return leaves no line end to translate. -/
theorem universalNewlines_replicate {char : Char} (hchar : char ≠ '\r') (count : Nat) :
    universalNewlines (List.replicate count char) = List.replicate count char := by
  induction count with
  | zero => rfl
  | succ count ih =>
      rw [List.replicate_succ, universalNewlines, ih]
      · exact fun _ hreturn _ => hchar hreturn
      · exact fun hreturn => hchar hreturn

/-- An error nothing catches leaves the reader of a record written from a text. -/
theorem active_recordOf {text : List Char} {error : RecordError}
    (hparsed : loadText depth (universalNewlines text) >>= parseWindow digits = .error error)
    (huncaught : error.isCaught = false) :
    (reading digits depth (recordOf text)).active now = .error error := by
  rw [active_of_error rfl ((parsed_recordOf digits depth text).trans hparsed), huncaught]
  rfl

/-- `active` raises on both, where it should return none. -/
theorem record_reader_raises :
    (reading asciiDigits 1000 (recordOf nestedRecord)).active 0 = .error .recursionError ∧
      (reading asciiDigits 1000 (recordOf oversizedRecord)).active 0 = .error .overflowError := by
  constructor
  · refine active_recordOf (Outcome.bind_eq_error.mpr (Or.inl ?_)) rfl
    rw [nestedRecord, universalNewlines_replicate (by decide), loadText, Json.loads_nested 1000]
  · refine active_recordOf ?_ rfl
    decide +kernel

/-- A record that is no JSON is read as none, replaced, and answered to M1. -/
theorem record_reader_survives_text :
    let store := reading asciiDigits 1000 (recordOf "\x7bnot json".toList)
    let generation := PyString.ofString "0123456789abcdef0123456789abcdef"
    let request : OpenRequest := { serverIdentifier := [0x41], serverGeneration := generation }
    (∃ result, store.active 0 = .ok result ∧
      ∀ window, result = some window → window.Valid asciiDigits ∧ 0 < window.expiresAt) ∧
    (∃ opened, store.openLocked 0 request [] [] 0 = .ok opened) ∧
    (∃ result, store.activeForServer 0 [0x41] generation = .ok result) := by
  intro store generation request
  have hparsed : store.parsed = .error .valueError := by
    refine (parsed_recordOf asciiDigits 1000 _).trans ?_
    decide +kernel
  have hsafe : ¬Escapes asciiDigits 1000 (recordOf "\x7bnot json".toList) :=
    active_returns_iff.mp ⟨none, @active_of_error 0 _ _ rfl hparsed⟩
  have hbinding : isValidBinding [0x41] generation = true := by decide +kernel
  obtain ⟨hactive, hopened, hanswered⟩ :=
    record_reader_total_iff asciiDigits 1000 (recordOf "\x7bnot json".toList) 0
  refine ⟨hactive.mpr hsafe, (hopened request [] [] 0 ⟨?_, hbinding⟩).mpr hsafe,
    (hanswered [0x41] generation hbinding).mpr hsafe⟩
  norm_num [request]

end WindowStore

end CompanionBridge
