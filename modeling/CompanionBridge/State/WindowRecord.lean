import CompanionBridge.State.ClientKeys
import CompanionBridge.Protocol.OpackScalars

/-!
# The enrollment record

`PairingWindowStore` reads `pairing-window.json` again for every lookup. What
the file holds is any sequence of bytes, and each stage of reading it has errors
of its own; `active` lets only some of them pass for a missing window.
-/

namespace CompanionBridge

open Doubles

/-- What reading a record can raise. -/
inductive RecordError where
  | osError
  | typeError
  | valueError
  | recursionError
  | overflowError
  deriving DecidableEq, Repr

/-- `except (OSError, TypeError, ValueError)`. -/
def RecordError.isCaught : RecordError → Bool
  | .osError | .typeError | .valueError => true
  | .recursionError | .overflowError => false

/-- The digits of the interpreter's Unicode tables: what `str.isdigit` accepts,
and the value `int` gives to those that are decimal. -/
structure DigitTable where
  isDigit : Nat → Bool
  decimal : Nat → Option Nat
  isDigit_of_decimal : ∀ point, (decimal point).isSome = true → isDigit point = true
  ascii : ∀ point < 0x80,
    decimal point = if 0x30 ≤ point ∧ point ≤ 0x39 then some (point - 0x30) else none

/-- A window as it is read: its texts may hold any code point. -/
structure StoredWindow where
  pin : PyString
  expiresAt : ℚ
  generation : PyString
  serverIdentifier : PyString
  serverGeneration : PyString
  deriving DecidableEq

/-! ## Fields -/

def windowPinLength : Nat := 4

def commonWeakWindowPins : List PyString :=
  ["0000", "1234", "4321", "1212", "1122", "2580", "6969"].map PyString.ofString

/-- Whether each digit is the one before plus `step`, as far as the loop has to
look. `none` is the `ValueError` of `int`. -/
def stepsBy (digits : DigitTable) (step : ℤ) : PyString → Option Bool
  | current :: next :: rest => do
      let first ← digits.decimal current
      let second ← digits.decimal next
      if (first : ℤ) + step = second then stepsBy digits step (next :: rest) else return false
  | _ => some true

/-- `is_strong_window_pin`. `none` is the `ValueError` of `int`. -/
def isStrongWindowPin (digits : DigitTable) (pin : PyString) : Option Bool :=
  if pin = [] || !pin.all digits.isDigit || pin.length ≠ windowPinLength then some false
  else if pin ∈ commonWeakWindowPins || pin.dedup.length = 1 then some false
  else do
    let ascending ← stepsBy digits 1 pin
    let descending ← stepsBy digits (-1) pin
    return !ascending && !descending

def isGeneration (text : PyString) : Bool :=
  text.length = 32 && text.all isLowerHexDigit

/-- `_is_valid_binding` of two texts. -/
def isValidBinding (serverIdentifier serverGeneration : PyString) : Bool :=
  serverIdentifier ≠ [] && isGeneration serverGeneration

/-- A member that has to be a `str`. -/
def textField (members : List (PyString × Json)) (name : String) : Except RecordError PyString :=
  match Json.get members (PyString.ofString name) with
  | some (.string text) => .ok text
  | _ => .error .valueError

/-- The expiry as a float. `math.isfinite` raises `OverflowError` for an integer
that no double reaches. -/
def expiryField (members : List (PyString × Json)) : Except RecordError ℚ :=
  match Json.get members (PyString.ofString "expires_at") with
  | some (.integer value) =>
      match ofInt value with
      | some expiresAt => .ok expiresAt
      | none => .error .overflowError
  | some (.float (.finite expiresAt)) => .ok expiresAt
  | _ => .error .valueError

def require (condition : Bool) : Except RecordError Unit :=
  if condition then .ok () else .error .valueError

/-- `_parse_window`. -/
def parseWindow (digits : DigitTable) : Json → Except RecordError StoredWindow
  | .object members => do
      let pin ← textField members "pin"
      require (isStrongWindowPin digits pin = some true)
      let generation ← textField members "generation"
      require (isGeneration generation)
      let expiresAt ← expiryField members
      let serverIdentifier ← textField members "server_identifier"
      let serverGeneration ← textField members "server_generation"
      require (isValidBinding serverIdentifier serverGeneration)
      return { pin, expiresAt, generation, serverIdentifier, serverGeneration }
  | _ => .error .valueError

/-! ## The record -/

/-- What reading in text mode makes of line ends. -/
def universalNewlines : List Char → List Char
  | '\r' :: '\n' :: rest => '\n' :: universalNewlines rest
  | '\r' :: rest => '\n' :: universalNewlines rest
  | char :: rest => char :: universalNewlines rest
  | [] => []

/-- `json.loads` of a text, with the nesting the interpreter allows. -/
def loadText (depth : Nat) (text : List Char) : Except RecordError Json :=
  match Json.loads depth text with
  | .ok value => .ok value
  | .error .invalid => .error .valueError
  | .error .tooDeep => .error .recursionError

def loadRecord (depth : Nat) (content : Bytes) : Except RecordError Json :=
  match decodeUtf8 content with
  | none => .error .valueError
  | some text => loadText depth (universalNewlines text.toList)

/-- A `PairingWindowStore` and what it finds: whether a pairing reset is in
progress, and the bytes of its record or the error of opening it. -/
structure WindowStore where
  digits : DigitTable
  depth : Nat
  resetInProgress : Bool := false
  record : Except RecordError Bytes

namespace WindowStore

/-- `active`. -/
def active (store : WindowStore) (now : ℚ) : Except RecordError (Option StoredWindow) :=
  if store.resetInProgress then .ok none
  else
    match store.record >>= loadRecord store.depth >>= parseWindow store.digits with
    | .error error => if error.isCaught then .ok none else .error error
    | .ok window => .ok (if now < window.expiresAt then some window else none)

/-- `active_for_server`, the lookup of Pair-Setup M1. -/
def activeForServer (store : WindowStore) (now : ℚ) (serverIdentifier serverGeneration : PyString) :
    Except RecordError (Option StoredWindow) :=
  if !isValidBinding serverIdentifier serverGeneration then .ok none
  else do
    let current ← store.active now
    return current.filter fun window =>
      window.serverIdentifier = serverIdentifier && window.serverGeneration = serverGeneration

/-- What `open_locked` can raise. -/
inductive OpenError where
  | identityResetInProgress
  | invalidDuration
  | invalidBinding
  | record (error : RecordError)
  deriving DecidableEq

/-- The arguments of `open_locked`. -/
structure OpenRequest where
  serverIdentifier : PyString
  serverGeneration : PyString
  durationSeconds : ℚ := 300

/-- The window that `open_locked` writes in place of the record, out of the PINs
and tokens it draws. `none` if what was drawn so far did not suffice. -/
def openLocked (store : WindowStore) (now : ℚ) (request : OpenRequest) (pins tokens : List PyString)
    (openedAt : ℚ) : Except OpenError (Option StoredWindow) :=
  if store.resetInProgress then .error .identityResetInProgress
  else if ¬(0 < request.durationSeconds ∧ request.durationSeconds ≤ 24 * 60 * 60) then
    .error .invalidDuration
  else if !isValidBinding request.serverIdentifier request.serverGeneration then
    .error .invalidBinding
  else
    match store.active now with
    | .error error => .error (.record error)
    | .ok previous =>
        -- the pin and the generation are drawn again until they differ from those in use
        let pin := pins.find? fun pin =>
          isStrongWindowPin store.digits pin = some true && previous.all (·.pin ≠ pin)
        let generation := tokens.find? fun token => previous.all (·.generation ≠ token)
        .ok (pin.bind fun pin => generation.map fun generation =>
          { pin, generation, expiresAt := openedAt + request.durationSeconds,
            serverIdentifier := request.serverIdentifier,
            serverGeneration := request.serverGeneration })

end WindowStore

end CompanionBridge
