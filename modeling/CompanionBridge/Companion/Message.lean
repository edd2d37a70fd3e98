import CompanionBridge.Library.PythonText
import CompanionBridge.Protocol.Opack
import Mathlib.Data.List.Infix

/-!
# Reading a decoded message

The handlers read a message with the language's own operations: subscripts and
`get`, `int`, comparisons, truth, iteration and the lookup of an enumeration by
its value. Each of them raises on values it is not for.
-/

namespace CompanionBridge

/-- The exceptions the handlers tell apart. -/
inductive PyError where
  | keyError
  | typeError
  | valueError
  | overflowError
  | attributeError
  | other
  deriving DecidableEq, Repr

/-- The Unicode tables of the interpreter. -/
structure PyText extends CaseTable where
  /-- The value of a decimal digit. -/
  decimal : Char → Option Nat

namespace OpackScalar

/-- An instance of `int` or `float`, which a `bool` is too. -/
def isNumber : OpackScalar → Bool
  | bool _ | int _ _ | float _ => true
  | _ => false

/-- `int(value)`, towards zero. A UUID is the integer of its bytes. -/
def toInt (text : PyText) : OpackScalar → Except PyError Int
  | null => .error .typeError
  | bool value => .ok (if value then 1 else 0)
  | int value _ => .ok value
  | float bits =>
      match floatNumber? bits with
      | some (.finite units) => .ok (units.tdiv floatUnit)
      | some (.infinite _) => .error .overflowError
      | none => .error .valueError
  | str value => (intOfText text.decimal value.toList).elim (.error .valueError) .ok
  | bytes data => (intOfBytes data).elim (.error .valueError) .ok
  | uuid value => .ok (fromLittleEndian value.bytes.reverse)

/-- `float(value)` of a number; an integer beyond the largest double overflows. -/
def toFloat : OpackScalar → Except PyError Float
  | bool value => .ok (if value then 1 else 0)
  | int value _ =>
      if value < 2 ^ 1024 - 2 ^ 970 then .ok (Float.ofNat value) else .error .overflowError
  | float bits => .ok (Float.ofBits bits)
  | _ => .error .typeError

def truthy : OpackScalar → Bool
  | null => false
  | bool value => value
  | int value _ => value ≠ 0
  | float bits => floatNumber? bits ≠ some (.finite 0)
  | str value => value ≠ ""
  | bytes data => data ≠ []
  | uuid _ => true

end OpackScalar

/-- `first < second`. -/
def PyNumber.lt : PyNumber → PyNumber → Bool
  | .finite first, .finite second => first < second
  | .finite _, .infinite negative => !negative
  | .infinite negative, .finite _ => negative
  | .infinite first, .infinite second => first && !second

namespace OpackValue

def ofInt (value : Nat) : OpackValue :=
  .scalar (.int value none)

def ofStr (text : String) : OpackValue :=
  .scalar (.str text)

/-- The value of a text key. -/
def lookup (key : String) : List (OpackValue × OpackValue) → Option OpackValue
  | [] => none
  | (.scalar (.str held), value) :: rest => if held = key then some value else lookup key rest
  | _ :: rest => lookup key rest

/-- `value[key]`. -/
def getItem (value : OpackValue) (key : String) : Except PyError OpackValue :=
  match value with
  | dict entries => (lookup key entries).elim (.error .keyError) .ok
  | _ => .error .typeError

/-- `value.get(key)`. -/
def get (value : OpackValue) (key : String) : Except PyError (Option OpackValue) :=
  match value with
  | dict entries => .ok (lookup key entries)
  | _ => .error .attributeError

/-- `value == other`, for a scalar. -/
def eqScalar (value : OpackValue) (other : OpackScalar) : Bool :=
  match value with
  | scalar held => held.pyEq other
  | _ => false

/-- `key in value`: a key of a mapping, an item of a list, or a part of a text. -/
def contains (value : OpackValue) (key : String) : Except PyError Bool :=
  match value with
  | dict entries => .ok (lookup key entries).isSome
  | list items => .ok (items.any fun item => item.eqScalar (.str key))
  | scalar (.str text) => .ok (decide (key.toList <:+: text.toList))
  | _ => .error .typeError

def truthy : OpackValue → Bool
  | scalar value => value.truthy
  | list items => !items.isEmpty
  | dict entries => !entries.isEmpty

def toInt (text : PyText) : OpackValue → Except PyError Int
  | scalar value => value.toInt text
  | _ => .error .typeError

def toFloat : OpackValue → Except PyError Float
  | scalar value => value.toFloat
  | _ => .error .typeError

def isNumber : OpackValue → Bool
  | scalar value => value.isNumber
  | _ => false

/-- A number for a comparison; a NaN compares as none. -/
def toNumber : OpackValue → Except PyError (Option PyNumber)
  | scalar value => if value.isNumber then .ok value.number? else .error .typeError
  | _ => .error .typeError

/-- `value < bound`. -/
def lessThan (value : OpackValue) (bound : Nat) : Except PyError Bool :=
  value.toNumber.map fun number =>
    number.elim false fun held => held.lt (.finite (bound * floatUnit))

/-- `value > bound`. -/
def moreThan (value : OpackValue) (bound : Nat) : Except PyError Bool :=
  value.toNumber.map fun number =>
    number.elim false fun held => (PyNumber.finite (bound * floatUnit)).lt held

/-- `for item in value`. -/
def iterate : OpackValue → Except PyError (List OpackValue)
  | scalar (.str text) => .ok (text.toList.map fun char => ofStr char.toString)
  | scalar (.bytes data) => .ok (data.map fun byte => ofInt byte.toNat)
  | list items => .ok items
  | dict entries => .ok (entries.map Prod.fst)
  | _ => .error .typeError

/-- `hash(value)` for a set or a dictionary. -/
def hashable : OpackValue → Except PyError OpackScalar
  | scalar value => .ok value
  | _ => .error .typeError

/-- The member of an enumeration with a given value. -/
def enumMember? {Member : Type} (members : List Member) (code : Member → Nat)
    (value : OpackValue) : Option Member :=
  members.find? fun member => value.eqScalar (.int (code member) none)

end OpackValue

/-! ## The enumerations -/

inductive HidCommand where
  | up | down | left | right | menu | select | home | volumeUp | volumeDown
  | siri | screensaver | sleep | wake | playPause | channelIncrement | channelDecrement
  | guide | pageUp | pageDown | mute | power
  deriving DecidableEq, Repr

namespace HidCommand

def code : HidCommand → Nat
  | up => 1
  | down => 2
  | left => 3
  | right => 4
  | menu => 5
  | select => 6
  | home => 7
  | volumeUp => 8
  | volumeDown => 9
  | siri => 10
  | screensaver => 11
  | sleep => 12
  | wake => 13
  | playPause => 14
  | channelIncrement => 15
  | channelDecrement => 16
  | guide => 17
  | pageUp => 18
  | pageDown => 19
  | mute => 29
  | power => 30

def all : List HidCommand :=
  [up, down, left, right, menu, select, home, volumeUp, volumeDown, siri, screensaver, sleep,
    wake, playPause, channelIncrement, channelDecrement, guide, pageUp, pageDown, mute, power]

/-- `HidCommand(value)`. -/
def ofValue? : OpackValue → Option HidCommand :=
  OpackValue.enumMember? all code

/-- `HID_BUTTON_MAP`: what the base server calls the button. -/
def buttonName? : HidCommand → Option String
  | up => some "up"
  | down => some "down"
  | left => some "left"
  | right => some "right"
  | select => some "select"
  | menu => some "menu"
  | home => some "home"
  | volumeDown => some "volume_down"
  | volumeUp => some "volume_up"
  | playPause => some "play_pause"
  | channelIncrement => some "channel_up"
  | channelDecrement => some "channel_down"
  | screensaver => some "screensaver"
  | guide => some "guide"
  | pageDown => some "control_center"
  | mute => some "mute"
  | power => some "power"
  -- these have no button name
  | siri | sleep | wake | pageUp => none

/-- The member as the source prints it. -/
def name : HidCommand → String
  | up => "HidCommand.Up"
  | down => "HidCommand.Down"
  | left => "HidCommand.Left"
  | right => "HidCommand.Right"
  | menu => "HidCommand.Menu"
  | select => "HidCommand.Select"
  | home => "HidCommand.Home"
  | volumeUp => "HidCommand.VolumeUp"
  | volumeDown => "HidCommand.VolumeDown"
  | siri => "HidCommand.Siri"
  | screensaver => "HidCommand.Screensaver"
  | sleep => "HidCommand.Sleep"
  | wake => "HidCommand.Wake"
  | playPause => "HidCommand.PlayPause"
  | channelIncrement => "HidCommand.ChannelIncrement"
  | channelDecrement => "HidCommand.ChannelDecrement"
  | guide => "HidCommand.Guide"
  | pageUp => "HidCommand.PageUp"
  | pageDown => "HidCommand.PageDown"
  | mute => "HidCommand.Mute"
  | power => "HidCommand.Power"

end HidCommand

inductive MediaControlCommand where
  | play | pause | nextTrack | previousTrack | getVolume | setVolume | skipBy
  | fastForwardBegin | fastForwardEnd | rewindBegin | rewindEnd
  | getCaptionSettings | setCaptionSettings
  deriving DecidableEq, Repr

namespace MediaControlCommand

def code : MediaControlCommand → Nat
  | play => 1
  | pause => 2
  | nextTrack => 3
  | previousTrack => 4
  | getVolume => 5
  | setVolume => 6
  | skipBy => 7
  | fastForwardBegin => 8
  | fastForwardEnd => 9
  | rewindBegin => 10
  | rewindEnd => 11
  | getCaptionSettings => 12
  | setCaptionSettings => 13

def all : List MediaControlCommand :=
  [play, pause, nextTrack, previousTrack, getVolume, setVolume, skipBy, fastForwardBegin,
    fastForwardEnd, rewindBegin, rewindEnd, getCaptionSettings, setCaptionSettings]

/-- `MediaControlCommand(value)`. -/
def ofValue? : OpackValue → Option MediaControlCommand :=
  OpackValue.enumMember? all code

/-- `MediaControlCommand(value)` of an integer. -/
def ofInt? (value : Int) : Option MediaControlCommand :=
  all.find? fun command => (command.code : Int) = value

/-- The name of the command, for the source of what is relayed. -/
def name : MediaControlCommand → String
  | play => "Play"
  | pause => "Pause"
  | nextTrack => "NextTrack"
  | previousTrack => "PreviousTrack"
  | getVolume => "GetVolume"
  | setVolume => "SetVolume"
  | skipBy => "SkipBy"
  | fastForwardBegin => "FastForwardBegin"
  | fastForwardEnd => "FastForwardEnd"
  | rewindBegin => "RewindBegin"
  | rewindEnd => "RewindEnd"
  | getCaptionSettings => "GetCaptionSettings"
  | setCaptionSettings => "SetCaptionSettings"

/-- The keys of `MEDIA_CONTROL_MAP`. -/
def isMapped : MediaControlCommand → Bool
  | play | pause | nextTrack | previousTrack | setVolume | skipBy => true
  | _ => false

end MediaControlCommand

inductive KeyboardFocusState where
  | unknown | unfocused | focused
  deriving DecidableEq, Repr

end CompanionBridge
