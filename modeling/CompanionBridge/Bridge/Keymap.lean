import Mathlib.Data.Int.Notation

/-!
# Apple Companion button codes and their Samsung actions

The raw `_hidC` codes the remote sends, the action each resolves to, and the
Tizen key that carries it. Codes outside the table resolve to `unmapped`.
-/

namespace CompanionBridge

/-- What a resolved input asks of the Samsung side. -/
inductive Action where
  | sendKey
  | sendText
  | powerOff
  | wakeOnLan
  | unmapped
  deriving DecidableEq, Repr

/-- Buttons by their Control Center function; see `AppleButton.code` for the wire codes. -/
inductive AppleButton where
  | up | down | left | right
  | menu | select | home
  | volumeUp | volumeDown
  | siri | screensaver | sleep | wake
  | playPause | channelIncrement | channelDecrement | guide
  | mute | power
  deriving DecidableEq, Repr

namespace AppleButton

/-- The `_hidC` wire code. iOS 26 sends Mute and Power as the HID page codes 18 and 19. -/
def code : AppleButton → Int
  | up => 1
  | down => 2
  | left => 3
  | right => 4
  | menu => 5
  | select => 6
  | home => 7
  | volumeUp => 8
  | volumeDown => 9
  | siri => 10
  | screensaver => 11
  | sleep => 12
  | wake => 13
  | playPause => 14
  | channelIncrement => 15
  | channelDecrement => 16
  | guide => 17
  | mute => 18
  | power => 19

def all : List AppleButton :=
  [up, down, left, right, menu, select, home, volumeUp, volumeDown, siri, screensaver, sleep,
    wake, playPause, channelIncrement, channelDecrement, guide, mute, power]

/-- The button with a given wire code, when there is one. -/
def ofCode? (hidCode : Int) : Option AppleButton :=
  all.find? fun button => button.code == hidCode

/-- Every button is found by its own code. -/
theorem ofCode?_code (button : AppleButton) : ofCode? button.code = some button := by
  cases button <;> rfl

end AppleButton

/-- The action a button resolves to, with its Tizen key when it is a key press. -/
structure Mapping where
  action : Action
  samsungKey : Option String := none
  deriving DecidableEq, Repr

/-- `KEYMAP`. -/
def keymap : AppleButton → Mapping
  | .up => ⟨.sendKey, some "KEY_UP"⟩
  | .down => ⟨.sendKey, some "KEY_DOWN"⟩
  | .left => ⟨.sendKey, some "KEY_LEFT"⟩
  | .right => ⟨.sendKey, some "KEY_RIGHT"⟩
  | .menu => ⟨.sendKey, some "KEY_RETURN"⟩
  | .select => ⟨.sendKey, some "KEY_ENTER"⟩
  | .home => ⟨.sendKey, some "KEY_HOME"⟩
  | .volumeUp => ⟨.sendKey, some "KEY_VOLUP"⟩
  | .volumeDown => ⟨.sendKey, some "KEY_VOLDOWN"⟩
  -- Mute and Power arrive under the codes of the raw page buttons
  | .mute => ⟨.sendKey, some "KEY_MUTE"⟩
  | .playPause => ⟨.sendKey, some "KEY_PLAY_BACK"⟩
  | .power => ⟨.sendKey, some "KEY_POWER"⟩
  -- power actions reach the television by their own routes
  | .sleep => ⟨.powerOff, some "KEY_POWER"⟩
  | .wake => ⟨.wakeOnLan, none⟩
  | .channelIncrement => ⟨.sendKey, some "KEY_CHUP"⟩
  | .channelDecrement => ⟨.sendKey, some "KEY_CHDOWN"⟩
  | .guide => ⟨.sendKey, some "KEY_GUIDE"⟩
  -- no key of the television stands for these
  | .siri => ⟨.unmapped, none⟩
  | .screensaver => ⟨.unmapped, none⟩

/-- Resolve a raw `_hidC` code; unknown codes are `unmapped`, never an error. -/
def resolve (hidCode : Int) : Mapping :=
  match AppleButton.ofCode? hidCode with
  | none => ⟨.unmapped, none⟩
  | some button => keymap button

/-- The semantic directions the gesture interpreter resolves to. -/
inductive Gesture where
  | up | down | left | right | select
  deriving DecidableEq, Repr

/-- `GESTURE_TO_SAMSUNG`. -/
def gestureToSamsung : Gesture → String
  | .up => "KEY_UP"
  | .down => "KEY_DOWN"
  | .left => "KEY_LEFT"
  | .right => "KEY_RIGHT"
  | .select => "KEY_ENTER"

end CompanionBridge
