import EmuHost.Settings.Code

/-!
# Buttons and sticks

The buttons and sticks that a host can report, by number, and sets of held buttons. A set has one
bit for each button, at the place of the button's number; the unbound button has none.
-/

namespace EmuHost

/-- A button of a controller. `unbound` is the number 0 of hosts and no button at all. -/
inductive Button where
  | unbound
  | a
  | b
  | x
  | y
  | leftStick
  | rightStick
  | leftShoulder
  | rightShoulder
  | leftTrigger
  | rightTrigger
  | dpadUp
  | dpadDown
  | dpadLeft
  | dpadRight
  | minus
  | plus
  | guide
  | misc1
  | paddle1
  | paddle2
  | paddle3
  | paddle4
  | touchpad
  | singleLeftTrigger0
  | singleRightTrigger0
  | singleLeftTrigger1
  | singleRightTrigger1
  deriving DecidableEq, Repr

namespace Button

/-- In the order of their numbers. -/
def all : List Button := [
  .unbound, .a, .b, .x, .y, .leftStick, .rightStick, .leftShoulder, .rightShoulder, .leftTrigger,
  .rightTrigger, .dpadUp, .dpadDown, .dpadLeft, .dpadRight, .minus, .plus, .guide, .misc1,
  .paddle1, .paddle2, .paddle3, .paddle4, .touchpad, .singleLeftTrigger0, .singleRightTrigger0,
  .singleLeftTrigger1, .singleRightTrigger1]

/-- All but the unbound one. -/
def bindable : List Button := all.tail

def code (button : Button) : Nat := all.idxOf button

def ofCode (n : Int) : Except UnknownCode Button := lookUpCode "GamepadButtonInputId" all n

/-- The button that also goes by the name "back". -/
def back : Button := .minus

/-- The button that also goes by the name "start". -/
def start : Button := .plus

def name : Button → String
  | .unbound => "Unbound"
  | .a => "A"
  | .b => "B"
  | .x => "X"
  | .y => "Y"
  | .leftStick => "LeftStick"
  | .rightStick => "RightStick"
  | .leftShoulder => "LeftShoulder"
  | .rightShoulder => "RightShoulder"
  | .leftTrigger => "LeftTrigger"
  | .rightTrigger => "RightTrigger"
  | .dpadUp => "DpadUp"
  | .dpadDown => "DpadDown"
  | .dpadLeft => "DpadLeft"
  | .dpadRight => "DpadRight"
  | .minus => "Minus"
  | .plus => "Plus"
  | .guide => "Guide"
  | .misc1 => "Misc1"
  | .paddle1 => "Paddle1"
  | .paddle2 => "Paddle2"
  | .paddle3 => "Paddle3"
  | .paddle4 => "Paddle4"
  | .touchpad => "Touchpad"
  | .singleLeftTrigger0 => "SingleLeftTrigger0"
  | .singleRightTrigger0 => "SingleRightTrigger0"
  | .singleLeftTrigger1 => "SingleLeftTrigger1"
  | .singleRightTrigger1 => "SingleRightTrigger1"

/-- The name of the button's bit in a set. -/
def flagName : Button → String
  | .unbound => ""
  | .a => "A"
  | .b => "B"
  | .x => "X"
  | .y => "Y"
  | .leftStick => "LEFT_STICK"
  | .rightStick => "RIGHT_STICK"
  | .leftShoulder => "LEFT_SHOULDER"
  | .rightShoulder => "RIGHT_SHOULDER"
  | .leftTrigger => "LEFT_TRIGGER"
  | .rightTrigger => "RIGHT_TRIGGER"
  | .dpadUp => "DPAD_UP"
  | .dpadDown => "DPAD_DOWN"
  | .dpadLeft => "DPAD_LEFT"
  | .dpadRight => "DPAD_RIGHT"
  | .minus => "MINUS"
  | .plus => "PLUS"
  | .guide => "GUIDE"
  | .misc1 => "MISC1"
  | .paddle1 => "PADDLE1"
  | .paddle2 => "PADDLE2"
  | .paddle3 => "PADDLE3"
  | .paddle4 => "PADDLE4"
  | .touchpad => "TOUCHPAD"
  | .singleLeftTrigger0 => "SINGLE_LEFT_TRIGGER0"
  | .singleRightTrigger0 => "SINGLE_RIGHT_TRIGGER0"
  | .singleLeftTrigger1 => "SINGLE_LEFT_TRIGGER1"
  | .singleRightTrigger1 => "SINGLE_RIGHT_TRIGGER1"

end Button

/-- A set of held buttons. Bits that belong to no button are kept but mean nothing. -/
structure ButtonSet where
  bits : BitVec 32 := 0
  deriving DecidableEq, Repr

namespace ButtonSet

/-- The bit of a button, none for the unbound one. -/
def bit (button : Button) : BitVec 32 :=
  if button = .unbound then 0 else BitVec.twoPow 32 button.code

/-- The set that holds one button. -/
def ofButton (button : Button) : ButtonSet := ⟨bit button⟩

/-- The set of every button. -/
def full : ButtonSet := ⟨Button.bindable.foldl (fun bits button => bits ||| bit button) 0⟩

/-- The set with a button held. -/
def insert (s : ButtonSet) (button : Button) : ButtonSet := ⟨s.bits ||| bit button⟩

/-- The set with a button let go. -/
def erase (s : ButtonSet) (button : Button) : ButtonSet := ⟨s.bits &&& ~~~ bit button⟩

/-- Whether a button is held. The unbound one never is. -/
def isPressed (s : ButtonSet) (button : Button) : Bool :=
  button ≠ .unbound && s.bits &&& bit button == bit button

/-- The held buttons, by number. -/
def toList (s : ButtonSet) : List Button := Button.all.filter s.isPressed

end ButtonSet

/-- An analog stick. `unbound` is the number 0 of hosts and no stick at all. -/
inductive Stick where
  | unbound
  | left
  | right
  deriving DecidableEq, Repr

namespace Stick

/-- In the order of their numbers. -/
def all : List Stick := [.unbound, .left, .right]

def code (s : Stick) : Nat := all.idxOf s

def ofCode (n : Int) : Except UnknownCode Stick := lookUpCode "StickInputId" all n

def name : Stick → String
  | .unbound => "Unbound"
  | .left => "Left"
  | .right => "Right"

end Stick

end EmuHost
