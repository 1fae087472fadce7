import EmuHost.Binary.Arithmetic
import EmuHost.Input.Button
import EmuHost.Input.Panel
import EmuHost.Settings.Basic

/-!
# Input snapshots

What the core sees of the host's input for one frame: the connected controllers by slot and the
touch point, as they were when they were last published.
-/

namespace EmuHost

/-- The state of a connected controller. -/
structure Controller where
  handle : Nat
  buttons : ButtonSet := {}
  leftStick : Vec2 Binary32 := ⟨default, default⟩
  rightStick : Vec2 Binary32 := ⟨default, default⟩
  accelerometer : Vec3 Binary32 := ⟨default, default, default⟩
  gyro : Vec3 Binary32 := ⟨default, default, default⟩
  deriving DecidableEq

/-- A stick's axes; the unbound stick rests. -/
def Controller.stick (c : Controller) : Stick → Vec2 Binary32
  | .left => c.leftStick
  | .right => c.rightStick
  | .unbound => ⟨default, default⟩

/-- A published touch: where in the client area, and where on the panel if it is on it. -/
structure TouchPoint where
  client : Vec2 Binary32
  panel : Option (Vec2 Binary32)
  deriving DecidableEq

/-- The controllers by slot. -/
abbrev Slots := Vector (Option Controller) slotCount

/-- The input of one frame. The tick counts the publications up to this one. -/
structure Snapshot where
  tick : Nat := 0
  controllers : Slots := Vector.replicate slotCount none
  touch : Option TouchPoint := none
  deriving DecidableEq

namespace Snapshot

/-- The controller in a slot; there is none past the last slot. -/
def controller? (s : Snapshot) (index : Nat) : Option Controller := (s.controllers[index]?).join

/-- The connected controllers with their slots, by slot. -/
def connected (s : Snapshot) : List (Nat × Controller) :=
  (List.range slotCount).filterMap fun i => (s.controller? i).map (i, ·)

/-- Whether a button is held on the controller of a slot. -/
def isPressed (s : Snapshot) (index : Nat) (button : Button) : Bool :=
  (s.controller? index).any (·.buttons.isPressed button)

end Snapshot

end EmuHost
