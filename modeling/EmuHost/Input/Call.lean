import EmuHost.Input.Router

/-!
# Input calls

The calls by which a host feeds and reads a router.
-/

namespace EmuHost

/-- A call of the host to the router. -/
inductive InputCall where
  | openClient (width height : Int)
  | resizeClient (width height : Int)
  | isInitialized
  | maxControllers
  | setAspectRatio (aspect : AspectRatio)
  | connect (index : Nat)
  | press (button : Button) (index : Nat)
  | release (button : Button) (index : Nat)
  | moveStick (stick : Stick) (value : Vec2 Binary32) (index : Nat)
  | accelerometer (value : Vec3 Binary32) (index : Nat)
  | gyro (value : Vec3 Binary32) (index : Nat)
  | touch (x y : Int)
  | releaseTouch
  | update
  | snapshot
  | isPressed (button : Button) (index : Nat)
  | stick (stick : Stick) (index : Nat)
  deriving DecidableEq

/-- What a router answers. -/
inductive InputAnswer where
  | nothing
  | success
  | flag (b : Bool)
  | number (n : Nat)
  | axes (v : Vec2 Binary32)
  | snapshot (s : Snapshot)
  | failed (e : SessionError)
  deriving DecidableEq

namespace InputAnswer

/-- The answer of a call that gives nothing back. -/
def ofUnit (_ : Unit) : InputAnswer := .nothing

/-- The answer of a call that may hand out a handle. -/
def ofHandle (handle : Option Nat) : InputAnswer := handle.elim .nothing .number

end InputAnswer

namespace Router

/-- A reply whose result is put into words by `present`. -/
def answering {α : Type} (reply : Reply Router α) (present : α → InputAnswer) :
    Router × List LogLine × InputAnswer :=
  (reply.state, reply.log,
    match reply.result with
    | .ok a => present a
    | .error e => .failed e)

/-- Performs a call: the router after it, the lines it logs, and the answer. -/
def perform (r : Router) : InputCall → Router × List LogLine × InputAnswer
  | .openClient width height => answering (r.openClient width height) fun _ => .success
  | .resizeClient width height => answering (r.resizeClient width height) fun _ => .success
  | .isInitialized => (r, [], .flag r.isInitialized)
  | .maxControllers => (r, [], .number r.maxControllers)
  | .setAspectRatio aspect => (r.setAspectRatio aspect, [], .nothing)
  | .connect index => answering (r.connect index) .ofHandle
  | .press button index => answering (r.setButton button index true) .ofUnit
  | .release button index => answering (r.setButton button index false) .ofUnit
  | .moveStick stick value index => answering (r.setStick stick value index) .ofUnit
  | .accelerometer value index => answering (r.setAccelerometer value index) .ofUnit
  | .gyro value index => answering (r.setGyro value index) .ofUnit
  | .touch x y => (r.touchAt x y, [], .nothing)
  | .releaseTouch => (r.releaseTouch, [], .nothing)
  | .update => (r.update, [], .snapshot r.update.published)
  | .snapshot => (r, [], .snapshot r.published)
  | .isPressed button index => (r, [], .flag (r.published.isPressed index button))
  | .stick stick index =>
    (r, [], ((r.published.controller? index).map (·.stick stick)).elim .nothing .axes)

end Router

end EmuHost
