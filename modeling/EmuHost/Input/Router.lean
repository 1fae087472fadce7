import EmuHost.Input.Snapshot
import EmuHost.Input.TouchLatch
import EmuHost.Reply

/-!
# Input router

Host input arrives at any time and is gathered here; `Router.update` publishes it as a `Snapshot`.
Frames read published snapshots only, so no frame sees half of an update. Events for a slot without
a controller are dropped.
-/

namespace EmuHost

/-- Gathered input and the last published snapshot. -/
structure Router where
  /-- How many slots may be connected. -/
  maxControllers : Nat := defaultMaxControllers
  maxControllers_pos : 0 < maxControllers := by decide
  maxControllers_le : maxControllers ≤ slotCount := by decide
  /-- The size of the client area, once the host has told it. -/
  clientSize : Option (Nat × Nat) := none
  aspectRatio : AspectRatio := .fixed16x9
  controllers : Slots := Vector.replicate slotCount none
  touch : TouchLatch (Vec2 Binary32) := {}
  tick : Nat := 0
  nextHandle : Nat := 1
  published : Snapshot := {}

namespace Router

/-- A router for a given number of slots, at least one and at most as many as the device has. -/
def ofMaxControllers (n : Nat) : Except ConfigurationError Router :=
  if h : 0 < n ∧ n ≤ slotCount then
    .ok { maxControllers := n, maxControllers_pos := h.1, maxControllers_le := h.2 }
  else .error (.controllerCount n)

/-- A size of the client area: positive in both dimensions. -/
def checkSize (width height : Int) : Except SessionError (Nat × Nat) :=
  if 0 < width ∧ 0 < height then .ok (width.toNat, height.toNat)
  else .error (.configuration (.size width height))

/-- Whether the host has told the client area. -/
def isInitialized (r : Router) : Bool := r.clientSize.isSome

/-- Tells the client area for the first time. -/
def openClient (r : Router) (width height : Int) : Reply Router Unit :=
  match checkSize width height with
  | .error e => .refused r e
  | .ok (w, h) =>
    -- the size is looked at first, so a bad one is refused as such in any case
    if r.isInitialized then
      .refused r (.outOfOrder .inputInitialize .inputInitialized)
        [.warn "input_initialize rejected: input is already initialized"]
    else
      .done { r with clientSize := some (w, h) }
        [.info s!"Input initialized ({w}x{h} client area)"]

/-- Changes the client area that touches are mapped from. -/
def resizeClient (r : Router) (width height : Int) : Reply Router Unit :=
  match checkSize width height with
  | .error e => .refused r e
  | .ok (w, h) =>
    if r.isInitialized then
      .done { r with clientSize := some (w, h) } [.debug s!"Input client area {w}x{h}"]
    else
      .refused r (.outOfOrder .setClientSize .inputUninitialized)
        [.warn "input_set_client_size rejected: input is not initialized"]

/-- Sets the shape of the emulated screen inside the client area. -/
def setAspectRatio (r : Router) (aspect : AspectRatio) : Router := { r with aspectRatio := aspect }

/-- Connects a controller to a slot and answers its handle. A connected slot keeps its controller
and handle; there is no handle before the client area is told, or past the slots in use. -/
def connect (r : Router) (index : Nat) : Reply Router (Option Nat) :=
  if inUse : index < r.maxControllers then
    have inTable : index < slotCount := Nat.lt_of_lt_of_le inUse r.maxControllers_le
    if !r.isInitialized then
      ⟨r, .ok none, [.warn "input_connect_gamepad called before input_initialize"]⟩
    else match r.controllers[index] with
      | some controller => ⟨r, .ok (some controller.handle), []⟩
      -- handles are given out in a row and never again
      | none =>
        let handle := r.nextHandle
        ⟨{ r with
            nextHandle := handle + 1
            controllers := r.controllers.set index (some { handle }) },
          .ok (some handle),
          [.info s!"Gamepad connected at index {index} (handle {handle})"]⟩
  else
    ⟨r, .ok none, [.warn s!"Gamepad index {index} out of range (max {r.maxControllers})"]⟩

/-- The line for an event whose slot has no controller. -/
def droppedLine (event : String) (index : Nat) : LogLine :=
  .trace ("Dropped " ++ event ++ ": " ++ (SessionError.notConnected index).message)

/-- Changes the controller in a slot. Without one the event is dropped. -/
def modify (r : Router) (event : String) (index : Nat) (change : Controller → Controller) :
    Reply Router Unit :=
  if h : index < slotCount then
    match r.controllers[index] with
    | some controller =>
      .done { r with controllers := r.controllers.set index (some (change controller)) } []
    | none => .done r [droppedLine event index]
  else .done r [droppedLine event index]

/-- Presses or releases a button. -/
def setButton (r : Router) (button : Button) (index : Nat) (pressed : Bool) : Reply Router Unit :=
  -- an unbound button is dropped whether or not there is a controller
  if button = .unbound then
    .done r [.trace s!"Dropped unbound button event for index {index}"]
  else
    r.modify "button event" index fun c =>
      { c with buttons := if pressed then c.buttons.insert button else c.buttons.erase button }

/-- Moves a stick. The axes are taken as they are. -/
def setStick (r : Router) (stick : Stick) (value : Vec2 Binary32) (index : Nat) :
    Reply Router Unit :=
  match stick with
  | .left => r.modify "stick event" index fun c => { c with leftStick := value }
  | .right => r.modify "stick event" index fun c => { c with rightStick := value }
  | .unbound =>
    -- whether there is a controller matters to the log only
    if (r.controllers[index]?).join.isSome then
      .done r [.trace s!"Dropped unbound stick event for index {index}"]
    else .done r [droppedLine "stick event" index]

def setAccelerometer (r : Router) (value : Vec3 Binary32) (index : Nat) : Reply Router Unit :=
  r.modify "accelerometer sample" index fun c => { c with accelerometer := value }

def setGyro (r : Router) (value : Vec3 Binary32) (index : Nat) : Reply Router Unit :=
  r.modify "gyro sample" index fun c => { c with gyro := value }

/-- Touches a point of the client area, or moves the touch there. -/
def touchAt (r : Router) (x y : Int) : Router :=
  { r with touch := r.touch.press ⟨.ofInt x, .ofInt y⟩ }

def releaseTouch (r : Router) : Router := { r with touch := r.touch.release }

/-- The touch as it would be published now. -/
def currentTouch (r : Router) : Option TouchPoint :=
  r.touch.current.map fun client =>
    { client
      -- without a client area there is no place on the panel, but there is a touch
      panel := r.clientSize.bind fun (w, h) => Panel.position? client w h r.aspectRatio.value }

/-- Publishes the gathered input as the next snapshot. -/
def update (r : Router) : Router :=
  { r with
    tick := r.tick + 1
    touch := r.touch.afterPublish
    -- the snapshot has the new tick, and the touch from before the latch moves on
    published := ⟨r.tick + 1, r.controllers, r.currentTouch⟩ }

end Router

end EmuHost
