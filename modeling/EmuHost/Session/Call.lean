import EmuHost.Input.Call
import EmuHost.Session.Device
import EmuHost.Session.Rendering

/-!
# Session calls

The calls of a host to its session, and what each answers. The render loop is a call like any other,
and the frames of a scripted core contain calls again; during a frame the loop itself is refused,
so calls nest no deeper (`SessionCall.duringFrame`).
-/

namespace EmuHost

/-- A call of a host to its session. -/
inductive HostCall where
  | input (call : InputCall)
  | configureGraphics (c : GraphicsConfig)
  /-- Configures the graphics as the session's own configuration says. -/
  | configureGraphicsDefault
  | initializeRenderer (backend : Backend) (table : InteropTable)
  | initializeRendererWith (backend : Backend) (table : InteropTable)
  | setSize (width height : Int)
  | setVsync (enabled : Bool)
  | setCallback (callback : Option SwapCallback)
  | requestStop
  | tearDown
  | runLoop
  | phase
  | geometry
  | configurations
  | rendererInfo
  | counters
  | figures
  | config
  | initializeDevice (options : DeviceOptions)
  /-- Creates the device context as the session's own configuration says. -/
  | initializeDeviceDefault
  | deviceState
  | load (path : Path)
  | reloadFiles
  | installFirmware (source : FirmwareSource) (isXci : Bool)
  | firmwareVersion

/-- An answer of the router as an answer of the session. -/
def Answer.ofInput : InputAnswer → Answer
  | .nothing => .nothing
  | .success => .success
  | .flag b => .flag b
  | .number n => .number n
  | .axes v => .axes v
  | .snapshot s => .snapshot s
  | .failed e => .failed (.error e)

namespace World

variable {κ : Type}

/-- Makes a call to the router of a session. -/
def performInput (w : World κ) (call : InputCall) : World κ × Answer :=
  let (router, lines, answer) := w.router.perform call
  ({ w with router }.log lines, .ofInput answer)

/-- The result of an operation in words. -/
def answering {α : Type} (present : α → Answer) (outcome : World κ × Except Failure α) :
    World κ × Answer :=
  match outcome with
  | (w, .ok a) => (w, present a)
  | (w, .error f) => (w, .failed f)

/-- The answer of an operation that can fail but gives nothing back. -/
def succeeding (outcome : World κ × Except Failure Unit) : World κ × Answer :=
  answering (fun _ => .success) outcome

/-- The answer of an operation that gives nothing back. -/
def silent (outcome : World κ × Except Failure Unit) : World κ × Answer :=
  answering (fun _ => .nothing) outcome

/-- A way to run the render loop of a session. -/
abbrev Loop (κ : Type) := World κ → World κ × Except Failure Unit

/-- Performs a call, given how the loop is run. -/
def perform (loop : Loop κ) (w : World κ) : HostCall → World κ × Answer
  | .input call => w.performInput call
  | .configureGraphics c => succeeding (w.configureGraphics c)
  | .configureGraphicsDefault => succeeding (w.configureGraphics w.config.graphics)
  | .initializeRenderer backend table => answering .renderer (w.initializeRenderer backend table)
  | .initializeRendererWith backend table =>
    answering .renderer (w.initializeRendererWith backend table)
  | .setSize width height => succeeding (w.onGraphics (·.setSize width height))
  | .setVsync enabled => silent (w.onGraphics (·.setVsync enabled))
  | .setCallback callback => ({ w with graphics := w.graphics.setCallback callback }, .nothing)
  | .requestStop => silent (w.onGraphics (·.requestStop))
  | .tearDown => succeeding w.tearDown
  | .runLoop => answering (fun _ => .stopped) (loop w)
  | .phase => (w, .phase w.graphics.phase)
  | .geometry => (w, .geometry w.graphics.surface.staged)
  | .configurations => (w, .configurations w.graphics.requested w.graphics.effectiveConfig)
  | .rendererInfo => (w, w.graphics.info.elim .nothing .renderer)
  | .counters => (w, .counters w.graphics.statistics)
  | .figures => (w, .figures w.graphics.statistics)
  | .config => (w, .config w.config)
  | .initializeDevice options => succeeding (w.initializeDevice options)
  | .initializeDeviceDefault => succeeding (w.initializeDevice w.config.device)
  | .deviceState => (w, .device w.device.options w.device.loaded)
  | .load path => answering .application (w.load path)
  | .reloadFiles => succeeding w.reloadFiles
  | .installFirmware source isXci => succeeding (w.installFirmware source isXci)
  | .firmwareVersion => answering (·.elim .nothing .text) w.firmwareVersion

end World

/-- A call in the script of a session: a host call under the name that it is noted by, a change of
the core's script, or a call that is not made because one of its numbers names no value. -/
inductive SessionCall where
  | host (name : String) (call : HostCall)
  | script (change : ScriptChange SessionCall)
  | unknown (name : String) (e : UnknownCode)

namespace SessionCall

/-- The name that a call during a frame is noted by. -/
def name : SessionCall → String
  | .host name _ => name
  | .script _ => "mock"
  | .unknown name _ => name

/-- Performs a call, given how the loop is run. -/
def performWith (loop : World.Loop SessionCall) (w : World SessionCall) :
    SessionCall → World SessionCall × Answer
  | .host _ call => w.perform loop call
  | .script change => ({ w with core := w.core.change change }, .nothing)
  | .unknown _ e => (w, .failed (.unknownCode e))

/-- Calls during a frame. The loop is running then, so it is refused. -/
def duringFrame : Interpreter SessionCall where
  name := name
  perform w call := performWith World.refuseLoop w call

/-- Performs a call between frames. -/
def perform (w : World SessionCall) (call : SessionCall) : World SessionCall × Answer :=
  performWith (World.runLoop duringFrame) w call

end SessionCall

end EmuHost
