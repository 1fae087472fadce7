import EmuHost.Device.Application
import EmuHost.Device.Firmware
import EmuHost.Graphics.Basic
import EmuHost.Input.Router

/-!
# Session journal

Everything that leaves a session, in order: the calls into the core, its renderer and the host's
swap callback (`Event`), and the lines of the log. Calls that the host makes during a frame are
noted with their answers.
-/

namespace EmuHost

/-- The settings that a device context takes over from the renderer. -/
structure DeviceContext where
  backend : Backend
  threaded : Bool
  aspectRatio : AspectRatio
  deriving DecidableEq, Repr

/-- What the core is given for one frame. -/
structure Submission where
  frame : Nat
  geometry : Geometry
  config : GraphicsConfig
  input : Snapshot
  deriving DecidableEq

/-- Everything about a session that a host can look at. -/
structure SessionView where
  snapshot : Snapshot
  inputInitialized : Bool
  config : HostConfig
  geometry : Geometry
  effective : Option GraphicsConfig
  info : Option RendererInfo
  statistics : Statistics Binary64
  options : Option DeviceOptions
  loaded : Option Application
  deriving DecidableEq

/-- What an operation of a session answers. -/
inductive Answer where
  /-- The operation gives nothing back. -/
  | nothing
  /-- The operation could have failed and did not. -/
  | success
  | failed (f : Failure)
  | flag (b : Bool)
  | number (n : Nat)
  | text (s : String)
  /-- The loop ended because a stop was requested. -/
  | stopped
  | phase (p : Phase)
  | geometry (g : Geometry)
  | configurations (accepted effective : Option GraphicsConfig)
  | renderer (info : RendererInfo)
  | counters (s : Statistics Binary64)
  | figures (s : Statistics Binary64)
  | config (c : HostConfig)
  | device (options : Option DeviceOptions) (loaded : Option Application)
  | application (a : Application)
  | snapshot (s : Snapshot)
  | axes (v : Vec2 Binary32)
  | view (v : SessionView)
  deriving DecidableEq

/-- A call out of the session. -/
inductive Event where
  | createRenderer (capabilities : Capabilities) (config : GraphicsConfig)
      (probes : Option (List ProbeAnswer))
  | createDevice (options : DeviceOptions) (context : DeviceContext)
  | disposeDevice
  | reloadFiles
  | load (a : Application)
  | installFirmware (source : FirmwareSource) (isXci : Bool)
  | resize (width height : Nat)
  | vsync (enabled : Bool)
  | submit (s : Submission)
  | present
  | swap (callback : SwapCallback)
  /-- A call of the host during a frame, by name, and its answer. -/
  | answered (call : String) (answer : Answer)
  | rendererDropped
  | coreDropped
  deriving DecidableEq

/-- One entry of the journal. -/
inductive Entry where
  | event (e : Event)
  | log (l : LogLine)
  deriving DecidableEq

/-- The entries from the oldest on. -/
abbrev Journal := List Entry

namespace Journal

/-- The calls out of the session. -/
def events (j : Journal) : List Event :=
  j.filterMap fun | .event e => some e | .log _ => none

/-- The lines that a log at a given level shows. -/
def lines (j : Journal) (limit : Level) : List LogLine :=
  j.filterMap fun
    | .log l => if l.isShownAt limit then some l else none
    | .event _ => none

end Journal

end EmuHost
