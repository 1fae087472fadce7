import EmuHost.Graphics.Interop
import EmuHost.Graphics.Statistics

/-!
# Scripted cores

The emulation core is not part of the host, so a session is run against a script of it: how each of
its calls ends, and what its renderer does frame by frame. Each call may crash, those that have no
other way to fail among them. While the core works on a frame the host may call the session again;
those calls, of a type `κ`, are part of the script too.
-/

namespace EmuHost

/-- How a call of the core ends. -/
inductive CoreReply where
  | success
  | failure (chain : CauseChain)
  | crash (c : Crash)
  deriving DecidableEq, Repr

/-- How a step of a frame fails: this frame only, the whole backend, or by a crash. -/
inductive FrameFault where
  | recoverable (reason : String)
  | lost (reason : String)
  | crash (c : Crash)
  deriving DecidableEq, Repr

/-- How the submission of a frame ends: with an image to present, without one, or not at all. -/
inductive Submitted where
  | presentable
  | idle
  | fault (f : FrameFault)
  deriving DecidableEq, Repr

/-- One frame of a renderer's script: the host's calls during the submission, the presentation and
the swap callback, how each of the three ends, and how long the frame takes. Before the submission
the renderer may have to take up a new size or another present mode. -/
structure Frame (κ : Type) where
  resizeCalls : List κ := []
  resizeCrash : Option Crash := none
  vsyncCalls : List κ := []
  vsyncCrash : Option Crash := none
  calls : List κ := []
  submitted : Submitted := .presentable
  presentCalls : List κ := []
  presentFault : Option FrameFault := none
  swapCalls : List κ := []
  swapCrash : Option Crash := none
  timing : FrameTiming := {}

/-- The frame of a renderer whose script has ended. -/
def Frame.exhausted {κ : Type} : Frame κ := { submitted := .fault (.lost "script exhausted") }

/-- The renderer that a core created: what it says of itself when it is asked, unless it crashes over
the question, and its frames. -/
structure Renderer (κ : Type) where
  backend : Backend
  prefersThreading : Bool
  anisotropyCeiling : Binary32
  frames : List (Frame κ)
  ceilingCrash : Option Crash := none
  threadingCrash : Option Crash := none
  /-- The backend is asked for when the loop starts, for the line of the log on it. -/
  backendCrash : Option Crash := none

/-- The script of a core. -/
structure CoreScript (κ : Type) where
  rendererReply : CoreReply := .success
  deviceReply : CoreReply := .success
  reloadReply : CoreReply := .success
  loadReply : CoreReply := .success
  firmwareReply : CoreReply := .success
  prefersThreading : Bool := false
  anisotropyCeiling : Binary32 := maxAnisotropy
  /-- The renderer leaves its preference and its ceiling at the defaults. -/
  plainRenderer : Bool := false
  ceilingCrash : Option Crash := none
  threadingCrash : Option Crash := none
  backendCrash : Option Crash := none
  disposalCrash : Option Crash := none
  firmware : Option String := none
  /-- The core crashes when it is asked for the version. -/
  versionCrash : Option Crash := none
  /-- The version that an installation leaves. -/
  installs : String := "17.0.0"
  probes : List Probe := []
  frames : List (Frame κ) := []

/-- New values for some parts of a script. -/
structure ScriptChange (κ : Type) where
  rendererReply : Option CoreReply := none
  deviceReply : Option CoreReply := none
  reloadReply : Option CoreReply := none
  loadReply : Option CoreReply := none
  firmwareReply : Option CoreReply := none
  prefersThreading : Option Bool := none
  anisotropyCeiling : Option Binary32 := none
  plainRenderer : Option Bool := none
  ceilingCrash : Option (Option Crash) := none
  threadingCrash : Option (Option Crash) := none
  backendCrash : Option (Option Crash) := none
  disposalCrash : Option (Option Crash) := none
  firmware : Option (Option String) := none
  versionCrash : Option (Option Crash) := none
  installs : Option String := none
  probes : Option (List Probe) := none
  frames : Option (List (Frame κ)) := none

namespace CoreScript

variable {κ : Type}

/-- The script with the changed parts replaced. -/
def change (s : CoreScript κ) (c : ScriptChange κ) : CoreScript κ where
  rendererReply := c.rendererReply.getD s.rendererReply
  deviceReply := c.deviceReply.getD s.deviceReply
  reloadReply := c.reloadReply.getD s.reloadReply
  loadReply := c.loadReply.getD s.loadReply
  firmwareReply := c.firmwareReply.getD s.firmwareReply
  prefersThreading := c.prefersThreading.getD s.prefersThreading
  anisotropyCeiling := c.anisotropyCeiling.getD s.anisotropyCeiling
  plainRenderer := c.plainRenderer.getD s.plainRenderer
  ceilingCrash := c.ceilingCrash.getD s.ceilingCrash
  threadingCrash := c.threadingCrash.getD s.threadingCrash
  backendCrash := c.backendCrash.getD s.backendCrash
  disposalCrash := c.disposalCrash.getD s.disposalCrash
  firmware := c.firmware.getD s.firmware
  versionCrash := c.versionCrash.getD s.versionCrash
  installs := c.installs.getD s.installs
  probes := c.probes.getD s.probes
  frames := c.frames.getD s.frames

/-- The renderer that the core creates for a backend now. Defaults do not crash. -/
def renderer (s : CoreScript κ) (backend : Backend) : Renderer κ where
  backend := backend
  prefersThreading := !s.plainRenderer && s.prefersThreading
  anisotropyCeiling := if s.plainRenderer then maxAnisotropy else s.anisotropyCeiling
  frames := s.frames
  ceilingCrash := if s.plainRenderer then none else s.ceilingCrash
  threadingCrash := if s.plainRenderer then none else s.threadingCrash
  backendCrash := s.backendCrash

/-- What the core learns through the host's procedures while it creates a renderer, if it asks at
all. -/
def probeAnswers (s : CoreScript κ) (backend : Backend) : Option (List ProbeAnswer) :=
  if s.probes.isEmpty then none else some (s.probes.filterMap (Probe.answer? backend))

end CoreScript

end EmuHost
