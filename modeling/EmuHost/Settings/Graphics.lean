import EmuHost.Binary.Arithmetic
import EmuHost.Settings.Code

/-!
# Graphics settings

What a host asks of the renderer. A `GraphicsConfig` holds known enumerated values; as the host
sends it those two fields are numbers (`RawGraphicsConfig`). Numeric ranges are checked when a
session accepts the configuration (`GraphicsConfig.check`).
-/

namespace EmuHost

/-- How the renderer's work is scheduled: on its own thread, not, or as the renderer prefers. -/
inductive BackendThreading where
  | auto
  | off
  | on
  deriving DecidableEq, Repr

namespace BackendThreading

/-- In the order of their numbers. -/
def all : List BackendThreading := [.auto, .off, .on]

def name : BackendThreading → String
  | .auto => "Auto"
  | .off => "Off"
  | .on => "On"

def code (t : BackendThreading) : Nat := all.idxOf t

def ofCode (n : Int) : Except UnknownCode BackendThreading := lookUpCode "BackendThreading" all n

/-- Whether work runs on its own thread for a renderer with the given preference. -/
def resolve (t : BackendThreading) (prefersThreading : Bool) : Bool :=
  match t with
  | .on => true
  | .off => false
  | .auto => prefersThreading

end BackendThreading

/-- The shape of the output picture. -/
inductive AspectRatio where
  | fixed4x3
  | fixed16x9
  | fixed16x10
  | fixed21x9
  | fixed32x9
  | stretched
  deriving DecidableEq, Repr

namespace AspectRatio

/-- In the order of their numbers. -/
def all : List AspectRatio :=
  [.fixed4x3, .fixed16x9, .fixed16x10, .fixed21x9, .fixed32x9, .stretched]

def name : AspectRatio → String
  | .fixed4x3 => "Fixed4x3"
  | .fixed16x9 => "Fixed16x9"
  | .fixed16x10 => "Fixed16x10"
  | .fixed21x9 => "Fixed21x9"
  | .fixed32x9 => "Fixed32x9"
  | .stretched => "Stretched"

def code (a : AspectRatio) : Nat := all.idxOf a

def ofCode (n : Int) : Except UnknownCode AspectRatio := lookUpCode "AspectRatio" all n

/-- Width over height. A stretched picture fills the surface, but touches on it are still mapped as
on the panel itself, which is 16 by 9. -/
def ratio : AspectRatio → Rat
  | .fixed4x3 => 4 / 3
  | .fixed16x9 => 16 / 9
  | .fixed16x10 => 16 / 10
  | .fixed21x9 => 21 / 9
  | .fixed32x9 => 32 / 9
  | .stretched => 16 / 9

/-- The ratio as the touch mapping uses it. -/
def value (a : AspectRatio) : Binary32 := .ofRat a.ratio

end AspectRatio

/-- The graphics interface that a renderer is built on. -/
inductive Backend where
  | vulkan
  | openGl
  deriving DecidableEq, Repr

namespace Backend

/-- In the order of their numbers. -/
def all : List Backend := [.vulkan, .openGl]

/-- The name of the value. -/
def name : Backend → String
  | .vulkan => "Vulkan"
  | .openGl => "OpenGl"

/-- The name of the interface, as messages spell it. -/
def title : Backend → String
  | .vulkan => "Vulkan"
  | .openGl => "OpenGL"

def ofCode (n : Int) : Except UnknownCode Backend := lookUpCode "GraphicsBackend" all n

end Backend

/-- The anisotropy that leaves the choice to the core. -/
def anisotropyAuto : Binary32 := .ofInt (-1)

/-- The lowest explicit anisotropy. -/
def minAnisotropy : Binary32 := .ofInt 1

/-- The highest anisotropy that a host may ask for. -/
def maxAnisotropy : Binary32 := .ofInt 16

/-- The settings that are sent as they are. -/
structure GraphicsTuning where
  resScale : Binary32 := .ofInt 1
  maxAnisotropy : Binary32 := anisotropyAuto
  fastGpuTime : Bool := true
  fast2dCopy : Bool := true
  enableMacroJit : Bool := false
  enableMacroHle : Bool := true
  enableShaderCache : Bool := false
  enableTextureRecompression : Bool := false
  deriving DecidableEq

/-- The graphics configuration of a session. -/
structure GraphicsConfig extends GraphicsTuning where
  backendThreading : BackendThreading := .auto
  aspectRatio : AspectRatio := .fixed16x9
  deriving DecidableEq

/-- A graphics configuration as the host sends it. -/
structure RawGraphicsConfig extends GraphicsTuning where
  backendThreading : Int := BackendThreading.auto.code
  aspectRatio : Int := AspectRatio.fixed16x9.code
  deriving DecidableEq

namespace RawGraphicsConfig

/-- Looks up both enumerated fields, the threading first. -/
def decode (raw : RawGraphicsConfig) : Except UnknownCode GraphicsConfig := do
  let threading ← BackendThreading.ofCode raw.backendThreading
  let aspect ← AspectRatio.ofCode raw.aspectRatio
  return { raw.toGraphicsTuning with backendThreading := threading, aspectRatio := aspect }

end RawGraphicsConfig

/-- The configuration as a host sends it. -/
def GraphicsConfig.encode (c : GraphicsConfig) : RawGraphicsConfig :=
  { c.toGraphicsTuning with
    backendThreading := c.backendThreading.code
    aspectRatio := c.aspectRatio.code }

end EmuHost
