/-!
# Render surface

The geometry that the host stages and the renderer receives. The host changes the staged geometry
at any time; at the start of each frame it is compared with what the renderer was last told, and the
differences are pushed. A size with a zero in it is never pushed.
-/

namespace EmuHost

/-- The host's function that runs after each presented frame, by name. -/
abbrev SwapCallback := String

/-- The geometry that a frame is rendered with. -/
structure Geometry where
  width : Nat := 0
  height : Nat := 0
  vsync : Bool := true
  deriving DecidableEq, Repr

/-- Whether there is anything to draw on. -/
def Geometry.hasArea (g : Geometry) : Bool := g.width != 0 && g.height != 0

/-- Whether two geometries have the same size. -/
def Geometry.sameSize (g h : Geometry) : Bool := g.width == h.width && g.height == h.height

/-- What a frame starts with: its geometry, what of it the renderer has to be told, and the callback
to run after it. -/
structure FrameStart where
  geometry : Geometry
  resized : Bool
  vsyncChanged : Bool
  callback : Option SwapCallback
  deriving DecidableEq, Repr

/-- The staged geometry, what the current renderer was told, and the installed callback. -/
structure Surface where
  staged : Geometry := {}
  applied : Option Geometry := none
  callback : Option SwapCallback := none
  deriving DecidableEq, Repr

namespace Surface

/-- Stages a size. -/
def setSize (s : Surface) (width height : Nat) : Surface :=
  { s with staged := { s.staged with width, height } }

/-- Whether a size differs from the staged one. -/
def isNewSize (s : Surface) (width height : Nat) : Bool :=
  !(s.staged.width == width && s.staged.height == height)

def setVsync (s : Surface) (enabled : Bool) : Surface :=
  { s with staged := { s.staged with vsync := enabled } }

/-- Installs a callback, or removes the installed one. -/
def setCallback (s : Surface) (callback : Option SwapCallback) : Surface := { s with callback }

/-- There is a new renderer, which was told nothing yet. -/
def invalidate (s : Surface) : Surface := { s with applied := none }

/-- Forgets the geometry. The callback stays installed. -/
def reset (s : Surface) : Surface := { callback := s.callback }

/-- Whether the staged size has to be pushed. -/
def needsResize (s : Surface) : Bool :=
  -- a size without area waits until there is one
  s.staged.hasArea && s.applied.all fun a => !a.sameSize s.staged

/-- Whether the staged vsync has to be pushed. -/
def needsVsync (s : Surface) : Bool := s.applied.all fun a => a.vsync != s.staged.vsync

/-- The geometry of the frame about to start: the staged one, but the size that was applied before
where the staged size is not pushed. -/
def frameGeometry (s : Surface) : Geometry :=
  -- before the first frame the staged size stands in, even one without area
  let size := if s.needsResize then s.staged else s.applied.getD s.staged
  { size with vsync := s.staged.vsync }

/-- Starts a frame. -/
def beginFrame (s : Surface) : Surface × FrameStart :=
  -- the geometry of the frame counts as applied from its start on
  ({ s with applied := some s.frameGeometry },
    { geometry := s.frameGeometry
      resized := s.needsResize
      vsyncChanged := s.needsVsync
      callback := s.callback })

end Surface

end EmuHost
