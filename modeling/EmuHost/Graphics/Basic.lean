import EmuHost.Core.Script
import EmuHost.Graphics.Surface
import EmuHost.Reply

/-!
# Graphics of a session

The staged bring-up of a session's graphics: accept a configuration, adopt a renderer, run it, tear
it down. Each operation checks the phase that it needs first, so that nothing reaches the core out
of order; an operation that is refused changes nothing.
-/

namespace EmuHost

/-- What a renderer and its configuration settled on. -/
structure RendererInfo where
  backend : Backend
  /-- Whether the renderer's work runs on its own thread. -/
  threaded : Bool
  /-- The renderer's highest anisotropy. -/
  maxAnisotropy : Binary32
  deriving DecidableEq

/-- What a renderer and the configuration that it was created for settle on. -/
def Renderer.info {κ : Type} (renderer : Renderer κ) (c : GraphicsConfig) : RendererInfo where
  backend := renderer.backend
  threaded := c.backendThreading.resolve renderer.prefersThreading
  maxAnisotropy := renderer.anisotropyCeiling

/-- The numeric ranges that a session accepts. Values outside are refused, not clamped. -/
def GraphicsConfig.check (c : GraphicsConfig) : Except ConfigurationError Unit :=
  -- a value that is no number is neither finite nor in order
  if !c.resScale.isFinite || c.resScale.le (.ofInt 0) then .error (.resolutionScale c.resScale)
  else
    let inRange := minAnisotropy.le c.maxAnisotropy && c.maxAnisotropy.le maxAnisotropy
    -- the level that leaves the choice to the renderer is outside the range
    if !c.maxAnisotropy.eq anisotropyAuto && !inRange then .error (.anisotropy c.maxAnisotropy)
    else .ok ()

/-- The graphics state of a session. -/
structure Graphics (κ : Type) where
  phase : Phase := .uninitialized
  /-- The configuration as it was accepted. -/
  requested : Option GraphicsConfig := none
  /-- The configuration under the renderer's limits. -/
  effective : Option GraphicsConfig := none
  /-- The renderer, while no loop runs it. -/
  renderer : Option (Renderer κ) := none
  info : Option RendererInfo := none
  surface : Surface := {}
  /-- The loop is to end before its next frame. -/
  stopRequested : Bool := false
  statistics : Statistics Binary64 := .empty

namespace Graphics

variable {κ : Type}

/-- The refusal of an operation in the present phase. -/
def refusal (g : Graphics κ) (operation : Operation) : SessionError :=
  .outOfOrder operation (.graphics g.phase)

/-- The line that a refusal logs. -/
def refusalLine (g : Graphics κ) (operation : Operation) : LogLine :=
  .warn (operation.name ++ " rejected: " ++ (SequenceState.graphics g.phase).message)

/-- Refuses an operation. -/
def refuse {α : Type} (g : Graphics κ) (operation : Operation) : Reply (Graphics κ) α :=
  .refused g (g.refusal operation) [g.refusalLine operation]

/-- Accepts the session's configuration. -/
def configure (g : Graphics κ) (c : GraphicsConfig) : Reply (Graphics κ) Unit :=
  if g.phase ≠ .uninitialized then g.refuse .graphicsInitialize
  else match c.check with
    | .error e =>
      .refused g (.configuration e) [.warn ("Rejected graphics configuration: " ++ e.message)]
    | .ok () =>
      .done { g with requested := some c, phase := .configured }
        [.info ("Graphics configured (scale " ++ c.resScale.text ++ "x, anisotropy "
          ++ c.maxAnisotropy.text ++ ", " ++ c.backendThreading.name ++ ", "
          ++ c.aspectRatio.name ++ ")")]

/-- The configuration that the core renders with, as far as it is known. -/
def effectiveConfig (g : Graphics κ) : Option GraphicsConfig := g.effective <|> g.requested

/-- A configuration under a renderer's limit. -/
def clamp (c : GraphicsConfig) (ceiling : Binary32) : GraphicsConfig :=
  if ceiling.lt c.maxAnisotropy then { c with maxAnisotropy := ceiling } else c

/-- The line on a configuration that is cut to a renderer's limit, if it is. -/
def clampLines (c : GraphicsConfig) (renderer : Renderer κ) : List LogLine :=
  let ceiling := renderer.anisotropyCeiling
  if ceiling.lt c.maxAnisotropy then
    [.info ("Clamping anisotropy " ++ c.maxAnisotropy.text ++ " to the " ++ renderer.backend.title
      ++ " ceiling " ++ ceiling.text)]
  else []

/-- Takes over a renderer that was created for a configuration. -/
def adopt (g : Graphics κ) (c : GraphicsConfig) (renderer : Renderer κ) :
    Reply (Graphics κ) RendererInfo :=
  let info := renderer.info c
  { state :=
      { g with
        phase := .rendererReady
        effective := some (clamp c renderer.anisotropyCeiling)
        renderer := some renderer
        info := some info
        -- a new renderer was told nothing, and an old request to stop is not meant for it
        surface := g.surface.invalidate
        stopRequested := false }
    result := .ok info
    log := clampLines c renderer ++
      [.info (renderer.backend.title ++ " renderer initialized (threaded backend: "
        ++ toString info.threaded ++ ")")] }

/-- Stages a new size for the next frame. -/
def setSize (g : Graphics κ) (width height : Int) : Reply (Graphics κ) Unit :=
  if g.phase ≠ .rendererReady ∧ g.phase ≠ .running then g.refuse .setSize
  -- the phase is looked at before the size
  else if 0 < width ∧ 0 < height then
    let (w, h) := (width.toNat, height.toNat)
    .done { g with surface := g.surface.setSize w h }
      (if g.surface.isNewSize w h then [.debug s!"Surface resized to {w}x{h}"] else [])
  else .refused g (.configuration (.size width height))

/-- Stages a change of the present mode. -/
def setVsync (g : Graphics κ) (enabled : Bool) : Reply (Graphics κ) Unit :=
  .done { g with surface := g.surface.setVsync enabled }
    [.debug ("VSync " ++ if enabled then "enabled" else "disabled")]

/-- Installs the swap callback, or removes it. -/
def setCallback (g : Graphics κ) (callback : Option SwapCallback) : Graphics κ :=
  { g with surface := g.surface.setCallback callback }

/-- Asks the loop to end after the frame in flight. -/
def requestStop (g : Graphics κ) : Reply (Graphics κ) Unit :=
  .done { g with stopRequested := true } [.debug "Render loop stop requested"]

/-- Forgets configuration, renderer and geometry. Callback and statistics stay. -/
def tearDown (g : Graphics κ) : Reply (Graphics κ) Unit :=
  if g.phase = .running then g.refuse .teardown
  else
    .done { surface := g.surface.reset, statistics := g.statistics }
      [.info "Graphics torn down"]

end Graphics

end EmuHost
