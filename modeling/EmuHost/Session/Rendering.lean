import EmuHost.Session.World

/-!
# Rendering

The operations of a session's graphics that reach the core: configuration, creation of the renderer,
teardown, and the render loop. The loop runs frames until a stop was requested, the backend is lost,
or something crashes; the stop is looked for between frames only, so a frame in flight always runs
to its own end. The callback that a frame runs is the one installed when the frame starts, and the
input it sees is what was published last.
-/

namespace EmuHost

/-- How calls of the host are performed, and under which name they are noted. -/
structure Interpreter (κ : Type) where
  name : κ → String
  perform : World κ → κ → World κ × Answer

/-- Something that a renderer is told before a submission: the call of it, the host's calls during
it, and whether it crashes. -/
structure Push (κ : Type) where
  event : Event
  calls : List κ
  crash : Option Crash

/-- What the renderer is told as a frame starts: the new size first, and then the new present
mode. -/
def Frame.pushes {κ : Type} (frame : Frame κ) (start : FrameStart) : List (Push κ) :=
  let size := start.geometry
  (if start.resized then [⟨.resize size.width size.height, frame.resizeCalls, frame.resizeCrash⟩]
    else []) ++
  (if start.vsyncChanged then [⟨.vsync size.vsync, frame.vsyncCalls, frame.vsyncCrash⟩] else [])

/-- How a frame ends. -/
inductive FrameEnd where
  | finished
  | fault (f : FrameFault)
  deriving DecidableEq, Repr

/-- How a loop ends. -/
inductive LoopEnd where
  | stopped
  | lost (reason : String)
  | crashed (c : Crash)
  deriving DecidableEq, Repr

/-- The end of a loop as the result of running it. -/
def LoopEnd.result : LoopEnd → Except Failure Unit
  | .stopped => .ok ()
  | .lost reason => .error (.error (.backendLost reason))
  | .crashed c => .error (.crash c)

namespace World

variable {κ : Type}

/-- Accepts the graphics configuration, and maps touches at its aspect ratio from then on. -/
def configureGraphics (w : World κ) (c : GraphicsConfig) : World κ × Except Failure Unit :=
  match w.onGraphics (·.configure c) with
  | (w, .ok ()) => ({ w with router := w.router.setAspectRatio c.aspectRatio }, .ok ())
  -- the router keeps its ratio
  | refused => refused

/-- Takes over the renderer that the core has created for a configuration. The renderer is asked for
its ceiling first and for its preference then; if it crashes over either, it is dropped before the
session has kept anything of it. -/
def takeOver (w : World κ) (c : GraphicsConfig) (renderer : Renderer κ) :
    World κ × Except Failure RendererInfo :=
  match renderer.ceilingCrash, renderer.threadingCrash with
  | some crash, _ => (w.record .rendererDropped, .error (.crash crash))
  | none, some crash =>
    -- the log tells of the cut to the ceiling by then
    ((w.log (Graphics.clampLines c renderer)).record .rendererDropped, .error (.crash crash))
  | none, none => w.onGraphics (·.adopt c renderer)

/-- Has the core create a renderer with validated capabilities. -/
def createRenderer (w : World κ) (capabilities : Capabilities) :
    World κ × Except Failure RendererInfo :=
  match w.graphics.phase, w.graphics.requested with
  | .configured, some c =>
    let backend := capabilities.backend
    -- the core is asked with what the host has requested, not with what will be effective
    let w := w.record (.createRenderer capabilities c (w.core.probeAnswers backend))
    match w.core.rendererReply with
    | .crash crash => (w, .error (.crash crash))
    | .failure chain =>
      (w.log [.error (backend.title ++ " context creation failed: " ++ CauseChain.message chain)],
        .error (.error (.contextCreation chain)))
    | .success => w.takeOver c (w.core.renderer backend)
  | _, _ => w.onGraphics (·.refuse .initializeRenderer)

/-- Checks the host's procedures for a backend and has the core create a renderer. -/
def initializeRenderer (w : World κ) (backend : Backend) (table : InteropTable) :
    World κ × Except Failure RendererInfo :=
  if w.graphics.phase ≠ .configured then w.onGraphics (·.refuse .initializeRenderer)
  else match Capabilities.ofInterop backend table with
    | (lines, .error e) =>
      (w.log (lines ++ [.warn ("Renderer initialization failed: " ++ e.message)]),
        .error (.error e))
    | (lines, .ok capabilities) => (w.log lines).createRenderer capabilities

/-- Has the core create a renderer with capabilities that the host has checked itself. -/
def initializeRendererWith (w : World κ) (backend : Backend) (table : InteropTable) :
    World κ × Except Failure RendererInfo :=
  match Capabilities.ofInterop backend table with
  | (lines, .error e) => (w.log lines, .error (.error e))
  | (lines, .ok capabilities) => (w.log lines).createRenderer capabilities

/-- Tears the graphics down. A renderer that no loop runs is dropped. -/
def tearDown (w : World κ) : World κ × Except Failure Unit :=
  let dropsRenderer := w.graphics.renderer.isSome && w.graphics.phase != .running
  (if dropsRenderer then w.record .rendererDropped else w).onGraphics (·.tearDown)

/-- Has the host make a call during a frame. -/
def callDuringFrame (i : Interpreter κ) (w : World κ) (call : κ) : World κ :=
  let (w, answer) := i.perform w call
  w.record (.answered (i.name call) answer)

/-- Has the host make calls during a frame. -/
def callsDuringFrame (i : Interpreter κ) (w : World κ) (calls : List κ) : World κ :=
  calls.foldl (callDuringFrame i) w

/-- Tells the renderer one thing after the other. The host may make calls over each; once the
renderer crashes over one, the rest stays untold. -/
def tell (i : Interpreter κ) (w : World κ) : List (Push κ) → World κ × Option Crash
  | [] => (w, none)
  | push :: pushes =>
    let w := (w.record push.event).callsDuringFrame i push.calls
    match push.crash with
    | some c => (w, some c)
    | none => w.tell i pushes

/-- Counts a finished frame. -/
def countFrame (w : World κ) (timing : FrameTiming) (wasPresented : Bool) : World κ :=
  { w with graphics.statistics := w.graphics.statistics.recordFrame timing wasPresented }

/-- Counts a frame that was given up. -/
def countError (w : World κ) : World κ :=
  { w with graphics.statistics := w.graphics.statistics.recordError }

/-- Runs the callback that the frame started with, and counts the frame. -/
def swapFrame (i : Interpreter κ) (w : World κ) (callback : Option SwapCallback)
    (frame : Frame κ) : World κ × FrameEnd :=
  match callback with
  | none => (w.countFrame frame.timing true, .finished)
  | some id =>
    -- a frame whose callback crashes is not counted
    let w := (w.record (.swap id)).callsDuringFrame i frame.swapCalls
    match frame.swapCrash with
    | some c => (w, .fault (.crash c))
    | none => (w.countFrame frame.timing true, .finished)

/-- Presents a frame that has an image, and goes on to the callback. -/
def presentFrame (i : Interpreter κ) (w : World κ) (callback : Option SwapCallback)
    (frame : Frame κ) : World κ × FrameEnd :=
  let w := (w.record .present).callsDuringFrame i frame.presentCalls
  match frame.presentFault with
  | some f => (w, .fault f)
  | none => w.swapFrame i callback frame

/-- Submits a frame with the input that is published now, and goes on with what comes of it. -/
def submitFrame (i : Interpreter κ) (w : World κ) (config : GraphicsConfig) (index : Nat)
    (start : FrameStart) (frame : Frame κ) : World κ × FrameEnd :=
  let submission : Submission := ⟨index, start.geometry, config, w.router.published⟩
  -- the host may publish more input from now on, but the frame keeps what it was given
  let w := (w.record (.submit submission)).callsDuringFrame i frame.calls
  match frame.submitted with
  | .fault f => (w, .fault f)
  | .idle => (w.countFrame frame.timing false, .finished)
  | .presentable => w.presentFrame i start.callback frame

/-- Runs one frame: the renderer is told what has changed of the geometry, and then the frame is
submitted. -/
def runFrame (i : Interpreter κ) (w : World κ) (config : GraphicsConfig) (index : Nat)
    (frame : Frame κ) : World κ × FrameEnd :=
  -- what the frame starts with is settled here, the callback included
  let (surface, start) := w.graphics.surface.beginFrame
  match { w with graphics.surface := surface }.tell i (frame.pushes start) with
  | (w, some c) => (w, .fault (.crash c))
  | (w, none) => w.submitFrame i config index start frame

/-- What the end of a frame means for the loop: nothing, or its end. -/
def afterFrame (w : World κ) (index : Nat) : FrameEnd → World κ × Option LoopEnd
  | .finished => (w, none)
  | .fault (.recoverable reason) =>
    (w.countError.log [.warn (s!"Frame {index} failed, retrying next frame: " ++ reason)], none)
  | .fault (.lost reason) =>
    (w.log [.error (s!"Graphics backend lost at frame {index}: " ++ reason)],
      some (.lost reason))
  | .fault (.crash c) => (w, some (.crashed c))

/-- Takes up a requested stop before frame `index`. -/
def takeStop (w : World κ) (index : Nat) : World κ :=
  { w with graphics.stopRequested := false }.log
    [.info s!"Render loop stopped after {index} frames"]

/-- Runs the frames of a renderer from frame `index` on. When its script has ended, the backend is
lost. -/
def runFrames (i : Interpreter κ) (config : GraphicsConfig) :
    (index : Nat) → List (Frame κ) → World κ → World κ × LoopEnd
  | index, [], w =>
    if w.graphics.stopRequested then (w.takeStop index, .stopped)
    else
      -- a frame beyond the script loses the backend, so there is no frame after it
      let (w, frameEnd) := w.runFrame i config index .exhausted
      let (w, loopEnd) := w.afterFrame index frameEnd
      (w, loopEnd.getD .stopped)
  | index, frame :: frames, w =>
    if w.graphics.stopRequested then (w.takeStop index, .stopped)
    else
      let (w, frameEnd) := w.runFrame i config index frame
      match w.afterFrame index frameEnd with
      | (w, some loopEnd) => (w, loopEnd)
      | (w, none) => runFrames i config (index + 1) frames w

/-- Enters the loop: the renderer is taken out and the statistics start anew. The renderer names its
backend for the log, which has no line of the start if it crashes over that. -/
def enterLoop (w : World κ) (renderer : Renderer κ) : World κ :=
  let unswapped : List LogLine :=
    if w.graphics.surface.callback.isNone then
      [.warn "Render loop started without a swap-buffers callback"]
    else []
  let started : List LogLine :=
    if renderer.backendCrash.isNone then [.info (renderer.backend.title ++ " render loop started")]
    else []
  { w with
    graphics.phase := .running
    graphics.renderer := none
    graphics.statistics := .empty }.log (unswapped ++ started)

/-- Has a renderer run its frames, unless it crashes before the first. -/
def runRenderer (i : Interpreter κ) (config : GraphicsConfig) (renderer : Renderer κ)
    (w : World κ) : World κ × LoopEnd :=
  match renderer.backendCrash with
  | some c => (w, .crashed c)
  | none => runFrames i config 0 renderer.frames w

/-- Leaves the loop: the renderer is dropped. -/
def leaveLoop (w : World κ) : World κ :=
  { w with graphics.phase := .stopped }.record .rendererDropped

/-- Refuses to run the loop. -/
def refuseLoop (w : World κ) : World κ × Except Failure Unit :=
  w.onGraphics (·.refuse .runLoop)

/-- Runs the loop of the renderer to its end. -/
def runLoop (i : Interpreter κ) (w : World κ) : World κ × Except Failure Unit :=
  match w.graphics.phase, w.graphics.renderer, w.graphics.effective with
  | .rendererReady, some renderer, some config =>
    let (w, loopEnd) := runRenderer i config renderer (w.enterLoop renderer)
    (w.leaveLoop, loopEnd.result)
  -- in the right phase there is a renderer, so the phase is what is wrong
  | _, _, _ => w.refuseLoop

end World

end EmuHost
