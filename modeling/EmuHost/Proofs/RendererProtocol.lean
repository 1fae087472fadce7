import EmuHost.Proofs.NestedCalls

/-!
# The protocol between a render loop and its renderer

What a renderer and the host's callback see of a loop: frames, each a resize and a change of vsync
if they are due, one submission unless the renderer crashes over these, a presentation if there is
an image, and the callback if the presentation went well. Calls of the host in the middle of a
frame, a nested loop among them, add nothing to this and take nothing away.

## Key results

- `FrameRun.finish_renderCalls`: what one frame calls
- `LoopRun.renderCalls`: a loop calls what its frames call, in their order
- `SessionCall.runLoop_protocol`: the protocol of the whole loop
-/

namespace EmuHost

variable {κ : Type}

/-! ## What one frame calls -/

/-- The calls that follow a presentation: the callback that the frame started with, unless the
presentation failed. -/
def Frame.afterPresent (frame : Frame κ) (callback : Option SwapCallback) : List Event :=
  match frame.presentFault with
  | none => callback.toList.map .swap
  | some _ => []

/-- The calls that follow a submission: only an image is presented. -/
def Frame.afterSubmit (frame : Frame κ) (callback : Option SwapCallback) : List Event :=
  match frame.submitted with
  | .presentable => .present :: frame.afterPresent callback
  | .idle | .fault _ => []

/-- What a renderer is told of a list of pushes: no more once it crashes. -/
def Push.told : List (Push κ) → List Event
  | [] => []
  | push :: pushes => push.event :: if push.crash = none then told pushes else []

/-- The calls of a frame to the renderer and to the callback. -/
def FrameRun.calls (r : FrameRun κ) (i : Interpreter κ) (config : GraphicsConfig) : List Event :=
  Push.told r.pushes ++
    if r.pushCrash? = none then
      .submit (r.submission i config) :: r.frame.afterSubmit r.opening.callback
    else []

namespace World

variable {i : Interpreter κ} {w : World κ}

/-- Calls of the host during a frame tell the renderer nothing. -/
theorem callsDuringFrame_renderCalls (discreet : i.Discreet) (running : w.graphics.phase = .running)
    (calls : List κ) : (w.callsDuringFrame i calls).renderCalls = w.renderCalls := by
  induction calls generalizing w with
  | nil => rfl
  | cons call calls ih =>
    have still := discreet.running_invariant.callDuringFrame w call running
    calc (w.callsDuringFrame i (call :: calls)).renderCalls
        = (w.callDuringFrame i call).renderCalls := ih still
      _ = (i.perform w call).1.renderCalls := by
          rw [callDuringFrame, renderCalls_record]
          exact List.append_nil _
      _ = w.renderCalls := (discreet w call running).renderCalls

/-- The renderer is told of the geometry, whatever the host calls over it. -/
theorem tell_renderCalls (discreet : i.Discreet) (running : w.graphics.phase = .running)
    {pushes : List (Push κ)} (geometry : ∀ push ∈ pushes, push.event.isPush = true) :
    (w.tell i pushes).1.renderCalls = w.renderCalls ++ Push.told pushes := by
  -- on what the renderer is told: it is told the rest unless it crashes over the first
  induction pushes generalizing w with
  | nil => exact (List.append_nil _).symm
  | cons push pushes ih =>
    obtain ⟨first, rest⟩ := List.forall_mem_cons.mp geometry
    have told : (w.record push.event).graphics.phase = .running := running
    have called : ((w.record push.event).callsDuringFrame i push.calls).renderCalls =
        w.renderCalls ++ [push.event] := by
      rw [callsDuringFrame_renderCalls discreet told, renderCalls_record,
        Event.isRenderCall_of_isPush first]
      rfl
    rw [tell, Push.told]
    cases push.crash with
    | some c => exact called
    | none =>
      have still := discreet.running_invariant.callsDuringFrame push.calls told
      exact (ih still rest).trans (by rw [called, List.append_assoc]; rfl)

/-- The callback is called if there is one, and whether it returns or not. -/
theorem swapFrame_renderCalls (discreet : i.Discreet) (running : w.graphics.phase = .running)
    (callback : Option SwapCallback) (frame : Frame κ) :
    (w.swapFrame i callback frame).1.renderCalls =
      w.renderCalls ++ callback.toList.map .swap := by
  cases callback with
  | none => exact (List.append_nil _).symm
  | some id =>
    have called : ((w.record (.swap id)).callsDuringFrame i frame.swapCalls).renderCalls =
        w.renderCalls ++ [.swap id] := by
      rw [callsDuringFrame_renderCalls discreet (w := w.record (.swap id)) running,
        renderCalls_record]
      rfl
    simp only [swapFrame]
    cases frame.swapCrash <;> exact called

/-- Presenting calls the renderer, and the callback if the image was presented. -/
theorem presentFrame_renderCalls (discreet : i.Discreet) (running : w.graphics.phase = .running)
    (callback : Option SwapCallback) (frame : Frame κ) :
    (w.presentFrame i callback frame).1.renderCalls =
      w.renderCalls ++ .present :: frame.afterPresent callback := by
  have called : ((w.record .present).callsDuringFrame i frame.presentCalls).renderCalls =
      w.renderCalls ++ [.present] := by
    rw [callsDuringFrame_renderCalls discreet (w := w.record .present) running, renderCalls_record]
    rfl
  simp only [presentFrame, Frame.afterPresent]
  cases frame.presentFault with
  | some f => exact called
  | none =>
    -- the calls during the presentation leave the loop running
    have still := discreet.running_invariant.callsDuringFrame frame.presentCalls
      (w := w.record .present) running
    rw [swapFrame_renderCalls discreet still, called, List.append_assoc]
    rfl

/-- Behind the frame there are only lines to log. -/
theorem afterFrame_renderCalls (w : World κ) (index : Nat) (frameEnd : FrameEnd) :
    (w.afterFrame index frameEnd).1.renderCalls = w.renderCalls := by
  obtain _ | _ | _ | _ := frameEnd
  · rfl
  · exact w.countError.renderCalls_log _
  · exact w.renderCalls_log _
  · rfl

end World

/-- From the submission on: an image is presented, and goes on to the callback. -/
theorem World.submitFrame_renderCalls {i : Interpreter κ} (discreet : i.Discreet) {w : World κ}
    (running : w.graphics.phase = .running) (config : GraphicsConfig) (index : Nat)
    (start : FrameStart) (frame : Frame κ) :
    (w.submitFrame i config index start frame).1.renderCalls =
      w.renderCalls ++ .submit ⟨index, start.geometry, config, w.router.published⟩ ::
        frame.afterSubmit start.callback := by
  let submission : Submission := ⟨index, start.geometry, config, w.router.published⟩
  have submitted : (w.record (.submit submission)).graphics.phase = .running := running
  have called : ((w.record (.submit submission)).callsDuringFrame i frame.calls).renderCalls =
      w.renderCalls ++ [.submit submission] := by
    rw [callsDuringFrame_renderCalls discreet submitted, renderCalls_record]
    rfl
  rw [List.append_cons, ← called]
  -- what remains is what the frame does with its image
  simp only [submitFrame, Frame.afterSubmit]
  cases frame.submitted with
  | fault f => exact (List.append_nil _).symm
  | idle => exact (List.append_nil _).symm
  | presentable =>
    have still := discreet.running_invariant.callsDuringFrame frame.calls submitted
    exact presentFrame_renderCalls discreet still start.callback frame

/-- Whatever the host calls during a frame, and whatever it is answered, the frame itself makes
these calls in this order. -/
theorem FrameRun.finish_renderCalls {i : Interpreter κ} (discreet : i.Discreet) (r : FrameRun κ)
    (config : GraphicsConfig) (running : r.start.graphics.phase = .running) :
    (r.finish i config).1.renderCalls = r.start.renderCalls ++ r.calls i config := by
  have begun : r.begun.graphics.phase = .running := running
  have told : (r.told i).renderCalls = r.start.renderCalls ++ Push.told r.pushes :=
    World.tell_renderCalls discreet begun r.isPush_of_mem_pushes
  have still := discreet.running_invariant.frame.told r running
  rw [finish, World.afterFrame_renderCalls, runFrame_eq, calls]
  cases r.pushCrash? with
  | some c => exact told.trans (by simp)
  | none =>
    rw [if_pos rfl, ← List.append_assoc, ← told]
    exact World.submitFrame_renderCalls discreet still config r.index r.opening r.frame

/-- A loop calls the renderer frame by frame. -/
theorem LoopRun.renderCalls {i : Interpreter κ} (discreet : i.Discreet) {config : GraphicsConfig}
    {index : Nat} {frames : List (Frame κ)} {w v : World κ} {runs : List (FrameRun κ)}
    {loopEnd : LoopEnd} (loop : LoopRun i config index frames w runs v loopEnd)
    (running : w.graphics.phase = .running) :
    v.renderCalls = w.renderCalls ++ runs.flatMap (·.calls i config) := by
  -- on the run, each frame adding its calls behind those before it
  induction loop with
  | stop => rw [World.takeStop, World.renderCalls_log]; exact (List.append_nil _).symm
  | @last index frames w _ _ going ends =>
    have finished := FrameRun.finish_renderCalls discreet ⟨index, frames.headD .exhausted, w⟩
      config running
    rw [ends] at finished
    rw [List.flatMap_singleton]
    exact finished
  | @next index frame _ w _ _ _ _ going continues rest ih =>
    have finished := FrameRun.finish_renderCalls discreet ⟨index, frame, w⟩ config running
    have still := discreet.running_invariant.finish ⟨index, frame, w⟩ config running
    rw [continues] at finished still
    rw [ih still, finished, List.flatMap_cons, List.append_assoc]

/-- And so does the loop of a renderer that does not crash at once. -/
theorem RendererRun.renderCalls {i : Interpreter κ} (discreet : i.Discreet)
    {config : GraphicsConfig} {renderer : Renderer κ} {w v : World κ} {runs : List (FrameRun κ)}
    {loopEnd : LoopEnd} (run : RendererRun i config renderer w runs v loopEnd)
    (running : w.graphics.phase = .running) :
    v.renderCalls = w.renderCalls ++ runs.flatMap (·.calls i config) := by
  cases run with
  | crashed => exact (List.append_nil _).symm
  | ran answers loop => exact loop.renderCalls discreet running

/-! ## The whole loop -/

/-- The form of a frame: at most one resize, then at most one change of vsync, and then, unless the
renderer has crashed over one of these, the submission under the number of the frame; an image is
presented, and after a presentation that went well comes the callback that was installed when the
frame started, if there was one. -/
def FrameRun.HasForm (r : FrameRun κ) (calls : List Event) : Prop :=
  ∃ (size : Option (Nat × Nat)) (vsync : Option Bool) (s : Submission), s.frame = r.index ∧
    calls = size.toList.map (fun (width, height) => .resize width height)
      ++ vsync.toList.map .vsync
      ++ if r.pushCrash? = none then
          .submit s :: if r.frame.submitted = .presentable then
              .present :: if r.frame.presentFault = none then
                r.start.graphics.surface.callback.toList.map .swap
              else []
            else []
        else []

/-- The calls of every frame have this form. -/
theorem FrameRun.calls_hasForm (r : FrameRun κ) (i : Interpreter κ) (config : GraphicsConfig) :
    r.HasForm (r.calls i config) := by
  let geometry := r.opening.geometry
  -- a renderer that crashes over the size is not told of the present mode
  refine ⟨if r.opening.resized then some (geometry.width, geometry.height) else none,
    if r.opening.vsyncChanged && !(r.opening.resized && r.frame.resizeCrash.isSome) then
      some geometry.vsync else none,
    r.submission i config, rfl, ?_⟩
  rw [calls]
  refine congr (congrArg HAppend.hAppend ?_) ?_
  · simp only [pushes, Frame.pushes]
    cases r.opening.resized <;> cases r.opening.vsyncChanged <;> cases r.frame.resizeCrash <;>
      simp [Push.told, geometry]
  · rw [Frame.afterSubmit, Frame.afterPresent]
    cases r.frame.submitted <;> cases r.frame.presentFault <;> rfl

/-- What the renderer, the callback and the host see of a loop that runs the frames `runs` of a
renderer, and what it leaves behind. -/
structure LoopProtocol (i : Interpreter κ) (w : World κ) (renderer : Renderer κ)
    (config : GraphicsConfig) (runs : List (FrameRun κ)) (after : World κ)
    (result : Except Failure Unit) : Prop where
  /-- The frames come one after the other. Then the renderer is dropped, in any case and once. -/
  calls : after.renderCalls = w.renderCalls ++ runs.flatMap (·.calls i config) ++ [.rendererDropped]
  form : ∀ r ∈ runs, r.HasForm (r.calls i config)
  /-- They are numbered from zero without gap or repetition. -/
  indices : runs.map FrameRun.index = List.range runs.length
  /-- They follow the script of the renderer. -/
  script : runs.map FrameRun.frame <+: renderer.frames ++ [.exhausted]
  /-- No frame follows a lost backend or a crash. -/
  last : ∀ r ∈ runs.dropLast, r.loopEnd? = none
  /-- A renderer that crashes when it is asked for its backend runs no frame. -/
  unasked : ∀ c, renderer.backendCrash = some c → runs = []
  /-- The last frame says how the loop ends; if it would have others follow, a stop ended it. -/
  result : result = (renderer.loopEnd runs).result
  /-- No call during a frame ends the loop before its next frame starts. -/
  running : ∀ r ∈ runs, r.start.graphics.phase = .running
  stopped : after.graphics.phase = .stopped
  dropped : after.graphics.renderer = none

/-- A loop keeps its renderer to itself. -/
theorem SessionCall.withoutRenderer_invariant :
    LoopInvariant reentrant
      fun w => w.graphics.phase = .running ∧ w.graphics.renderer = none where
  record _ _ h := h
  log _ _ h := h
  begin _ h := h
  count _ _ _ h := h
  countError _ h := h
  callDuringFrame w call h := by
    obtain ⟨running, withoutRenderer⟩ := h
    have meanwhile := (reentrant_discreet w call running).graphics
    exact ⟨meanwhile.phase.trans running, meanwhile.renderer.trans withoutRenderer⟩
  stop _ h := h

/-- A loop follows the protocol, whatever its frames do and whatever the host calls during them.
Calls during a frame are calls like any other here: the loop is not told to refuse them. -/
theorem SessionCall.runLoop_protocol {w : World SessionCall} {renderer : Renderer SessionCall}
    {config : GraphicsConfig} (ready : w.graphics.phase = .rendererReady)
    (held : w.graphics.renderer = some renderer) (limited : w.graphics.effective = some config) :
    w.runLoop duringFrame = w.runLoop reentrant ∧
      LoopProtocol reentrant w renderer config
        ((w.enterLoop renderer).rendererRuns reentrant config renderer)
        (w.runLoop reentrant).1 (w.runLoop reentrant).2 := by
  refine ⟨(runLoop_reentrant w).symm, ?_⟩
  have entered : (w.enterLoop renderer).graphics.phase = .running := rfl
  have run := World.runRenderer_rendererRun reentrant config renderer (w.enterLoop renderer)
  -- no frame drops the renderer, so the one drop is that of leaving the loop
  have invariant := withoutRenderer_invariant.rendererRun run ⟨entered, rfl⟩
  obtain ⟨last, ended⟩ := run.ended
  -- the loop is accepted, so it is the frames between entering and leaving
  simp only [World.runLoop, ready, held, limited]
  exact {
    calls := by
      rw [World.leaveLoop, World.renderCalls_record]
      have framed := run.renderCalls reentrant_discreet entered
      rw [World.enterLoop, World.renderCalls_log] at framed
      exact congrArg (· ++ [Event.rendererDropped]) framed
    form := fun r _ => r.calls_hasForm reentrant config
    indices := run.indices
    script := run.frames_prefix
    last := last
    unasked := fun c crashes => by rw [World.rendererRuns, crashes]
    result := congrArg LoopEnd.result ended
    running := fun r listed => (invariant.1 r listed).1
    stopped := rfl
    dropped := invariant.2.2 }

/-- A renderer with one frame, in the middle of which the host tears down and loops again. -/
def Renderer.meddled : Renderer SessionCall where
  backend := .openGl
  prefersThreading := false
  anisotropyCeiling := maxAnisotropy
  frames :=
    [{ calls := [.host "teardown" .tearDown, .host "run_loop" .runLoop], submitted := .idle }]

def World.meddled : World SessionCall where
  config := {}
  router := {}
  graphics :=
    { phase := .rendererReady
      requested := some {}
      effective := some {}
      renderer := some .meddled
      info := some ⟨.openGl, false, maxAnisotropy⟩ }

/-- The meddling is without effect: a second frame follows, which the script does not have. -/
theorem SessionCall.runLoop_protocol_meddled :
    (World.meddled.graphics.phase = .rendererReady ∧
      World.meddled.graphics.renderer = some .meddled ∧
      World.meddled.graphics.effective = some {}) ∧
      ∃ runs, runs.map FrameRun.index = [0, 1] ∧
        LoopProtocol reentrant .meddled .meddled {} runs (World.meddled.runLoop reentrant).1
          (World.meddled.runLoop reentrant).2 :=
  ⟨⟨rfl, rfl, rfl⟩, _, rfl, (runLoop_protocol rfl rfl rfl).2⟩

end EmuHost
