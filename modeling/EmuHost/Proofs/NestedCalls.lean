import EmuHost.Proofs.LoopInvariant

/-!
# Calls nested in a frame

The calls that the host makes during a frame are performed with a loop that is always refused. This
file shows that nothing is lost by that: they could be performed like calls between loops, with the
render loop itself among them (`SessionCall.reentrant`), and every loop would run the same. The loop
sees its calls only while it runs, and a session whose loop runs refuses another one.

## Key results

- `LoopRun.unique`: a loop has one way to run
- `LoopRun.congr`: interpreters that agree while the loop runs give the same loop
- `SessionCall.runLoop_reentrant`: calls nested in a frame are performed as calls outside it are
-/

namespace EmuHost

variable {κ : Type}

/-! ## A loop has one way to run -/

/-- A loop runs in one way, the way that it is computed. -/
theorem LoopRun.unique {i : Interpreter κ} {config : GraphicsConfig} {index : Nat}
    {frames : List (Frame κ)} {w v : World κ} {runs : List (FrameRun κ)} {loopEnd : LoopEnd}
    (loop : LoopRun i config index frames w runs v loopEnd) :
    runs = w.frameRuns i config index frames ∧
      (v, loopEnd) = World.runFrames i config index frames w := by
  -- on the run: what it says of each frame is what the computation asks of it
  induction loop with
  | @stop index frames w requested =>
    cases frames with
    | nil => simp only [World.frameRuns, World.runFrames_nil, requested, if_true, and_self]
    | cons => simp only [World.frameRuns, World.runFrames_cons, requested, if_true, and_self]
  | @last index frames w v loopEnd going ends =>
    -- the frame comes from the script, or the script has ended
    cases frames with
    | nil =>
      rw [List.headD_nil] at ends
      rw [World.frameRuns, World.runFrames_nil, going, ends]
      exact ⟨rfl, rfl⟩
    | cons frame frames =>
      rw [List.headD_cons] at ends
      rw [World.frameRuns, World.runFrames_cons, going, ends]
      exact ⟨rfl, rfl⟩
  | next going continues rest ih =>
    rw [World.frameRuns, World.runFrames_cons, going, continues, ih.1, ih.2]
    exact ⟨rfl, rfl⟩

/-- The loop of a renderer has one way to run. -/
theorem RendererRun.unique {i : Interpreter κ} {config : GraphicsConfig} {renderer : Renderer κ}
    {w v : World κ} {runs : List (FrameRun κ)} {loopEnd : LoopEnd}
    (run : RendererRun i config renderer w runs v loopEnd) :
    runs = w.rendererRuns i config renderer ∧
      (v, loopEnd) = World.runRenderer i config renderer w := by
  cases run with
  | crashed crashes => simp only [World.rendererRuns, World.runRenderer, crashes, and_self]
  | ran answers loop =>
    simp only [World.rendererRuns, World.runRenderer, answers]
    exact loop.unique

/-! ## Interpreters that agree -/

/-- Whether two interpreters do the same while a loop runs. -/
structure Interpreter.AgreesWith (i j : Interpreter κ) : Prop where
  name : i.name = j.name
  perform : ∀ (w : World κ) (call : κ), w.graphics.phase = .running →
    i.perform w call = j.perform w call

section Agreement

variable {i j : Interpreter κ} (agree : i.AgreesWith j) (discreet : j.Discreet) {w : World κ}

include agree discreet

/-- Calls during a frame come to the same, since each of them leaves the loop running. -/
theorem World.callsDuringFrame_congr (running : w.graphics.phase = .running) (calls : List κ) :
    w.callsDuringFrame i calls = w.callsDuringFrame j calls := by
  induction calls generalizing w with
  | nil => rfl
  | cons call calls ih =>
    have same : w.callDuringFrame i call = w.callDuringFrame j call := by
      rw [callDuringFrame, callDuringFrame, agree.perform w call running, agree.name]
    have still := discreet.running_invariant.callDuringFrame w call running
    rw [← same] at still
    calc (w.callDuringFrame i call).callsDuringFrame i calls
        = (w.callDuringFrame i call).callsDuringFrame j calls := ih still
      _ = (w.callDuringFrame j call).callsDuringFrame j calls := by rw [same]

/-- So does the callback. -/
theorem World.swapFrame_congr (running : w.graphics.phase = .running)
    (callback : Option SwapCallback) (frame : Frame κ) :
    w.swapFrame i callback frame = w.swapFrame j callback frame := by
  cases callback with
  | none => rfl
  | some id =>
    simp only [swapFrame, callsDuringFrame_congr agree discreet (w := w.record (.swap id)) running]

/-- So does presenting. -/
theorem World.presentFrame_congr (running : w.graphics.phase = .running)
    (callback : Option SwapCallback) (frame : Frame κ) :
    w.presentFrame i callback frame = w.presentFrame j callback frame := by
  have still := discreet.running_invariant.callsDuringFrame frame.presentCalls
    (w := w.record .present) running
  simp only [presentFrame,
    callsDuringFrame_congr agree discreet (w := w.record .present) running,
    swapFrame_congr agree discreet still]

/-- What the host calls while the renderer is told of the geometry. -/
theorem World.tell_congr (running : w.graphics.phase = .running) (pushes : List (Push κ)) :
    w.tell i pushes = w.tell j pushes := by
  induction pushes generalizing w with
  | nil => rfl
  | cons push pushes ih =>
    have told : (w.record push.event).graphics.phase = .running := running
    have still := discreet.running_invariant.callsDuringFrame push.calls told
    rw [World.tell, World.tell, callsDuringFrame_congr agree discreet told, ih still]

/-- And so does all from the submission on. -/
theorem World.submitFrame_congr (running : w.graphics.phase = .running) (config : GraphicsConfig)
    (index : Nat) (start : FrameStart) (frame : Frame κ) :
    w.submitFrame i config index start frame = w.submitFrame j config index start frame := by
  have submitted (s : Submission) : (w.record (.submit s)).graphics.phase = .running := running
  have still (s : Submission) :=
    discreet.running_invariant.callsDuringFrame frame.calls (submitted s)
  simp only [submitFrame, callsDuringFrame_congr agree discreet (submitted _),
    presentFrame_congr agree discreet (still _)]

/-- A frame comes to the same. -/
theorem FrameRun.finish_congr (r : FrameRun κ) (config : GraphicsConfig)
    (running : r.start.graphics.phase = .running) : r.finish i config = r.finish j config := by
  have begun : r.begun.graphics.phase = .running := running
  have same : r.told i = r.told j := congrArg Prod.fst (World.tell_congr agree discreet begun _)
  have still := discreet.running_invariant.frame.told r running
  rw [finish, finish, runFrame_eq, runFrame_eq, same,
    World.submitFrame_congr agree discreet still]

/-- The loop sees its calls only while it runs. -/
theorem LoopRun.congr {config : GraphicsConfig} {index : Nat} {frames : List (Frame κ)}
    {v : World κ} {runs : List (FrameRun κ)} {loopEnd : LoopEnd}
    (loop : LoopRun i config index frames w runs v loopEnd)
    (running : w.graphics.phase = .running) : LoopRun j config index frames w runs v loopEnd := by
  -- on the run again, so that the frames are compared one by one
  induction loop with
  | stop requested => exact .stop requested
  | last going ends =>
    rw [FrameRun.finish_congr agree discreet _ config running] at ends
    exact .last going ends
  | @next index frame _ w _ _ _ _ going continues rest ih =>
    rw [FrameRun.finish_congr agree discreet _ config running] at continues
    -- the rest starts where this frame has left the loop running
    have still := discreet.running_invariant.finish ⟨index, frame, w⟩ config running
    rw [continues] at still
    exact .next going continues (ih still)

/-- The loop of a renderer sees its calls only while it runs. -/
theorem RendererRun.congr {config : GraphicsConfig} {renderer : Renderer κ} {v : World κ}
    {runs : List (FrameRun κ)} {loopEnd : LoopEnd}
    (run : RendererRun i config renderer w runs v loopEnd)
    (running : w.graphics.phase = .running) : RendererRun j config renderer w runs v loopEnd := by
  cases run with
  | crashed crashes => exact .crashed crashes
  | ran answers loop => exact .ran answers (loop.congr agree discreet running)

end Agreement

/-! ## Calls of a session -/

namespace SessionCall

/-- Calls during a frame, performed like calls outside it. -/
def reentrant : Interpreter SessionCall where
  name := name
  perform := perform

/-- While the loop runs, another one in it is refused either way. -/
theorem reentrant_agreesWith_duringFrame : reentrant.AgreesWith duringFrame where
  name := rfl
  perform _ call running := perform_of_running running call

/-- Calls that may ask for a loop leave as much as those that may not. -/
theorem reentrant_discreet : reentrant.Discreet := fun w call running => by
  rw [reentrant_agreesWith_duringFrame.perform w call running]
  exact duringFrame_discreet w call running

/-- Frames run the same with calls that may loop. -/
theorem rendererRuns_reentrant {config : GraphicsConfig} {renderer : Renderer SessionCall}
    {w : World SessionCall} (running : w.graphics.phase = .running) :
    w.rendererRuns reentrant config renderer = w.rendererRuns duringFrame config renderer ∧
      World.runRenderer reentrant config renderer w =
        World.runRenderer duringFrame config renderer w := by
  have run := World.runRenderer_rendererRun reentrant config renderer w
  exact (run.congr reentrant_agreesWith_duringFrame duringFrame_discreet running).unique

/-- A loop runs the same with calls that may loop. -/
theorem runLoop_reentrant (w : World SessionCall) :
    w.runLoop reentrant = w.runLoop duringFrame := by
  simp only [World.runLoop]
  split
  · rw [(rendererRuns_reentrant rfl).2]
  · rfl

end SessionCall

end EmuHost
