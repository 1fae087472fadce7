import EmuHost.Proofs.LoopFrames

/-!
# Invariants of a running loop

Few things happen to a session while its loop runs: calls out and lines of the log are noted, a
frame takes up the staged geometry, a frame is counted, a stop is taken up, and the host makes calls
(`LoopInvariant`). What all of these keep holds wherever the loop hands over control, and when it is
over.

## Key results

- `FrameInvariant.states`: what a frame keeps holds at every call out of it and after every call of
  the host
- `LoopInvariant.loop`: an invariant holds when each frame of a loop starts and when the loop ends
- `LoopInvariant.loopStates`: it holds wherever a frame hands over control
- `Interpreter.Discreet.running_invariant`: the phase is one, if the calls of the host are discreet
-/

namespace EmuHost

variable {κ : Type}

/-! ## Where a loop hands over control -/

/-- The session before, between and after calls that the host makes during a frame. -/
def World.callStates (i : Interpreter κ) (w : World κ) (calls : List κ) : List (World κ) :=
  calls.scanl (World.callDuringFrame i) w

/-- The states of a session while the callback runs. -/
def World.swapStates (i : Interpreter κ) (w : World κ) (callback : Option SwapCallback)
    (frame : Frame κ) : List (World κ) :=
  match callback with
  | none => []
  | some id => (w.record (.swap id)).callStates i frame.swapCalls

/-- The states of a session from a presentation to the end of its frame. -/
def World.presentStates (i : Interpreter κ) (w : World κ) (callback : Option SwapCallback)
    (frame : Frame κ) : List (World κ) :=
  let w := w.record .present
  w.callStates i frame.presentCalls ++
    match frame.presentFault with
    | some _ => []
    | none => (w.callsDuringFrame i frame.presentCalls).swapStates i callback frame

/-- The states of a session from a submission to the end of its frame. -/
def World.submitStates (i : Interpreter κ) (w : World κ) (submission : Submission)
    (callback : Option SwapCallback) (frame : Frame κ) : List (World κ) :=
  let w := w.record (.submit submission)
  w.callStates i frame.calls ++
    match frame.submitted with
    | .presentable => (w.callsDuringFrame i frame.calls).presentStates i callback frame
    | _ => []

/-- The states of a session while the renderer is told what there is to tell. -/
def World.tellStates (i : Interpreter κ) (w : World κ) : List (Push κ) → List (World κ)
  | [] => []
  | push :: pushes =>
    let w := w.record push.event
    w.callStates i push.calls ++
      match push.crash with
      | some _ => []
      | none => (w.callsDuringFrame i push.calls).tellStates i pushes

namespace FrameRun

variable (r : FrameRun κ) (i : Interpreter κ)

/-- What the renderer is given. -/
def submission (config : GraphicsConfig) : Submission :=
  ⟨r.index, r.opening.geometry, config, (r.told i).router.published⟩

/-- The states of a session at the calls out of a frame, and before and after each call that the
host makes during them. -/
def states (config : GraphicsConfig) : List (World κ) :=
  r.start :: r.begun :: r.begun.tellStates i r.pushes ++
    match r.pushCrash? with
    | some _ => []
    | none => (r.told i).submitStates i (r.submission i config) r.opening.callback r.frame

end FrameRun

/-- The states of a session while it runs the loop, until it leaves it. -/
def World.loopStates (i : Interpreter κ) (w : World κ) : List (World κ) :=
  match w.graphics.phase, w.graphics.renderer, w.graphics.effective with
  | .rendererReady, some renderer, some config =>
    let entered := w.enterLoop renderer
    entered :: (entered.rendererRuns i config renderer).flatMap (·.states i config)
  | _, _, _ => []

/-- A loop is accepted, or it is refused and nobody is called. -/
theorem World.runLoop_cases (i : Interpreter κ) (w : World κ) :
    (∃ renderer config, w.graphics.phase = .rendererReady ∧ w.graphics.renderer = some renderer ∧
      w.graphics.effective = some config) ∨
    (w.runLoop i = w.refuseLoop ∧ w.loopStates i = []) := by
  by_cases accepted : ∃ renderer config, w.graphics.phase = .rendererReady ∧
      w.graphics.renderer = some renderer ∧ w.graphics.effective = some config
  · exact .inl accepted
  · refine .inr ⟨w.runLoop_refused i accepted, ?_⟩
    simp only [loopStates]
    split
    · rename_i renderer config ready held limited
      exact absurd ⟨renderer, config, ready, held, limited⟩ accepted
    · rfl

/-! ## Invariants -/

/-- A property that each step keeps holds at the end of the steps. -/
theorem foldl_keeps {σ α : Type} {P : σ → Prop} {f : σ → α → σ} (step : ∀ s a, P s → P (f s a))
    (l : List α) {s : σ} (h : P s) : P (l.foldl f s) := by
  induction l generalizing s with
  | nil => exact h
  | cons a l ih => exact ih (step s a h)

/-- And at each state in between. -/
theorem scanl_keeps {σ α : Type} {P : σ → Prop} {f : σ → α → σ} (step : ∀ s a, P s → P (f s a))
    (l : List α) {s : σ} (h : P s) : ∀ t ∈ l.scanl f s, P t := by
  induction l generalizing s with
  | nil => simpa using h
  | cons a l ih =>
    rw [List.scanl_cons]
    exact List.forall_mem_cons.mpr ⟨h, ih (step s a h)⟩

/-- A property of sessions that a frame keeps until it is counted, or until it fails. -/
structure FrameInvariant (i : Interpreter κ) (P : World κ → Prop) : Prop where
  record : ∀ (w : World κ) (e : Event), P w → P (w.record e)
  begin : ∀ w : World κ, P w → P { w with graphics.surface := w.graphics.surface.beginFrame.1 }
  callDuringFrame : ∀ (w : World κ) (call : κ), P w → P (w.callDuringFrame i call)

namespace FrameInvariant

variable {i : Interpreter κ} {P : World κ → Prop} (invariant : FrameInvariant i P) {w : World κ}

include invariant

/-- Calls during a frame keep what one of them keeps. -/
theorem callsDuringFrame (calls : List κ) (h : P w) : P (w.callsDuringFrame i calls) :=
  foldl_keeps invariant.callDuringFrame calls h

/-- What the renderer is told keeps what calls out and calls of the host keep. -/
theorem tell (pushes : List (Push κ)) (h : P w) : P (w.tell i pushes).1 := by
  induction pushes generalizing w with
  | nil => exact h
  | cons push pushes ih =>
    have called := invariant.callsDuringFrame push.calls (invariant.record w push.event h)
    rw [World.tell]
    cases push.crash with
    | some c => exact called
    | none => exact ih called

/-- It holds when the renderer has been told of the geometry. -/
theorem told (r : FrameRun κ) (h : P r.start) : P (r.told i) :=
  invariant.tell r.pushes (invariant.begin r.start h)

/-! ### Where a frame hands over control -/

/-- It holds between the calls. -/
theorem callStates (calls : List κ) (h : P w) : ∀ v ∈ w.callStates i calls, P v :=
  scanl_keeps invariant.callDuringFrame calls h

/-- It holds in the callback. -/
theorem swapStates (callback : Option SwapCallback) (frame : Frame κ) (h : P w) :
    ∀ v ∈ w.swapStates i callback frame, P v := by
  -- there is nobody to call without a callback
  cases callback with
  | none => exact List.forall_mem_nil _
  | some id => exact invariant.callStates frame.swapCalls (invariant.record w _ h)

/-- It holds while the frame is presented. -/
theorem presentStates (callback : Option SwapCallback) (frame : Frame κ) (h : P w) :
    ∀ v ∈ w.presentStates i callback frame, P v := by
  have presented := invariant.record w .present h
  refine List.forall_mem_append.mpr ⟨invariant.callStates frame.presentCalls presented, ?_⟩
  split
  · exact List.forall_mem_nil _
  · exact invariant.swapStates callback frame
      (invariant.callsDuringFrame frame.presentCalls presented)

/-- It holds from the submission on. -/
theorem submitStates (submission : Submission) (callback : Option SwapCallback) (frame : Frame κ)
    (h : P w) : ∀ v ∈ w.submitStates i submission callback frame, P v := by
  have submitted := invariant.record w (.submit submission) h
  refine List.forall_mem_append.mpr ⟨invariant.callStates frame.calls submitted, ?_⟩
  split
  · exact invariant.presentStates callback frame
      (invariant.callsDuringFrame frame.calls submitted)
  · exact List.forall_mem_nil _

/-- It holds while the renderer is told of what has changed. -/
theorem tellStates (pushes : List (Push κ)) (h : P w) : ∀ v ∈ w.tellStates i pushes, P v := by
  -- on what the renderer is still to be told
  induction pushes generalizing w with
  | nil => exact List.forall_mem_nil _
  | cons push pushes ih =>
    have told := invariant.record w push.event h
    refine List.forall_mem_append.mpr ⟨invariant.callStates push.calls told, ?_⟩
    -- a push that crashes is the last one, as the renderer is not told more
    split
    · exact List.forall_mem_nil _
    · exact ih (invariant.callsDuringFrame push.calls told)

/-- It holds wherever a frame hands over control, if it does when the frame starts. -/
theorem states (r : FrameRun κ) (config : GraphicsConfig) (h : P r.start) :
    ∀ v ∈ r.states i config, P v := by
  have begun := invariant.begin r.start h
  refine List.forall_mem_append.mpr ⟨?_, ?_⟩
  · exact List.forall_mem_cons.mpr
      ⟨h, List.forall_mem_cons.mpr ⟨begun, invariant.tellStates r.pushes begun⟩⟩
  · split
    · exact List.forall_mem_nil _
    · exact invariant.submitStates _ _ _ (invariant.told r h)

end FrameInvariant

/-- A property of sessions that all that happens while the loop runs keeps. -/
structure LoopInvariant (i : Interpreter κ) (P : World κ → Prop) : Prop where
  record : ∀ (w : World κ) (e : Event), P w → P (w.record e)
  log : ∀ (w : World κ) (lines : List LogLine), P w → P (w.log lines)
  begin : ∀ w : World κ, P w → P { w with graphics.surface := w.graphics.surface.beginFrame.1 }
  count : ∀ (w : World κ) (timing : FrameTiming) (wasPresented : Bool),
    P w → P (w.countFrame timing wasPresented)
  countError : ∀ w : World κ, P w → P w.countError
  callDuringFrame : ∀ (w : World κ) (call : κ), P w → P (w.callDuringFrame i call)
  stop : ∀ w : World κ, P w → P { w with graphics.stopRequested := false }

namespace LoopInvariant

variable {i : Interpreter κ} {P : World κ → Prop} (invariant : LoopInvariant i P) {w : World κ}

include invariant

/-- What a loop keeps is kept by its frames. -/
theorem frame : FrameInvariant i P where
  record := invariant.record
  begin := invariant.begin
  callDuringFrame := invariant.callDuringFrame

/-- Calls in a loop keep it likewise. -/
theorem callsDuringFrame (calls : List κ) (h : P w) : P (w.callsDuringFrame i calls) :=
  invariant.frame.callsDuringFrame calls h

/-- The callback keeps it. -/
theorem swapFrame (callback : Option SwapCallback) (frame : Frame κ) (h : P w) :
    P (w.swapFrame i callback frame).1 := by
  simp only [World.swapFrame]
  split
  · exact invariant.count _ _ _ h
  · rename_i id
    have called := invariant.callsDuringFrame frame.swapCalls (invariant.record w (.swap id) h)
    split
    · exact called
    · exact invariant.count _ _ _ called

/-- Presenting keeps it. -/
theorem presentFrame (callback : Option SwapCallback) (frame : Frame κ) (h : P w) :
    P (w.presentFrame i callback frame).1 := by
  have called := invariant.callsDuringFrame frame.presentCalls (invariant.record w .present h)
  simp only [World.presentFrame]
  split
  · exact called
  · exact invariant.swapFrame callback frame called

/-- What follows a frame keeps it. -/
theorem afterFrame (index : Nat) (frameEnd : FrameEnd) (h : P w) :
    P (w.afterFrame index frameEnd).1 := by
  cases frameEnd with
  | finished => exact h
  | fault f =>
    cases f with
    | recoverable reason => exact invariant.log _ _ (invariant.countError w h)
    | lost reason => exact invariant.log _ _ h
    | crash c => exact h

/-- The submission keeps it. -/
theorem submitFrame (r : FrameRun κ) (config : GraphicsConfig) (h : P w) :
    P (w.submitFrame i config r.index r.opening r.frame).1 := by
  -- the host has made its calls before the submission ends in one way or another
  have submitted := invariant.record w
    (.submit ⟨r.index, r.opening.geometry, config, w.router.published⟩) h
  have called := invariant.callsDuringFrame r.frame.calls submitted
  -- the renderer has failed, has nothing to show or presents
  simp only [World.submitFrame]
  split
  · exact called
  · exact invariant.count _ _ _ called
  · exact invariant.presentFrame _ _ called

/-- It holds when the frame is over, too. -/
theorem finish (r : FrameRun κ) (config : GraphicsConfig) (h : P r.start) :
    P (r.finish i config).1 := by
  have told := invariant.frame.told r h
  refine invariant.afterFrame _ _ ?_
  rw [r.runFrame_eq]
  -- the frame ends before the submission if the renderer crashes over what it is told
  cases r.pushCrash? with
  | some c => exact told
  | none => exact invariant.submitFrame r config told

/-- The loop starts all its frames with it, and ends with it. -/
theorem loop {config : GraphicsConfig} {index : Nat} {frames : List (Frame κ)} {v : World κ}
    {runs : List (FrameRun κ)} {loopEnd : LoopEnd}
    (loop : LoopRun i config index frames w runs v loopEnd) (h : P w) :
    (∀ r ∈ runs, P r.start) ∧ P v := by
  -- on the loop: a frame hands the property on to the next one
  induction loop with
  | stop => exact ⟨List.forall_mem_nil _, invariant.log _ _ (invariant.stop _ h)⟩
  | @last index frames w _ _ going ends =>
    have finished := invariant.finish ⟨index, frames.headD .exhausted, w⟩ config h
    rw [ends] at finished
    exact ⟨List.forall_mem_singleton.mpr h, finished⟩
  | @next index frame _ w _ _ _ _ going continues rest ih =>
    have finished := invariant.finish ⟨index, frame, w⟩ config h
    rw [continues] at finished
    obtain ⟨starts, last⟩ := ih finished
    exact ⟨List.forall_mem_cons.mpr ⟨h, starts⟩, last⟩

/-- A renderer that crashes at once runs no frame, and its loop ends as it has started. -/
theorem rendererRun {config : GraphicsConfig} {renderer : Renderer κ} {v : World κ}
    {runs : List (FrameRun κ)} {loopEnd : LoopEnd}
    (run : RendererRun i config renderer w runs v loopEnd) (h : P w) :
    (∀ r ∈ runs, P r.start) ∧ P v := by
  -- how the loop came to run does not matter: only its frames do
  cases run with
  | crashed => exact ⟨List.forall_mem_nil _, h⟩
  | ran answers loop => exact invariant.loop loop h

/-- An invariant holds wherever the loop hands over control. -/
theorem loopStates
    (entered : ∀ renderer, w.graphics.renderer = some renderer → P (w.enterLoop renderer)) :
    ∀ v ∈ w.loopStates i, P v := by
  simp only [World.loopStates]
  split
  · rename_i renderer config _ held _
    -- each frame starts with the invariant, which then holds to its end
    have h := entered renderer held
    refine List.forall_mem_cons.mpr ⟨h, fun v among => ?_⟩
    obtain ⟨r, listed, inside⟩ := List.mem_flatMap.mp among
    have run := World.runRenderer_rendererRun i config renderer (w.enterLoop renderer)
    exact invariant.frame.states r config ((invariant.rendererRun run h).1 r listed) v inside
  · exact List.forall_mem_nil _

end LoopInvariant

/-- While discreet calls are made, the loop stays what is running. -/
theorem Interpreter.Discreet.running_invariant {i : Interpreter κ} (discreet : i.Discreet) :
    LoopInvariant i (·.graphics.phase = .running) where
  record _ _ h := h
  log _ _ h := h
  begin _ h := h
  count _ _ _ h := h
  countError _ h := h
  callDuringFrame w call h := (discreet w call h).graphics.phase.trans h
  stop _ h := h

/-- And so do the limits that it runs under. -/
theorem Interpreter.Discreet.limited_invariant {i : Interpreter κ} (discreet : i.Discreet)
    (limits : Option GraphicsConfig) :
    LoopInvariant i fun w => w.graphics.phase = .running ∧ w.graphics.effective = limits where
  record _ _ h := h
  log _ _ h := h
  begin _ h := h
  count _ _ _ h := h
  countError _ h := h
  callDuringFrame w call h :=
    have meanwhile := (discreet w call h.1).graphics
    ⟨meanwhile.phase.trans h.1, meanwhile.effective.trans h.2⟩
  stop _ h := h

end EmuHost
