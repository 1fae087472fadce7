import EmuHost.Proofs.GraphicsCalls

/-!
# The frames of a render loop

A run of the render loop taken apart into its frames. `World.frameRuns` lists the frames that a loop
runs, each with the session as it was when the frame started. `LoopRun` is the loop as a big-step
relation, so that a fact about whole loops is an induction with three cases: a stop, a frame that
ends the loop, and a frame with others to come.

The script of a renderer is finite. A loop that goes on for ever is known by its finite parts, the
runs of its script cut off after some frame.

## Key results

- `FrameRun.runFrame_eq`, `FrameRun.finish_snd`: the parts of a frame, and how it ends the loop
- `World.runFrames_loopRun`: the loop runs the frames that `World.frameRuns` lists
- `World.runRenderer_rendererRun`: so does the loop of a renderer that does not crash at once
- `LoopRun.indices`, `LoopRun.frames_prefix`: the numbers of these frames and their scripts
- `LoopRun.ended`: only the last frame can end the loop
-/

namespace EmuHost

variable {κ : Type}

/-- A frame that a loop runs: its number, its script, and the session when it starts. -/
structure FrameRun (κ : Type) where
  index : Nat
  frame : Frame κ
  start : World κ

/-- How a fault ends the loop, if it does. -/
def FrameFault.loopEnd? : FrameFault → Option LoopEnd
  | .recoverable _ => none
  | .lost reason => some (.lost reason)
  | .crash c => some (.crashed c)

/-- How a frame fails from its submission on, if it does. A callback that is not installed cannot
crash. -/
def Frame.fault? (frame : Frame κ) (callback : Option SwapCallback) : Option FrameFault :=
  match frame.submitted with
  | .fault f => some f
  | .idle => none
  | .presentable =>
    match frame.presentFault with
    | some f => some f
    | none => callback.bind fun _ => frame.swapCrash.map .crash

/-- The first push that the renderer crashes over ends the frame, whatever the host does. -/
theorem World.tell_snd (i : Interpreter κ) (w : World κ) (pushes : List (Push κ)) :
    (w.tell i pushes).2 = pushes.findSome? Push.crash := by
  induction pushes generalizing w with
  | nil => rfl
  | cons push pushes ih =>
    rw [World.tell, List.findSome?_cons]
    cases push.crash with
    | some c => rfl
    | none => exact ih _

namespace FrameRun

variable (r : FrameRun κ)

/-! ## How a frame ends -/

/-- What the frame starts with. -/
def opening : FrameStart := r.start.graphics.surface.beginFrame.2

/-- What the renderer is to be told before the submission. -/
def pushes : List (Push κ) := r.frame.pushes r.opening

/-- How the renderer crashes over what it is told, if it does. -/
def pushCrash? : Option Crash := r.pushes.findSome? Push.crash

/-- How the frame fails, if it does. -/
def fault? : Option FrameFault :=
  match r.pushCrash? with
  | some c => some (.crash c)
  | none => r.frame.fault? r.opening.callback

/-- How the frame ends the loop, if it does. -/
def loopEnd? : Option LoopEnd := r.fault?.bind FrameFault.loopEnd?

/-- Runs the frame to its end, and sees what this end means for the loop. -/
def finish (i : Interpreter κ) (config : GraphicsConfig) : World κ × Option LoopEnd :=
  let outcome := r.start.runFrame i config r.index r.frame
  outcome.1.afterFrame r.index outcome.2

/-- The renderer is told of the geometry and of nothing else. -/
theorem isPush_of_mem_pushes : ∀ push ∈ r.pushes, push.event.isPush = true := by
  intro push mem
  simp only [pushes, Frame.pushes, List.mem_append, List.mem_ite_nil_right,
    List.mem_singleton] at mem
  obtain ⟨-, rfl⟩ | ⟨-, rfl⟩ := mem <;> rfl

/-- The session when the frame has taken up the staged geometry. -/
def begun : World κ := { r.start with graphics.surface := r.start.graphics.surface.beginFrame.1 }

/-- The session when the renderer has been told what there is to tell, or has crashed over it. -/
def told (i : Interpreter κ) : World κ := (r.begun.tell i r.pushes).1

/-- A frame is what the renderer is told, and then the submission, unless it has crashed. -/
theorem runFrame_eq (i : Interpreter κ) (config : GraphicsConfig) :
    r.start.runFrame i config r.index r.frame =
      match r.pushCrash? with
      | some c => (r.told i, .fault (.crash c))
      | none => (r.told i).submitFrame i config r.index r.opening r.frame := by
  have crash : (r.begun.tell i r.pushes).2 = r.pushCrash? := World.tell_snd i r.begun r.pushes
  rw [← crash, told]
  simp only [World.runFrame]
  split
  · rename_i w c how
    have crashed : r.begun.tell i r.pushes = (w, some c) := how
    rw [crashed]
  -- the crash that the renderer has met is the one of the pushes
  · rename_i w how
    have told : r.begun.tell i r.pushes = (w, none) := how
    rw [told]
    rfl

/-- How a frame ends from its submission on is up to its script and its callback. -/
theorem submitFrame_snd (w : World κ) (i : Interpreter κ) (config : GraphicsConfig) :
    (w.submitFrame i config r.index r.opening r.frame).2 =
      (r.frame.fault? r.opening.callback).elim .finished .fault := by
  cases submitted : r.frame.submitted with
  | fault f => simp only [World.submitFrame, Frame.fault?, submitted, Option.elim]
  | idle => simp only [World.submitFrame, Frame.fault?, submitted, Option.elim]
  | presentable =>
    simp only [World.submitFrame, World.presentFrame, Frame.fault?, submitted]
    cases r.frame.presentFault with
    | some f => rfl
    | none =>
      -- the callback of the frame is the one that was installed when it started
      simp only
      cases r.opening.callback with
      | none => rfl
      | some id =>
        simp only [World.swapFrame, Option.bind_some]
        cases r.frame.swapCrash <;> rfl

/-- How a frame ends is up to its script, and to the geometry and the callback that it starts
with. -/
theorem runFrame_snd (i : Interpreter κ) (config : GraphicsConfig) :
    (r.start.runFrame i config r.index r.frame).2 = r.fault?.elim .finished .fault := by
  rw [runFrame_eq, fault?]
  cases r.pushCrash? with
  | some c => rfl
  | none => exact r.submitFrame_snd (r.told i) i config

/-- Only a lost backend and a crash end the loop. -/
theorem afterFrame_snd (w : World κ) (index : Nat) (fault : Option FrameFault) :
    (w.afterFrame index (fault.elim .finished .fault)).2 = fault.bind FrameFault.loopEnd? := by
  obtain _ | _ | _ | _ := fault <;> rfl

/-- The size comes before the present mode, and so does a crash over it. -/
theorem pushCrash?_eq : r.pushCrash? =
    ((if r.opening.resized then r.frame.resizeCrash else none) <|>
      if r.opening.vsyncChanged then r.frame.vsyncCrash else none) := by
  simp only [pushCrash?, pushes, Frame.pushes]
  cases r.opening.resized <;> cases r.opening.vsyncChanged <;>
    cases r.frame.resizeCrash <;> cases r.frame.vsyncCrash <;> rfl

/-- When the script has ended, the backend is lost. -/
theorem loopEnd?_exhausted (index : Nat) (w : World κ) :
    loopEnd? ⟨index, .exhausted, w⟩ = some (.lost "script exhausted") := by
  have quiet : pushCrash? ⟨index, .exhausted, w⟩ = none := by
    simp [pushCrash?_eq, Frame.exhausted]
  rw [loopEnd?, fault?, quiet]
  rfl

/-- And so is whether it ends the loop. -/
theorem finish_snd (i : Interpreter κ) (config : GraphicsConfig) :
    (r.finish i config).2 = r.loopEnd? := by
  rw [finish, runFrame_snd, afterFrame_snd, loopEnd?]

end FrameRun

/-! ## The loop frame by frame -/

/-- The frames that a loop runs from a session on. -/
def World.frameRuns (i : Interpreter κ) (config : GraphicsConfig) :
    (index : Nat) → List (Frame κ) → World κ → List (FrameRun κ)
  | index, [], w => if w.graphics.stopRequested then [] else [⟨index, .exhausted, w⟩]
  | index, frame :: frames, w =>
    if w.graphics.stopRequested then []
    else match FrameRun.finish ⟨index, frame, w⟩ i config with
      | (_, some _) => [⟨index, frame, w⟩]
      | (v, none) => ⟨index, frame, w⟩ :: frameRuns i config (index + 1) frames v

/-- A loop runs some frames and ends. A renderer whose script has ended runs one more frame, with
which it loses the backend. -/
inductive LoopRun (i : Interpreter κ) (config : GraphicsConfig) :
    Nat → List (Frame κ) → World κ → List (FrameRun κ) → World κ → LoopEnd → Prop where
  | stop {index : Nat} {frames : List (Frame κ)} {w : World κ}
      (requested : w.graphics.stopRequested = true) :
      LoopRun i config index frames w [] (w.takeStop index) .stopped
  | last {index : Nat} {frames : List (Frame κ)} {w v : World κ} {loopEnd : LoopEnd}
      (going : w.graphics.stopRequested = false)
      (ends : FrameRun.finish ⟨index, frames.headD .exhausted, w⟩ i config = (v, some loopEnd)) :
      LoopRun i config index frames w [⟨index, frames.headD .exhausted, w⟩] v loopEnd
  | next {index : Nat} {frame : Frame κ} {frames : List (Frame κ)} {w v u : World κ}
      {runs : List (FrameRun κ)} {loopEnd : LoopEnd}
      (going : w.graphics.stopRequested = false)
      (continues : FrameRun.finish ⟨index, frame, w⟩ i config = (v, none))
      (rest : LoopRun i config (index + 1) frames v runs u loopEnd) :
      LoopRun i config index (frame :: frames) w (⟨index, frame, w⟩ :: runs) u loopEnd

/-- A loop whose script has run out stops, or fails over an exhausted frame. -/
theorem World.runFrames_nil (i : Interpreter κ) (config : GraphicsConfig) (index : Nat)
    (w : World κ) :
    runFrames i config index [] w =
      if w.graphics.stopRequested then (w.takeStop index, .stopped)
      else (FrameRun.finish ⟨index, .exhausted, w⟩ i config).map id (·.getD .stopped) := rfl

/-- A loop with a frame to go stops before it, or goes on as the frame has it. -/
theorem World.runFrames_cons (i : Interpreter κ) (config : GraphicsConfig) (index : Nat)
    (frame : Frame κ) (frames : List (Frame κ)) (w : World κ) :
    runFrames i config index (frame :: frames) w =
      if w.graphics.stopRequested then (w.takeStop index, .stopped)
      else match FrameRun.finish ⟨index, frame, w⟩ i config with
        | (v, some loopEnd) => (v, loopEnd)
        | (v, none) => runFrames i config (index + 1) frames v := rfl

/-- Without a renderer that is ready the loop is refused. -/
theorem World.runLoop_refused (i : Interpreter κ) (w : World κ)
    (unaccepted : ¬∃ renderer config, w.graphics.phase = .rendererReady ∧
      w.graphics.renderer = some renderer ∧ w.graphics.effective = some config) :
    w.runLoop i = w.refuseLoop := by
  simp only [runLoop]
  split
  · rename_i renderer config ready held limited
    exact absurd ⟨renderer, config, ready, held, limited⟩ unaccepted
  · rfl

/-- The loop is the big-step relation, and runs the listed frames. -/
theorem World.runFrames_loopRun (i : Interpreter κ) (config : GraphicsConfig) (index : Nat)
    (frames : List (Frame κ)) (w : World κ) :
    LoopRun i config index frames w (frameRuns i config index frames w)
      (runFrames i config index frames w).1 (runFrames i config index frames w).2 := by
  -- on the script of the loop, as both sides recurse on it
  induction frames generalizing index w with
  | nil =>
    rw [runFrames_nil, frameRuns]
    split
    · rename_i requested
      exact .stop requested
    · rename_i going
      -- the script says nothing of this frame, and the backend is lost with it
      have ends := FrameRun.finish_snd ⟨index, .exhausted, w⟩ i config
      rw [FrameRun.loopEnd?_exhausted] at ends
      refine .last (Bool.eq_false_iff.mpr going) (Prod.ext rfl ?_)
      rw [Prod.map_snd, ends]
      exact ends
  | cons frame frames ih =>
    rw [runFrames_cons, frameRuns]
    split
    · rename_i requested
      exact .stop requested
    · rename_i going
      rw [Bool.not_eq_true] at going
      cases outcome : FrameRun.finish ⟨index, frame, w⟩ i config with
      | mk v ended =>
        cases ended with
        | some loopEnd => exact .last going outcome
        | none => exact .next going outcome (ih (index + 1) v)

/-! ## The loop of a renderer -/

/-- The frames that the loop of a renderer runs, which are none if it crashes at once. -/
def World.rendererRuns (i : Interpreter κ) (config : GraphicsConfig) (renderer : Renderer κ)
    (w : World κ) : List (FrameRun κ) :=
  match renderer.backendCrash with
  | some _ => []
  | none => w.frameRuns i config 0 renderer.frames

/-- A renderer crashes over its first question, or it runs its frames. -/
inductive RendererRun (i : Interpreter κ) (config : GraphicsConfig) (renderer : Renderer κ) :
    World κ → List (FrameRun κ) → World κ → LoopEnd → Prop where
  | crashed {w : World κ} {c : Crash} (crashes : renderer.backendCrash = some c) :
      RendererRun i config renderer w [] w (.crashed c)
  | ran {w v : World κ} {runs : List (FrameRun κ)} {loopEnd : LoopEnd}
      (answers : renderer.backendCrash = none)
      (loop : LoopRun i config 0 renderer.frames w runs v loopEnd) :
      RendererRun i config renderer w runs v loopEnd

/-- The loop of a renderer runs the listed frames. -/
theorem World.runRenderer_rendererRun (i : Interpreter κ) (config : GraphicsConfig)
    (renderer : Renderer κ) (w : World κ) :
    RendererRun i config renderer w (w.rendererRuns i config renderer)
      (runRenderer i config renderer w).1 (runRenderer i config renderer w).2 := by
  cases crashes : renderer.backendCrash with
  | some c =>
    simp only [rendererRuns, runRenderer, crashes]
    exact .crashed crashes
  | none =>
    simp only [rendererRuns, runRenderer, crashes]
    exact .ran crashes (runFrames_loopRun i config 0 renderer.frames w)

/-! ## Which frames a loop runs -/

namespace LoopRun

variable {i : Interpreter κ} {config : GraphicsConfig} {index : Nat} {frames : List (Frame κ)}
  {w v : World κ} {runs : List (FrameRun κ)} {loopEnd : LoopEnd}

/-- Frames are numbered without gap or repetition, however each of them ends. -/
theorem indices (loop : LoopRun i config index frames w runs v loopEnd) :
    runs.map FrameRun.index = List.range' index runs.length := by
  induction loop with
  | stop => rfl
  | last => rfl
  | next going continues rest ih =>
    rw [List.map_cons, ih, List.length_cons, List.range'_succ]

/-- The script is worked off from the front. -/
theorem frames_prefix (loop : LoopRun i config index frames w runs v loopEnd) :
    runs.map FrameRun.frame <+: frames ++ [.exhausted] := by
  induction loop with
  | stop => exact List.nil_prefix
  | @last _ frames =>
    cases frames with
    | nil => exact List.prefix_rfl
    | cons frame frames => exact List.prefix_append [frame] (frames ++ [.exhausted])
  | next going continues rest ih => exact List.cons_prefix_cons.mpr ⟨rfl, ih⟩

/-- Only the last frame can end the loop, and if it does not, a stop does. -/
theorem ended (loop : LoopRun i config index frames w runs v loopEnd) :
    (∀ r ∈ runs.dropLast, r.loopEnd? = none) ∧
      loopEnd = (runs.getLast?.bind FrameRun.loopEnd?).getD .stopped := by
  -- on the loop: its last frame may end it, every other one has not
  induction loop with
  | stop => exact ⟨List.forall_mem_nil _, rfl⟩
  | last going ends =>
    refine ⟨List.forall_mem_nil _, ?_⟩
    rw [List.getLast?_singleton, Option.bind_some, ← FrameRun.finish_snd _ i config, ends]
    rfl
  | @next index frame _ w _ _ runs _ going continues rest ih =>
    have harmless : FrameRun.loopEnd? ⟨index, frame, w⟩ = none := by
      rw [← FrameRun.finish_snd _ i config, continues]
    -- a stop can only come last, so the rest ends the loop unless there is none
    cases runs with
    | nil =>
      refine ⟨List.forall_mem_nil _, ?_⟩
      rw [ih.2, List.getLast?_singleton, Option.bind_some, harmless]
      rfl
    | cons s runs =>
      rw [List.dropLast_cons_cons, List.getLast?_cons_cons]
      exact ⟨List.forall_mem_cons.mpr ⟨harmless, ih.1⟩, ih.2⟩

end LoopRun

/-- How the loop of a renderer ends, by the frames that it has run: with a crash at once, as the
last frame says, or else with a stop. -/
def Renderer.loopEnd (renderer : Renderer κ) (runs : List (FrameRun κ)) : LoopEnd :=
  match renderer.backendCrash with
  | some c => .crashed c
  | none => (runs.getLast?.bind FrameRun.loopEnd?).getD .stopped

namespace RendererRun

variable {i : Interpreter κ} {config : GraphicsConfig} {renderer : Renderer κ}
  {w v : World κ} {runs : List (FrameRun κ)} {loopEnd : LoopEnd}

/-- The frames of a renderer are numbered from zero. -/
theorem indices (run : RendererRun i config renderer w runs v loopEnd) :
    runs.map FrameRun.index = List.range runs.length := by
  cases run with
  | crashed => rfl
  | ran answers loop => exact loop.indices.trans (List.range_eq_range' ..).symm

/-- The script of a renderer is worked off from the front. -/
theorem frames_prefix (run : RendererRun i config renderer w runs v loopEnd) :
    runs.map FrameRun.frame <+: renderer.frames ++ [.exhausted] := by
  cases run with
  | crashed => exact List.nil_prefix
  | ran answers loop => exact loop.frames_prefix

/-- Only the last frame of a renderer can end its loop. -/
theorem ended (run : RendererRun i config renderer w runs v loopEnd) :
    (∀ r ∈ runs.dropLast, r.loopEnd? = none) ∧ loopEnd = renderer.loopEnd runs := by
  cases run with
  | crashed crashes =>
    refine ⟨List.forall_mem_nil _, ?_⟩
    simp only [Renderer.loopEnd, crashes]
  | ran answers loop =>
    simp only [Renderer.loopEnd, answers]
    exact loop.ended

end RendererRun

end EmuHost
