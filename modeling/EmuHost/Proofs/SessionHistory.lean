import EmuHost.Proofs.NestedCalls

/-!
# The history of a session

Everything that happens in a session in the order in which it happens: the calls of the host, those
in the middle of a frame among them, and what the render loop does between them. A statement
about whole sessions is one about such a history, about what may happen after what has happened
before (`History.Always`).

A history is read off a session and the calls of its host (`SessionCall.history`). The relation
`SessionCall.Trace` follows it step by step, so that a fact about all histories needs a look at each
kind of step only.

The script of a renderer is finite. A loop that goes on for ever is known by its finite parts.

## Key results

- `SessionCall.history_trace`: a history leads step by step to the session after it
- `SessionCall.Trace.always`: what each step allows is so at every moment of a history
- `SessionCall.Trace.events`: the calls out of a session are those that its history tells of
-/

namespace EmuHost

/-- One thing that happens in a session. -/
inductive Happening where
  /-- The host makes a call, between loops or in the middle of a frame, and no loop is entered. -/
  | made (before : World SessionCall) (call : SessionCall)
  /-- The loop is entered. -/
  | entered
  /-- A frame starts with the geometry that is staged. -/
  | started (r : FrameRun SessionCall)
  /-- The loop calls the renderer or the callback, or notes the answer to a call of the host. -/
  | told (e : Event)
  /-- A frame is over. -/
  | ended (r : FrameRun SessionCall) (how : FrameEnd)
  /-- The loop is over, with the answer to the call that entered it. -/
  | left (answer : Answer)

/-- What the renderer is given, if a call out of the session gives it a frame. -/
def Event.submission? : Event → Option Submission
  | .submit s => some s
  | _ => none

/-- What the loop calls itself while it runs: it makes no renderer, and submits its frames under the
limits of the one that it has. -/
def Event.SuitsLoop (g : Graphics SessionCall) : Event → Prop
  | .submit s => g.effective = some s.config
  | .createRenderer .. => False
  | _ => True

/-- What happens in a session, from the first thing on. -/
abbrev History := List Happening

/-- The answer to the call of the loop, by the end of the loop. -/
def LoopEnd.answer : LoopEnd → Answer
  | .stopped => .stopped
  | .lost reason => .failed (.error (.backendLost reason))
  | .crashed c => .failed (.crash c)

namespace SessionCall

/-! ## Histories of sessions -/

/-- The calls of the host during a step of a frame. -/
def callHistory (w : World SessionCall) : List SessionCall → History
  | [] => []
  | call :: calls =>
    .made w call :: .told (.answered call.name (perform w call).2) ::
      callHistory (w.callDuringFrame reentrant call) calls

/-- From the callback to the end of its frame. -/
def swapHistory (w : World SessionCall) (callback : Option SwapCallback)
    (frame : Frame SessionCall) : History :=
  match callback with
  | none => []
  | some id => .told (.swap id) :: callHistory (w.record (.swap id)) frame.swapCalls

/-- From a presentation to the end of its frame. -/
def presentHistory (w : World SessionCall) (callback : Option SwapCallback)
    (frame : Frame SessionCall) : History :=
  let w := w.record .present
  .told .present :: callHistory w frame.presentCalls ++
    match frame.presentFault with
    | some _ => []
    | none => swapHistory (w.callsDuringFrame reentrant frame.presentCalls) callback frame

/-- What a frame does with its image, if it has one. -/
def imageHistory (w : World SessionCall) (callback : Option SwapCallback)
    (frame : Frame SessionCall) : History :=
  match frame.submitted with
  | .presentable => presentHistory w callback frame
  | _ => []

/-- From a submission to the end of its frame. -/
def submitHistory (w : World SessionCall) (submission : Submission)
    (callback : Option SwapCallback) (frame : Frame SessionCall) : History :=
  let w := w.record (.submit submission)
  .told (.submit submission) :: (callHistory w frame.calls ++
    imageHistory (w.callsDuringFrame reentrant frame.calls) callback frame)

/-- While the renderer is told what there is to tell, as long as it does not crash. -/
def tellHistory (w : World SessionCall) : List (Push SessionCall) → History
  | [] => []
  | push :: pushes =>
    let w := w.record push.event
    .told push.event :: (callHistory w push.calls ++
      match push.crash with
      | some _ => []
      | none => tellHistory (w.callsDuringFrame reentrant push.calls) pushes)

end SessionCall

open SessionCall (reentrant tellHistory submitHistory)

/-- How the frame ends, as its script says, and the callback that it started with. -/
def FrameRun.frameEnd (r : FrameRun SessionCall) : FrameEnd := r.fault?.elim .finished .fault

/-- What happens in a frame before it ends. -/
def FrameRun.body (r : FrameRun SessionCall) (config : GraphicsConfig) : History :=
  tellHistory r.begun r.pushes ++
    match r.pushCrash? with
    | some _ => []
    | none =>
      submitHistory (r.told reentrant) (r.submission reentrant config) r.opening.callback r.frame

/-- A frame from its start to its end. -/
def FrameRun.history (r : FrameRun SessionCall) (config : GraphicsConfig) : History :=
  .started r :: (r.body config ++ [.ended r r.frameEnd])

namespace SessionCall

/-- The frames that a session runs when it enters the loop of a renderer. -/
def runsOf (w : World SessionCall) (renderer : Renderer SessionCall) (config : GraphicsConfig) :
    List (FrameRun SessionCall) :=
  (w.enterLoop renderer).rendererRuns reentrant config renderer

/-- What happens with a call: the call itself, or the whole loop if it enters one. -/
def historyOf (w : World SessionCall) (call : SessionCall) : History :=
  match call, w.graphics.phase, w.graphics.renderer, w.graphics.effective with
  | .host name .runLoop, .rendererReady, some renderer, some config =>
    .entered :: ((runsOf w renderer config).flatMap (·.history config) ++
      [.left (perform w (.host name .runLoop)).2, .told .rendererDropped])
  | _, _, _, _ => [.made w call]

/-- The session after calls. -/
def after (w : World SessionCall) : List SessionCall → World SessionCall
  | [] => w
  | call :: calls => after (perform w call).1 calls

/-- Calls in two goes are calls in a row. -/
theorem after_append (w : World SessionCall) (calls more : List SessionCall) :
    after w (calls ++ more) = after (after w calls) more := by
  -- on the calls before: each one is made first on both sides
  induction calls generalizing w with
  | nil => rfl
  | cons call calls ih => exact ih (perform w call).1

/-- What happens with calls, one after the other. -/
def history (w : World SessionCall) : List SessionCall → History
  | [] => []
  | call :: calls => historyOf w call ++ history (perform w call).1 calls

/-! ## Step by step -/

/-- How a session changes with one thing that happens in it. -/
inductive Step : World SessionCall → Happening → World SessionCall → Prop where
  | made {w : World SessionCall} {call : SessionCall}
      (single : perform w call = performWith World.refuseLoop w call) :
      Step w (.made w call) (perform w call).1
  | entered {w : World SessionCall} (ready : w.graphics.phase = .rendererReady)
      (renderer : Renderer SessionCall) : Step w .entered (w.enterLoop renderer)
  /-- The loop looks for a stop before it starts a frame. -/
  | started {r : FrameRun SessionCall} (running : r.start.graphics.phase = .running)
      (going : r.start.graphics.stopRequested = false) : Step r.start (.started r) r.begun
  /-- Only calls of the host reach the device. A submission takes what is published. -/
  | told {w : World SessionCall} {e : Event} (other : e.isDeviceCall = false)
      (published : ∀ s, e = .submit s → s.input = w.router.published)
      (suits : e.SuitsLoop w.graphics) : Step w (.told e) (w.record e)
  | finished {w : World SessionCall} (r : FrameRun SessionCall) (wasPresented : Bool) :
      Step w (.ended r .finished) (w.countFrame r.frame.timing wasPresented)
  | failed {w : World SessionCall} (r : FrameRun SessionCall) (f : FrameFault) :
      Step w (.ended r (.fault f)) (w.afterFrame r.index (.fault f)).1
  | stopped {w : World SessionCall} (running : w.graphics.phase = .running)
      (requested : w.graphics.stopRequested = true) (index : Nat) :
      Step w (.left .stopped) { w.takeStop index with graphics.phase := .stopped }
  | broken {w : World SessionCall} {loopEnd : LoopEnd} (running : w.graphics.phase = .running)
      (unasked : loopEnd ≠ .stopped) :
      Step w (.left loopEnd.answer) { w with graphics.phase := .stopped }

/-- The loop makes a call that is no submission. -/
theorem Step.plain (w : World SessionCall) {e : Event} (other : e.isDeviceCall = false)
    (plain : e.submission? = none) (suits : e.SuitsLoop w.graphics) :
    Step w (.told e) (w.record e) := by
  refine .told other (fun s is => ?_) suits
  rw [is] at plain
  cases plain

/-- The loop tells the renderer of the geometry. -/
theorem Step.push (w : World SessionCall) {e : Event} (geometry : e.isPush = true) :
    Step w (.told e) (w.record e) := by
  cases e with
  | resize | vsync => exact .plain w rfl rfl trivial
  | _ => cases geometry

/-- What happens on the way from one session to another. -/
inductive Trace : World SessionCall → History → World SessionCall → Prop where
  | nil (w : World SessionCall) : Trace w [] w
  | cons {w v u : World SessionCall} {now : Happening} {later : History} (step : Step w now v)
      (rest : Trace v later u) : Trace w (now :: later) u

variable {w v u : World SessionCall} {h k : History}

/-- One trace goes on where the other has ended. -/
theorem Trace.append (first : Trace w h v) (second : Trace v k u) : Trace w (h ++ k) u := by
  -- on the first trace
  induction first with
  | nil => exact second
  | cons step _ ih => exact .cons step (ih second)

/-! ### Frames -/

/-- The calls during a frame are happenings of their own. -/
theorem callHistory_trace (running : w.graphics.phase = .running) (calls : List SessionCall) :
    Trace w (callHistory w calls) (w.callsDuringFrame reentrant calls) := by
  induction calls generalizing w with
  | nil => exact .nil w
  | cons call calls ih =>
    -- no call of the host ends the loop, so the next one is made while it runs as well
    have still := reentrant_discreet.running_invariant.callDuringFrame w call running
    have made : Step w (.made w call) (perform w call).1 := .made (perform_of_running running call)
    have noted : Step (perform w call).1 (.told (.answered call.name (perform w call).2))
        (w.callDuringFrame reentrant call) := .plain _ rfl rfl trivial
    exact .cons made (.cons noted (ih still))

/-- The last step of a frame leads to its end: it is counted there, or has left a fault. -/
inductive Closing (frame : Frame SessionCall) (u : World SessionCall) :
    World SessionCall × FrameEnd → Prop where
  | finished (wasPresented : Bool) :
      Closing frame u (u.countFrame frame.timing wasPresented, .finished)
  | fault (f : FrameFault) : Closing frame u (u, .fault f)

/-- What closes a frame is its end. -/
theorem Closing.step {r : FrameRun SessionCall} {outcome : World SessionCall × FrameEnd}
    (closing : Closing r.frame u outcome) :
    Step u (.ended r outcome.2) (outcome.1.afterFrame r.index outcome.2).1 := by
  cases closing with
  | finished wasPresented => exact .finished r wasPresented
  | fault f => exact .failed r f

/-- A callback is told, makes its calls, and returns or crashes. -/
theorem swapHistory_trace (running : w.graphics.phase = .running)
    (callback : Option SwapCallback) (frame : Frame SessionCall) :
    ∃ u, Trace w (swapHistory w callback frame) u ∧
      Closing frame u (w.swapFrame reentrant callback frame) := by
  cases callback with
  | none => exact ⟨w, .nil w, .finished true⟩
  | some id =>
    have told : Step w (.told (.swap id)) (w.record (.swap id)) := .plain w rfl rfl trivial
    have called := callHistory_trace (w := w.record (.swap id)) running frame.swapCalls
    refine ⟨_, .cons told called, ?_⟩
    simp only [World.swapFrame]
    cases frame.swapCrash with
    | none => exact .finished true
    | some c => exact .fault (.crash c)

/-- An image is presented and goes on to the callback, unless it fails. -/
theorem presentHistory_trace (running : w.graphics.phase = .running)
    (callback : Option SwapCallback) (frame : Frame SessionCall) :
    ∃ u, Trace w (presentHistory w callback frame) u ∧
      Closing frame u (w.presentFrame reentrant callback frame) := by
  have told : Step w (.told .present) (w.record .present) := .plain w rfl rfl trivial
  have called := callHistory_trace (w := w.record .present) running frame.presentCalls
  simp only [presentHistory, World.presentFrame]
  cases frame.presentFault with
  | some f =>
    rw [List.append_nil]
    exact ⟨_, .cons told called, .fault f⟩
  | none =>
    have still := reentrant_discreet.running_invariant.callsDuringFrame frame.presentCalls
      (w := w.record .present) running
    obtain ⟨u, swapped, closing⟩ := swapHistory_trace still callback frame
    exact ⟨u, (Trace.cons told called).append swapped, closing⟩

/-- A submission leads to a fault, to nothing or to an image. -/
theorem imageHistory_trace (running : w.graphics.phase = .running) (r : FrameRun SessionCall) :
    ∃ u, Trace w (imageHistory w r.opening.callback r.frame) u ∧
      Closing r.frame u (match r.frame.submitted with
        | .fault f => (w, .fault f)
        | .idle => (w.countFrame r.frame.timing false, .finished)
        | .presentable => w.presentFrame reentrant r.opening.callback r.frame) := by
  -- how the frame goes on is up to how it was submitted
  simp only [imageHistory]
  cases r.frame.submitted with
  | fault f => exact ⟨w, .nil w, .fault f⟩
  | idle => exact ⟨w, .nil w, .finished false⟩
  | presentable => exact presentHistory_trace running r.opening.callback r.frame

/-- A submission takes what is published by then, under the limits of the renderer. -/
theorem submitHistory_trace (running : w.graphics.phase = .running) (r : FrameRun SessionCall)
    {config : GraphicsConfig} (limited : w.graphics.effective = some config) :
    let submission : Submission := ⟨r.index, r.opening.geometry, config, w.router.published⟩
    ∃ u, Trace w (submitHistory w submission r.opening.callback r.frame) u ∧
      Closing r.frame u (w.submitFrame reentrant config r.index r.opening r.frame) := by
  intro submission
  have told : Step w (.told (.submit submission)) (w.record (.submit submission)) := by
    refine .told rfl (fun s is => ?_) limited
    rw [← Event.submit.inj is]
  have submitted : (w.record (.submit submission)).graphics.phase = .running := running
  have called := callHistory_trace submitted r.frame.calls
  have still := reentrant_discreet.running_invariant.callsDuringFrame r.frame.calls submitted
  obtain ⟨u, image, closing⟩ := imageHistory_trace still r
  exact ⟨u, .cons told (called.append image), closing⟩

/-- The renderer is told of the geometry, and the host makes its calls over each push. -/
theorem tellHistory_trace (running : w.graphics.phase = .running)
    {pushes : List (Push SessionCall)} (geometry : ∀ push ∈ pushes, push.event.isPush = true) :
    Trace w (tellHistory w pushes) (w.tell reentrant pushes).1 := by
  -- only the last push can crash, so what is told is a trace up to the crash or all of it
  induction pushes generalizing w with
  | nil => exact .nil w
  | cons push pushes ih =>
    obtain ⟨first, rest⟩ := List.forall_mem_cons.mp geometry
    have told : Step w (.told push.event) (w.record push.event) := .push w first
    -- a push is a step, and so are the calls over it
    have begun : (w.record push.event).graphics.phase = .running := running
    have called := callHistory_trace begun push.calls
    rw [tellHistory, World.tell]
    cases push.crash with
    | some c =>
      rw [List.append_nil]
      exact .cons told called
    | none =>
      have still := reentrant_discreet.running_invariant.callsDuringFrame push.calls begun
      exact .cons told (called.append (ih still rest))

/-- A frame goes on to its end, step by step. -/
theorem frame_trace (r : FrameRun SessionCall) {config : GraphicsConfig}
    (running : r.start.graphics.phase = .running)
    (limited : r.start.graphics.effective = some config)
    (going : r.start.graphics.stopRequested = false) :
    Trace r.start (r.history config) (r.finish reentrant config).1 := by
  have begun : r.begun.graphics.phase = .running := running
  have told : Trace r.begun (tellHistory r.begun r.pushes) (r.told reentrant) :=
    tellHistory_trace begun r.isPush_of_mem_pushes
  have still := (reentrant_discreet.limited_invariant (some config)).frame.told r
    ⟨running, limited⟩
  obtain ⟨u, body, closing⟩ : ∃ u, Trace r.begun (r.body config) u ∧
      Closing r.frame u (r.start.runFrame reentrant config r.index r.frame) := by
    rw [FrameRun.body, r.runFrame_eq]
    cases r.pushCrash? with
    | some c =>
      rw [List.append_nil]
      exact ⟨_, told, .fault (.crash c)⟩
    | none =>
      obtain ⟨u, submitted, closing⟩ := submitHistory_trace still.1 r still.2
      exact ⟨u, told.append submitted, closing⟩
  -- the frame ends as its script says
  have last : Step u (.ended r r.frameEnd) (r.finish reentrant config).1 := by
    rw [FrameRun.frameEnd, ← r.runFrame_snd reentrant config]
    exact closing.step
  exact .cons (.started running going) (body.append (.cons last (.nil _)))

/-! ### Loops -/

/-- What ends a loop without being asked is no stop. -/
theorem unasked_of_loopEnd? {r : FrameRun SessionCall} {loopEnd : LoopEnd}
    (ends : r.loopEnd? = some loopEnd) : loopEnd ≠ .stopped := by
  obtain ⟨f, -, fatal⟩ := Option.bind_eq_some_iff.mp ends
  cases f with
  | recoverable reason => cases fatal
  | lost reason =>
    cases fatal
    intro stopped
    cases stopped
  | crash c =>
    cases fatal
    intro stopped
    cases stopped

/-- A loop is a trace of its frames and its end. -/
theorem loop_trace {config : GraphicsConfig} {index : Nat} {frames : List (Frame SessionCall)}
    {runs : List (FrameRun SessionCall)} {loopEnd : LoopEnd}
    (loop : LoopRun reentrant config index frames w runs v loopEnd)
    (running : w.graphics.phase = .running) (limited : w.graphics.effective = some config) :
    Trace w (runs.flatMap (·.history config) ++ [.left loopEnd.answer, .told .rendererDropped])
      v.leaveLoop := by
  have dropped (u : World SessionCall) :
      Step u (.told .rendererDropped) (u.record .rendererDropped) := .plain u rfl rfl trivial
  -- by the ways in which a loop can go on; the loop runs at the start of each of its frames
  induction loop with
  | @stop index _ w requested =>
    exact .cons (.stopped running requested index) (.cons (dropped _) (.nil _))
  | @last index frames w v loopEnd going ends =>
    -- a frame that ends the loop is lost or crashes, so no stop is taken up
    have framed := frame_trace ⟨index, frames.headD .exhausted, w⟩ running limited going
    have unasked := unasked_of_loopEnd? ((FrameRun.finish_snd _ _ _).symm.trans (congrArg _ ends))
    have still := (reentrant_discreet.limited_invariant (some config)).finish
      ⟨index, frames.headD .exhausted, w⟩ config ⟨running, limited⟩
    rw [ends] at framed still
    rw [List.flatMap_singleton]
    exact framed.append (.cons (.broken still.1 unasked) (.cons (dropped _) (.nil _)))
  | @next index frame frames w v _ _ _ going continues rest ih =>
    have framed := frame_trace ⟨index, frame, w⟩ running limited going
    have still := (reentrant_discreet.limited_invariant (some config)).finish ⟨index, frame, w⟩
      config ⟨running, limited⟩
    rw [continues] at framed still
    rw [List.flatMap_cons, List.append_assoc]
    exact framed.append (ih still.1 still.2)

/-- The loop of a renderer, from its first frame to its end. -/
theorem renderer_trace {config : GraphicsConfig} {renderer : Renderer SessionCall}
    {runs : List (FrameRun SessionCall)} {loopEnd : LoopEnd}
    (run : RendererRun reentrant config renderer w runs v loopEnd)
    (running : w.graphics.phase = .running) (limited : w.graphics.effective = some config) :
    Trace w (runs.flatMap (·.history config) ++ [.left loopEnd.answer, .told .rendererDropped])
      v.leaveLoop := by
  cases run with
  | @crashed c =>
    -- the renderer crashes before its first frame, and the loop is left at once
    have left : Step w (.left (LoopEnd.crashed c).answer) { w with graphics.phase := .stopped } :=
      .broken running nofun
    exact .cons left (.cons (.plain _ rfl rfl trivial) (.nil _))
  | ran answers loop => exact loop_trace loop running limited

/-- A call that enters the loop runs the frames of the renderer, and answers how the loop ends. -/
theorem perform_runLoop {renderer : Renderer SessionCall} {config : GraphicsConfig}
    (ready : w.graphics.phase = .rendererReady) (held : w.graphics.renderer = some renderer)
    (limited : w.graphics.effective = some config) (name : String) :
    perform w (.host name .runLoop) =
      let loop := World.runRenderer reentrant config renderer (w.enterLoop renderer)
      (loop.1.leaveLoop, loop.2.answer) := by
  have answered (v : World SessionCall) (loopEnd : LoopEnd) :
      World.answering (fun _ => .stopped) (v, loopEnd.result) = (v, loopEnd.answer) := by
    cases loopEnd <;> rfl
  calc perform w (.host name .runLoop)
      = World.answering (fun _ => .stopped) (w.runLoop reentrant) :=
        congrArg (World.answering fun _ => .stopped) (runLoop_reentrant w).symm
    _ = _ := by simp only [World.runLoop, ready, held, limited, answered]

/-- A call that enters no loop is performed as it would be in the middle of a frame. -/
theorem perform_single {call : SessionCall}
    (stays : ∀ name renderer config, call = .host name .runLoop →
      w.graphics.phase = .rendererReady → w.graphics.renderer = some renderer →
      w.graphics.effective = some config → False) :
    perform w call = performWith World.refuseLoop w call := by
  cases call with
  | host name call =>
    cases call with
    | runLoop =>
      obtain ⟨renderer, config, ready, held, limited⟩ | ⟨refused, -⟩ :=
        World.runLoop_cases duringFrame w
      · exact (stays name renderer config rfl ready held limited).elim
      · exact congrArg (World.answering fun _ => .stopped) refused
    | _ => rfl
  | script change => rfl
  | unknown name e => rfl

/-! ### Sessions -/

/-- Every call is a trace of what happens in it. -/
theorem historyOf_trace (w : World SessionCall) (call : SessionCall) :
    Trace w (historyOf w call) (perform w call).1 := by
  simp only [historyOf]
  split
  · -- the loop is entered, and its frames are what happens
    rename_i name renderer config ready held limited
    have run := World.runRenderer_rendererRun reentrant config renderer (w.enterLoop renderer)
    rw [perform_runLoop ready held limited]
    exact .cons (.entered ready renderer) (renderer_trace run rfl limited)
  · -- the call is all that happens
    rename_i stays
    refine .cons (.made (perform_single ?_)) (.nil _)
    rintro name renderer config rfl ready held limited
    exact stays name renderer config rfl ready held limited

/-- The history of a session leads to the session after it. -/
theorem history_trace (w : World SessionCall) (calls : List SessionCall) :
    Trace w (history w calls) (after w calls) := by
  -- on the calls: a call is a trace, and the next one goes on where it has ended
  induction calls generalizing w with
  | nil => exact .nil w
  | cons call calls ih => exact (historyOf_trace w call).append (ih (perform w call).1)

end SessionCall

/-! ## New sessions -/

/-- A session in which nothing has happened yet. -/
structure World.Fresh {κ : Type} (w : World κ) : Prop where
  graphics : w.graphics = {}
  device : w.device = {}
  published : w.router.published = {}
  tick : w.router.tick = 0
  aspect : w.router.aspectRatio = .fixed16x9

/-- A session that opens is a new one. -/
theorem World.fresh_of_ofConfig {κ : Type} {w : World κ} {s : Surroundings κ} {config : HostConfig}
    (opened : World.ofConfig s config = .ok w) : w.Fresh := by
  simp only [ofConfig, Router.ofMaxControllers] at opened
  split at opened
  · cases opened
  · rename_i router valid
    -- the router is a new one too, as the number of controllers has been accepted
    split at valid
    · cases valid
      cases opened
      exact ⟨rfl, rfl, rfl, rfl, rfl⟩
    · cases valid

/-! ## Laws of histories -/

/-- Whether at every moment what happens is right after what has happened before. -/
def History.Always (law : History → Happening → Prop) (h : History) : Prop :=
  ∀ before now later, h = before ++ now :: later → law before now

namespace SessionCall

variable {w v : World SessionCall} {h k : History}

/-- A law that each step obeys, given what the steps before have kept up, is obeyed always. -/
theorem Trace.always_from {P : History → World SessionCall → Prop}
    {law : History → Happening → Prop}
    (keeps : ∀ h w now v, P h w → Step w now v → law h now ∧ P (h ++ [now]) v)
    (trace : Trace w k v) (first : P h w) :
    History.Always (fun before now => law (h ++ before) now) k ∧ P (h ++ k) v := by
  induction trace generalizing h with
  | nil w =>
    refine ⟨fun before now later split => ?_, ?_⟩
    · have never : before ++ now :: later ≠ [] :=
        List.append_ne_nil_of_right_ne_nil before (List.cons_ne_nil now later)
      exact absurd split.symm never
    · rw [List.append_nil]
      exact first
  | @cons w v u now later step rest ih =>
    obtain ⟨obeyed, kept⟩ := keeps h w now v first step
    -- the rest of the history is what happens after `h ++ [now]`
    obtain ⟨always, last⟩ := ih kept
    rw [List.append_assoc] at last
    refine ⟨fun before now' later' split => ?_, last⟩
    -- the law is asked for now, or later and then of a longer past
    cases before with
    | nil =>
      rw [List.nil_append] at split
      obtain ⟨rfl, -⟩ := List.cons.inj split
      rw [List.append_nil]
      exact obeyed
    | cons first before =>
      rw [List.cons_append] at split
      obtain ⟨rfl, remains⟩ := List.cons.inj split
      have obeys := always before now' later' remains
      simp only [List.append_assoc, List.singleton_append] at obeys
      exact obeys

/-- So it is from the start on. -/
theorem Trace.always {P : History → World SessionCall → Prop} {law : History → Happening → Prop}
    (keeps : ∀ h w now v, P h w → Step w now v → law h now ∧ P (h ++ [now]) v)
    (trace : Trace w h v) (first : P [] w) : h.Always law ∧ P h v :=
  trace.always_from keeps first

end SessionCall

/-! ## Calls out of a session -/

/-- The calls out that something makes. -/
def Happening.events : Happening → List Event
  | .made w call => (SessionCall.perform w call).1.events.drop w.events.length
  | .told e => [e]
  | .entered | .started _ | .ended .. | .left _ => []

namespace SessionCall

variable {w v : World SessionCall} {h : History}

/-- A single call belongs to no frame. -/
theorem performWith_events (w : World SessionCall) (call : SessionCall) :
    ∃ calls, (performWith World.refuseLoop w call).1.events = w.events ++ calls ∧
      ∀ e ∈ calls, e.isFrameCall = false := by
  cases call with
  | host name call =>
    obtain ⟨calls, noted, others⟩ := (w.perform_refuseLoop_effect call).events
    exact ⟨calls, noted, fun e mem => (others e mem).frameless⟩
  | script change => exact ⟨[], (List.append_nil _).symm, List.forall_mem_nil _⟩
  | unknown name e => exact ⟨[], (List.append_nil _).symm, List.forall_mem_nil _⟩

/-- What happens calls out as it says. -/
theorem Step.events {now : Happening} (step : Step w now v) :
    v.events = w.events ++ now.events := by
  -- a step of the loop notes what it tells, and all others at most lines of the log
  cases step with
  | @made _ call single =>
    obtain ⟨calls, noted, -⟩ := performWith_events w call
    rw [Happening.events, single, noted, List.drop_left]
  | told => exact w.events_record _
  | entered ready renderer =>
    rw [World.enterLoop, World.events_log]
    exact (List.append_nil _).symm
  | started | finished | broken => exact (List.append_nil _).symm
  | failed r f =>
    rw [Happening.events, List.append_nil]
    cases f with
    | recoverable reason => exact w.countError.events_log _
    | lost reason => exact w.events_log _
    | crash c => rfl
  | stopped running requested index =>
    rw [Happening.events, List.append_nil]
    exact World.events_log { w with graphics.stopRequested := false } _

/-- The calls out of a session are those that its history tells of, in the same order. -/
theorem Trace.events (trace : Trace w h v) : v.events = w.events ++ h.flatMap Happening.events := by
  induction trace with
  | nil => exact (List.append_nil _).symm
  | cons step rest ih => rw [ih, step.events, List.append_assoc, List.flatMap_cons]

end SessionCall

end EmuHost
