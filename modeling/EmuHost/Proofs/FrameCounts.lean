import EmuHost.Proofs.RendererProtocol

/-!
# The statistics of a loop count its frames

A loop counts its frames as they end: one was presented, one had no image, one failed and was given
up. This file shows that the counters always agree with the frames that the loop has run so far,
whatever the host calls during them and however the loop ends. No other call of a session touches
them.

## Key results

- `FrameRun.finish_statistics`: what one frame does to the statistics
- `Statistics.Counts.snoc`: the counters stay in line with the frames
- `LoopRun.counts`: a loop counts its frames, from the first to the last
- `SessionCall.statistics_count_frames`: the counters during a loop, after it, and after other calls
-/

namespace EmuHost

variable {κ : Type}

/-! ## How a frame counts -/

namespace FrameRun

variable (r : FrameRun κ)

/-- Whether the frame was submitted: the renderer has not crashed over the geometry. -/
def wasSubmitted : Bool := r.pushCrash?.isNone

/-- Whether the frame was presented: the presentation went well, and so did the callback that the
frame started with, if there was one. -/
def wasPresented : Bool :=
  r.wasSubmitted && r.frame.submitted = .presentable && r.frame.presentFault.isNone &&
    (r.opening.callback.isNone || r.frame.swapCrash.isNone)

/-- Whether the submission went well, but gave no image. -/
def wasIdle : Bool := r.wasSubmitted && r.frame.submitted = .idle

/-- Whether the submission or the presentation failed for this frame only. -/
def failedRecoverably : Bool :=
  r.wasSubmitted &&
    match r.frame.submitted, r.frame.presentFault with
    | .fault (.recoverable _), _ => true
    | .presentable, some (.recoverable _) => true
    | _, _ => false

/-- A frame that does not fail was presented, unless it had no image. -/
theorem wasPresented_eq : r.wasPresented = (r.fault?.isNone && !r.wasIdle) := by
  unfold wasPresented wasIdle fault? wasSubmitted
  cases r.pushCrash? with
  | some c => rfl
  | none =>
    simp only [Frame.fault?]
    cases r.frame.submitted with
    | fault f => rfl
    | idle => rfl
    | presentable =>
      cases r.frame.presentFault with
      | some f => rfl
      | none => cases r.opening.callback <;> cases r.frame.swapCrash <;> rfl

/-- To have no image is no failure. -/
theorem fault?_of_wasIdle (idle : r.wasIdle = true) : r.fault? = none := by
  simp only [wasIdle, wasSubmitted, Bool.and_eq_true, Option.isNone_iff_eq_none,
    decide_eq_true_eq] at idle
  simp only [fault?, idle.1, Frame.fault?, idle.2]

/-- A crash of the callback is not recoverable, and neither is one over the geometry. -/
theorem failedRecoverably_iff :
    r.failedRecoverably = true ↔ ∃ reason, r.fault? = some (.recoverable reason) := by
  unfold failedRecoverably fault? wasSubmitted
  cases r.pushCrash? with
  | some c => simp
  | none =>
    simp only [Frame.fault?]
    cases r.frame.submitted with
    | fault f => cases f <;> simp
    | idle => simp
    | presentable =>
      cases r.frame.presentFault with
      | some f => cases f <;> simp
      | none => cases r.opening.callback <;> cases r.frame.swapCrash <;> simp

end FrameRun

/-! ## What a frame does to the statistics -/

/-- Up to its end, a frame leaves the statistics alone. -/
theorem Interpreter.Discreet.statistics_invariant {i : Interpreter κ} (discreet : i.Discreet)
    (s : Statistics Binary64) :
    FrameInvariant i fun w => w.graphics.phase = .running ∧ w.graphics.statistics = s where
  record _ _ h := h
  begin _ h := h
  callDuringFrame w call h :=
    have meanwhile := (discreet w call h.1).graphics
    ⟨meanwhile.phase.trans h.1, meanwhile.statistics.trans h.2⟩

section Frame

variable {i : Interpreter κ} (discreet : i.Discreet) {w : World κ}

include discreet

/-- A callback that returns has its frame counted as presented, and one that crashes leaves the
frame uncounted. -/
theorem World.swapFrame_statistics (running : w.graphics.phase = .running)
    (callback : Option SwapCallback) (frame : Frame κ) :
    (w.swapFrame i callback frame).1.graphics.statistics =
      if callback.isNone || frame.swapCrash.isNone then
        w.graphics.statistics.recordFrame frame.timing true
      else w.graphics.statistics := by
  cases callback with
  | none => rfl
  | some id =>
    have called := (discreet.statistics_invariant w.graphics.statistics).callsDuringFrame
      frame.swapCalls (w := w.record (.swap id)) ⟨running, rfl⟩
    -- the counter is raised behind the callback, so a crash of it comes first
    simp only [swapFrame]
    cases frame.swapCrash with
    | some c => exact called.2
    | none => exact congrArg (·.recordFrame frame.timing true) called.2

/-- Presenting counts the frame, unless it fails or the callback crashes. -/
theorem World.presentFrame_statistics (running : w.graphics.phase = .running)
    (callback : Option SwapCallback) (frame : Frame κ) :
    (w.presentFrame i callback frame).1.graphics.statistics =
      if frame.presentFault.isNone && (callback.isNone || frame.swapCrash.isNone) then
        w.graphics.statistics.recordFrame frame.timing true
      else w.graphics.statistics := by
  obtain ⟨still, same⟩ := (discreet.statistics_invariant w.graphics.statistics).callsDuringFrame
    frame.presentCalls (w := w.record .present) ⟨running, rfl⟩
  simp only [presentFrame]
  cases frame.presentFault with
  | some f => exact same
  | none =>
    rw [swapFrame_statistics discreet still, same]
    rfl

/-- From the submission on a frame is counted if it does not fail. -/
theorem World.submitFrame_statistics (running : w.graphics.phase = .running)
    (config : GraphicsConfig) (index : Nat) (start : FrameStart) (frame : Frame κ) :
    (w.submitFrame i config index start frame).1.graphics.statistics =
      if (frame.fault? start.callback).isNone then
        w.graphics.statistics.recordFrame frame.timing (frame.submitted = .presentable)
      else w.graphics.statistics := by
  let submission : Submission := ⟨index, start.geometry, config, w.router.published⟩
  obtain ⟨still, same⟩ := (discreet.statistics_invariant w.graphics.statistics).callsDuringFrame
    frame.calls (w := w.record (.submit submission)) ⟨running, rfl⟩
  -- only a frame without an image or one that was presented gets as far as the counter
  cases submitted : frame.submitted with
  | fault f =>
    simp only [submitFrame, Frame.fault?, submitted]
    exact same
  | idle =>
    simp only [submitFrame, Frame.fault?, submitted]
    exact congrArg (·.recordFrame frame.timing false) same
  | presentable =>
    simp only [submitFrame, Frame.fault?, submitted]
    have presented := presentFrame_statistics discreet still start.callback frame
    rw [same] at presented
    refine presented.trans ?_
    cases frame.presentFault with
    | some f => rfl
    | none => cases start.callback <;> cases frame.swapCrash <;> rfl

/-- A frame is counted if it does not fail. -/
theorem FrameRun.runFrame_statistics (r : FrameRun κ) (config : GraphicsConfig)
    (running : r.start.graphics.phase = .running) :
    (r.start.runFrame i config r.index r.frame).1.graphics.statistics =
      if r.fault?.isNone then
        r.start.graphics.statistics.recordFrame r.frame.timing r.wasPresented
      else r.start.graphics.statistics := by
  obtain ⟨still, same⟩ :=
    (discreet.statistics_invariant r.start.graphics.statistics).told r ⟨running, rfl⟩
  have counted := World.submitFrame_statistics discreet still config r.index r.opening r.frame
  rw [runFrame_eq]
  cases told : r.pushCrash? with
  | some c =>
    simp only [fault?, told]
    exact same
  | none =>
    simp only [fault?, told]
    rw [counted, same]
    cases fault : r.frame.fault? r.opening.callback with
    | some f => rfl
    | none =>
      -- the crash over the geometry comes before anything that counts
      -- without a failure a frame that has an image was presented
      have presented : r.wasPresented = decide (r.frame.submitted = .presentable) := by
        rw [wasPresented_eq, fault?, told, fault, wasIdle, wasSubmitted, told]
        cases submitted : r.frame.submitted with
        | fault f => simp [Frame.fault?, submitted] at fault
        | idle | presentable => rfl
      rw [presented]

end Frame

/-- Behind the frame only an error that the loop survives is counted. -/
theorem World.afterFrame_statistics (w : World κ) (index : Nat) (fault : Option FrameFault) :
    (w.afterFrame index (fault.elim .finished .fault)).1.graphics.statistics =
      match fault with
      | some (.recoverable _) => w.graphics.statistics.recordError
      | _ => w.graphics.statistics := by
  obtain _ | _ | _ | _ := fault <;> rfl

/-- A frame that does not fail is counted as a frame, one that is given up as an error, and one that
ends the loop not at all. -/
theorem FrameRun.finish_statistics {i : Interpreter κ} (discreet : i.Discreet) (r : FrameRun κ)
    (config : GraphicsConfig) (running : r.start.graphics.phase = .running) :
    (r.finish i config).1.graphics.statistics =
      match r.fault? with
      | none => r.start.graphics.statistics.recordFrame r.frame.timing r.wasPresented
      | some (.recoverable _) => r.start.graphics.statistics.recordError
      | some _ => r.start.graphics.statistics := by
  have counted := r.runFrame_statistics discreet config running
  simp only [finish, r.runFrame_snd, World.afterFrame_statistics]
  cases fault : r.fault? with
  | none =>
    rw [fault] at counted
    exact counted
  | some f =>
    rw [fault] at counted
    cases f with
    | recoverable reason => exact congrArg Statistics.recordError counted
    | lost reason => exact counted
    | crash c => exact counted

/-! ## Counters and frames -/

/-- Whether the counters of a loop are those of the frames that it has run. -/
structure Statistics.Counts (s : Statistics Binary64) (frames : List (FrameRun κ)) : Prop where
  presented : s.presented = frames.countP (·.wasPresented)
  submitted : s.submitted = frames.countP (·.wasPresented) + frames.countP (·.wasIdle)
  recoverableErrors : s.recoverableErrors = frames.countP (·.failedRecoverably)
  /-- Frames and errors together are the frames that have not ended the loop. -/
  finished : s.submitted + s.recoverableErrors = frames.countP (·.loopEnd?.isNone)
  presented_le : s.presented ≤ s.submitted

namespace Statistics.Counts

variable {s t : Statistics Binary64} {frames : List (FrameRun κ)}

/-- A new session has counted no frames. -/
theorem nil : Counts Statistics.empty ([] : List (FrameRun κ)) :=
  ⟨rfl, rfl, rfl, rfl, Nat.le_refl 0⟩

/-- One more frame is counted if it is of the kind. -/
theorem countP_snoc (p : FrameRun κ → Bool) (frames : List (FrameRun κ)) (r : FrameRun κ) :
    (frames ++ [r]).countP p = frames.countP p + (p r).toNat := by
  rw [List.countP_append, List.countP_singleton]
  cases p r <;> rfl

/-- One more frame is counted in the way in which it ended, if there is one. -/
theorem snoc (h : s.Counts frames) (r : FrameRun κ)
    (presented : t.presented = s.presented + r.wasPresented.toNat)
    (submitted : t.submitted = s.submitted + (r.wasPresented.toNat + r.wasIdle.toNat))
    (errors : t.recoverableErrors = s.recoverableErrors + r.failedRecoverably.toNat)
    (way : r.loopEnd?.isNone.toNat =
      r.wasPresented.toNat + r.wasIdle.toNat + r.failedRecoverably.toNat) :
    t.Counts (frames ++ [r]) where
  presented := by rw [countP_snoc, presented, h.presented]
  submitted := by
    rw [countP_snoc, countP_snoc, submitted, h.submitted]
    omega
  recoverableErrors := by rw [countP_snoc, errors, h.recoverableErrors]
  finished := by
    rw [countP_snoc, way, submitted, errors, ← h.finished]
    omega
  presented_le := by
    have := h.presented_le
    omega

/-- The end of a frame keeps the counters in line with the frames. -/
theorem finish (h : s.Counts frames) {i : Interpreter κ} (discreet : i.Discreet) {r : FrameRun κ}
    (config : GraphicsConfig) (running : r.start.graphics.phase = .running)
    (start : r.start.graphics.statistics = s) :
    (r.finish i config).1.graphics.statistics.Counts (frames ++ [r]) := by
  have presented := r.wasPresented_eq
  have idle := r.fault?_of_wasIdle
  have failed := r.failedRecoverably_iff
  rw [r.finish_statistics discreet config running, start]
  cases fault : r.fault? with
  | none =>
    have unfailed : r.failedRecoverably = false := by simpa [fault] using failed
    have goesOn : r.loopEnd? = none := by simp [FrameRun.loopEnd?, fault]
    cases wasIdle : r.wasIdle
    · -- without an image there is nothing that could have been presented
      have wasPresented : r.wasPresented = true := by simpa [fault, wasIdle] using presented
      apply h.snoc r <;> simp [recordFrame, wasPresented, wasIdle, unfailed, goesOn]
    · have unpresented : r.wasPresented = false := by simpa [fault, wasIdle] using presented
      apply h.snoc r <;> simp [recordFrame, unpresented, wasIdle, unfailed, goesOn]
  | some f =>
    have unpresented : r.wasPresented = false := by simpa [fault] using presented
    have noIdle : r.wasIdle = false := by simpa [fault] using idle
    have ends : r.loopEnd? = f.loopEnd? := by simp [FrameRun.loopEnd?, fault]
    cases f with
    | recoverable reason =>
      have givenUp : r.failedRecoverably = true := failed.mpr ⟨reason, fault⟩
      apply h.snoc r <;>
        simp [recordError, unpresented, noIdle, givenUp, ends, FrameFault.loopEnd?]
    | lost reason =>
      have unfailed : r.failedRecoverably = false := by simpa [fault] using failed
      apply h.snoc r <;> simp [unpresented, noIdle, unfailed, ends, FrameFault.loopEnd?]
    | crash c =>
      have unfailed : r.failedRecoverably = false := by simpa [fault] using failed
      apply h.snoc r <;> simp [unpresented, noIdle, unfailed, ends, FrameFault.loopEnd?]

end Statistics.Counts

/-! ## Loops -/

/-- What holds at every place of a list, by the part before it: at the head, and at the places of
the tail. -/
theorem forall_split_cons {α : Type} {P : List α → α → Prop} {a : α} {l : List α} (head : P [] a)
    (tail : ∀ earlier b later, l = earlier ++ b :: later → P (a :: earlier) b) :
    ∀ earlier b later, a :: l = earlier ++ b :: later → P earlier b := by
  intro earlier b later split
  cases earlier with
  | nil =>
    rw [List.nil_append, List.cons.injEq] at split
    rw [← split.1]
    exact head
  | cons first earlier =>
    rw [List.cons_append, List.cons.injEq] at split
    obtain ⟨rfl, split⟩ := split
    exact tail earlier b later split

/-- A loop counts its frames: each starts with the counters of those before it, and in the end all
of them are counted. -/
theorem LoopRun.counts {i : Interpreter κ} (discreet : i.Discreet) {config : GraphicsConfig}
    {index : Nat} {frames : List (Frame κ)} {w v : World κ} {runs : List (FrameRun κ)}
    {loopEnd : LoopEnd} (loop : LoopRun i config index frames w runs v loopEnd)
    (running : w.graphics.phase = .running) {done : List (FrameRun κ)}
    (h : w.graphics.statistics.Counts done) :
    (∀ earlier r later, runs = earlier ++ r :: later →
      r.start.graphics.phase = .running ∧ r.start.graphics.statistics.Counts (done ++ earlier)) ∧
      v.graphics.statistics.Counts (done ++ runs) := by
  -- the first frame starts with the frames that were done before
  have first := h
  rw [← done.append_nil] at first
  -- on the loop, with the frames that were done so far: they grow by the one that starts it
  induction loop generalizing done with
  | stop => exact ⟨by simp, first⟩
  | @last index frames w _ _ going ends =>
    have counted := h.finish discreet (r := ⟨index, frames.headD .exhausted, w⟩) config running rfl
    rw [ends] at counted
    exact ⟨forall_split_cons ⟨running, first⟩ (by simp), counted⟩
  | @next index frame _ w _ _ _ _ going continues rest ih =>
    have counted := h.finish discreet (r := ⟨index, frame, w⟩) config running rfl
    have still := discreet.running_invariant.finish ⟨index, frame, w⟩ config running
    rw [continues] at counted still
    -- and the others with this frame among them
    obtain ⟨starts, ended⟩ := ih still counted (by rwa [List.append_nil])
    simp only [List.append_assoc, List.singleton_append] at starts ended
    exact ⟨forall_split_cons ⟨running, first⟩ starts, ended⟩

/-- The loop of a renderer that crashes at once has no frames to count. -/
theorem RendererRun.counts {i : Interpreter κ} (discreet : i.Discreet) {config : GraphicsConfig}
    {renderer : Renderer κ} {w v : World κ} {runs : List (FrameRun κ)} {loopEnd : LoopEnd}
    (run : RendererRun i config renderer w runs v loopEnd)
    (running : w.graphics.phase = .running)
    (h : w.graphics.statistics.Counts ([] : List (FrameRun κ))) :
    (∀ earlier r later, runs = earlier ++ r :: later →
      r.start.graphics.phase = .running ∧ r.start.graphics.statistics.Counts earlier) ∧
      v.graphics.statistics.Counts runs := by
  cases run with
  | crashed => exact ⟨by simp, h⟩
  | ran answers loop => exact loop.counts discreet running h

/-! ## Calls of a session -/

/-- No way of a call touches the statistics. Even a teardown keeps them. -/
theorem World.Effect.statistics {w v : World κ} {call : HostCall} {answer : Answer}
    (effect : w.Effect call v answer) : v.graphics.statistics = w.graphics.statistics := by
  cases effect with
  | device uses touches => rw [touches.same]
  | _ => rfl

/-- The counters of a loop that runs the frames `runs` of a renderer, and of the session that it
leaves. -/
structure CountsLoop (w : World SessionCall) (renderer : Renderer SessionCall)
    (config : GraphicsConfig) (runs : List (FrameRun SessionCall)) (after : World SessionCall) :
    Prop where
  /-- The loop starts to count anew. -/
  entered : (w.enterLoop renderer).graphics.statistics = .empty
  /-- Wherever a frame hands over control, the frames before it are counted. -/
  during : ∀ earlier r later, runs = earlier ++ r :: later →
    ∀ v ∈ r.states SessionCall.reentrant config, v.graphics.statistics.Counts earlier
  /-- However the loop ends, all its frames are counted. -/
  ended : after.graphics.statistics.Counts runs

namespace SessionCall

/-- Whether a call runs the loop of a renderer, that is ready and held, under its limits. -/
structure RunsLoop (w : World SessionCall) (call : SessionCall) (renderer : Renderer SessionCall)
    (config : GraphicsConfig) : Prop where
  loops : ∃ name, call = .host name .runLoop
  ready : w.graphics.phase = .rendererReady
  held : w.graphics.renderer = some renderer
  limited : w.graphics.effective = some config

/-- A loop that is entered counts its frames from nothing. -/
theorem runLoop_countsLoop {w : World SessionCall} {renderer : Renderer SessionCall}
    {config : GraphicsConfig} (ready : w.graphics.phase = .rendererReady)
    (held : w.graphics.renderer = some renderer) (limited : w.graphics.effective = some config) :
    CountsLoop w renderer config
      ((w.enterLoop renderer).rendererRuns reentrant config renderer)
      (w.runLoop reentrant).1 := by
  have run := World.runRenderer_rendererRun reentrant config renderer (w.enterLoop renderer)
  obtain ⟨starts, ended⟩ := run.counts reentrant_discreet rfl .nil
  constructor
  case entered => rfl
  case during =>
    intro earlier r later split v inside
    obtain ⟨running, counts⟩ := starts earlier r later split
    -- up to its end, the frame does not touch the counters that it started with
    have invariant := reentrant_discreet.statistics_invariant r.start.graphics.statistics
    rw [(invariant.states r config ⟨running, rfl⟩ v inside).2]
    exact counts
  case ended =>
    simp only [World.runLoop, ready, held, limited]
    exact ended

/-- Any other call leaves the statistics alone, and so does a loop that is refused. -/
theorem perform_statistics {w : World SessionCall} {call : SessionCall}
    (other : ¬∃ renderer config, RunsLoop w call renderer config) :
    (perform w call).1.graphics.statistics = w.graphics.statistics := by
  cases call with
  | host name call =>
    -- a loop is the only call that counts, so what is left is a loop that is refused
    by_cases loops : call = .runLoop
    · subst loops
      have refused : w.runLoop duringFrame = w.refuseLoop := by
        apply World.runLoop_refused
        rintro ⟨renderer, config, ready, held, limited⟩
        exact other ⟨renderer, config, ⟨name, rfl⟩, ready, held, limited⟩
      simp only [perform, performWith, World.perform, World.answering_fst, refused]
      rfl
    · exact (w.perform_effect fun looping => absurd looping loops).statistics
  | script change => rfl
  | unknown name e => rfl

/-- Whatever the host calls during the frames of a loop, and however they end, the counters are
those of the frames that the loop has run. No other call touches them. -/
theorem statistics_count_frames (w : World SessionCall) (call : SessionCall) :
    (∀ renderer config, RunsLoop w call renderer config →
      CountsLoop w renderer config
        ((w.enterLoop renderer).rendererRuns reentrant config renderer)
        (perform w call).1) ∧
      ((¬∃ renderer config, RunsLoop w call renderer config) →
        (perform w call).1.graphics.statistics = w.graphics.statistics) := by
  refine ⟨?_, perform_statistics⟩
  rintro renderer config ⟨⟨name, rfl⟩, ready, held, limited⟩
  have after : (perform w (.host name .runLoop)).1 = (w.runLoop reentrant).1 := by
    rw [runLoop_reentrant]
    exact World.answering_fst ..
  rw [after]
  exact runLoop_countsLoop ready held limited

end SessionCall

/-- A renderer whose frames end in every way: presented, without an image, given up twice, and with
a crash of the callback. -/
def Renderer.mixed : Renderer SessionCall where
  backend := .openGl
  prefersThreading := false
  anisotropyCeiling := maxAnisotropy
  frames :=
    [{}, { submitted := .idle }, { presentFault := some (.recoverable "surface is out of date") },
      { submitted := .fault (.recoverable "no image") }, { swapCrash := some ⟨some "swap"⟩ }]

def World.mixed : World SessionCall :=
  { World.meddled with
    graphics :=
      { World.meddled.graphics with
        renderer := some .mixed
        surface := { callback := some "swapped" } } }

/-- The crash ends the loop after one frame presented, one without an image, and two errors; the
teardown that follows leaves the counters as they are. -/
theorem SessionCall.statistics_count_frames_mixed :
    RunsLoop .mixed (.host "run_loop" .runLoop) .mixed {} ∧
      (¬∃ renderer config, RunsLoop (perform .mixed (.host "run_loop" .runLoop)).1
        (.host "teardown" .tearDown) renderer config) ∧
      ∃ s : Statistics Binary64, s.presented = 1 ∧ s.submitted = 2 ∧ s.recoverableErrors = 2 ∧
        (perform .mixed (.host "run_loop" .runLoop)).1.graphics.statistics = s ∧
        (perform (perform .mixed (.host "run_loop" .runLoop)).1
          (.host "teardown" .tearDown)).1.graphics.statistics = s := by
  have runs : RunsLoop .mixed (.host "run_loop" .runLoop) .mixed {} := ⟨⟨_, rfl⟩, rfl, rfl, rfl⟩
  have other : ¬∃ renderer config, RunsLoop (perform .mixed (.host "run_loop" .runLoop)).1
      (.host "teardown" .tearDown) renderer config := by
    rintro ⟨renderer, config, ⟨name, loops⟩, -⟩
    simp at loops
  have counts :=
    ((statistics_count_frames .mixed (.host "run_loop" .runLoop)).1 .mixed {} runs).ended
  have kept := (statistics_count_frames _ (.host "teardown" .tearDown)).2 other
  exact ⟨runs, other, _, counts.presented.trans rfl, counts.submitted.trans rfl,
    counts.recoverableErrors.trans rfl, rfl, kept⟩

end EmuHost
