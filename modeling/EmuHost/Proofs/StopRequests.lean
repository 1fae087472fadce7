import EmuHost.Proofs.FailedCalls

/-!
# Requests to stop

A request to stop belongs to the renderer that there is when it is made. It is pending from then on
until a new renderer is made (`History.stopPending`), and while it is pending no frame starts. This
file shows that the flag in the session says just that whenever there is a renderer to run: the
three places that clear it are those at which nothing is left to stop.

## Key results

- `SessionCall.TracksStop.step`: whatever happens, the flag says whether a request is pending
- `FrameRun.history_renderCalls`: a frame runs to its own end, whoever asks for what during it
- `SessionCall.stops_honoured`: what requests mean for the loops of a session
-/

namespace EmuHost

/-- Whether a call asks the loop to stop. -/
def HostCall.requestsStop : HostCall → Bool
  | .requestStop => true
  | _ => false

/-- Whether a request is pending after what happens now. A new renderer has none. -/
def Happening.stopPending (pending : Bool) : Happening → Bool
  | .made w (.host name call) =>
    call.requestsStop ||
      (pending && !call.makesRenderer (SessionCall.perform w (.host name call)).2)
  | _ => pending

/-- Whether there was a request since the last renderer was made. -/
def History.stopPending (h : History) : Bool := h.foldl Happening.stopPending false

/-- What is pending is up to what happens last, and what was pending before. -/
theorem History.stopPending_concat (h : History) (now : Happening) :
    stopPending (h ++ [now]) = now.stopPending h.stopPending := by
  rw [stopPending, List.foldl_append]
  rfl

/-! ## The flag of a session -/

namespace SessionCall

variable {w v : World SessionCall} {h : History}

/-- While there is a renderer to run, the flag of a session says whether a request is pending. -/
def TracksStop (h : History) (w : World SessionCall) : Prop :=
  w.graphics.phase = .rendererReady ∨ w.graphics.phase = .running →
    w.graphics.stopRequested = h.stopPending

/-- What does not concern the request keeps it tracked, in the phases that look at it. -/
theorem TracksStop.keep (tracks : TracksStop h w) {now : Happening}
    (quiet : now.stopPending h.stopPending = h.stopPending)
    (phase : v.graphics.phase = w.graphics.phase)
    (stop : v.graphics.stopRequested = w.graphics.stopRequested) : TracksStop (h ++ [now]) v := by
  intro ready
  rw [phase] at ready
  rw [stop, tracks ready, h.stopPending_concat, quiet]

/-- A flag of a phase without a renderer tracks nothing. -/
theorem TracksStop.of_unready (phase : v.graphics.phase = .uninitialized ∨
    v.graphics.phase = .configured ∨ v.graphics.phase = .stopped) : TracksStop h v := by
  intro ready
  obtain phase | phase | phase := phase
  all_goals
    rw [phase] at ready
    obtain ready | ready := ready <;> cases ready

/-- A call between loops or in a frame leaves the flag alone, sets it, or makes a new renderer. -/
theorem TracksStop.host (tracks : TracksStop h w) (name : String) {call : HostCall}
    {answer : Answer} (effect : w.Effect call v answer)
    (answered : (perform w (.host name call)).2 = answer) :
    TracksStop (h ++ [.made w (.host name call)]) v := by
  have pending : Happening.stopPending h.stopPending (.made w (.host name call)) =
      (call.requestsStop || (h.stopPending && !call.makesRenderer answer)) := by
    rw [Happening.stopPending, answered]
  -- most ways have nothing to do with the request
  have keep (asks : call.requestsStop = false) (makes : call.makesRenderer answer = false)
      (phase : v.graphics.phase = w.graphics.phase)
      (stop : v.graphics.stopRequested = w.graphics.stopRequested) :
      TracksStop (h ++ [.made w (.host name call)]) v := by
    refine tracks.keep ?_ phase stop
    rw [pending, makes, asks]
    exact Bool.and_true _
  cases effect with
  | looked looks =>
    refine keep ?_ ?_ rfl rfl
    · cases call <;> first | rfl | cases looks
    · cases call <;> first | rfl | cases looks
  | refused refusable =>
    refine keep ?_ (HostCall.makesRenderer_of_plain rfl) rfl rfl
    cases call <;> first | rfl | cases refusable
  | input | sized | vsynced | installed | reloaded | updated => exact keep rfl rfl rfl rfl
  | uncreated asks | dropped asks =>
    refine keep ?_ (HostCall.makesRenderer_of_plain rfl) rfl rfl
    cases call <;> first | rfl | cases asks
  | unserved service =>
    refine keep ?_ (HostCall.makesRenderer_of_plain rfl) rfl rfl
    cases call <;> first | rfl | cases service
  | device uses touches called plain =>
    refine keep ?_ (HostCall.makesRenderer_of_plain plain) (by rw [touches.same])
      (by rw [touches.same])
    cases call <;> first | rfl | cases uses
  | created asks =>
    -- a new renderer starts without a request
    have makes (info : RendererInfo) : call.makesRenderer (.renderer info) = true := by
      cases call <;> first | rfl | cases asks
    have silent : call.requestsStop = false := by
      cases call <;> first | rfl | cases asks
    intro _
    rw [h.stopPending_concat, pending, makes, silent]
    exact (Bool.and_false _).symm
  | stopRequested =>
    intro _
    rw [h.stopPending_concat, pending]
    rfl
  | configured => exact .of_unready (.inr (.inl rfl))
  | tornDown => exact .of_unready (.inl rfl)

/-- Whatever happens, the flag says whether a request is pending. -/
theorem TracksStop.step (tracks : TracksStop h w) {now : Happening} (step : Step w now v) :
    TracksStop (h ++ [now]) v := by
  -- by cases of what happens, in the order of a session: calls first, then the loop
  cases step with
  | @made _ call single =>
    cases call with
    | host name call =>
      have answered : (perform w (.host name call)).2 = (w.perform World.refuseLoop call).2 :=
        congrArg Prod.snd single
      rw [single]
      exact tracks.host name (w.perform_refuseLoop_effect call) answered
    | script change => exact tracks.keep rfl rfl rfl
    | unknown name e => exact tracks.keep rfl rfl rfl
  | entered ready renderer =>
    intro _
    rw [h.stopPending_concat]
    exact tracks (.inl ready)
  | failed r f => cases f <;> exact tracks.keep rfl rfl rfl
  | started | told | finished => exact tracks.keep rfl rfl rfl
  -- a loop that is over has used its renderer up, and with it the request
  | stopped | broken => exact .of_unready (.inr (.inr rfl))

/-- What requests mean for each thing that happens. -/
def HonoursStops (before : History) : Happening → Prop
  -- no frame starts while a request is pending
  | .started _ => before.stopPending = false
  -- and no loop is stopped unless one is
  | .left answer => answer = .stopped → before.stopPending = true
  -- a call that fails leaves a request alone, even if it would have ended it
  | .made w (.host name call) => ∀ e, (perform w (.host name call)).2 = .failed (.error e) →
      (perform w (.host name call)).1.graphics.stopRequested = w.graphics.stopRequested
  | _ => True

/-- The flag being tracked, what happens honours the requests. -/
theorem TracksStop.honours (tracks : TracksStop h w) {now : Happening} (step : Step w now v) :
    HonoursStops h now := by
  cases step with
  | @made _ call single =>
    cases call with
    | host name call =>
      have single : perform w (.host name call) = w.perform World.refuseLoop call := single
      intro e failed
      rw [single] at failed ⊢
      have effect := w.perform_refuseLoop_effect call
      rw [failed] at effect
      rw [effect.spared.graphics]
    | script change => trivial
    | unknown name e => trivial
  | started running going =>
    -- the loop has just looked at the flag, which says the same as the history
    show h.stopPending = false
    rw [← tracks (.inr running), going]
  | stopped running requested =>
    intro _
    rw [← tracks (.inr running), requested]
  | @broken _ loopEnd running unasked =>
    -- the answer tells a stop from the other ends of a loop
    intro answer
    cases loopEnd with
    | stopped => exact absurd rfl unasked
    | lost reason => cases answer
    | crashed c => cases answer
  | entered | told | finished | failed => trivial

/-- A new session has no request to honour. -/
theorem tracksStop_fresh (fresh : w.Fresh) : TracksStop [] w := by
  intro _
  rw [fresh.graphics]
  rfl

/-- Requests are honoured always, in whatever order the host makes its calls. -/
theorem history_honoursStops (fresh : w.Fresh) (calls : List SessionCall) :
    (history w calls).Always HonoursStops := by
  have keeps (h : History) (w : World SessionCall) (now : Happening) (v : World SessionCall)
      (tracks : TracksStop h w) (step : Step w now v) :
      HonoursStops h now ∧ TracksStop (h ++ [now]) v :=
    ⟨tracks.honours step, tracks.step step⟩
  exact ((history_trace w calls).always keeps (tracksStop_fresh fresh)).1

/-- The history of calls in two goes. -/
theorem history_append (w : World SessionCall) (first second : List SessionCall) :
    history w (first ++ second) = history w first ++ history (after w first) second := by
  induction first generalizing w with
  | nil => rfl
  | cons call first ih =>
    show historyOf w call ++ history (perform w call).1 (first ++ second) = _
    rw [ih, ← List.append_assoc]
    rfl

end SessionCall

/-! ## Frames in flight -/

/-- The calls of a loop to the renderer and to the callback. -/
def History.renderCalls (h : History) : List Event :=
  h.filterMap fun
    | .told e => if e.isRenderCall then some e else none
    | _ => none

namespace History

/-- The calls of a history in two parts. -/
theorem renderCalls_append (h k : History) :
    renderCalls (h ++ k) = h.renderCalls ++ k.renderCalls := List.filterMap_append

end History

namespace SessionCall

open History (renderCalls renderCalls_append)

/-- Calls of the host tell the renderer nothing themselves. -/
theorem callHistory_renderCalls (w : World SessionCall) (calls : List SessionCall) :
    (callHistory w calls).renderCalls = [] := by
  induction calls generalizing w with
  | nil => rfl
  | cons call calls ih => exact ih _

/-- The callback is told once, if there is one. -/
theorem swapHistory_renderCalls (w : World SessionCall) (callback : Option SwapCallback)
    (frame : Frame SessionCall) :
    (swapHistory w callback frame).renderCalls = callback.toList.map .swap := by
  cases callback with
  | none => rfl
  | some id =>
    show .swap id :: renderCalls (callHistory _ frame.swapCalls) = _
    rw [callHistory_renderCalls]
    rfl

/-- An image is presented and shown to the callback. -/
theorem presentHistory_renderCalls (w : World SessionCall) (callback : Option SwapCallback)
    (frame : Frame SessionCall) :
    (presentHistory w callback frame).renderCalls = .present :: frame.afterPresent callback := by
  have told (h : History) : renderCalls (.told .present :: h) = .present :: h.renderCalls := rfl
  simp only [presentHistory, Frame.afterPresent]
  rw [renderCalls_append, told, callHistory_renderCalls, List.singleton_append]
  cases frame.presentFault with
  | some f => rfl
  | none => exact congrArg _ (swapHistory_renderCalls _ callback frame)

/-- What becomes of a submission. -/
theorem imageHistory_renderCalls (w : World SessionCall) (callback : Option SwapCallback)
    (frame : Frame SessionCall) :
    (imageHistory w callback frame).renderCalls = frame.afterSubmit callback := by
  simp only [imageHistory, Frame.afterSubmit]
  cases frame.submitted with
  | presentable => exact presentHistory_renderCalls w callback frame
  | idle | fault => rfl

/-- From the submission on. -/
theorem submitHistory_renderCalls (w : World SessionCall) (submission : Submission)
    (callback : Option SwapCallback) (frame : Frame SessionCall) :
    (submitHistory w submission callback frame).renderCalls =
      .submit submission :: frame.afterSubmit callback := by
  have told (h : History) : renderCalls (.told (.submit submission) :: h) =
      .submit submission :: h.renderCalls := rfl
  rw [submitHistory, told, renderCalls_append, callHistory_renderCalls,
    imageHistory_renderCalls, List.nil_append]

/-- And before it, as far as the renderer is told. -/
theorem tellHistory_renderCalls (w : World SessionCall) {pushes : List (Push SessionCall)}
    (geometry : ∀ push ∈ pushes, push.event.isPush = true) :
    (tellHistory w pushes).renderCalls = Push.told pushes := by
  induction pushes generalizing w with
  | nil => rfl
  | cons push pushes ih =>
    obtain ⟨first, rest⟩ := List.forall_mem_cons.mp geometry
    have told (h : History) : renderCalls (.told push.event :: h) = push.event :: h.renderCalls := by
      simp only [renderCalls, List.filterMap_cons, Event.isRenderCall_of_isPush first, if_true]
    rw [tellHistory, told, renderCalls_append, callHistory_renderCalls, Push.told, List.nil_append]
    cases push.crash with
    | some c => rfl
    | none => exact congrArg (push.event :: ·) (ih _ rest)

end SessionCall

open History (renderCalls renderCalls_append) in
/-- A frame runs to its own end, whoever asks for what during it. -/
theorem FrameRun.history_renderCalls (r : FrameRun SessionCall) (config : GraphicsConfig) :
    (r.history config).renderCalls = r.calls SessionCall.reentrant config := by
  have framed : (r.history config).renderCalls = (r.body config).renderCalls := by
    calc (r.history config).renderCalls
        = renderCalls (r.body config ++ [.ended r r.frameEnd]) := renderCalls_append [_] _
      _ = (r.body config).renderCalls ++ [] := renderCalls_append ..
      _ = (r.body config).renderCalls := List.append_nil _
  rw [framed, body, renderCalls_append, calls,
    SessionCall.tellHistory_renderCalls r.begun r.isPush_of_mem_pushes]
  cases r.pushCrash? with
  | some c => rfl
  | none => exact congrArg _ (SessionCall.submitHistory_renderCalls ..)

/-! ## Loops -/

/-- What requests mean for a loop that is entered after `before` and runs the frames `runs`. -/
structure LoopHonoursStops (before : History) (renderer : Renderer SessionCall)
    (config : GraphicsConfig) (runs : List (FrameRun SessionCall)) (answer : Answer) : Prop where
  /-- Once a request is pending no frame starts. -/
  going : ∀ done r rest, runs = done ++ r :: rest →
    History.stopPending (before ++ done.flatMap (·.history config)) = false
  /-- The frame in flight runs to its end all the same. -/
  whole : ∀ r ∈ runs, (r.history config).renderCalls = r.calls SessionCall.reentrant config ∧
    r.HasForm (r.calls SessionCall.reentrant config)
  /-- The loop is stopped unless its last frame loses the backend or crashes, or the renderer
  crashes before the first. -/
  ends : answer = (renderer.loopEnd runs).answer
  /-- Without a request it is one of these that ends it. -/
  asked : answer = .stopped →
    History.stopPending (before ++ runs.flatMap (·.history config)) = true

namespace SessionCall

variable {w : World SessionCall}

/-- What happens with a loop that is accepted. -/
theorem historyOf_runLoop {renderer : Renderer SessionCall} {config : GraphicsConfig}
    (ready : w.graphics.phase = .rendererReady) (held : w.graphics.renderer = some renderer)
    (limited : w.graphics.effective = some config) (name : String) :
    historyOf w (.host name .runLoop) =
      .entered :: ((runsOf w renderer config).flatMap (·.history config) ++
        [.left (perform w (.host name .runLoop)).2, .told .rendererDropped]) := by
  simp only [historyOf, ready, held, limited]

/-- A loop of a session that honours requests honours them from its first frame on. -/
theorem LoopHonoursStops.of_always {before : History} {renderer : Renderer SessionCall}
    {config : GraphicsConfig} (ready : w.graphics.phase = .rendererReady)
    (held : w.graphics.renderer = some renderer) (limited : w.graphics.effective = some config)
    (name : String)
    (always : History.Always HonoursStops (before ++ historyOf w (.host name .runLoop))) :
    LoopHonoursStops (before ++ [.entered]) renderer config (runsOf w renderer config)
      (perform w (.host name .runLoop)).2 := by
  rw [historyOf_runLoop ready held limited name] at always
  generalize same : (perform w (.host name .runLoop)).2 = answer at always
  have run := World.runRenderer_rendererRun reentrant config renderer (w.enterLoop renderer)
  obtain ⟨-, ended⟩ := run.ended
  rw [perform_runLoop ready held limited] at same
  refine ⟨fun done r rest split => ?_, ?_, ?_, ?_⟩
  · -- the frame `r` starts after what is done
    have starts := always (before ++ [.entered] ++ done.flatMap (·.history config)) (.started r)
      (r.body config ++ [.ended r r.frameEnd] ++
        (rest.flatMap (·.history config) ++ [.left answer, .told .rendererDropped]))
    refine starts ?_
    simp only [split, List.flatMap_append, List.flatMap_cons, FrameRun.history, List.append_assoc,
      List.cons_append, List.nil_append]
  · exact fun r _ => ⟨r.history_renderCalls config, r.calls_hasForm reentrant config⟩
  · rw [← same]
    exact congrArg LoopEnd.answer ended
  -- and the end of the loop is asked for behind all its frames
  · refine always (before ++ [.entered] ++ (runsOf w renderer config).flatMap (·.history config))
      (.left answer) [.told .rendererDropped] ?_
    simp only [List.append_assoc, List.cons_append, List.nil_append]

/-- A request to stop is honoured by the loop of the renderer that it was made for, and by no other
one: wherever it is made, that loop starts no further frame, ends its frame in flight and is
stopped, unless this frame loses the backend or crashes. A loop without a request is not stopped,
and no failing call takes a request back. -/
theorem stops_honoured {s : Surroundings SessionCall} {config : HostConfig}
    (opened : World.ofConfig s config = .ok w) (earlier : List SessionCall) :
    (history w earlier).Always HonoursStops ∧
      ∀ name renderer limits, (after w earlier).graphics.phase = .rendererReady →
        (after w earlier).graphics.renderer = some renderer →
        (after w earlier).graphics.effective = some limits →
        let runs := runsOf (after w earlier) renderer limits
        let answer := (perform (after w earlier) (.host name .runLoop)).2
        historyOf (after w earlier) (.host name .runLoop) =
            .entered :: (runs.flatMap (·.history limits) ++
              [.left answer, .told .rendererDropped]) ∧
          LoopHonoursStops (history w earlier ++ [.entered]) renderer limits runs answer := by
  have fresh := World.fresh_of_ofConfig opened
  refine ⟨history_honoursStops fresh earlier, ?_⟩
  intro name renderer limits ready held limited
  refine ⟨historyOf_runLoop ready held limited name, ?_⟩
  apply LoopHonoursStops.of_always ready held limited
  -- the loop is part of a longer history, in which requests are honoured as well
  have always := history_honoursStops fresh (earlier ++ [.host name .runLoop])
  rw [history_append] at always
  show History.Always HonoursStops
    (history w earlier ++ historyOf (after w earlier) (.host name .runLoop))
  rw [← List.append_nil (historyOf (after w earlier) (.host name .runLoop))]
  exact always

/-- A core whose renderer has two frames, in the first of which the host asks for a stop. -/
def stopping : Surroundings SessionCall where
  core := { frames := [{ presentCalls := [.host "stop" .requestStop] }, {}] }

/-- The request before the renderer is made stops nothing, the one in the first frame stops the
loop after it. -/
theorem stops_honoured_stopping :
    ∃ w, World.ofConfig stopping {} = .ok w ∧ ∃ earlier renderer limits,
      (history w earlier).any (· matches .made _ (.host _ .requestStop)) = true ∧
        (runsOf (after w earlier) renderer limits).length = 1 ∧
        (perform (after w earlier) (.host "loop" .runLoop)).2 = .stopped ∧
        LoopHonoursStops (history w earlier ++ [.entered]) renderer limits
          (runsOf (after w earlier) renderer limits)
          (perform (after w earlier) (.host "loop" .runLoop)).2 := by
  let earlier : List SessionCall :=
    [.host "stop" .requestStop, .host "configure" (.configureGraphics {}),
      .host "renderer" (.initializeRenderer .openGl { glGetProcAddress := true })]
  have opened : World.ofConfig stopping {} = .ok _ := rfl
  have honoured := (stops_honoured opened earlier).2 "loop" _ _ rfl rfl rfl
  exact ⟨_, opened, earlier, _, _, by decide, by decide, by decide, honoured.2⟩

end SessionCall

end EmuHost
