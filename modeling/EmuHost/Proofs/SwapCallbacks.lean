import EmuHost.Proofs.StopRequests

/-!
# Swap callbacks

A host installs a callback, replaces it or removes it at any time, in the middle of a frame too. The
loop does not look at the installed callback when it runs one: it runs the one that was installed
when the frame started. This file follows both through a history, the callback that is installed
(`History.installed`) and the one that the frame in flight has still to run (`History.due`).

A callback that is replaced is therefore not always dead. If the frame in flight has started with it
and has not run it yet, it runs once more, at the end of this frame, and not again. Everywhere else
it is dead at once.

## Key results

- `World.Effect.callback`: only `setCallback` installs
- `SessionCall.history_followsCallbacks`: a frame runs the callback that it has started with
- `SessionCall.replaced_callback`: what is left to a callback that is replaced
-/

namespace EmuHost

/-- The callback that a call installs, if it is one that installs. To remove the callback is to
install none. -/
def HostCall.installs? : HostCall → Option (Option SwapCallback)
  | .setCallback callback => some callback
  | _ => none

namespace Happening

/-- The callback that the host installs with what happens. -/
def installs? : Happening → Option (Option SwapCallback)
  | .made _ (.host _ call) => call.installs?
  | _ => none

/-- The callback that is installed after what happens now. -/
def installed (callback : Option SwapCallback) (now : Happening) : Option SwapCallback :=
  now.installs?.getD callback

/-- The callback that the frame in flight has still to run after what happens now. -/
def due (callback : Option SwapCallback) : Happening → Option SwapCallback
  | .started r => r.opening.callback
  | .told (.swap _) | .ended .. => none
  | _ => callback

/-- The callback that is run now. -/
def swaps? : Happening → Option SwapCallback
  | .told (.swap id) => some id
  | _ => none

/-- A run of a callback is told to the renderer's callback only. -/
theorem eq_told_of_swaps {now : Happening} {id : SwapCallback} (swaps : now.swaps? = some id) :
    now = .told (.swap id) := by
  cases now with
  | told e =>
    cases e with
    | swap other =>
      obtain rfl := Option.some.inj swaps
      rfl
    | _ => cases swaps
  | _ => cases swaps

/-- Whether nothing about the callback of a frame happens. -/
def LeavesFrame (now : Happening) : Prop :=
  now.swaps? = none ∧ ∀ callback, now.due callback = callback

end Happening

namespace History

/-- The callback that is installed after all that has happened. -/
def installed (h : History) : Option SwapCallback := h.foldl Happening.installed none

/-- The callback that the frame in flight has still to run. Between frames there is none. -/
def due (h : History) : Option SwapCallback := h.foldl Happening.due none

/-- Whether a callback is not run, unless it has been installed anew. -/
def Dead (id : SwapCallback) (h : History) : Prop :=
  ∀ before now later, h = before ++ now :: later → now.swaps? = some id →
    ∃ again ∈ before, again.installs? = some (some id)

/-- What is installed is up to what happens last, and what was installed before. -/
theorem installed_concat (h : History) (now : Happening) :
    installed (h ++ [now]) = now.installed h.installed := by
  rw [installed, List.foldl_append]
  rfl

/-- And so is what is due. -/
theorem due_concat (h : History) (now : Happening) : due (h ++ [now]) = now.due h.due := by
  rw [due, List.foldl_append]
  rfl

/-- A law that holds always holds up to any moment. -/
theorem Always.left {law : History → Happening → Prop} {h k : History}
    (always : Always law (h ++ k)) : h.Always law := by
  intro before now later split
  refine always before now (later ++ k) ?_
  rw [split, List.append_assoc]
  rfl

end History

/-! ## The callback of a frame -/

/-- Whether all that is run from here on is the callback that is due then. -/
def History.RunsDue (callback : Option SwapCallback) : History → Prop
  | [] => True
  | now :: later =>
    (∀ id, now.swaps? = some id → callback = some id) ∧ RunsDue (now.due callback) later

namespace History

variable {callback : Option SwapCallback} {h k : History}

/-- Runs of what is due in two goes. -/
theorem RunsDue.append (first : h.RunsDue callback)
    (second : k.RunsDue (h.foldl Happening.due callback)) : RunsDue callback (h ++ k) := by
  -- on the first part, at whose end the second one is due to start
  induction h generalizing callback with
  | nil => exact second
  | cons now h ih => exact ⟨first.1, ih first.2 second⟩

/-- At each moment what is run is due. -/
theorem RunsDue.at {before later : History} {now : Happening} {id : SwapCallback}
    (runs : RunsDue callback (before ++ now :: later)) (swaps : now.swaps? = some id) :
    before.foldl Happening.due callback = some id := by
  induction before generalizing callback with
  | nil => exact runs.1 id swaps
  | cons first before ih => exact ih runs.2

/-- Whether nothing about the callback of a frame happens. -/
def LeavesFrame (h : History) : Prop := ∀ now ∈ h, now.LeavesFrame

/-- What leaves the frame alone leaves the callback due. -/
theorem LeavesFrame.due (leaves : h.LeavesFrame) (callback : Option SwapCallback) :
    h.foldl Happening.due callback = callback := by
  induction h with
  | nil => rfl
  | cons now h ih =>
    obtain ⟨first, rest⟩ := List.forall_mem_cons.mp leaves
    rw [List.foldl_cons, first.2 callback, ih rest]

/-- And runs none. -/
theorem LeavesFrame.runsDue (leaves : h.LeavesFrame) (callback : Option SwapCallback) :
    h.RunsDue callback := by
  induction h with
  | nil => trivial
  | cons now h ih =>
    obtain ⟨first, rest⟩ := List.forall_mem_cons.mp leaves
    refine ⟨fun id swaps => ?_, ?_⟩
    · rw [first.1] at swaps
      cases swaps
    · rw [first.2 callback]
      exact ih rest

/-- What leaves the frame alone can be left out in front. -/
theorem RunsDue.after (leaves : h.LeavesFrame) (runs : k.RunsDue callback) :
    RunsDue callback (h ++ k) := by
  refine (leaves.runsDue callback).append ?_
  rw [leaves.due callback]
  exact runs

end History

namespace SessionCall

open History (RunsDue LeavesFrame)

/-- Calls of the host leave the frame alone. -/
theorem callHistory_leavesFrame (w : World SessionCall) (calls : List SessionCall) :
    (callHistory w calls).LeavesFrame := by
  induction calls generalizing w with
  | nil => exact List.forall_mem_nil _
  | cons call calls ih =>
    have made : Happening.LeavesFrame (.made w call) := ⟨rfl, fun _ => rfl⟩
    have noted : Happening.LeavesFrame (.told (.answered call.name (perform w call).2)) :=
      ⟨rfl, fun _ => rfl⟩
    exact List.forall_mem_cons.mpr ⟨made, List.forall_mem_cons.mpr ⟨noted, ih _⟩⟩

/-- While the renderer is told of the geometry no callback runs. -/
theorem tellHistory_leavesFrame (w : World SessionCall) {pushes : List (Push SessionCall)}
    (geometry : ∀ push ∈ pushes, push.event.isPush = true) : (tellHistory w pushes).LeavesFrame := by
  induction pushes generalizing w with
  | nil => exact List.forall_mem_nil _
  | cons push pushes ih =>
    obtain ⟨first, rest⟩ := List.forall_mem_cons.mp geometry
    have told : Happening.LeavesFrame (.told push.event) := by
      cases is : push.event with
      | resize | vsync => exact ⟨rfl, fun _ => rfl⟩
      | _ =>
        rw [is] at first
        cases first
    refine List.forall_mem_cons.mpr ⟨told, List.forall_mem_append.mpr ⟨?_, ?_⟩⟩
    · exact callHistory_leavesFrame _ push.calls
    · cases push.crash with
      | some c => exact List.forall_mem_nil _
      | none => exact ih _ rest

/-- The callback that is due runs once. -/
theorem swapHistory_runsDue (w : World SessionCall) (callback : Option SwapCallback)
    (frame : Frame SessionCall) : (swapHistory w callback frame).RunsDue callback := by
  cases callback with
  | none => trivial
  | some id =>
    have calls := callHistory_leavesFrame (w.record (.swap id)) frame.swapCalls
    exact ⟨fun _ swaps => swaps, calls.runsDue none⟩

/-- An image brings it, if anything does. -/
theorem imageHistory_runsDue (w : World SessionCall) (callback : Option SwapCallback)
    (frame : Frame SessionCall) : (imageHistory w callback frame).RunsDue callback := by
  simp only [imageHistory]
  cases frame.submitted with
  | fault | idle => trivial
  | presentable =>
    have told : LeavesFrame [.told .present] := List.forall_mem_singleton.mpr ⟨rfl, fun _ => rfl⟩
    have calls := callHistory_leavesFrame (w.record .present) frame.presentCalls
    simp only [presentHistory]
    refine RunsDue.after (h := [.told .present]) told (RunsDue.after calls ?_)
    cases frame.presentFault with
    | some f => trivial
    | none => exact swapHistory_runsDue _ callback frame

/-- A submission brings it at most. -/
theorem submitHistory_runsDue (w : World SessionCall) (submission : Submission)
    (callback : Option SwapCallback) (frame : Frame SessionCall) :
    (submitHistory w submission callback frame).RunsDue callback := by
  have told : LeavesFrame [.told (.submit submission)] :=
    List.forall_mem_singleton.mpr ⟨rfl, fun _ => rfl⟩
  have calls := callHistory_leavesFrame (w.record (.submit submission)) frame.calls
  exact RunsDue.after told (RunsDue.after calls (imageHistory_runsDue _ callback frame))

/-- A frame runs what was installed at its start at most, and nothing is due behind it. -/
theorem frame_runsDue (r : FrameRun SessionCall) (config : GraphicsConfig)
    (callback : Option SwapCallback) :
    (r.history config).RunsDue callback ∧
      (r.history config).foldl Happening.due callback = none := by
  have body : (r.body config).RunsDue r.opening.callback := by
    refine RunsDue.after (tellHistory_leavesFrame r.begun r.isPush_of_mem_pushes) ?_
    cases r.pushCrash? with
    | some c => trivial
    | none => exact submitHistory_runsDue _ _ r.opening.callback r.frame
  -- the start and the end of the frame run nothing themselves
  have quiet (now : Happening) (swaps : now.swaps? = none) (callback : Option SwapCallback) :
      ∀ id, now.swaps? = some id → callback = some id := by
    intro id runs
    rw [swaps] at runs
    cases runs
  have ended (callback : Option SwapCallback) : RunsDue callback [.ended r r.frameEnd] :=
    ⟨quiet _ rfl callback, trivial⟩
  refine ⟨⟨quiet (.started r) rfl callback, body.append (ended _)⟩, ?_⟩
  rw [FrameRun.history, ← List.cons_append, List.foldl_append]
  rfl

/-- Frames run what is due in them. -/
theorem frames_runsDue (runs : List (FrameRun SessionCall)) (config : GraphicsConfig)
    (callback : Option SwapCallback) : RunsDue callback (runs.flatMap (·.history config)) := by
  induction runs generalizing callback with
  | nil => trivial
  | cons r runs ih =>
    obtain ⟨first, -⟩ := frame_runsDue r config callback
    rw [List.flatMap_cons]
    exact first.append (ih _)

/-- Everything that happens in a call does. -/
theorem historyOf_runsDue (w : World SessionCall) (call : SessionCall)
    (callback : Option SwapCallback) : (historyOf w call).RunsDue callback := by
  simp only [historyOf]
  split
  · rename_i name renderer config _ _ _
    have entered : LeavesFrame [.entered] := List.forall_mem_singleton.mpr ⟨rfl, fun _ => rfl⟩
    have left (answer : Answer) : LeavesFrame [.left answer, .told .rendererDropped] :=
      List.forall_mem_cons.mpr
        ⟨⟨rfl, fun _ => rfl⟩, List.forall_mem_singleton.mpr ⟨rfl, fun _ => rfl⟩⟩
    have frames := frames_runsDue (runsOf w renderer config) config callback
    exact RunsDue.after entered (frames.append ((left _).runsDue _))
  · exact ⟨fun _ swaps => (by cases swaps), trivial⟩

/-- And so does everything that happens in a session. -/
theorem history_runsDue (w : World SessionCall) (calls : List SessionCall)
    (callback : Option SwapCallback) : (history w calls).RunsDue callback := by
  induction calls generalizing w callback with
  | nil => trivial
  | cons call calls ih => exact (historyOf_runsDue w call callback).append (ih _ _)

end SessionCall

/-! ## The installed callback -/

/-- Only `setCallback` installs. A new renderer and a teardown forget the geometry, but not the
callback. -/
theorem World.Effect.callback {κ : Type} {w v : World κ} {call : HostCall} {answer : Answer}
    (effect : w.Effect call v answer) :
    v.graphics.surface.callback = call.installs?.getD w.graphics.surface.callback := by
  -- the calls of most ways install nothing
  have same (keeps : v.graphics.surface.callback = w.graphics.surface.callback)
      (none : call.installs? = none) :
      v.graphics.surface.callback = call.installs?.getD w.graphics.surface.callback := by
    rw [none]
    exact keeps
  cases effect with
  | installed => rfl
  | input | sized | vsynced | stopRequested | tornDown | reloaded | updated => exact same rfl rfl
  | looked looks => exact same rfl (by cases call <;> first | rfl | cases looks)
  | refused refusable => exact same rfl (by cases call <;> first | rfl | cases refusable)
  | configured asked => exact same rfl (by cases call <;> first | rfl | cases asked)
  | uncreated asks | dropped asks | created asks =>
    exact same rfl (by cases call <;> first | rfl | cases asks)
  | unserved service => exact same rfl (by cases call <;> first | rfl | cases service)
  | device uses touches =>
    exact same (by rw [touches.same]) (by cases call <;> first | rfl | cases uses)

namespace SessionCall

variable {w v : World SessionCall} {h : History}

/-- Whatever happens, the callback of a session is the one that was installed last. -/
theorem Step.callback {now : Happening} (step : Step w now v) :
    v.graphics.surface.callback = now.installed w.graphics.surface.callback := by
  cases step with
  | @made _ call single =>
    rw [single]
    cases call with
    | host name call => exact (w.perform_refuseLoop_effect call).callback
    | script change => rfl
    | unknown name e => rfl
  | failed r f => cases f <;> rfl
  | entered | started | told | finished | stopped | broken => rfl

/-- What callbacks mean for each thing that happens. -/
def FollowsCallbacks (before : History) : Happening → Prop
  -- a frame starts with the callback that is installed
  | .started r => r.opening.callback = before.installed
  -- and runs that one, once at most
  | .told (.swap id) => before.due = some id
  | _ => True

/-- A frame runs the callback that was installed when it started, and no other one. -/
theorem history_followsCallbacks (fresh : w.Fresh) (calls : List SessionCall) :
    (history w calls).Always FollowsCallbacks := by
  have keeps (h : History) (w : World SessionCall) (now : Happening) (v : World SessionCall)
      (tracks : w.graphics.surface.callback = h.installed) (step : Step w now v) :
      (∀ r, now = .started r → r.opening.callback = h.installed) ∧
        v.graphics.surface.callback = History.installed (h ++ [now]) := by
    refine ⟨fun r starts => ?_, ?_⟩
    · subst starts
      cases step
      exact tracks
    · rw [h.installed_concat, step.callback, tracks]
  have first : w.graphics.surface.callback = History.installed [] := by
    rw [fresh.graphics]
    rfl
  have starts := ((history_trace w calls).always keeps first).1
  have runs := history_runsDue w calls none
  intro before now later split
  cases now with
  | started r => exact starts before _ later split r rfl
  | told e =>
    cases e with
    | swap id =>
      rw [split] at runs
      exact runs.at rfl
    | _ => trivial
  | _ => trivial

/-! ## Replaced callbacks -/

section Replacement

variable {id : SwapCallback} {before rest : History} {now : Happening}

/-- What is not installed stays so, until it is installed again. -/
theorem uninstalled_concat (other : h.installed ≠ some id)
    (kept : now.installs? ≠ some (some id)) : History.installed (h ++ [now]) ≠ some id := by
  rw [h.installed_concat, Happening.installed]
  cases installs : now.installs? with
  | none => exact other
  | some callback =>
    rw [installs] at kept
    exact fun same => kept (congrArg some same)

/-- A callback that is not installed is due after something only if it was due before, and this has
left the frame alone. -/
theorem due_of_concat (follows : FollowsCallbacks h now) (other : h.installed ≠ some id)
    (due : History.due (h ++ [now]) = some id) : h.due = some id ∧ now.LeavesFrame := by
  rw [h.due_concat] at due
  cases now with
  | started r => exact absurd (follows.symm.trans due) other
  | ended r how => cases due
  | told e =>
    cases e with
    | swap other => cases due
    | _ => exact ⟨due, rfl, fun _ => rfl⟩
  | made | entered | left => exact ⟨due, rfl, fun _ => rfl⟩

/-- From `before` on, a callback that is not installed is due only in the frame that is in flight
there. -/
theorem due_of_append (always : History.Always FollowsCallbacks (before ++ rest))
    (other : before.installed ≠ some id) (kept : ∀ again ∈ rest, again.installs? ≠ some (some id))
    (due : History.due (before ++ rest) = some id) :
    before.due = some id ∧ rest.LeavesFrame := by
  induction rest generalizing before with
  | nil =>
    rw [List.append_nil] at due
    exact ⟨due, List.forall_mem_nil _⟩
  | cons now rest ih =>
    obtain ⟨keptNow, keptLater⟩ := List.forall_mem_cons.mp kept
    have follows := always before now rest rfl
    rw [List.append_cons] at always due
    obtain ⟨dueNow, leaves⟩ := ih always (uninstalled_concat other keptNow) keptLater due
    obtain ⟨first, leavesNow⟩ := due_of_concat follows other dueNow
    exact ⟨first, List.forall_mem_cons.mpr ⟨leavesNow, leaves⟩⟩

/-- Over whatever happens in between. -/
theorem uninstalled_append (other : before.installed ≠ some id)
    (kept : ∀ again ∈ rest, again.installs? ≠ some (some id)) :
    History.installed (before ++ rest) ≠ some id := by
  induction rest generalizing before with
  | nil =>
    rw [List.append_nil]
    exact other
  | cons now rest ih =>
    obtain ⟨keptNow, keptLater⟩ := List.forall_mem_cons.mp kept
    rw [List.append_cons]
    exact ih (uninstalled_concat other keptNow) keptLater

/-- What is run is due. -/
theorem FollowsCallbacks.due (follows : FollowsCallbacks h now) (swaps : now.swaps? = some id) :
    h.due = some id := by
  obtain rfl := Happening.eq_told_of_swaps swaps
  exact follows

/-- A callback that is neither installed nor due is dead. -/
theorem dead_of_retired (always : History.Always FollowsCallbacks (before ++ rest))
    (other : before.installed ≠ some id) (idle : before.due ≠ some id) : rest.Dead id := by
  intro first now later split swaps
  apply Classical.byContradiction
  intro never
  have kept : ∀ again ∈ first, again.installs? ≠ some (some id) :=
    fun again mem installs => never ⟨again, mem, installs⟩
  rw [split, ← List.append_assoc] at always
  -- it would have to be due when it runs, and nothing has made it due
  have due := (always _ now later rfl).due swaps
  exact idle (due_of_append (always.left) other kept due).1

/-- What is left to a callback that is replaced while the callback `due` has still to run. -/
structure Retires (id : SwapCallback) (due : Option SwapCallback) (later : History) : Prop where
  dead : due ≠ some id → later.Dead id
  /-- The frame in flight may have started with the callback. It runs it at its end, and this is the
  last run. -/
  last : ∀ (rest ending : History) now, later = rest ++ now :: ending → now.swaps? = some id →
    (∀ again ∈ rest, again.installs? ≠ some (some id)) →
      due = some id ∧ rest.LeavesFrame ∧ ending.Dead id

/-- A callback that is not installed is used up with the frame that it is due in. -/
theorem retires_of_always {later : History} (always : History.Always FollowsCallbacks (h ++ later))
    (other : h.installed ≠ some id) : Retires id h.due later where
  dead idle := dead_of_retired always other idle
  last rest ending now split swaps kept := by
    rw [split, ← List.append_assoc] at always
    have due := (always _ now ending rfl).due swaps
    obtain ⟨first, leaves⟩ := due_of_append always.left other kept due
    refine ⟨first, leaves, ?_⟩
    -- after its run it is neither installed nor due
    obtain rfl := Happening.eq_told_of_swaps swaps
    have uninstalled : History.installed (h ++ rest ++ [.told (.swap id)]) ≠ some id := by
      rw [History.installed_concat]
      exact uninstalled_append other kept
    have idle : History.due (h ++ rest ++ [.told (.swap id)]) ≠ some id := by
      rw [History.due_concat]
      exact nofun
    rw [List.append_cons] at always
    exact dead_of_retired always uninstalled idle

end Replacement

/-- A frame starts with the callback that is installed and runs no other one, once at most. Wherever
in a session the host installs a callback or removes one, each other callback, the replaced one
first of all, is retired: before it is installed anew it runs again only if the frame in flight has
started with it and has not run it yet, and then it runs once. -/
theorem replaced_callback {s : Surroundings SessionCall} {config : HostConfig}
    (opened : World.ofConfig s config = .ok w) (calls : List SessionCall) :
    (history w calls).Always FollowsCallbacks ∧
      ∀ (before later : History) v name callback id,
        history w calls = before ++ .made v (.host name (.setCallback callback)) :: later →
        callback ≠ some id → Retires id before.due later := by
  have always := history_followsCallbacks (World.fresh_of_ofConfig opened) calls
  refine ⟨always, ?_⟩
  intro before later v name callback id split replaced
  rw [split, List.append_cons] at always
  -- the call itself leaves the frame in flight alone
  have due : History.due (before ++ [.made v (.host name (.setCallback callback))]) = before.due :=
    before.due_concat _
  have other : History.installed (before ++ [.made v (.host name (.setCallback callback))]) ≠
      some id := by
    rw [before.installed_concat]
    exact replaced
  rw [← due]
  exact retires_of_always always other

/-- A core whose renderer has one frame, during which the host removes its callback. -/
def removing : Surroundings SessionCall where
  core := { frames := [{ calls := [.host "remove" (.setCallback none)] }] }

/-- A session that runs its loop with a callback, and installs others later. -/
def withCallbacks : List SessionCall :=
  [.host "install" (.setCallback (some "a")), .host "configure" (.configureGraphics {}),
    .host "renderer" (.initializeRenderer .openGl { glGetProcAddress := true }),
    .host "loop" .runLoop, .host "install" (.setCallback (some "b")),
    .host "install" (.setCallback (some "c"))]

/-- There are controllers by default. -/
theorem defaultMaxControllers_pos : 0 < defaultMaxControllers := by decide

/-- And not too many. -/
theorem defaultMaxControllers_le : defaultMaxControllers ≤ slotCount := by decide

/-- The session that a host opens with this core. -/
def removal : World SessionCall where
  toSurroundings := removing
  config := {}
  router :=
    { maxControllers_pos := defaultMaxControllers_pos
      maxControllers_le := defaultMaxControllers_le }

/-- Between loops a callback that is replaced is dead at once. -/
theorem replaced_callback_idle :
    World.ofConfig removing {} = .ok removal ∧
      ∃ (before later : History) (v : World SessionCall),
        history removal withCallbacks =
            before ++ .made v (.host "install" (.setCallback (some "c"))) :: later ∧
          before.installed = some "b" ∧ before.due = none ∧ later.Dead "b" := by
  have opened : World.ofConfig removing {} = .ok removal := rfl
  have split : history removal withCallbacks =
      (history removal withCallbacks).take 18 ++
        .made (after removal (withCallbacks.take 5)) (.host "install" (.setCallback (some "c"))) ::
          (history removal withCallbacks).drop 19 := rfl
  have installed : History.installed ((history removal withCallbacks).take 18) = some "b" := rfl
  have idle : History.due ((history removal withCallbacks).take 18) = none := rfl
  have retires := (replaced_callback opened withCallbacks).2 _ _ _ _ _ "b" split (by decide)
  refine ⟨opened, _, _, _, split, installed, idle, retires.dead ?_⟩
  rw [idle]
  exact nofun

/-- A callback that is removed in the middle of the frame that has started with it runs after
that. -/
theorem removed_callback_runs :
    World.ofConfig removing {} = .ok removal ∧
      ∃ (before later : History) (v : World SessionCall),
        history removal withCallbacks =
            before ++ .made v (.host "remove" (.setCallback none)) :: later ∧
          before.installed = some "a" ∧ ¬later.Dead "a" := by
  refine ⟨rfl, (history removal withCallbacks).take 7, (history removal withCallbacks).drop 8, _,
    rfl, rfl, ?_⟩
  intro dead
  -- between the removal and the run there are the answer to it and the presentation
  let between : History := ((history removal withCallbacks).drop 8).take 2
  obtain ⟨again, mem, installs⟩ : ∃ again ∈ between, again.installs? = some (some "a") :=
    dead between (.told (.swap "a")) ((history removal withCallbacks).drop 11) rfl rfl
  have none : between.all (·.installs?.isNone) = true := rfl
  have nothing := List.all_eq_true.mp none again mem
  rw [installs] at nothing
  cases nothing

end SessionCall

end EmuHost
