import EmuHost.Proofs.SessionHistory
import EmuHost.Proofs.SessionTranslation

/-!
# Graphics after a teardown

After a teardown the graphics of a session are as good as new. All that is left of their past are
the installed callback and the statistics of the last loop, and nothing but the two calls that read
the statistics can tell them from new graphics with this callback. A loop that is accepted starts
its statistics anew, so from then on nothing can.

The statistics are looked at by no operation, so a session goes side by side with one that has other
statistics and is the same in all else (`Translation.otherStatistics`): the session after the
teardown, and the one with new graphics, whatever the host does next.

## Key results

- `World.perform_withStatistics`: no call but the loop depends on the statistics
- `World.runLoop_withStatistics`: an accepted loop forgets them
- `SessionCall.after_withStatistics`: sessions that differ in their statistics go side by side
- `SessionCall.tearDown_renews`: a teardown gives back new graphics
-/

namespace EmuHost

/-- The answer that tells of other statistics, if it tells of any. -/
def Answer.withStatistics (answer : Answer) (s : Statistics Binary64) : Answer :=
  match answer with
  | .counters _ => .counters s
  | .figures _ => .figures s
  | other => other

/-- The graphics with other statistics. -/
def Graphics.withStatistics {κ : Type} (g : Graphics κ) (s : Statistics Binary64) : Graphics κ :=
  { g with statistics := s }

/-- The session with other statistics. -/
def World.withStatistics {κ : Type} (w : World κ) (s : Statistics Binary64) : World κ :=
  { w with graphics := w.graphics.withStatistics s }

/-! ## Other statistics -/

namespace Translation

variable {κ : Type} (config : HostConfig) (s : Statistics Binary64)

/-- A session beside one that has the statistics `s`, and is the same in all else. -/
def otherStatistics : Translation κ κ where
  config := config
  calls call := [call]
  statistics _ := s
  Trusts _ := True
  Alike told noted := noted = told
  both _ same := by rw [same]
  input _ _ := trivial
  aspect _ _ := trivial

/-- The calls of the host are the same. -/
theorem otherStatistics_frame (f : Frame κ) : (otherStatistics config s).frame f = f := by
  -- each call of the host stands for itself
  have same (calls : List κ) : calls.flatMap (otherStatistics config s).calls = calls :=
    List.flatMap_singleton' calls
  simp only [frame, same]

/-- So are the frames of a renderer. -/
theorem otherStatistics_frames (frames : List (Frame κ)) :
    frames.map (otherStatistics config s).frame = frames := by
  have same : (otherStatistics config s).frame = (id : Frame κ → Frame κ) :=
    funext (otherStatistics_frame config s)
  rw [same, List.map_id]

/-- So is the script of the core. -/
theorem otherStatistics_core (q : CoreScript κ) : (otherStatistics config s).core q = q := by
  simp only [core, otherStatistics_frames]

/-- The graphics have the other statistics. -/
theorem otherStatistics_graphics (g : Graphics κ) :
    (otherStatistics config s).graphics g = g.withStatistics s := by
  have same : (otherStatistics config s).renderer = (id : Renderer κ → Renderer κ) := by
    funext r
    simp only [renderer, otherStatistics_frames, id]
  simp only [graphics, same, Option.map_id, id]
  rfl

/-- And so does an answer that tells of them. -/
theorem otherStatistics_answer (answer : Answer) :
    (otherStatistics (κ := κ) config s).answer answer = answer.withStatistics s := by
  cases answer <;> rfl

variable {config s} {v w : World κ}

/-- The session with the other statistics goes beside its own original. -/
theorem mirrors_withStatistics (own : v.config = config) :
    (otherStatistics config s).Mirrors v (v.withStatistics s) where
  core := (otherStatistics_core config s v.core).symm
  files := rfl
  home := rfl
  config := own
  sameConfig := rfl
  graphics := (otherStatistics_graphics config s v.graphics).symm
  router := rfl
  device := rfl
  noted := rfl
  trusted := trivial

/-- And no other session does. -/
theorem Mirrors.eq_withStatistics (m : (otherStatistics config s).Mirrors v w) :
    w = v.withStatistics s := by
  -- field by field: only the graphics are not what they were, and they are as given
  obtain ⟨core, files, home, -, same, graphics, router, device, noted, -⟩ := m
  rw [otherStatistics_core] at core
  rw [otherStatistics_graphics] at graphics
  obtain ⟨⟨_, _, _, _⟩, _, _, _, _⟩ := w
  cases core
  cases files
  cases home
  cases same
  cases graphics
  cases router
  cases device
  cases noted
  rfl

end Translation

namespace World

variable {κ : Type} {w : World κ} {s : Statistics Binary64}

/-- No call but the loop depends on the statistics. -/
theorem perform_withStatistics (call : HostCall) :
    (w.withStatistics s).perform refuseLoop call =
      ((w.perform refuseLoop call).1.withStatistics s,
        (w.perform refuseLoop call).2.withStatistics s) := by
  -- the session goes beside itself under the other statistics, as the translation of nothing else
  have m : (Translation.otherStatistics w.config s).Mirrors w (w.withStatistics s) :=
    Translation.mirrors_withStatistics rfl
  have refused : (Translation.otherStatistics w.config s).Parallel (refuseLoop w)
      (refuseLoop (w.withStatistics s)) := m.refuse .runLoop
  obtain ⟨mirrors, answer⟩ := m.perform fun (_ : call = .runLoop) => refused
  rw [Translation.otherStatistics_answer] at answer
  exact Prod.ext mirrors.eq_withStatistics answer

/-- A loop that is accepted starts its statistics anew. -/
theorem runLoop_withStatistics {renderer : Renderer κ} {config : GraphicsConfig}
    (ready : w.graphics.phase = .rendererReady) (held : w.graphics.renderer = some renderer)
    (limited : w.graphics.effective = some config) (i : Interpreter κ) :
    (w.withStatistics s).runLoop i = w.runLoop i := by
  -- what decides whether the loop is accepted is the same
  have phase : (w.withStatistics s).graphics.phase = .rendererReady := ready
  have renderer : (w.withStatistics s).graphics.renderer = some renderer := held
  have effective : (w.withStatistics s).graphics.effective = some config := limited
  simp only [runLoop, phase, renderer, effective, ready, held, limited]
  rfl

end World

/-! ## Sessions side by side -/

/-- Whether a loop is entered. -/
def History.entersLoop (h : History) : Bool := h.any (· matches .entered)

/-- A loop is entered in one of two stretches if it is in either. -/
theorem History.entersLoop_append (h k : History) :
    entersLoop (h ++ k) = (h.entersLoop || k.entersLoop) := List.any_append

namespace SessionCall

variable (w : World SessionCall) (s : Statistics Binary64)

/-- No call depends on the statistics if a loop that is asked for is refused. -/
theorem performWith_withStatistics (call : SessionCall) :
    performWith World.refuseLoop (w.withStatistics s) call =
      ((performWith World.refuseLoop w call).1.withStatistics s,
        (performWith World.refuseLoop w call).2.withStatistics s) := by
  cases call with
  | host name call => exact World.perform_withStatistics call
  | script change => rfl
  | unknown name e => rfl

/-- The end of a loop tells of no statistics. -/
theorem answer_withStatistics (loopEnd : LoopEnd) :
    loopEnd.answer.withStatistics s = loopEnd.answer := by
  cases loopEnd <;> rfl

/-- A call enters the loop and forgets the statistics, or it does not depend on them. -/
theorem perform_cases (call : SessionCall) :
    ((historyOf w call).entersLoop = true ∧ perform (w.withStatistics s) call = perform w call ∧
      (perform w call).2.withStatistics s = (perform w call).2) ∨
    ((historyOf w call).entersLoop = false ∧
      perform (w.withStatistics s) call =
        ((perform w call).1.withStatistics s, (perform w call).2.withStatistics s)) := by
  simp only [historyOf]
  split
  · -- the loop is accepted
    rename_i name renderer config ready held limited
    have same := World.runLoop_withStatistics (s := s) ready held limited duringFrame
    refine .inl ⟨rfl, ?_, ?_⟩
    · exact congrArg (World.answering fun _ => .stopped) same
    · rw [perform_runLoop ready held limited]
      exact answer_withStatistics s _
  · rename_i stays
    have single := perform_single stays
    have other := perform_single (w := w.withStatistics s) stays
    refine .inr ⟨rfl, ?_⟩
    rw [single, other]
    exact performWith_withStatistics w s _

/-- Two sessions that differ in their statistics go side by side. Once a loop is entered they are
the same. -/
theorem after_withStatistics (calls : List SessionCall) :
    after (w.withStatistics s) calls =
      if (history w calls).entersLoop then after w calls
      else (after w calls).withStatistics s := by
  induction calls generalizing w with
  | nil => rfl
  | cons call calls ih =>
    have entered : (history w (call :: calls)).entersLoop =
        ((historyOf w call).entersLoop || (history (perform w call).1 calls).entersLoop) :=
      History.entersLoop_append ..
    have next : after (w.withStatistics s) (call :: calls) =
        after (perform (w.withStatistics s) call).1 calls := rfl
    rw [next, entered]
    -- after a loop there is nothing that differs; else the two go on alongside
    obtain ⟨enters, same, -⟩ | ⟨stays, alongside⟩ := perform_cases w s call
    · rw [enters, same]
      rfl
    · rw [stays, alongside, ih]
      rfl

/-- What the host is answered then tells of the other statistics, if of any. -/
theorem perform_withStatistics (call : SessionCall) :
    (perform (w.withStatistics s) call).2 = (perform w call).2.withStatistics s := by
  obtain ⟨-, same, plain⟩ | ⟨-, alongside⟩ := perform_cases w s call
  · rw [same, plain]
  · rw [alongside]

/-! ## Teardown -/

/-- What a host sees of two sessions with its next calls: the same, apart from the statistics, which
the first takes from `s` until it enters a loop. -/
structure Renewed (s : Statistics Binary64) (torn fresh : World SessionCall)
    (calls : List SessionCall) : Prop where
  /-- All calls out of the sessions, and all lines of their logs, are the same. -/
  journal : (after torn calls).journal = (after fresh calls).journal
  state : after torn calls =
    if (history fresh calls).entersLoop then after fresh calls
    else (after fresh calls).withStatistics s
  answer : ∀ call, (perform (after torn calls) call).2 =
    if (history fresh calls).entersLoop then (perform (after fresh calls) call).2
    else (perform (after fresh calls) call).2.withStatistics s

/-- A session with other statistics looks like the original to its host, but for these. -/
theorem renewed_withStatistics (calls : List SessionCall) :
    Renewed s (w.withStatistics s) w calls := by
  have state := after_withStatistics w s calls
  refine ⟨?_, state, fun call => ?_⟩
  · rw [state]
    split <;> rfl
  · rw [state]
    split
    · rfl
    · exact perform_withStatistics _ s call

/-- The session with new graphics on which the installed callback has been set. -/
def renewed (w : World SessionCall) (name : String) : World SessionCall :=
  (perform { w with graphics := {} } (.host name (.setCallback w.graphics.surface.callback))).1

/-- A teardown between loops forgets all but the callback and the statistics. -/
theorem perform_tearDown {w : World SessionCall} (idle : w.graphics.phase ≠ .running)
    (name : String) :
    perform w (.host name .tearDown) =
      (({ (if w.graphics.renderer.isSome then w.record .rendererDropped else w) with
          graphics := { surface := w.graphics.surface.reset, statistics := w.graphics.statistics } }
        ).log [.info "Graphics torn down"], .success) := by
  have drops : (w.graphics.renderer.isSome && w.graphics.phase != .running) =
      w.graphics.renderer.isSome := by
    rw [bne_iff_ne.mpr idle, Bool.and_true]
  show World.succeeding w.tearDown = _
  simp only [World.tearDown, drops]
  split <;> simp only [World.onGraphics, World.record, Graphics.tearDown, idle, if_false] <;> rfl

/-- A teardown between loops gives back new graphics: it drops the renderer, if there is one, and
whatever the host does next, the session answers and calls out as if its graphics had been made anew
and given the callback that is installed. Only the statistics are those of the last loop until the
next one is entered. -/
theorem tearDown_renews {w : World SessionCall} (idle : w.graphics.phase ≠ .running)
    (name : String) :
    let torn := perform w (.host name .tearDown)
    torn.2 = .success ∧
      torn.1.events =
        w.events ++ (if w.graphics.renderer.isSome then [.rendererDropped] else []) ∧
      torn.1.graphics.renderer = none ∧
      ∀ setting calls, Renewed w.graphics.statistics torn.1 (renewed torn.1 setting) calls := by
  intro torn
  have performed : torn = _ := perform_tearDown idle name
  -- what a teardown leaves is new graphics with the callback, but for the statistics
  have fresh (setting : String) :
      torn.1 = (renewed torn.1 setting).withStatistics w.graphics.statistics := by
    rw [performed]
    rfl
  refine ⟨?_, ?_, ?_, ?_⟩
  · rw [performed]
  · rw [performed, World.events_log]
    split
    · exact w.events_record .rendererDropped
    · exact (List.append_nil _).symm
  · rw [performed]
    rfl
  · intro setting calls
    have renewal := renewed_withStatistics (renewed torn.1 setting) w.graphics.statistics calls
    rw [← fresh setting] at renewal
    exact renewal

/-- The host runs the loop with a callback until the backend is lost, and asks for a stop
afterwards. -/
def uses : List SessionCall :=
  [.host "install" (.setCallback (some "a")), .host "configure" (.configureGraphics {}),
    .host "renderer" (.initializeRenderer .openGl { glGetProcAddress := true }),
    .host "size" (.setSize 1280 720), .host "loop" .runLoop, .host "stop" .requestStop]

/-- Neither the geometry nor the request to stop reaches the loop after the teardown. -/
theorem tearDown_renews_used :
    ∃ w, World.ofConfig {} {} = .ok w ∧
      (after w uses).graphics.phase = .stopped ∧
      (perform (after w uses) (.host "teardown" .tearDown)).2 = .success ∧
      Renewed (after w uses).graphics.statistics
        (perform (after w uses) (.host "teardown" .tearDown)).1
        (renewed (perform (after w uses) (.host "teardown" .tearDown)).1 "install")
        [.host "configure" (.configureGraphics {}),
          .host "renderer" (.initializeRenderer .openGl { glGetProcAddress := true }),
          .host "loop" .runLoop] := by
  let w : World SessionCall := { config := {}, router := {} }
  have opened : World.ofConfig {} {} = .ok w := rfl
  have stopped : (after w uses).graphics.phase = .stopped := rfl
  have idle : (after w uses).graphics.phase ≠ .running := by
    rw [stopped]
    decide
  obtain ⟨done, -, -, renewal⟩ := tearDown_renews idle "teardown"
  exact ⟨w, opened, stopped, done, renewal "install" _⟩

end SessionCall

end EmuHost
