import EmuHost.Proofs.RouterSlots
import EmuHost.Proofs.SessionHistory

/-!
# The input that frames see

Each submission of a frame carries the input that was published last before it: the answer of the
last update in the history of the session, whoever made it, the host between loops or one of its
calls in the middle of an earlier frame. What was gathered since is not in it.

## Key results

- `World.Effect.samePublished`: no call but an update publishes
- `SessionCall.Publishes.step`: an update publishes its own answer, and nothing else publishes
- `SessionCall.Trace.submissions`: the submissions of a session are those that its history tells of
- `SessionCall.submissions_carry_last_update`: the input of all submissions of a session
-/

namespace EmuHost

/-- Whether a call publishes the gathered input. -/
def SessionCall.isUpdate : SessionCall → Bool
  | .host _ (.input .update) => true
  | _ => false

/-- The snapshot in an answer. -/
def Answer.snapshot? : Answer → Option Snapshot
  | .snapshot s => some s
  | _ => none

/-- What an update answers, if it is one that happens. -/
def Happening.update? : Happening → Option Snapshot
  | .made w call => if call.isUpdate then (SessionCall.perform w call).2.snapshot? else none
  | _ => none

namespace History

/-- The answers of the updates, the last one at the end. -/
def updates (h : History) : List Snapshot := h.filterMap Happening.update?

/-- The answer of the last update, the empty snapshot if there was none. -/
def lastUpdate (h : History) : Snapshot := h.updates.getLastD {}

/-- Updates come in the order of the happenings. -/
theorem updates_append (h k : History) : updates (h ++ k) = h.updates ++ k.updates :=
  List.filterMap_append

/-- What is no update adds none. -/
theorem updates_quiet (h : History) {now : Happening} (quiet : now.update? = none) :
    updates (h ++ [now]) = h.updates := by
  have none : updates [now] = [] := List.filterMap_cons_none quiet
  rw [updates_append, none, List.append_nil]

end History

/-- An update has one call, under whatever name. -/
theorem SessionCall.eq_of_isUpdate {call : SessionCall} (is : call.isUpdate = true) :
    ∃ name, call = .host name (.input .update) := by
  simp only [isUpdate] at is
  split at is
  · exact ⟨_, rfl⟩
  · cases is

/-! ## What is published -/

namespace World

variable {κ : Type}

/-- Whether two sessions have published the same input. -/
def SamePublished (w v : World κ) : Prop :=
  v.router.published = w.router.published ∧ v.router.tick = w.router.tick

/-- The router alone publishes. -/
theorem SamePublished.of_router {w v : World κ} (same : v.router = w.router) :
    w.SamePublished v := by
  rw [SamePublished, same]
  exact ⟨rfl, rfl⟩

/-- Only an update counts or publishes. A configuration that is accepted changes no more of the
router than the shape of the screen. -/
theorem Effect.samePublished {w v : World κ} {call : HostCall} {answer : Answer}
    (effect : w.Effect call v answer) (other : call ≠ .input .update) : w.SamePublished v := by
  cases effect with
  | input call =>
    have quiet : call ≠ .update := fun update => other (congrArg HostCall.input update)
    exact (w.router.perform_published quiet).symm
  | configured => exact ⟨rfl, rfl⟩
  | device uses touches => exact .of_router (by rw [touches.same])
  | looked | refused | uncreated | dropped | created | sized | vsynced | installed | stopRequested
  | tornDown | reloaded | updated | unserved => exact .of_router rfl

end World

/-! ## Updates of a session -/

namespace SessionCall

variable {w v : World SessionCall} {h : History}

/-- A session has published the answer of the last update, and counted the updates. -/
structure Publishes (h : History) (w : World SessionCall) : Prop where
  published : w.router.published = h.lastUpdate
  tick : w.router.tick = h.updates.length
  counted : h.lastUpdate.tick = h.updates.length

/-- What publishes nothing keeps what has been published. -/
theorem Publishes.keep (publishes : Publishes h w) (same : w.SamePublished v) {now : Happening}
    (quiet : now.update? = none) : Publishes (h ++ [now]) v := by
  have last : History.lastUpdate (h ++ [now]) = h.lastUpdate := by
    rw [History.lastUpdate, h.updates_quiet quiet]
    rfl
  refine ⟨?_, ?_, ?_⟩
  · rw [same.1, publishes.published, last]
  · rw [same.2, publishes.tick, h.updates_quiet quiet]
  · rw [last, publishes.counted, h.updates_quiet quiet]

/-- An update publishes what it answers, with the next tick. -/
theorem Publishes.update (publishes : Publishes h w) (name : String) :
    Publishes (h ++ [.made w (.host name (.input .update))])
      (perform w (.host name (.input .update))).1 := by
  -- the update answers what it publishes, so it comes last in the list of answers
  have updates : History.updates (h ++ [.made w (.host name (.input .update))]) =
      h.updates ++ [w.router.update.published] := History.updates_append h _
  have tick : w.router.update.tick = (h.updates ++ [w.router.update.published]).length := by
    rw [List.length_append, List.length_singleton, ← publishes.tick]
    rfl
  refine ⟨?_, ?_, ?_⟩
  · rw [History.lastUpdate, updates, List.getLastD_concat]
    rfl
  · rw [updates, ← tick]
    rfl
  · rw [History.lastUpdate, updates, List.getLastD_concat, ← tick]
    rfl

/-- No call but an update publishes. -/
theorem performWith_published (w : World SessionCall) {call : SessionCall}
    (other : call.isUpdate = false) :
    w.SamePublished (performWith World.refuseLoop w call).1 := by
  cases call with
  | host name call =>
    refine (w.perform_refuseLoop_effect call).samePublished ?_
    rintro rfl
    cases other
  | script change => exact ⟨rfl, rfl⟩
  | unknown name e => exact ⟨rfl, rfl⟩

/-- An update publishes its own answer, and nothing else publishes. -/
theorem Publishes.step (publishes : Publishes h w) {now : Happening} (step : Step w now v) :
    Publishes (h ++ [now]) v := by
  cases step with
  | @made _ call single =>
    -- of all calls of the host an update is the only one that publishes
    by_cases is : call.isUpdate = true
    · obtain ⟨name, rfl⟩ := eq_of_isUpdate is
      exact publishes.update name
    · rw [single]
      refine publishes.keep (performWith_published w (Bool.not_eq_true _ ▸ is)) ?_
      rw [Happening.update?, if_neg is]
  | failed r f =>
    refine publishes.keep ?_ rfl
    cases f <;> exact ⟨rfl, rfl⟩
  | entered | started | told | finished | stopped | broken =>
    refine publishes.keep ?_ rfl
    exact ⟨rfl, rfl⟩

/-- A new session has published the empty snapshot. -/
theorem publishes_fresh (fresh : w.Fresh) : Publishes [] w := ⟨fresh.published, fresh.tick, rfl⟩

end SessionCall

/-! ## Submissions -/

/-- What the renderer is given, if the loop gives it a frame. -/
def Happening.submission? : Happening → Option Submission
  | .told e => e.submission?
  | _ => none

/-- The submissions, the last one at the end. -/
def History.submissions (h : History) : List Submission := h.filterMap Happening.submission?

namespace SessionCall

variable {w v : World SessionCall} {h : History}

/-- What happens submits to the renderer only when the renderer is told to take a frame. -/
theorem Step.submissions {now : Happening} (step : Step w now v) :
    now.events.filterMap Event.submission? = now.submission?.toList := by
  cases step with
  | @made _ call single =>
    obtain ⟨calls, noted, quiet⟩ := performWith_events w call
    rw [Happening.events, single, noted, List.drop_left]
    refine List.filterMap_eq_nil_iff.mpr fun e mem => ?_
    -- a submission belongs to a frame
    have outside := quiet e mem
    cases e with
    | submit s => cases outside
    | _ => rfl
  | @told _ e =>
    rw [Happening.events, Happening.submission?, List.filterMap_cons, List.filterMap_nil]
    cases e.submission? <;> rfl
  | entered | started | finished | failed | stopped | broken => rfl

/-- The submissions of a session are those that its history tells of. -/
theorem Trace.submissions (trace : Trace w h v) :
    v.events.filterMap Event.submission? =
      w.events.filterMap Event.submission? ++ h.submissions := by
  rw [trace.events, List.filterMap_append]
  refine congrArg _ ?_
  -- call by call, as each thing that happens makes the submission that it tells of
  induction trace with
  | nil => rfl
  | @cons _ _ _ now later step rest ih =>
    rw [List.flatMap_cons, List.filterMap_append, ih, step.submissions]
    show now.submission?.toList ++ History.submissions later = History.submissions (now :: later)
    rw [History.submissions, History.submissions, List.filterMap_cons]
    cases now.submission? <;> rfl

/-- The input of a submission: what was published last, and with it the number of updates so far. -/
def CarriesLastUpdate (before : History) (now : Happening) : Prop :=
  ∀ s, now = .told (.submit s) →
    s.input = before.lastUpdate ∧ s.input.tick = before.updates.length

/-- A submission takes what is published, and that is the answer of the last update. -/
theorem Publishes.carries (publishes : Publishes h w) {now : Happening} (step : Step w now v) :
    CarriesLastUpdate h now := by
  intro s is
  subst is
  cases step with
  | told other published =>
    have input : s.input = h.lastUpdate := (published s rfl).trans publishes.published
    refine ⟨input, ?_⟩
    rw [input]
    exact publishes.counted

/-- Every submission carries the last update before it. -/
theorem history_carriesLastUpdate (fresh : w.Fresh) (calls : List SessionCall) :
    (history w calls).Always CarriesLastUpdate := by
  have keeps (h : History) (w : World SessionCall) (now : Happening) (v : World SessionCall)
      (publishes : Publishes h w) (step : Step w now v) :
      CarriesLastUpdate h now ∧ Publishes (h ++ [now]) v :=
    ⟨publishes.carries step, publishes.step step⟩
  exact ((history_trace w calls).always keeps (publishes_fresh fresh)).1

/-- From one submission to a later one the input changes to what is published in between. -/
theorem input_between {h before between later : History} {first second : Submission}
    (always : h.Always CarriesLastUpdate)
    (split : h = before ++ .told (.submit first) ::
      (between ++ .told (.submit second) :: later)) :
    second.input = between.updates.getLastD first.input ∧
      second.input.tick = first.input.tick + between.updates.length := by
  -- both submissions carry the last update before them
  have early := always before (.told (.submit first)) _ split first rfl
  have late := always (before ++ .told (.submit first) :: between) (.told (.submit second)) later
    (by rw [split, List.append_assoc, List.cons_append]) second rfl
  have updates : History.updates (before ++ .told (.submit first) :: between) =
      before.updates ++ between.updates := History.updates_append before _
  obtain ⟨input, tick⟩ := early
  refine ⟨?_, ?_⟩
  · rw [late.1, input, History.lastUpdate, updates, History.lastUpdate, List.getLastD_eq_getLast?,
      List.getLast?_append, Option.getD_or, ← List.getLastD_eq_getLast?,
      ← List.getLastD_eq_getLast?]
  · rw [late.2, tick, updates, List.length_append]

/-- However updates and frames follow each other, between loops and in the middle of frames: each
submission carries the answer of the last update before it, the empty snapshot if there was none,
and its tick is the number of updates so far. So from one submission to a later one the input is the
same but for the updates in between. There are no other submissions than those of the history. -/
theorem submissions_carry_last_update {s : Surroundings SessionCall} {config : HostConfig}
    (opened : World.ofConfig s config = .ok w) (calls : List SessionCall) :
    (history w calls).Always CarriesLastUpdate ∧
      (∀ (before between later : History) (first second : Submission),
        history w calls = before ++ .told (.submit first) ::
          (between ++ .told (.submit second) :: later) →
        second.input = between.updates.getLastD first.input ∧
          second.input.tick = first.input.tick + between.updates.length) ∧
      (after w calls).events.filterMap Event.submission? =
        w.events.filterMap Event.submission? ++ (history w calls).submissions := by
  have always := history_carriesLastUpdate (World.fresh_of_ofConfig opened) calls
  exact ⟨always, fun _ _ _ _ _ split => input_between always split,
    (history_trace w calls).submissions⟩

/-- Two updates in the middle of the first frame, after a press, and one frame after it. -/
def updating : Surroundings SessionCall where
  core :=
    { frames :=
        [{ calls :=
            [.host "press" (.input (.press .a 0)), .host "update" (.input .update),
              .host "update" (.input .update)]
           submitted := .idle }] }

/-- The first frame does not see the updates, the second one sees both. -/
theorem submissions_carry_last_update_updating :
    ∃ w, World.ofConfig updating {} = .ok w ∧
      ∃ calls, (history w calls).submissions.map (·.input.tick) = [0, 2] ∧
        (history w calls).Always CarriesLastUpdate := by
  let calls : List SessionCall :=
    [.host "configure" (.configureGraphics {}),
      .host "renderer" (.initializeRenderer .openGl { glGetProcAddress := true }),
      .host "loop" .runLoop]
  refine ⟨_, rfl, calls, by decide, ?_⟩
  have opened : World.ofConfig updating {} = .ok _ := rfl
  exact (submissions_carry_last_update opened calls).1

end SessionCall

end EmuHost
