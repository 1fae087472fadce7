import EmuHost.Proofs.InputHistory

/-!
# The touch of the input history

A router keeps one touch in a latch of three fields. This file reads the touch that each update
publishes off the log of calls alone: there is one if the host still holds it, or has pressed since
the last update; it is where the host pressed last; and it falls on the panel as the client area
and the shape of the screen are at that update. Logs are lists with the latest call first.

## Key results

- `TouchLatch.Reflects.latched`: the invariant that ties the latch to the log, kept by every call
- `Router.TracksTouch.perform`: the same for all that a router maps touches with
- `Router.touch_follows_log`: the touch that an update publishes, and what this means for taps, for
  held touches and for releases
-/

namespace EmuHost

/-! ## What a log tells of touches -/

namespace InputCall

/-- The point of the client area that a call presses. -/
def pressedAt? : InputCall → Option (Vec2 Binary32)
  | .touch x y => some ⟨.ofInt x, .ofInt y⟩
  | _ => none

/-- Whether a touch event leaves the touch held. The other calls are no touch events. -/
def holds? : InputCall → Option Bool
  | .touch .. => some true
  | .releaseTouch => some false
  | _ => none

/-- The shape of the screen that a call sets. -/
def aspect? : InputCall → Option AspectRatio
  | .setAspectRatio aspect => some aspect
  | _ => none

/-- What a call does to the latch. -/
def latched : InputCall → TouchLatch (Vec2 Binary32) → TouchLatch (Vec2 Binary32)
  | .touch x y, t => t.press ⟨.ofInt x, .ofInt y⟩
  | .releaseTouch, t => t.release
  | .update, t => t.afterPublish
  | _, t => t

end InputCall

namespace InputLog

/-- The size of the client area that an entry of the log has brought into force. -/
def acceptedSize? : InputCall × InputAnswer → Option (Nat × Nat)
  | (.openClient width height, .success) => some (width.toNat, height.toNat)
  | (.resizeClient width height, .success) => some (width.toNat, height.toNat)
  | _ => none

/-- Whether the last touch event is a press. -/
def isHeld (log : InputLog) : Bool := (log.findSome? (·.1.holds?)).getD false

/-- The part of a log after the last update. -/
def sinceUpdate (log : InputLog) : InputLog := log.takeWhile fun entry => entry.1 ≠ .update

/-- Whether there was a press since the last update. -/
def isTapped (log : InputLog) : Bool := log.sinceUpdate.any (·.1.pressedAt?.isSome)

/-- Where the last press was. -/
def lastPress? (log : InputLog) : Option (Vec2 Binary32) := log.findSome? (·.1.pressedAt?)

/-- The client area in force, if the host has told one. -/
def clientSize? (log : InputLog) : Option (Nat × Nat) := log.findSome? acceptedSize?

/-- The shape of the screen in force. -/
def aspectRatio (log : InputLog) : AspectRatio :=
  (log.findSome? (·.1.aspect?)).getD .fixed16x9

/-- Whether a log holds no press. -/
def Unpressed (log : InputLog) : Prop := ∀ entry ∈ log, entry.1.pressedAt? = none

/-- Whether a log holds a release. -/
def Released (log : InputLog) : Prop := ∃ answer, (.releaseTouch, answer) ∈ log

/-- Only a press leaves the touch held. -/
theorem exists_press_of_isHeld {log : InputLog} (held : log.isHeld = true) :
    ∃ entry ∈ log, entry.1.pressedAt?.isSome = true := by
  cases last : log.findSome? (·.1.holds?) with
  | none => simp [isHeld, last] at held
  | some b =>
    obtain rfl : b = true := by simpa [isHeld, last] using held
    obtain ⟨⟨call, answer⟩, mem, holds⟩ := List.exists_of_findSome?_eq_some last
    refine ⟨_, mem, ?_⟩
    cases call with
    | touch => rfl
    | _ => simp [InputCall.holds?] at holds

/-- Nothing is held that was not pressed. -/
theorem isHeld_of_unpressed {log : InputLog} (unpressed : log.Unpressed) : log.isHeld = false := by
  rw [← Bool.not_eq_true]
  intro held
  obtain ⟨entry, mem, pressed⟩ := exists_press_of_isHeld held
  simp [unpressed entry mem] at pressed

/-- What happened before a touch event does not matter any more. -/
theorem isHeld_append {log : InputLog} (event : ∃ entry ∈ log, entry.1.holds?.isSome = true)
    (earlier : InputLog) : isHeld (log ++ earlier) = log.isHeld := by
  obtain ⟨held, last⟩ := Option.isSome_iff_exists.mp (List.findSome?_isSome_iff.mpr event)
  simp [isHeld, List.findSome?_append, last]

/-- A touch that was released, and not pressed since, is not held. -/
theorem isHeld_of_released {log : InputLog} (released : log.Released) (unpressed : log.Unpressed)
    (earlier : InputLog) : isHeld (log ++ earlier) = false := by
  obtain ⟨answer, mem⟩ := released
  rw [isHeld_append ⟨_, mem, rfl⟩, isHeld_of_unpressed unpressed]

/-- A touch that was pressed, and not released since, is held. -/
theorem isHeld_of_pressed {log : InputLog} (unreleased : ¬log.Released) (x y : Int)
    (answer : InputAnswer) (earlier : InputLog) :
    isHeld (log ++ (.touch x y, answer) :: earlier) = true := by
  have others (entry : InputCall × InputAnswer) (mem : entry ∈ log) :
      entry.1.holds? ≠ some false := by
    obtain ⟨call, answer⟩ := entry
    cases call with
    | releaseTouch => exact absurd ⟨answer, mem⟩ unreleased
    | _ => simp [InputCall.holds?]
  simp only [isHeld, List.findSome?_append]
  cases last : log.findSome? (·.1.holds?) with
  | none => rfl
  | some held =>
    obtain ⟨entry, among, holds⟩ := List.exists_of_findSome?_eq_some last
    cases held with
    | true => rfl
    | false => exact absurd holds (others entry among)

/-- A press counts as a tap until the next update. -/
theorem isTapped_of_pressed {log : InputLog} (unpublished : ∀ entry ∈ log, entry.1 ≠ .update)
    (x y : Int) (answer : InputAnswer) (earlier : InputLog) :
    isTapped (log ++ (.touch x y, answer) :: earlier) = true := by
  have since : sinceUpdate (log ++ (.touch x y, answer) :: earlier) =
      log ++ (.touch x y, answer) :: sinceUpdate earlier := by
    unfold sinceUpdate
    rw [List.takeWhile_append_of_pos (by simpa using unpublished)]
    rfl
  simp [isTapped, since, InputCall.pressedAt?]

/-- An update makes a press old. -/
theorem isTapped_of_unpressed {log : InputLog} (unpressed : log.Unpressed) (answer : InputAnswer)
    (earlier : InputLog) : isTapped (log ++ (.update, answer) :: earlier) = false := by
  -- what comes since the last update is a part of `log`
  have since : ∀ entry ∈ sinceUpdate (log ++ (.update, answer) :: earlier), entry ∈ log := by
    intro entry mem
    have stops : List.takeWhile (fun entry : InputCall × InputAnswer => decide (entry.1 ≠ .update))
        ((.update, answer) :: earlier) = [] := rfl
    rw [sinceUpdate, List.takeWhile_append, stops, List.append_nil] at mem
    split at mem
    · exact mem
    · exact (List.takeWhile_sublist _).subset mem
  simp only [isTapped, List.any_eq_false]
  intro entry mem
  simp [unpressed entry (since entry mem)]

/-- Nor tapped. -/
theorem isTapped_of_forall_unpressed {log : InputLog} (unpressed : log.Unpressed) :
    log.isTapped = false := by
  simp only [isTapped, List.any_eq_false]
  intro entry mem
  simp [unpressed entry ((List.takeWhile_sublist _).subset mem)]

/-- The last press is the one that no other follows. -/
theorem lastPress?_of_unpressed {log : InputLog} (unpressed : log.Unpressed) (x y : Int)
    (answer : InputAnswer) (earlier : InputLog) :
    lastPress? (log ++ (.touch x y, answer) :: earlier) = some ⟨.ofInt x, .ofInt y⟩ := by
  have nowhere : log.findSome? (·.1.pressedAt?) = none := List.findSome?_eq_none_iff.mpr unpressed
  unfold lastPress?
  rw [List.findSome?_append, nowhere]
  rfl

/-- A touch that is held or tapped has a point. -/
theorem lastPress?_isSome {log : InputLog} (touched : log.isHeld = true ∨ log.isTapped = true) :
    log.lastPress?.isSome = true := by
  unfold lastPress?
  rw [List.findSome?_isSome_iff]
  rcases touched with held | tapped
  · exact exists_press_of_isHeld held
  · obtain ⟨entry, mem, pressed⟩ := List.any_eq_true.mp tapped
    exact ⟨entry, (List.takeWhile_sublist _).subset mem, pressed⟩

end InputLog

/-! ## The latch -/

namespace TouchLatch

/-- How a latch reflects a log. The position counts only as long as it may be published. -/
structure Reflects (t : TouchLatch (Vec2 Binary32)) (log : InputLog) : Prop where
  held : t.held = log.isHeld
  unpublished : t.unpublished = log.isTapped
  position : t.held = true ∨ t.unpublished = true → t.position = log.lastPress?

variable {t : TouchLatch (Vec2 Binary32)} {log : InputLog}

/-- A new latch reflects an empty log. -/
theorem reflects_nil : Reflects {} [] := ⟨rfl, rfl, by simp⟩

/-- Every call keeps a latch in line with the log. -/
theorem Reflects.latched (h : t.Reflects log) (call : InputCall) (answer : InputAnswer) :
    (call.latched t).Reflects ((call, answer) :: log) := by
  -- calls that are no touch events and publish nothing leave all three fields alone
  have other (noTouch : call.holds? = none) (noPress : call.pressedAt? = none)
      (noUpdate : call ≠ .update) (same : call.latched t = t) :
      (call.latched t).Reflects ((call, answer) :: log) := by
    rw [same]
    refine ⟨?_, ?_, ?_⟩
    · simpa [InputLog.isHeld, noTouch] using h.held
    · simpa [InputLog.isTapped, InputLog.sinceUpdate, noUpdate, noPress] using h.unpublished
    · simpa [InputLog.lastPress?, noPress] using h.position
  cases call with
  | touch x y => exact ⟨rfl, rfl, fun _ => rfl⟩
  | releaseTouch =>
    refine ⟨rfl, h.unpublished, fun published => ?_⟩
    -- only a tap that is still to be published keeps the position in use
    exact h.position (.inr (published.resolve_left Bool.false_ne_true))
  | update =>
    refine ⟨h.held, rfl, fun published => ?_⟩
    have held : t.held = true := published.resolve_right Bool.false_ne_true
    have kept : (InputCall.update.latched t).position = t.position := by
      simp [InputCall.latched, afterPublish, held]
    rw [kept]
    exact h.position (.inl held)
  | _ => exact other rfl rfl (by simp) rfl

/-- What a latch gives to an update. -/
theorem Reflects.current (h : t.Reflects log) :
    t.current = if log.isHeld || log.isTapped then log.lastPress? else none := by
  unfold TouchLatch.current
  rw [← h.held, ← h.unpublished]
  split
  · rename_i published
    rw [Bool.or_eq_true] at published
    exact h.position published
  · rfl

end TouchLatch

/-! ## The router -/

namespace Router

variable (r : Router)

/-- Events of controllers leave the touch. -/
theorem touch_of_event {call : InputCall} (named : call.slot?.isSome = true) :
    (r.perform call).1.touch = r.touch := by
  obtain ⟨_, frame⟩ := r.event_frame named
  rw [frame]

/-- And the client area. -/
theorem clientSize_of_event {call : InputCall} (named : call.slot?.isSome = true) :
    (r.perform call).1.clientSize = r.clientSize := by
  obtain ⟨_, frame⟩ := r.event_frame named
  rw [frame]

/-- A call does to the latch of a router what `InputCall.latched` says. -/
theorem perform_touch (call : InputCall) : (r.perform call).1.touch = call.latched r.touch := by
  cases call with
  | press | release | moveStick | accelerometer | gyro => exact r.touch_of_event rfl
  | connect index =>
    obtain ⟨_, _, frame⟩ := r.connect_frame index
    rw [frame]
    rfl
  | openClient width height =>
    obtain ⟨_, frame⟩ := r.openClient_frame width height
    simp only [perform, answering, frame, InputCall.latched]
  | resizeClient width height =>
    obtain ⟨_, frame⟩ := r.resizeClient_frame width height
    simp only [perform, answering, frame, InputCall.latched]
  | _ => rfl

/-- A size is in force from the call on that is answered with success. -/
theorem perform_clientSize (call : InputCall) :
    (r.perform call).1.clientSize =
      (InputLog.acceptedSize? (call, (r.perform call).2.2)).or r.clientSize := by
  cases call with
  | press | release | moveStick | accelerometer | gyro => exact r.clientSize_of_event rfl
  | connect index =>
    obtain ⟨_, _, frame⟩ := r.connect_frame index
    rw [frame]
    rfl
  -- a size comes into force with the answer of success only
  | openClient width height =>
    simp only [perform, answering, openClient, checkSize]
    -- refused for the size, refused for the state, or accepted
    by_cases positive : 0 < width ∧ 0 < height
    · by_cases opened : r.isInitialized = true
      · simp [positive, opened, Reply.refused, InputLog.acceptedSize?]
      · simp [positive, opened, Reply.done, InputLog.acceptedSize?]
    · simp [positive, Reply.refused, InputLog.acceptedSize?]
  | resizeClient width height =>
    simp only [perform, answering, resizeClient, checkSize]
    by_cases positive : 0 < width ∧ 0 < height
    · by_cases opened : r.isInitialized = true
      · simp [positive, opened, Reply.done, InputLog.acceptedSize?]
      · simp [positive, opened, Reply.refused, InputLog.acceptedSize?]
    · simp [positive, Reply.refused, InputLog.acceptedSize?]
  | _ => rfl

/-- How what a router maps touches with reflects the log of its calls. -/
structure TracksTouch (log : InputLog) : Prop where
  latch : r.touch.Reflects log
  clientSize : r.clientSize = log.clientSize?
  aspectRatio : r.aspectRatio = log.aspectRatio

variable {r} {log : InputLog}

/-- Every call keeps a router in line with its log. -/
theorem TracksTouch.perform (h : r.TracksTouch log) (call : InputCall) :
    (r.perform call).1.TracksTouch ((call, (r.perform call).2.2) :: log) where
  latch := by
    rw [r.perform_touch]
    exact h.latch.latched call _
  clientSize := by
    rw [r.perform_clientSize, h.clientSize, InputLog.clientSize?, InputLog.clientSize?,
      List.findSome?_cons]
    cases InputLog.acceptedSize? (call, (r.perform call).2.2) <;> rfl
  aspectRatio := by
    by_cases shapes : ∃ aspect, call = .setAspectRatio aspect
    · obtain ⟨aspect, rfl⟩ := shapes
      rfl
    · rw [not_exists] at shapes
      have unshaped : call.aspect? = none := by
        cases call with
        | setAspectRatio aspect => exact absurd rfl (shapes aspect)
        | _ => rfl
      rw [r.perform_aspectRatio shapes, h.aspectRatio]
      simp [InputLog.aspectRatio, unshaped]

/-- A new router has tracked no touches. -/
theorem IsNew.tracksTouch (new : r.IsNew) : r.TracksTouch [] := by
  rw [new.eq_blank]
  exact ⟨TouchLatch.reflects_nil, rfl, rfl⟩

/-- All that happens to it keeps the touches tracked. -/
theorem IsNew.after_tracksTouch (new : r.IsNew) (calls : List InputCall) :
    (r.after calls).TracksTouch (r.log calls) := by
  -- on the calls, by what one of them keeps
  induction calls with
  | nil => exact new.tracksTouch
  | cons call earlier ih => exact ih.perform call

/-- The touch that the next update publishes, by the log. -/
theorem TracksTouch.currentTouch (h : r.TracksTouch log) :
    r.currentTouch =
      if log.isHeld || log.isTapped then
        log.lastPress?.map fun client =>
          { client
            panel := log.clientSize?.bind fun (width, height) =>
              Panel.position? client width height log.aspectRatio.value }
      else none := by
  rw [Router.currentTouch, h.latch.current, h.clientSize, h.aspectRatio]
  split <;> rfl

end Router

/-! ## What is published -/

/-- The touch that an update publishes after a log. -/
structure PublishesTouch (log : InputLog) (touch : Option TouchPoint) : Prop where
  /-- There is one if the last touch event is a press, or if there was a press since the last
  update. -/
  isSome_iff : touch.isSome = true ↔ log.isHeld = true ∨ log.isTapped = true
  /-- It is where the last press was. -/
  client : ∀ t, touch = some t → log.lastPress? = some t.client
  /-- It falls on the panel as the client area and the screen are now, and nowhere as long as the
  host has told no client area. -/
  panel : ∀ t, touch = some t → t.panel = log.clientSize?.bind fun (width, height) =>
    Panel.position? t.client width height log.aspectRatio.value
  /-- The last press before an update is published by it, released or not. -/
  tap : ∀ (later : InputLog) x y answer earlier, log = later ++ (.touch x y, answer) :: earlier →
    later.Unpressed → (∀ entry ∈ later, entry.1 ≠ .update) →
    touch.map TouchPoint.client = some ⟨.ofInt x, .ofInt y⟩
  /-- If it was released before that update, no other one publishes it. -/
  tapOnce : ∀ (later : InputLog) answer (between : InputLog) x y pressed earlier,
    log = later ++ (.update, answer) :: (between ++ (.touch x y, pressed) :: earlier) →
    later.Unpressed → between.Unpressed → between.Released → touch = none
  /-- A held touch is published by every update until its release. -/
  hold : ∀ (later : InputLog) x y answer earlier, log = later ++ (.touch x y, answer) :: earlier →
    ¬later.Released → touch.isSome = true
  /-- A release with no press since the last update ends the touch at once. -/
  letGo : ∀ (later : InputLog) answer earlier, log = later ++ (.update, answer) :: earlier →
    later.Unpressed → later.Released → touch = none
  /-- Releases without a press publish nothing. -/
  untouched : log.Unpressed → touch = none

namespace PublishesTouch

variable {log : InputLog} {touch : Option TouchPoint}

/-- What is neither held nor tapped is not published. -/
theorem eq_none (isSome_iff : touch.isSome = true ↔ log.isHeld = true ∨ log.isTapped = true)
    (unheld : log.isHeld = false) (untapped : log.isTapped = false) : touch = none := by
  rw [← Option.not_isSome_iff_eq_none, isSome_iff, unheld, untapped]
  simp

/-- What taps, held touches and releases come to follows from the first two facts. -/
theorem of_facts (isSome_iff : touch.isSome = true ↔ log.isHeld = true ∨ log.isTapped = true)
    (client : ∀ t, touch = some t → log.lastPress? = some t.client)
    (panel : ∀ t, touch = some t → t.panel = log.clientSize?.bind fun (width, height) =>
      Panel.position? t.client width height log.aspectRatio.value) :
    PublishesTouch log touch where
  isSome_iff := isSome_iff
  client := client
  panel := panel
  tap later x y answer earlier split unpressed unpublished := by
    subst split
    have tapped := InputLog.isTapped_of_pressed unpublished x y answer earlier
    obtain ⟨t, here⟩ := Option.isSome_iff_exists.mp (isSome_iff.mpr (.inr tapped))
    have last := InputLog.lastPress?_of_unpressed unpressed x y answer earlier
    rw [here, Option.map_some, ← client t here, last]
  tapOnce later answer between x y pressed earlier split unpressed unpressedBetween released := by
    subst split
    have untapped := InputLog.isTapped_of_unpressed unpressed answer
      (between ++ (.touch x y, pressed) :: earlier)
    -- neither what came after the update nor the release before it holds the touch
    have quiet : InputLog.Unpressed (later ++ (.update, answer) :: between) := by
      refine List.forall_mem_append.mpr ⟨unpressed, List.forall_mem_cons.mpr ⟨rfl, ?_⟩⟩
      exact unpressedBetween
    have letGo : InputLog.Released (later ++ (.update, answer) :: between) := by
      obtain ⟨released, mem⟩ := released
      exact ⟨released, List.mem_append_right _ (List.mem_cons_of_mem _ mem)⟩
    have unheld := InputLog.isHeld_of_released letGo quiet ((.touch x y, pressed) :: earlier)
    rw [List.append_assoc, List.cons_append] at unheld
    exact eq_none isSome_iff unheld untapped
  hold later x y answer earlier split unreleased := by
    subst split
    exact isSome_iff.mpr (.inl (InputLog.isHeld_of_pressed unreleased x y answer earlier))
  letGo later answer earlier split unpressed released := by
    subst split
    exact eq_none isSome_iff (InputLog.isHeld_of_released released unpressed _)
      (InputLog.isTapped_of_unpressed unpressed answer earlier)
  untouched unpressed :=
    eq_none isSome_iff (InputLog.isHeld_of_unpressed unpressed)
      (InputLog.isTapped_of_forall_unpressed unpressed)

end PublishesTouch

namespace Router

/-- Whatever a host calls, each update publishes the touch that the log asks for. -/
theorem touch_follows_log {r : Router} (new : r.IsNew) (calls : List InputCall) :
    ∃ s, r.log (.update :: calls) = (.update, .snapshot s) :: r.log calls ∧
      PublishesTouch (r.log calls) s.touch := by
  have published := (new.after_tracksTouch calls).currentTouch
  refine ⟨(r.after calls).update.published, rfl, ?_⟩
  change PublishesTouch (r.log calls) (r.after calls).currentTouch
  generalize r.log calls = log at published ⊢
  rw [published]
  -- a touch is published with the press that it goes back to, or there is none
  by_cases touched : log.isHeld = true ∨ log.isTapped = true
  · obtain ⟨client, last⟩ := Option.isSome_iff_exists.mp (InputLog.lastPress?_isSome touched)
    simp only [Bool.or_eq_true, if_pos touched, last, Option.map_some]
    refine .of_facts ⟨fun _ => touched, fun _ => rfl⟩ ?_ ?_
    · rintro t ⟨⟩
      exact last
    · rintro t ⟨⟩
      rfl
  · simp only [Bool.or_eq_true, if_neg touched]
    exact .of_facts (by simpa using touched) (by simp) (by simp)

/-- A tap on a client area of four by three: the first update publishes it, the second does not. -/
theorem touch_follows_log_tap :
    IsNew {} ∧
      (∃ s, log {} [.update, .releaseTouch, .touch 2 1, .openClient 4 3] =
          (.update, .snapshot s) :: log {} [.releaseTouch, .touch 2 1, .openClient 4 3] ∧
        s.touch.map TouchPoint.client = some ⟨.ofInt 2, .ofInt 1⟩) ∧
      ∃ s, log {} [.update, .update, .releaseTouch, .touch 2 1, .openClient 4 3] =
          (.update, .snapshot s) :: log {} [.update, .releaseTouch, .touch 2 1, .openClient 4 3] ∧
        s.touch = none := by
  have new : IsNew {} := .default
  refine ⟨new, ?_, ?_⟩
  · obtain ⟨s, answered, publishes⟩ :=
      touch_follows_log new [.releaseTouch, .touch 2 1, .openClient 4 3]
    refine ⟨s, answered, publishes.tap [(.releaseTouch, .nothing)] 2 1 _ _ rfl ?_ ?_⟩
    · simp [InputLog.Unpressed, InputCall.pressedAt?]
    · simp
  · obtain ⟨s, answered, publishes⟩ :=
      touch_follows_log new [.update, .releaseTouch, .touch 2 1, .openClient 4 3]
    refine ⟨s, answered, publishes.tapOnce [] _ [(.releaseTouch, .nothing)] 2 1 _ _ rfl ?_ ?_ ?_⟩
    · simp [InputLog.Unpressed]
    · simp [InputLog.Unpressed, InputCall.pressedAt?]
    · exact ⟨_, List.mem_singleton.mpr rfl⟩

end Router

end EmuHost
