import EmuHost.Proofs.RouterSlots

/-!
# Snapshots are the last writes of the input history

A router changes its slots in place, call by call. This file reads a published snapshot off the
log of calls and answers alone: a slot is connected once a connection was answered with a handle,
and each button, stick and sample is what the last event for it has set since then. Logs are lists
with the latest call first.

## Key results

- `Router.Tracks`: the invariant that ties a router to the log of its calls, kept by every call
- `Router.log_heard`: without the events that are dropped, all other calls are answered alike
- `Router.snapshot_eq_last_writes`: what an update publishes, in terms of the log
-/

namespace EmuHost

/-- The calls made to a router and their answers, the latest first. -/
abbrev InputLog := List (InputCall × InputAnswer)

namespace Router

/-- The router after calls, the latest first. -/
def after (r : Router) : List InputCall → Router
  | [] => r
  | call :: earlier => ((r.after earlier).perform call).1

/-- The log of calls, the latest first. -/
def log (r : Router) : List InputCall → InputLog
  | [] => []
  | call :: earlier => (call, ((r.after earlier).perform call).2.2) :: r.log earlier

end Router

/-! ## What a log tells -/

namespace InputCall

/-- What a call sets a button to, if it is for the button. -/
def pressed? (button : Button) : InputCall → Option Bool
  | .press id _ => if id = button then some true else none
  | .release id _ => if id = button then some false else none
  | _ => none

/-- Where a call moves a stick, if it is for the stick. -/
def axes? (which : Stick) : InputCall → Option (Vec2 Binary32)
  | .moveStick id value _ => if id = which then some value else none
  | _ => none

/-- The accelerometer sample that a call brings. -/
def accelerometer? : InputCall → Option (Vec3 Binary32)
  | .accelerometer value _ => some value
  | _ => none

/-- The gyroscope sample that a call brings. -/
def gyro? : InputCall → Option (Vec3 Binary32)
  | .gyro value _ => some value
  | _ => none

end InputCall

namespace InputLog

/-- How many updates there were. -/
def updates (log : InputLog) : Nat := log.countP (·.1 = .update)

/-- What the last update answered, the empty snapshot if there was none. -/
def lastSnapshot : InputLog → Snapshot
  | [] => {}
  | (.update, .snapshot s) :: _ => s
  | _ :: earlier => lastSnapshot earlier

/-- Whether a connection of slot `i` was answered with a handle. -/
def isConnected (log : InputLog) (i : Nat) : Bool :=
  log.any fun
    | (.connect index, .number _) => index == i
    | _ => false

/-- The part of a log after slot `i` was connected. -/
def sinceConnection (i : Nat) : InputLog → InputLog
  | [] => []
  | entry :: earlier => if isConnected earlier i then entry :: sinceConnection i earlier else []

/-- The last of the values that `read` finds in the events for slot `i`. -/
def last {α : Type} (log : InputLog) (i : Nat) (read : InputCall → Option α) : Option α :=
  log.findSome? fun entry => if entry.1.slot? = some i then read entry.1 else none

/-- Whether a call that follows a log is an event to be dropped: one for an unbound button or stick,
for a slot past the table, or for a slot that is not connected. -/
def drops (log : InputLog) (call : InputCall) : Bool :=
  call.slot?.any fun i => call.isUnbound || decide (slotCount ≤ i) || !log.isConnected i

/-- A log without the events that were dropped. -/
def heard : InputLog → InputLog
  | [] => []
  | entry :: earlier => if drops earlier entry.1 then heard earlier else entry :: heard earlier

/-- A slot is connected if it was given a handle at any time. -/
theorem isConnected_iff (log : InputLog) (i : Nat) :
    log.isConnected i = true ↔ ∃ handle, (.connect i, .number handle) ∈ log := by
  simp only [isConnected, List.any_eq_true]
  constructor
  · rintro ⟨⟨call, answer⟩, mem, connects⟩
    split at connects
    · rename_i index handle e
      cases e
      obtain rfl := eq_of_beq connects
      exact ⟨handle, mem⟩
    · exact nomatch connects
  · rintro ⟨handle, mem⟩
    exact ⟨_, mem, beq_self_eq_true i⟩

/-- Connecting a slot with a handle adds to the connected ones. -/
theorem isConnected_connect (log : InputLog) (index handle i : Nat) :
    isConnected ((.connect index, .number handle) :: log) i = (index == i || log.isConnected i) :=
  rfl

/-- Only an answered connection connects. -/
theorem isConnected_cons {call : InputCall} {answer : InputAnswer} (log : InputLog) (i : Nat)
    (unanswered : (∀ index, call ≠ .connect index) ∨ ∀ handle, answer ≠ .number handle) :
    isConnected ((call, answer) :: log) i = log.isConnected i := by
  simp only [isConnected, List.any_cons]
  split
  · rename_i index handle e
    cases e
    rcases unanswered with plain | unanswered
    · exact absurd rfl (plain index)
    · exact absurd rfl (unanswered handle)
  · exact Bool.false_or _

end InputLog

/-! ## Controllers -/

namespace InputCall

variable (call : InputCall) (c : Controller)

/-- An event sets a button's bit as it presses or releases the button. -/
theorem getLsbD_edit {button : Button} (bound : button ≠ .unbound) :
    (call.edit c).buttons.bits.getLsbD button.code =
      (call.pressed? button).getD (c.buttons.bits.getLsbD button.code) := by
  have same (id : Button) : (id ≠ .unbound ∧ button.code = id.code) ↔ id = button :=
    ⟨fun h => (Button.code_injective h.2).symm, fun h => ⟨h ▸ bound, h ▸ rfl⟩⟩
  -- each event has one button that it can be about, and codes tell buttons apart
  cases call with
  | press id index =>
    simp only [edit, pressed?, ButtonSet.getLsbD_insert, same]
    by_cases which : id = button <;> simp [which]
  | release id index =>
    simp only [edit, pressed?, ButtonSet.getLsbD_erase, same]
    by_cases which : id = button <;> simp [which]
  | moveStick which value index => cases which <;> rfl
  | _ => rfl

/-- No event sets a bit that belongs to no button. -/
theorem getLsbD_edit_of_no_button {k : Nat} (outside : k = 0 ∨ 27 < k)
    (unset : c.buttons.bits.getLsbD k = false) :
    (call.edit c).buttons.bits.getLsbD k = false := by
  have noButton (id : Button) : ¬(id ≠ .unbound ∧ k = id.code) := by
    rintro ⟨bound, rfl⟩
    have := id.code_lt
    have : id.code ≠ 0 := fun zero => bound (Button.code_injective zero)
    omega
  cases call with
  | press id index => simp [edit, ButtonSet.getLsbD_insert, noButton id, unset]
  | release id index => simp [edit, ButtonSet.getLsbD_erase, unset]
  | moveStick which value index => cases which <;> exact unset
  | _ => exact unset

/-- The left stick goes where it was moved last. -/
theorem edit_leftStick : (call.edit c).leftStick = (call.axes? .left).getD c.leftStick := by
  cases call with
  | moveStick which value index => cases which <;> rfl
  | _ => rfl

/-- And so does the right one. -/
theorem edit_rightStick : (call.edit c).rightStick = (call.axes? .right).getD c.rightStick := by
  cases call with
  | moveStick which value index => cases which <;> rfl
  | _ => rfl

/-- The accelerometer has the value that was given last. -/
theorem edit_accelerometer :
    (call.edit c).accelerometer = call.accelerometer?.getD c.accelerometer := by
  -- the events of a stick say which one, and the others nothing of it
  cases call with
  | moveStick which value index => cases which <;> rfl
  | _ => rfl

/-- And so does the gyroscope. -/
theorem edit_gyro : (call.edit c).gyro = call.gyro?.getD c.gyro := by
  cases call with
  | moveStick which value index => cases which <;> rfl
  | _ => rfl

end InputCall

namespace Controller

/-- The controller in slot `i` holds what a log has set last. What the log has not set is released
or zero (`default`). -/
structure Reflects (c : Controller) (i : Nat) (log : InputLog) : Prop where
  buttons : ∀ button, button ≠ .unbound →
    c.buttons.bits.getLsbD button.code = (log.last i (·.pressed? button)).getD false
  noOthers : ∀ k, k = 0 ∨ 27 < k → c.buttons.bits.getLsbD k = false
  leftStick : c.leftStick = (log.last i (·.axes? .left)).getD ⟨default, default⟩
  rightStick : c.rightStick = (log.last i (·.axes? .right)).getD ⟨default, default⟩
  accelerometer : c.accelerometer = (log.last i (·.accelerometer?)).getD ⟨default, default, default⟩
  gyro : c.gyro = (log.last i (·.gyro?)).getD ⟨default, default, default⟩

/-- A controller that was just connected rests. -/
theorem reflects_nil (handle i : Nat) : Controller.Reflects { handle } i [] where
  buttons _ _ := by simp [InputLog.last]
  noOthers _ _ := by simp
  leftStick := rfl
  rightStick := rfl
  accelerometer := rfl
  gyro := rfl

/-- If events set a part of a controller to what `read` finds in them, the part stays the last
value that `read` finds in the log. -/
theorem part_change {α : Type} (part : Controller → α) {read : InputCall → Option α} {unset : α}
    (edit : ∀ call c, part (call.edit c) = (read call).getD (part c)) {c : Controller} {i : Nat}
    {log : InputLog} (held : part c = (log.last i read).getD unset) (call : InputCall)
    (answer : InputAnswer) :
    part (call.change i c) = (InputLog.last ((call, answer) :: log) i read).getD unset := by
  simp only [InputCall.change, InputLog.last, List.findSome?_cons]
  by_cases here : call.slot? = some i
  · simp only [if_pos here, edit]
    cases read call with
    | none => exact held
    | some value => rfl
  · simp only [if_neg here]
    exact held

/-- A call keeps a controller in line with the log. -/
theorem Reflects.change {c : Controller} {i : Nat} {log : InputLog} (h : c.Reflects i log)
    (call : InputCall) (answer : InputAnswer) :
    (call.change i c).Reflects i ((call, answer) :: log) where
  buttons button bound :=
    part_change (fun c => c.buttons.bits.getLsbD button.code)
      (fun call c => call.getLsbD_edit c bound) (h.buttons button bound) call answer
  noOthers k outside := by
    simp only [InputCall.change]
    -- bits that are no button's are never set
    split
    · exact call.getLsbD_edit_of_no_button c outside (h.noOthers k outside)
    · exact h.noOthers k outside
  leftStick := part_change Controller.leftStick InputCall.edit_leftStick h.leftStick call answer
  rightStick := part_change Controller.rightStick InputCall.edit_rightStick h.rightStick call answer
  accelerometer :=
    part_change Controller.accelerometer InputCall.edit_accelerometer h.accelerometer call answer
  gyro := part_change Controller.gyro InputCall.edit_gyro h.gyro call answer

end Controller

/-! ## Routers -/

namespace Router

/-- How a router reflects the log of its calls. -/
structure Tracks (r : Router) (log : InputLog) : Prop where
  tick : r.tick = log.updates
  published : r.published = log.lastSnapshot
  connected : ∀ i, (r.slot? i).isSome = log.isConnected i
  slot : ∀ i c, r.slot? i = some c → c.Reflects i (log.sinceConnection i)

namespace Tracks

variable {r : Router} {log : InputLog}

/-- A slot that an event or another call leaves connected is in line with the longer log. -/
theorem reflects_change (h : r.Tracks log) {i : Nat} {c : Controller} (held : r.slot? i = some c)
    (call : InputCall) (answer : InputAnswer) :
    (call.change i c).Reflects i (InputLog.sinceConnection i ((call, answer) :: log)) := by
  have connected : log.isConnected i = true := by rw [← h.connected, held]; rfl
  rw [InputLog.sinceConnection, if_pos connected]
  exact (h.slot i c held).change call answer

/-- Only an update counts or publishes. -/
theorem published_cons (h : r.Tracks log) (call : InputCall) :
    (r.perform call).1.tick = InputLog.updates ((call, (r.perform call).2.2) :: log) ∧
      (r.perform call).1.published =
        InputLog.lastSnapshot ((call, (r.perform call).2.2) :: log) := by
  by_cases update : call = .update
  · subst update
    refine ⟨?_, rfl⟩
    simp only [InputLog.updates, List.countP_cons, decide_true, if_true]
    exact congrArg (· + 1) h.tick
  · obtain ⟨tick, published⟩ := r.perform_published update
    rw [tick, published, h.tick, h.published]
    refine ⟨?_, ?_⟩
    · simp [InputLog.updates, update]
    · rw [InputLog.lastSnapshot.eq_3]
      rintro s ⟨⟩
      -- the last snapshot is that of the log before
      exact update rfl

/-- Every call keeps a router in line with its log. -/
theorem perform (h : r.Tracks log) (call : InputCall) :
    (r.perform call).1.Tracks ((call, (r.perform call).2.2) :: log) := by
  obtain ⟨tick, published⟩ := h.published_cons call
  -- a connection may replace a controller, any other call changes the one that is there
  by_cases connect : ∃ index, call = .connect index
  · obtain ⟨index, rfl⟩ := connect
    obtain ⟨same, answer⟩ | ⟨known, held, same, answer⟩ | ⟨inside, empty, new, answer⟩ :=
      r.perform_connect index
    · -- No handle: nothing changes.
      refine ⟨tick, published, fun i => ?_, fun i c held => ?_⟩
      · have unanswered (handle : Nat) : InputAnswer.nothing ≠ .number handle := nofun
        rw [same, answer, InputLog.isConnected_cons log i (.inr unanswered), h.connected]
      · rw [same] at held
        exact h.reflects_change held (.connect index) _
    · -- The slot was connected before, so the log says nothing new.
      refine ⟨tick, published, fun i => ?_, fun i c held => ?_⟩
      · rw [same, answer, InputLog.isConnected_connect, h.connected]
        by_cases here : index = i
        · rw [← here, ← h.connected, held]
          simp
        · simp [here]
      · rw [same] at held
        exact h.reflects_change held (.connect index) _
    · -- The slot starts from here.
      have slots (i : Nat) : (r.perform (.connect index)).1.slot? i =
          if index = i then some { handle := r.nextHandle } else r.slot? i := by
        rw [new]
        exact r.slot?_set i index _ inside
      refine ⟨tick, published, fun i => ?_, fun i c held => ?_⟩
      · rw [slots, answer, InputLog.isConnected_connect, ← h.connected]
        by_cases here : index = i <;> simp [here]
      · rw [slots] at held
        by_cases here : index = i
        · subst here
          rw [if_pos rfl] at held
          obtain rfl := Option.some.inj held
          have unconnected : log.isConnected index = false := by rw [← h.connected, empty]; rfl
          rw [InputLog.sinceConnection, if_neg (by rw [unconnected]; exact Bool.false_ne_true)]
          exact Controller.reflects_nil _ _
        · rw [if_neg here] at held
          exact h.reflects_change held (.connect index) _
  · have noConnect (index : Nat) : call ≠ .connect index := fun e => connect ⟨index, e⟩
    refine ⟨tick, published, fun i => ?_, fun i c held => ?_⟩
    · rw [InputLog.isConnected_cons log i (.inl noConnect), ← h.connected,
        r.slot?_perform noConnect, Option.isSome_map]
    · rw [r.slot?_perform noConnect] at held
      obtain ⟨before, was, rfl⟩ := Option.map_eq_some_iff.mp held
      exact h.reflects_change was call _

/-- A call that the log says is dropped leaves the whole router as it is, and answers nothing. -/
theorem perform_of_drops (h : r.Tracks log) {call : InputCall} (drops : log.drops call = true) :
    (r.perform call).1 = r ∧ (r.perform call).2.2 = .nothing := by
  rw [InputLog.drops, Option.any_eq_true] at drops
  obtain ⟨index, named, dropped⟩ := drops
  refine ⟨r.perform_of_dropped named ?_, (r.perform_event named).1⟩
  simp only [Bool.or_eq_true, decide_eq_true_eq, Bool.not_eq_true'] at dropped
  rcases dropped with (unbound | past) | unconnected
  · exact .inl unbound
  · exact .inr (r.slot?_of_le past)
  · rw [← h.connected, Option.isSome_eq_false_iff, Option.isNone_iff_eq_none] at unconnected
    exact .inr unconnected

end Tracks

/-- A new router reflects the empty log. -/
theorem tracks_nil {n : Nat} {r : Router} (opened : ofMaxControllers n = .ok r) :
    r.Tracks [] := by
  have new : r.IsNew := .made opened
  have blank := new.eq_blank
  refine ⟨by rw [blank]; rfl, by rw [blank]; rfl, fun i => by rw [new.slot?]; rfl, fun i c held => ?_⟩
  rw [new.slot?] at held
  cases held

/-- A router reflects the log of every run. -/
theorem after_tracks {r : Router} (fresh : r.Tracks []) (calls : List InputCall) :
    (r.after calls).Tracks (r.log calls) := by
  -- on the calls: the last one finds a router that reflects the log of the earlier ones
  induction calls with
  | nil => exact fresh
  | cons call earlier ih => exact ih.perform call

/-- Without the events that are dropped, a run ends in the same state and all other calls are
answered alike. -/
theorem log_heard {r : Router} (fresh : r.Tracks []) (calls : List InputCall) :
    r.after ((r.log calls).heard.map Prod.fst) = r.after calls ∧
      r.log ((r.log calls).heard.map Prod.fst) = (r.log calls).heard := by
  induction calls with
  -- on the calls: one that is dropped has done nothing
  | nil => exact ⟨rfl, rfl⟩
  | cons call earlier ih =>
    have tracks := after_tracks fresh earlier
    simp only [log, InputLog.heard, after]
    split
    · rename_i drops
      rw [(tracks.perform_of_drops drops).1]
      exact ih
    · simp only [List.map_cons, after, log, ih.1, ih.2, and_self]

/-- An update publishes the last writes of the history. It is counted by its tick; its slots are
connected as the log says; each connected controller holds what was set last since it was
connected; the events that are dropped have no part in it; and a later look at the snapshot finds
what the last update answered. -/
theorem snapshot_eq_last_writes {n : Nat} {r : Router} (opened : ofMaxControllers n = .ok r)
    (calls : List InputCall) :
    (∃ s, r.log (.update :: calls) = (.update, .snapshot s) :: r.log calls ∧
      s.tick = (r.log (.update :: calls)).updates ∧
      (∀ i, (s.controller? i).isSome ↔ ∃ handle, (.connect i, .number handle) ∈ r.log calls) ∧
      (∀ i c, s.controller? i = some c → c.Reflects i ((r.log calls).sinceConnection i))) ∧
    r.log (.snapshot :: calls) =
      (.snapshot, .snapshot (r.log calls).lastSnapshot) :: r.log calls ∧
    (r.after ((r.log calls).heard.map Prod.fst) = r.after calls ∧
      r.log ((r.log calls).heard.map Prod.fst) = (r.log calls).heard) := by
  have fresh := tracks_nil opened
  have tracks := after_tracks fresh calls
  -- both are about what a log tells of a router, and the router of the log is in line with it
  refine ⟨⟨(r.after calls).update.published, rfl, ?_, ?_, tracks.slot⟩, ?_, log_heard fresh calls⟩
  · exact (after_tracks fresh (.update :: calls)).tick
  · intro i
    rw [← InputLog.isConnected_iff, ← tracks.connected]
    rfl
  · rw [← tracks.published]
    rfl

/-- A button pressed before its slot is connected is not held afterwards; one pressed later is. -/
theorem snapshot_eq_last_writes_tap :
    ofMaxControllers 4 = .ok {} ∧
      ∃ s, log {} [.update, .press .a 0, .connect 0, .press .b 0, .openClient 4 3] =
          (.update, .snapshot s) :: log {} [.press .a 0, .connect 0, .press .b 0, .openClient 4 3] ∧
        s.tick = 1 ∧
        (s.controller? 0).isSome ∧
        ∀ c, s.controller? 0 = some c →
          c.buttons.bits.getLsbD 1 = true ∧ c.buttons.bits.getLsbD 2 = false := by
  refine ⟨rfl, ?_⟩
  obtain ⟨⟨s, answered, tick, connected, slot⟩, _⟩ := snapshot_eq_last_writes (n := 4) (r := {}) rfl
    [.press .a 0, .connect 0, .press .b 0, .openClient 4 3]
  refine ⟨s, answered, tick.trans rfl, (connected 0).mpr ⟨1, by decide⟩, fun c held => ?_⟩
  have reflects := slot 0 c held
  exact ⟨(reflects.buttons .a nofun).trans rfl, (reflects.buttons .b nofun).trans rfl⟩

end Router

end EmuHost
