import EmuHost.Session.Call

/-!
# Calls out of a session

The journal of a session notes the calls that leave it: those to the renderer and to the host's swap
callback, those to the device context, and those that belong to a frame. This file says how the
primitive changes of a session add to the calls so far (`World.events`) and to the render calls
among them (`World.renderCalls`).

## Key results

- `World.events_record`, `World.events_log`: what is noted is what is added
- `World.renderCalls_record`, `World.renderCalls_log`: the same for the render calls
- `World.renderCalls_eq_of_noted`: the render calls are among the calls noted since
-/

namespace EmuHost

/-! ## Kinds of calls -/

/-- Whether a call out of the session goes to a renderer, makes or ends one, or is the host's swap
callback. -/
def Event.isRenderCall : Event → Bool
  | .createRenderer .. | .resize .. | .vsync _ | .submit _ | .present | .swap _ => true
  | .rendererDropped => true
  | _ => false

/-- Whether a call out of the session makes, fills or ends a device context. -/
def Event.isDeviceCall : Event → Bool
  | .createDevice .. | .disposeDevice | .load _ => true
  | _ => false

/-- Whether a call out of the session belongs to a frame. -/
def Event.isFrameCall : Event → Bool
  | .resize .. | .vsync _ | .submit _ | .present | .swap _ | .answered .. => true
  | _ => false

/-- Whether a call out of the session tells a renderer of the geometry. -/
def Event.isPush : Event → Bool
  | .resize .. | .vsync _ => true
  | _ => false

/-- What a renderer is told of the geometry is a call to it. -/
theorem Event.isRenderCall_of_isPush {e : Event} (push : e.isPush = true) :
    e.isRenderCall = true := by
  cases e with
  | resize | vsync => rfl
  | _ => cases push

/-- The calls to the device context are no render calls. -/
theorem Event.isRenderCall_of_isDeviceCall {e : Event} (device : e.isDeviceCall = true) :
    e.isRenderCall = false := by
  cases e with
  | createDevice | disposeDevice | load => rfl
  | _ => cases device

/-- No frame makes a call to the device context. -/
theorem Event.isFrameCall_of_isDeviceCall {e : Event} (device : e.isDeviceCall = true) :
    e.isFrameCall = false := by
  cases e with
  | createDevice | disposeDevice | load => rfl
  | _ => cases device

namespace Journal

/-- The render calls of a journal. -/
def renderCalls (j : Journal) : List Event := j.events.filter Event.isRenderCall

/-- The calls of two journals in a row. -/
theorem events_append (j k : Journal) : events (j ++ k) = j.events ++ k.events :=
  List.filterMap_append

/-- Lines of the log are no calls. -/
theorem events_log (lines : List LogLine) : events (lines.map .log) = [] := by
  induction lines with
  | nil => rfl
  | cons line rest ih => exact ih

end Journal

namespace World

variable {κ α : Type} (w : World κ)

/-! ## Calls so far -/

/-- The calls out of a session so far. -/
def events : List Event := w.journal.events

/-- The render calls of a session so far. -/
def renderCalls : List Event := w.journal.renderCalls

/-- The calls that rendering sees are picked from all calls. -/
theorem renderCalls_eq_filter : w.renderCalls = w.events.filter Event.isRenderCall := rfl

/-- A call that is noted comes last. -/
@[simp] theorem events_record (e : Event) : (w.record e).events = w.events ++ [e] :=
  Journal.events_append w.journal [.event e]

/-- A line of the log adds no call. -/
@[simp] theorem events_log (lines : List LogLine) : (w.log lines).events = w.events := by
  -- a journal is gone through part by part
  refine (Journal.events_append w.journal (lines.map .log)).trans ?_
  rw [Journal.events_log, List.append_nil]
  rfl

/-- An operation on the graphics alone calls nobody. -/
@[simp] theorem events_onGraphics (operate : Graphics κ → Reply (Graphics κ) α) :
    (w.onGraphics operate).1.events = w.events := by
  rw [onGraphics, events_log]
  rfl

/-- A call is one of them, or not. -/
@[simp] theorem renderCalls_record (e : Event) :
    (w.record e).renderCalls = w.renderCalls ++ if e.isRenderCall then [e] else [] := by
  rw [renderCalls_eq_filter, events_record, List.filter_append, renderCalls_eq_filter]
  -- whether it is one decides on both sides
  cases called : e.isRenderCall <;> simp [called]

/-- Lines are none of them. -/
@[simp] theorem renderCalls_log (lines : List LogLine) :
    (w.log lines).renderCalls = w.renderCalls := by
  rw [renderCalls_eq_filter, events_log, renderCalls_eq_filter]

variable {w} in
/-- The render calls since are among the calls since. -/
theorem renderCalls_eq_of_noted {v : World κ} {calls : List Event}
    (noted : v.events = w.events ++ calls) :
    v.renderCalls = w.renderCalls ++ calls.filter Event.isRenderCall := by
  rw [renderCalls_eq_filter, noted, List.filter_append, renderCalls_eq_filter]

/-! ## The log -/

/-- Two logs in a row are one. -/
theorem log_log {w : World κ} (first second : List LogLine) :
    (w.log first).log second = w.log (first ++ second) := by
  simp only [log, Surroundings.log, List.map_append, List.append_assoc]

/-- To log nothing is to do nothing. -/
theorem log_nil {w : World κ} : w.log [] = w := by
  simp only [log, Surroundings.log, List.map_nil, List.append_nil]

/-- Lines leave the graphics. -/
@[simp] theorem log_graphics (lines : List LogLine) : (w.log lines).graphics = w.graphics := rfl

end World

end EmuHost
