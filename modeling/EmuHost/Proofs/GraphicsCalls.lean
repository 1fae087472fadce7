import EmuHost.Proofs.CallEffects

/-!
# Calls while the loop runs

Most ways of a call need a phase in which no loop runs, so a call in the middle of a frame can do
little (`World.Meanwhile`): it calls no renderer, and phase, configurations and statistics stay as
they are. The render loop itself is among the calls, and it is refused then.

## Key results

- `World.Effect.meanwhile`: what no call can do while the loop runs
- `SessionCall.perform_of_running`: a call during a frame is made like any other call
-/

namespace EmuHost

variable {κ : Type}

/-! ## What stays -/

/-- What no call changes while the loop runs. A requested stop is not taken back either. -/
structure Graphics.Meanwhile (g h : Graphics κ) : Prop where
  phase : h.phase = g.phase
  requested : h.requested = g.requested
  effective : h.effective = g.effective
  renderer : h.renderer = g.renderer
  info : h.info = g.info
  statistics : h.statistics = g.statistics
  applied : h.surface.applied = g.surface.applied
  stop : g.stopRequested = true → h.stopRequested = true

/-- Graphics that stay as they are pass any time. -/
theorem Graphics.Meanwhile.refl (g : Graphics κ) : g.Meanwhile g :=
  ⟨rfl, rfl, rfl, rfl, rfl, rfl, rfl, id⟩

namespace World

variable {w : World κ}

/-- What a call leaves alone while the loop runs: it calls no renderer and no callback either. -/
structure Meanwhile (w v : World κ) : Prop where
  graphics : w.graphics.Meanwhile v.graphics
  renderCalls : v.renderCalls = w.renderCalls

/-- And so does a session that does. -/
theorem Meanwhile.refl (w : World κ) : w.Meanwhile w := ⟨.refl w.graphics, rfl⟩

/-- To note what is no render call adds none. -/
theorem noted_quiet (w : World κ) {e : Event} (other : e.isRenderCall = false) :
    (w.record e).renderCalls = w.renderCalls := by
  rw [renderCalls_record, other]
  exact List.append_nil _

/-- The services of a core have nothing to do with its renderer. -/
theorem isRenderCall_of_service {call : HostCall} {e : Event} (service : call.service? = some e) :
    e.isRenderCall = false := by
  cases call with
  | reloadFiles | installFirmware =>
    cases service
    rfl
  | _ => cases service

/-- Work on the device context calls no renderer. -/
theorem TouchesDevice.renderCalls_eq {v : World κ} {calls : List Event} {device : DeviceState}
    (touches : w.TouchesDevice calls device v) (called : ∀ e ∈ calls, w.ReachesDevice e) :
    v.renderCalls = w.renderCalls := by
  have quiet : calls.filter Event.isRenderCall = [] := by
    rw [List.filter_eq_nil_iff]
    intro e mem is
    rw [e.isRenderCall_of_isDeviceCall (called e mem).isDeviceCall] at is
    cases is
  rw [renderCalls_eq_of_noted touches.events, quiet, List.append_nil]

/-- The ways that set the phase, like those that drop a renderer, need another phase than that of a
running loop. -/
theorem Effect.meanwhile {call : HostCall} {v : World κ} {answer : Answer}
    (effect : w.Effect call v answer) (running : w.graphics.phase = .running) : w.Meanwhile v := by
  cases effect with
  | looked => exact .refl w
  | refused refusable lines => exact ⟨.refl w.graphics, w.renderCalls_log lines⟩
  | input call => exact ⟨.refl w.graphics, renderCalls_log ..⟩
  | configured asked blank => cases running.symm.trans blank
  | uncreated _ configured | dropped _ configured | created _ configured =>
    cases running.symm.trans configured
  | sized _ _ lines | vsynced _ lines =>
    exact ⟨⟨rfl, rfl, rfl, rfl, rfl, rfl, rfl, id⟩, renderCalls_log ..⟩
  | installed => exact ⟨⟨rfl, rfl, rfl, rfl, rfl, rfl, rfl, id⟩, rfl⟩
  | stopRequested lines =>
    -- the stop that was asked for may be the one that was asked for already
    exact ⟨⟨rfl, rfl, rfl, rfl, rfl, rfl, rfl, fun _ => rfl⟩, renderCalls_log ..⟩
  | tornDown idle => exact absurd running idle
  | reloaded | updated => exact ⟨.refl w.graphics, (renderCalls_log ..).trans (w.noted_quiet rfl)⟩
  | unserved service => exact ⟨.refl w.graphics, w.noted_quiet (isRenderCall_of_service service)⟩
  | device _ touches called =>
    have same : v.graphics = w.graphics := by rw [touches.same]
    exact ⟨by rw [same]; exact .refl w.graphics, touches.renderCalls_eq called⟩

/-! ## The loop among the calls -/

/-- Only a renderer that is ready can be run. -/
theorem runLoop_of_ne_ready (i : Interpreter κ) (used : w.graphics.phase ≠ .rendererReady) :
    w.runLoop i = w.refuseLoop := by
  simp only [runLoop]
  split
  · rename_i ready _ _
    exact absurd ready used
  · rfl

end World

/-- Whether the calls made through an interpreter leave alone what a running loop relies on. -/
def Interpreter.Discreet (i : Interpreter κ) : Prop :=
  ∀ (w : World κ) (call : κ), w.graphics.phase = .running → w.Meanwhile (i.perform w call).1

namespace SessionCall

variable {w : World SessionCall}

/-- With the loop refused, every call is one that may be made in the meantime. -/
theorem performWith_meanwhile {loop : World.Loop SessionCall}
    (running : w.graphics.phase = .running) (refused : loop w = w.refuseLoop) (call : SessionCall) :
    w.Meanwhile (performWith loop w call).1 := by
  cases call with
  | host name call => exact (w.perform_effect fun _ => refused).meanwhile running
  | script change => exact ⟨.refl w.graphics, rfl⟩
  | unknown name e => exact .refl w

/-- Calls during a frame leave what the loop works from. -/
theorem duringFrame_discreet : duringFrame.Discreet :=
  fun _ call running => performWith_meanwhile running rfl call

/-- The calls during a frame are calls like any other. -/
theorem perform_of_running (running : w.graphics.phase = .running) (call : SessionCall) :
    perform w call = duringFrame.perform w call := by
  have refused : w.runLoop duringFrame = w.refuseLoop :=
    World.runLoop_of_ne_ready duringFrame (by rw [running]; decide)
  cases call with
  | host name call =>
    -- the loop is the only call that the two perform differently
    cases call with
    | runLoop => exact congrArg (World.answering fun _ => .stopped) refused
    | _ => rfl
  | script change => rfl
  | unknown name e => rfl

end SessionCall

end EmuHost
