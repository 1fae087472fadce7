import EmuHost.Proofs.RendererProtocol
import EmuHost.Proofs.RouterSlots
import EmuHost.Proofs.SessionHistory

/-!
# Calls that fail

What a call of the host that is answered with an error has done to the session, by the error
(`World.Spared`). A refused call has done nothing but log; the core is asked for a renderer before
the failure to create one is known; and an error of the core in the life of the device context is
the business of that context alone. A loop that loses the backend has run its frames, but none of
its own steps touches input or device (`SessionCall.HandsOn`).

## Key results

- `World.Effect.spared`: what is left after every error but the loss of the backend
- `SessionCall.Trace.handsOn`: between the calls of the host nothing changes input or device
- `SessionCall.perform_failed`: both, for every call of a session in any state
-/

namespace EmuHost

variable {κ : Type}

/-- The error in an answer of the router. -/
def InputAnswer.error? : InputAnswer → Option SessionError
  | .failed e => some e
  | _ => none

/-- A reply with an error is a refusal, and leaves its part of the session as it was. -/
def Reply.Refuses {σ α : Type} (reply : Reply σ α) (s : σ) : Prop :=
  ∀ e, reply.result = .error e → reply.state = s ∧ e.isRefusal = true

/-- What does not fail refuses nothing. -/
theorem Reply.Refuses.of_ok {σ α : Type} {reply : Reply σ α} {s : σ} {a : α}
    (done : reply.result = .ok a) : reply.Refuses s := by
  intro e failed
  rw [done] at failed
  cases failed

namespace World

variable (w : World κ)

/-- What an error of the core or of the detection of an application leaves. -/
def SparedByCore (call : HostCall) (v : World κ) : Prop :=
  match call with
  -- only the device context has changed, as far as the session keeps track of it
  | .initializeDevice _ | .initializeDeviceDefault | .load _ =>
    ∃ journal device, v = { w with journal, device }
  | .reloadFiles => v = w.record .reloadFiles
  | .installFirmware source isXci => v = w.record (.installFirmware source isXci)
  | _ => False

/-- What a call that fails has done to a session. -/
def Spared (call : HostCall) (e : SessionError) (v : World κ) : Prop :=
  match e with
  -- refused: nothing is called, and nothing but the log changes
  | .outOfOrder .. | .configuration _ | .interopMissing .. | .device .rendererNotReady
  | .device .notInitialized => ∃ lines, v = w.log lines
  -- only the creation itself was tried
  | .contextCreation _ => ∃ capabilities config probes early late,
      v = ((w.log early).record (.createRenderer capabilities config probes)).log late
  | .device (.core _) | .device (.unsupportedApplication _) => w.SparedByCore call v
  | .device (.bootstrap _) | .notConnected _ | .backendLost _ => False

variable {w}

/-- A refusal leaves only lines of the log. -/
theorem Spared.of_refusal {call : HostCall} {e : SessionError} (refusal : e.isRefusal = true)
    (lines : List LogLine) : w.Spared call e (w.log lines) := by
  cases e with
  | outOfOrder | configuration | interopMissing => exact ⟨lines, rfl⟩
  | device e =>
    cases e with
    | rendererNotReady | notInitialized => exact ⟨lines, rfl⟩
    | _ => cases refusal
  | _ => cases refusal

/-- An error of the core over the device context has touched this context alone. -/
theorem Spared.of_device {call : HostCall} (uses : call.usesDevice = true) {v : World κ}
    {calls : List Event} {device : DeviceState} (touches : w.TouchesDevice calls device v)
    {e : SessionError} (own : e.isOfDevice = true) : w.Spared call e v := by
  have spared : w.SparedByCore call v := by
    cases call with
    | initializeDevice | initializeDeviceDefault | load => exact ⟨_, _, touches.same⟩
    | _ => cases uses
  cases e with
  | device e =>
    cases e with
    | core | unsupportedApplication => exact spared
    | _ => cases own
  | _ => cases own

end World

/-! ## Input -/

namespace Router

variable (r : Router)

/-- A size that is out of range is refused. -/
theorem checkSize_refusal {width height : Int} {e : SessionError}
    (invalid : checkSize width height = .error e) : e.isRefusal = true := by
  simp only [checkSize] at invalid
  split at invalid <;> cases invalid
  rfl

/-- A client is opened once, with a size in range. -/
theorem openClient_refuses (width height : Int) : (r.openClient width height).Refuses r := by
  simp only [openClient]
  split
  · rename_i invalid
    rintro e ⟨⟩
    exact ⟨rfl, checkSize_refusal invalid⟩
  · split
    · rintro e ⟨⟩
      exact ⟨rfl, rfl⟩
    · exact .of_ok rfl

/-- A client is resized once it is open, to a size in range. -/
theorem resizeClient_refuses (width height : Int) : (r.resizeClient width height).Refuses r := by
  simp only [resizeClient]
  split
  · rename_i invalid
    rintro e ⟨⟩
    exact ⟨rfl, checkSize_refusal invalid⟩
  · split
    · exact .of_ok rfl
    · rintro e ⟨⟩
      exact ⟨rfl, rfl⟩

/-- Changes of a controller are dropped silently where there is none. -/
theorem modify_refuses (event : String) (index : Nat) (change : Controller → Controller) :
    (r.modify event index change).Refuses r := by
  simp only [modify]
  split
  · split
    · exact .of_ok rfl
    · exact .of_ok rfl
  · exact .of_ok rfl

/-- A controller is connected or not, without an error. -/
theorem connect_refuses (index : Nat) : (r.connect index).Refuses r := by
  simp only [connect]
  split
  · split
    · exact .of_ok rfl
    · split
      · exact .of_ok rfl
      · exact .of_ok rfl
  · exact .of_ok rfl

/-- Buttons are set or ignored. -/
theorem setButton_refuses (button : Button) (index : Nat) (pressed : Bool) :
    (r.setButton button index pressed).Refuses r := by
  simp only [setButton]
  split
  · exact .of_ok rfl
  · exact r.modify_refuses _ _ _

/-- Sticks are moved or ignored. -/
theorem setStick_refuses (stick : Stick) (value : Vec2 Binary32) (index : Nat) :
    (r.setStick stick value index).Refuses r := by
  -- the stick without a binding is ignored before there is a controller to look for
  cases stick with
  | left => exact r.modify_refuses _ _ _
  | right => exact r.modify_refuses _ _ _
  | unbound =>
    simp only [setStick]
    split
    · exact .of_ok rfl
    · exact .of_ok rfl

/-- An answer that says failed stands for a refusal. -/
theorem answering_failed {α : Type} {reply : Reply Router α} (refuses : reply.Refuses r)
    {present : α → InputAnswer} (plain : ∀ a, (present a).error? = none) {e : SessionError}
    (failed : (answering reply present).2.2 = .failed e) :
    reply.state = r ∧ e.isRefusal = true := by
  simp only [answering] at failed
  split at failed
  · rename_i a _
    have never := plain a
    rw [failed] at never
    cases never
  · rename_i refused
    obtain rfl := InputAnswer.failed.inj failed
    exact refuses _ refused

/-- A router changes nothing if it fails. -/
theorem perform_refused {call : InputCall} {e : SessionError}
    (failed : (r.perform call).2.2 = .failed e) :
    (r.perform call).1 = r ∧ e.isRefusal = true := by
  have success (_ : Unit) : InputAnswer.success.error? = none := rfl
  have unit (a : Unit) : (InputAnswer.ofUnit a).error? = none := rfl
  -- an error comes from opening or resizing only, so the other calls have no way to fail
  cases call with
  | openClient width height =>
    exact r.answering_failed (r.openClient_refuses width height) success failed
  | resizeClient width height =>
    exact r.answering_failed (r.resizeClient_refuses width height) success failed
  | connect index =>
    refine r.answering_failed (r.connect_refuses index) (fun handle => ?_) failed
    cases handle <;> rfl
  | press button index =>
    exact r.answering_failed (r.setButton_refuses button index true) unit failed
  | release button index =>
    exact r.answering_failed (r.setButton_refuses button index false) unit failed
  | moveStick stick value index =>
    exact r.answering_failed (r.setStick_refuses stick value index) unit failed
  | accelerometer value index => exact r.answering_failed (r.modify_refuses _ index _) unit failed
  | gyro value index => exact r.answering_failed (r.modify_refuses _ index _) unit failed
  | stick stick index =>
    simp only [perform] at failed
    cases position : (r.published.controller? index).map (·.stick stick) <;>
      simp only [position] at failed <;> cases failed
  | isInitialized | maxControllers | setAspectRatio | touch | releaseTouch | update | snapshot
  | isPressed => cases failed

end Router

namespace World

variable (w : World κ)

/-- The session hands on the errors of its router. -/
theorem performInput_spared {call : InputCall} {e : SessionError}
    (failed : (w.performInput call).2 = .failed (.error e)) :
    w.Spared (.input call) e (w.performInput call).1 := by
  have routed : (w.router.perform call).2.2 = .failed e := by
    simp only [performInput] at failed
    cases answer : (w.router.perform call).2.2 with
    | failed e' =>
      rw [answer] at failed
      cases failed
      rfl
    | _ =>
      rw [answer] at failed
      cases failed
  obtain ⟨same, refusal⟩ := w.router.perform_refused routed
  simp only [performInput, same]
  exact .of_refusal refusal _

/-! ## All calls -/

variable {w}

/-- What is left after every error but the loss of the backend. -/
theorem Effect.spared {call : HostCall} {v : World κ} {e : SessionError}
    (effect : w.Effect call v (.failed (.error e))) : w.Spared call e v := by
  generalize failed : Answer.failed (.error e) = answer at effect
  cases effect with
  -- one case for each way of a call: those of success are closed by their answers
  | looked looks shown faultless => exact absurd failed.symm (faultless e)
  | refused refusable lines refusal =>
    cases failed
    exact .of_refusal refusal lines
  | input call => exact w.performInput_spared failed.symm
  | uncreated asks configured requested accepted reply report errors =>
    cases failed
    obtain ⟨chain, rfl⟩ := errors e rfl
    exact ⟨_, _, _, _, _, rfl⟩
  | @unserved call _ service _ errors =>
    cases failed
    obtain ⟨chain, rfl⟩ := errors e rfl
    -- a service that fails has only been asked for
    cases call with
    | reloadFiles | installFirmware =>
      cases service
      rfl
    | _ => cases service
  | device uses touches called plain errors =>
    exact .of_device uses touches (errors e failed.symm)
  | configured | dropped | created | sized | vsynced | installed | stopRequested | tornDown
  | reloaded | updated => cases failed

/-- What only the core was asked for leaves the graphics. -/
theorem SparedByCore.graphics {v : World κ} {call : HostCall} (spared : w.SparedByCore call v) :
    v.graphics = w.graphics := by
  cases call with
  | initializeDevice | initializeDeviceDefault | load =>
    obtain ⟨_, _, rfl⟩ := spared
    rfl
  | reloadFiles | installFirmware =>
    cases spared
    rfl
  | _ => exact spared.elim

/-- No call that fails changes the graphics, but for a loop that loses the backend. -/
theorem Spared.graphics {v : World κ} {call : HostCall} {e : SessionError}
    (spared : w.Spared call e v) : v.graphics = w.graphics := by
  cases e with
  | outOfOrder | configuration | interopMissing =>
    obtain ⟨_, rfl⟩ := spared
    rfl
  | contextCreation =>
    obtain ⟨_, _, _, _, _, rfl⟩ := spared
    rfl
  | notConnected | backendLost => exact spared.elim
  | device e =>
    cases e with
    | rendererNotReady | notInitialized =>
      obtain ⟨_, rfl⟩ := spared
      rfl
    | core | unsupportedApplication => exact SparedByCore.graphics spared
    | bootstrap => exact spared.elim

end World

/-! ## Loops that lose the backend -/

/-- The calls of the host, each with the session that it is made in. -/
def History.made (h : History) : List (World SessionCall × SessionCall) :=
  h.filterMap fun
    | .made before call => some (before, call)
    | _ => none

namespace SessionCall

/-- Whether input and device pass untouched from one call of the host to the next, from `w` to the
first call and from the last one to `v`. -/
def HandsOn (w : World SessionCall) :
    List (World SessionCall × SessionCall) → World SessionCall → Prop
  | [], v => v.router = w.router ∧ v.device = w.device
  | (before, call) :: made, v =>
    (before.router = w.router ∧ before.device = w.device) ∧ HandsOn (perform before call).1 made v

variable {w v u : World SessionCall}

/-- Handing on depends on the router and the device only. -/
theorem HandsOn.of_same {made : List (World SessionCall × SessionCall)}
    (hands : HandsOn u made v) (router : u.router = w.router) (device : u.device = w.device) :
    HandsOn w made v := by
  cases made with
  | nil =>
    rw [HandsOn, ← router, ← device]
    exact hands
  | cons now made =>
    rw [HandsOn, ← router, ← device]
    exact hands

/-- Nothing that happens without the host changes input or device. -/
theorem Trace.handsOn {h : History} (trace : Trace w h v) : HandsOn w h.made v := by
  induction trace with
  | nil => exact ⟨rfl, rfl⟩
  | cons step rest ih =>
    cases step with
    | made single => exact ⟨⟨rfl, rfl⟩, ih⟩
    | failed r f => cases f <;> exact ih.of_same rfl rfl
    | entered | started | told | finished | stopped | broken => exact ih.of_same rfl rfl

/-- The answer of a loop is an error only if the loop has lost the backend. -/
theorem lost_of_answer {loopEnd : LoopEnd} {e : SessionError}
    (failed : loopEnd.answer = .failed (.error e)) : ∃ reason, e = .backendLost reason := by
  cases loopEnd with
  | stopped => cases failed
  | lost reason =>
    cases failed
    exact ⟨reason, rfl⟩
  | crashed c => cases failed

/-- A call that is answered with an error has spared the session, between loops or in the middle of
a frame. The exception is a loop that loses the backend: its frames have run, and input and device
are what the calls of the host in them have made of them. -/
theorem perform_failed (w : World SessionCall) (name : String) (call : HostCall)
    (e : SessionError) :
    ((perform w (.host name call)).2 = .failed (.error e) →
      w.Spared call e (perform w (.host name call)).1 ∨
        call = .runLoop ∧ (∃ reason, e = .backendLost reason) ∧
          HandsOn w (historyOf w (.host name call)).made (perform w (.host name call)).1) ∧
    ((duringFrame.perform w (.host name call)).2 = .failed (.error e) →
      w.Spared call e (duringFrame.perform w (.host name call)).1) := by
  have spared {loop : World.Loop SessionCall} (refused : call = .runLoop → loop w = w.refuseLoop)
      (failed : (w.perform loop call).2 = .failed (.error e)) :
      w.Spared call e (w.perform loop call).1 := by
    have effect := w.perform_effect refused
    rw [failed] at effect
    exact effect.spared
  refine ⟨fun failed => ?_, spared fun _ => rfl⟩
  -- a refused loop is like any other refused call
  by_cases loops : call = .runLoop
  · subst loops
    obtain ⟨renderer, config, ready, held, limited⟩ | ⟨refused, -⟩ :=
      World.runLoop_cases duringFrame w
    · -- the loop is accepted, so the error is its end
      rw [perform_runLoop ready held limited] at failed
      exact .inr ⟨rfl, lost_of_answer failed, (historyOf_trace w _).handsOn⟩
    · have single : perform w (.host name .runLoop) = w.perform World.refuseLoop .runLoop :=
        congrArg (World.answering fun _ => .stopped) refused
      rw [single] at failed ⊢
      exact .inl (spared (fun _ => rfl) failed)
  · exact .inl (spared (fun looping => absurd looping loops) failed)

/-- A session whose renderer loses the backend in a frame in which the host loads an application. -/
def losing : World SessionCall :=
  { World.meddled with
    graphics.renderer := some
      { Renderer.meddled with
        frames :=
          [{ calls := [.host "load" (.load "game.nsp")], submitted := .fault (.lost "gone") }] } }

/-- The load is refused, as there is no device context, and the loop fails after it. -/
theorem perform_failed_losing :
    (∃ lines, (duringFrame.perform losing (.host "load" (.load "game.nsp"))).1 =
        losing.log lines) ∧
      (historyOf losing (.host "loop" .runLoop)).made.length = 1 ∧
      HandsOn losing (historyOf losing (.host "loop" .runLoop)).made
        (perform losing (.host "loop" .runLoop)).1 := by
  have refused := (perform_failed losing "load" (.load "game.nsp") (.device .notInitialized)).2 rfl
  have lost := (perform_failed losing "loop" .runLoop (.backendLost "gone")).1 rfl
  exact ⟨refused, rfl, (lost.resolve_left id).2.2⟩

end SessionCall

end EmuHost
