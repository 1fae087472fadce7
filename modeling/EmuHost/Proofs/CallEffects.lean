import EmuHost.Proofs.DeviceCalls

/-!
# What a call of the host does

Each call of the host can go in a few ways only, whatever its arguments and whatever the core
answers (`World.Effect`). A way says under what condition it is taken, which session it leaves
behind, and what it answers. What later files say about single parts of a session, its input, its
graphics or its calls to the core, is read off these ways. Of the render loop only the refusal is
among them.

## Key results

- `World.configureGraphics_effect`, `World.createRenderer_effect`, `World.tearDown_effect`, …: the
  ways of each operation
- `World.perform_effect`: the ways of all calls
-/

namespace EmuHost

/-! ## Kinds of calls -/

namespace HostCall

/-- Whether a call only looks at the session. -/
def isLook : HostCall → Bool
  | .phase | .geometry | .configurations | .rendererInfo | .counters | .figures | .config => true
  | .deviceState | .firmwareVersion => true
  | _ => false

/-- Whether a call can be refused by the session itself, input apart. -/
def isRefusable : HostCall → Bool
  | .configureGraphics _ | .configureGraphicsDefault | .initializeRenderer .. => true
  | .initializeRendererWith .. | .setSize .. | .tearDown | .runLoop => true
  | .initializeDevice _ | .initializeDeviceDefault | .load _ => true
  | _ => false

/-- Whether a call works on the device context. -/
def usesDevice : HostCall → Bool
  | .initializeDevice _ | .initializeDeviceDefault | .load _ => true
  | _ => false

/-- The configuration that a call asks the graphics to accept. -/
def graphicsConfig? (config : HostConfig) : HostCall → Option GraphicsConfig
  | .configureGraphics c => some c
  | .configureGraphicsDefault => some config.graphics
  | _ => none

/-- What a call asks for a renderer with. -/
def interop? : HostCall → Option (Backend × InteropTable)
  | .initializeRenderer backend table | .initializeRendererWith backend table =>
    some (backend, table)
  | _ => none

/-- The service of the core that a call hands on to. -/
def service? : HostCall → Option Event
  | .reloadFiles => some .reloadFiles
  | .installFirmware source isXci => some (.installFirmware source isXci)
  | _ => none

end HostCall

/-- Whether an error says that a call was refused before anything was done. -/
def SessionError.isRefusal : SessionError → Bool
  | .outOfOrder .. | .configuration _ | .interopMissing .. => true
  | .device .rendererNotReady | .device .notInitialized => true
  | _ => false

/-- Whether an error is one of the core's, or of the detection of an application. -/
def SessionError.isOfDevice : SessionError → Bool
  | .device (.core _) | .device (.unsupportedApplication _) => true
  | _ => false

/-- The renderer in an answer. -/
def Answer.renderer? : Answer → Option RendererInfo
  | .renderer info => some info
  | _ => none

/-- Whether a call asks for a renderer and is answered that there is one. -/
def HostCall.makesRenderer : HostCall → Answer → Bool
  | .initializeRenderer .., .renderer _ | .initializeRendererWith .., .renderer _ => true
  | _, _ => false

/-- An answer that tells of no renderer says that none was made. -/
theorem HostCall.makesRenderer_of_plain {call : HostCall} {answer : Answer}
    (plain : answer.renderer? = none) : call.makesRenderer answer = false := by
  cases answer with
  | renderer => cases plain
  | _ => cases call <;> rfl

/-- The crash of a renderer over the questions that it is asked once it has been created. -/
def Renderer.questionCrash? {κ : Type} (renderer : Renderer κ) : Option Crash :=
  renderer.ceilingCrash <|> renderer.threadingCrash

/-- A table of procedures that is rejected lacks something. -/
theorem Capabilities.isRefusal_of_ofInterop {backend : Backend} {table : InteropTable}
    {lines : List LogLine} {e : SessionError}
    (missing : ofInterop backend table = (lines, .error e)) : e.isRefusal = true := by
  simp only [ofInterop] at missing
  -- every way to reject names the field
  repeat' split at missing
  all_goals
    cases missing
  all_goals rfl

namespace World

variable {κ : Type} (w : World κ)

/-! ## Ways of a call -/

/-- A session that has asked the core for a renderer. -/
def askedForRenderer (lines : List LogLine) (capabilities : Capabilities) (c : GraphicsConfig) :
    World κ :=
  (w.log lines).record
    (.createRenderer capabilities c (w.core.probeAnswers capabilities.backend))

/-- A session that has dropped the renderer that it keeps, if it keeps one. -/
def dropRenderer : World κ :=
  { w with
    journal :=
      w.journal ++ if w.graphics.renderer.isSome then [.event .rendererDropped] else [] }

/-- To ask for a renderer is one call. -/
@[simp] theorem askedForRenderer_events (lines : List LogLine) (capabilities : Capabilities)
    (c : GraphicsConfig) :
    (w.askedForRenderer lines capabilities c).events = w.events ++
      [.createRenderer capabilities c (w.core.probeAnswers capabilities.backend)] := by
  rw [askedForRenderer, events_record, events_log]

/-- Without a renderer nothing is dropped. -/
theorem dropRenderer_events : w.dropRenderer.events =
    w.events ++ if w.graphics.renderer.isSome then [.rendererDropped] else [] := by
  refine (Journal.events_append ..).trans (congrArg _ ?_)
  split <;> rfl

/-- The calls that work on the device context makes. A context is created under the settings that
there are for one. -/
inductive ReachesDevice : Event → Prop where
  | disposed : ReachesDevice .disposeDevice
  | created (options : DeviceOptions) {context : DeviceContext}
      (ready : w.deviceContext? = some context) : ReachesDevice (.createDevice options context)
  | loaded (a : Application) : ReachesDevice (.load a)

/-- How a call of the host can go, what it leaves and what it answers. -/
inductive Effect : HostCall → World κ → Answer → Prop where
  /-- The host looks at something. -/
  | looked {call : HostCall} (looks : call.isLook = true) {answer : Answer}
      (shown : ∀ info, answer.renderer? = some info → w.graphics.info = some info)
      (faultless : ∀ e, answer ≠ .failed (.error e)) : Effect call w answer
  | refused {call : HostCall} (refusable : call.isRefusable = true) (lines : List LogLine)
      {e : SessionError} (refusal : e.isRefusal = true) :
      Effect call (w.log lines) (.failed (.error e))
  | input (call : InputCall) : Effect (.input call) (w.performInput call).1 (w.performInput call).2
  | configured {call : HostCall} {c : GraphicsConfig}
      (asked : call.graphicsConfig? w.config = some c) (blank : w.graphics.phase = .uninitialized)
      (valid : c.check = .ok ()) (lines : List LogLine) :
      Effect call
        ({ w with
          graphics := { w.graphics with requested := some c, phase := .configured }
          router := w.router.setAspectRatio c.aspectRatio }.log lines) .success
  /-- The core makes no renderer, because it fails or because it crashes. -/
  | uncreated {call : HostCall} {backend : Backend} {table : InteropTable}
      (asks : call.interop? = some (backend, table)) (configured : w.graphics.phase = .configured)
      {c : GraphicsConfig} (requested : w.graphics.requested = some c) {lines : List LogLine}
      {capabilities : Capabilities}
      (accepted : Capabilities.ofInterop backend table = (lines, .ok capabilities))
      (reply : w.core.rendererReply ≠ .success) (report : List LogLine) {f : Failure}
      (failed : ∀ e, f = .error e → ∃ chain, e = .contextCreation chain) :
      Effect call ((w.askedForRenderer lines capabilities c).log report) (.failed f)
  /-- The renderer crashes over a question, and is dropped. -/
  | dropped {call : HostCall} {backend : Backend} {table : InteropTable}
      (asks : call.interop? = some (backend, table)) (configured : w.graphics.phase = .configured)
      {c : GraphicsConfig} (requested : w.graphics.requested = some c) {lines : List LogLine}
      {capabilities : Capabilities}
      (accepted : Capabilities.ofInterop backend table = (lines, .ok capabilities))
      (reply : w.core.rendererReply = .success) {crash : Crash}
      (crashes : (w.core.renderer capabilities.backend).questionCrash? = some crash)
      (report : List LogLine) :
      Effect call
        (((w.askedForRenderer lines capabilities c).log report).record .rendererDropped)
        (.failed (.crash crash))
  | created {call : HostCall} {backend : Backend} {table : InteropTable}
      (asks : call.interop? = some (backend, table)) (configured : w.graphics.phase = .configured)
      {c : GraphicsConfig} (requested : w.graphics.requested = some c) {lines : List LogLine}
      {capabilities : Capabilities}
      (accepted : Capabilities.ofInterop backend table = (lines, .ok capabilities))
      (reply : w.core.rendererReply = .success)
      (answers : (w.core.renderer capabilities.backend).questionCrash? = none)
      (report : List LogLine) :
      Effect call
        ({ w.askedForRenderer lines capabilities c with
          graphics :=
            (w.graphics.adopt c (w.core.renderer capabilities.backend)).state }.log report)
        (.renderer ((w.core.renderer capabilities.backend).info c))
  | sized {width height : Int} (ready : w.graphics.phase = .rendererReady ∨
        w.graphics.phase = .running) (positive : 0 < width ∧ 0 < height) (lines : List LogLine) :
      Effect (.setSize width height)
        ({ w with
          graphics.surface := w.graphics.surface.setSize width.toNat height.toNat }.log lines)
        .success
  | vsynced (enabled : Bool) (lines : List LogLine) :
      Effect (.setVsync enabled)
        ({ w with graphics.surface := w.graphics.surface.setVsync enabled }.log lines) .nothing
  | installed (callback : Option SwapCallback) :
      Effect (.setCallback callback) { w with graphics := w.graphics.setCallback callback } .nothing
  | stopRequested (lines : List LogLine) :
      Effect .requestStop ({ w with graphics.stopRequested := true }.log lines) .nothing
  /-- The graphics are forgotten, between loops only. -/
  | tornDown (idle : w.graphics.phase ≠ .running) (lines : List LogLine) :
      Effect .tearDown
        ({ w.dropRenderer with
          graphics :=
            { surface := w.graphics.surface.reset
              statistics := w.graphics.statistics } }.log lines) .success
  | reloaded (lines : List LogLine) :
      Effect .reloadFiles ((w.record .reloadFiles).log lines) .success
  | updated (source : FirmwareSource) (isXci : Bool) (lines : List LogLine) :
      Effect (.installFirmware source isXci)
        ({ w.record (.installFirmware source isXci) with
          core.firmware := some w.core.installs }.log lines) .success
  /-- The core fails at a service, or crashes over it. -/
  | unserved {call : HostCall} {e : Event} (service : call.service? = some e) {f : Failure}
      (failed : ∀ e, f = .error e → ∃ chain, e = .device (.core chain)) :
      Effect call (w.record e) (.failed f)
  /-- The device context is worked on. -/
  | device {call : HostCall} (uses : call.usesDevice = true) {v : World κ} {calls : List Event}
      {device : DeviceState} (touches : w.TouchesDevice calls device v)
      (called : ∀ e ∈ calls, w.ReachesDevice e) {answer : Answer}
      (plain : answer.renderer? = none)
      (errors : ∀ e, answer = .failed (.error e) → e.isOfDevice = true) : Effect call v answer

variable {w} in
/-- Work on the device context makes no other calls. -/
theorem ReachesDevice.isDeviceCall {e : Event} (reaches : w.ReachesDevice e) :
    e.isDeviceCall = true := by
  cases reaches <;> rfl

/-! ## Answers -/

/-- How an answer is phrased changes nothing of the session. -/
@[simp] theorem answering_fst {α : Type} (present : α → Answer)
    (outcome : World κ × Except Failure α) : (answering present outcome).1 = outcome.1 := by
  obtain ⟨v, _ | _⟩ := outcome <;> rfl

/-- And neither does an answer that only says that all is well. -/
@[simp] theorem succeeding_fst (outcome : World κ × Except Failure Unit) :
    (succeeding outcome).1 = outcome.1 := answering_fst _ outcome

variable {w}

/-- A look at the session that cannot fail and tells of no renderer. -/
theorem Effect.of_look {call : HostCall} (looks : call.isLook = true) {answer : Answer}
    (plain : answer.renderer? = none) (faultless : ∀ e, answer ≠ .failed (.error e)) :
    w.Effect call w answer := by
  refine .looked looks (fun info shown => ?_) faultless
  rw [plain] at shown
  cases shown

variable (w)

/-! ## Graphics -/

/-- A configuration is accepted in the first phase only, and if its numbers are in range. -/
theorem configureGraphics_effect {call : HostCall} {c : GraphicsConfig}
    (asked : call.graphicsConfig? w.config = some c) (refusable : call.isRefusable = true) :
    w.Effect call (succeeding (w.configureGraphics c)).1
      (succeeding (w.configureGraphics c)).2 := by
  -- the phase is looked at before the numbers are
  by_cases blank : w.graphics.phase = .uninitialized
  · cases check : c.check with
    | error e =>
      simp only [configureGraphics, onGraphics, Graphics.configure, blank, check]
      exact .refused refusable _ rfl
    | ok =>
      simp only [configureGraphics, onGraphics, Graphics.configure, blank, check]
      exact .configured asked blank check _
  · simp only [configureGraphics, onGraphics, Graphics.configure, ne_eq, blank, not_false_eq_true,
      if_true]
    exact .refused refusable _ rfl

/-- A renderer that the core has made is taken over, unless it crashes over a question. -/
theorem takeOver_effect {call : HostCall} {backend : Backend} {table : InteropTable}
    (asks : call.interop? = some (backend, table)) (configured : w.graphics.phase = .configured)
    {c : GraphicsConfig} (requested : w.graphics.requested = some c) {lines : List LogLine}
    {capabilities : Capabilities}
    (accepted : Capabilities.ofInterop backend table = (lines, .ok capabilities))
    (reply : w.core.rendererReply = .success) :
    let outcome := answering .renderer ((w.askedForRenderer lines capabilities c).takeOver c
      (w.core.renderer capabilities.backend))
    w.Effect call outcome.1 outcome.2 := by
  simp only [takeOver]
  -- in the order of the questions: the ceiling first, and the thread only once that is answered
  split
  · rename_i crash ceiling
    have crashes : (w.core.renderer capabilities.backend).questionCrash? = some crash := by
      -- a crash over the first question leaves no line, one over the second leaves that of the
      -- ceiling
      rw [Renderer.questionCrash?, ceiling]
      rfl
    have unlogged := Effect.dropped asks configured requested accepted reply crashes []
    rw [log_nil] at unlogged
    exact unlogged
  · rename_i crash ceiling threading
    refine .dropped asks configured requested accepted reply ?_ _
    rw [Renderer.questionCrash?, ceiling, threading]
    rfl
  · rename_i ceiling threading
    refine .created asks configured requested accepted reply ?_ _
    rw [Renderer.questionCrash?, ceiling, threading]
    rfl

/-- The core is asked for a renderer after a configuration was accepted, and only if its table is
accepted as well. What becomes of it is then for the core and the renderer to say. -/
theorem createRenderer_effect {call : HostCall} {backend : Backend} {table : InteropTable}
    (asks : call.interop? = some (backend, table)) (refusable : call.isRefusable = true)
    {lines : List LogLine} {capabilities : Capabilities}
    (accepted : Capabilities.ofInterop backend table = (lines, .ok capabilities)) :
    w.Effect call (answering .renderer ((w.log lines).createRenderer capabilities)).1
      (answering .renderer ((w.log lines).createRenderer capabilities)).2 := by
  simp only [createRenderer]
  split
  · rename_i c configured requested
    have asked : w.graphics.phase = .configured := configured
    split
    -- a crash of the creation is not logged by the session, an error is
    · rename_i crash reply
      have failing : w.core.rendererReply ≠ .success := CoreReply.ne_success_of_crash reply
      have unlogged := Effect.uncreated (w := w) asks asked requested accepted failing []
        (f := .crash crash) (by rintro _ ⟨⟩)
      rw [log_nil] at unlogged
      exact unlogged
    · rename_i chain reply
      have failing : w.core.rendererReply ≠ .success := CoreReply.ne_success_of_failure reply
      refine .uncreated asks asked requested accepted failing _ ?_
      rintro _ ⟨⟩
      exact ⟨chain, rfl⟩
    · rename_i reply
      exact w.takeOver_effect asks asked requested accepted reply
  -- the lines of the table stand in front of the one that refuses
  · have refused := Effect.refused (w := w) refusable
      (lines ++ [w.graphics.refusalLine .initializeRenderer])
      (e := w.graphics.refusal .initializeRenderer) rfl
    rw [← log_log] at refused
    exact refused

/-- The phase is looked at before the table. -/
theorem initializeRenderer_effect (backend : Backend) (table : InteropTable) :
    let outcome := w.perform refuseLoop (.initializeRenderer backend table)
    w.Effect (.initializeRenderer backend table) outcome.1 outcome.2 := by
  simp only [perform, initializeRenderer]
  split
  · exact .refused rfl _ rfl
  · split
    · rename_i missing
      exact .refused rfl _ (Capabilities.isRefusal_of_ofInterop missing)
    · rename_i accepted
      exact w.createRenderer_effect rfl rfl accepted

/-- The table is looked at before the phase. -/
theorem initializeRendererWith_effect (backend : Backend) (table : InteropTable) :
    let outcome := w.perform refuseLoop (.initializeRendererWith backend table)
    w.Effect (.initializeRendererWith backend table) outcome.1 outcome.2 := by
  simp only [perform, initializeRendererWith]
  split
  · rename_i missing
    exact .refused rfl _ (Capabilities.isRefusal_of_ofInterop missing)
  · rename_i accepted
    exact w.createRenderer_effect rfl rfl accepted

/-- A size is staged for a renderer that is not used up, if it is one. -/
theorem setSize_effect (width height : Int) :
    let outcome := w.perform refuseLoop (.setSize width height)
    w.Effect (.setSize width height) outcome.1 outcome.2 := by
  simp only [perform, onGraphics, Graphics.setSize]
  split
  · exact .refused rfl _ rfl
  · rename_i ready
    rw [Decidable.not_and_iff_not_or_not, Decidable.not_not, Decidable.not_not] at ready
    split
    · rename_i positive
      exact .sized ready positive _
    · exact .refused rfl _ rfl

/-- A teardown is refused while the loop runs only, and then nothing is dropped. -/
theorem tearDown_effect :
    w.Effect .tearDown (w.perform refuseLoop .tearDown).1 (w.perform refuseLoop .tearDown).2 := by
  -- a refusal takes the renderer along, so the drop is only noted otherwise
  by_cases running : w.graphics.phase = .running
  · have refused : w.tearDown = w.onGraphics (·.refuse .teardown) := by
      simp [tearDown, onGraphics, Graphics.tearDown, Graphics.refuse, running]
    rw [perform, refused]
    exact .refused rfl _ rfl
  · have dropped : (if w.graphics.renderer.isSome then w.record .rendererDropped else w) =
        w.dropRenderer := by
      rw [dropRenderer]
      split
      · rfl
      · rw [List.append_nil]
    have torn : w.tearDown = w.dropRenderer.onGraphics (·.tearDown) := by
      rw [tearDown, bne_iff_ne.mpr running, Bool.and_true, dropped]
    have idle : w.dropRenderer.graphics.phase ≠ .running := running
    simp only [perform, torn, onGraphics, Graphics.tearDown, if_neg idle]
    exact .tornDown running _

/-! ## Device and services -/

/-- What the creation of a device context comes to. -/
theorem initializeDevice_asEffect {call : HostCall} (uses : call.usesDevice = true)
    (refusable : call.isRefusable = true) (options : DeviceOptions) :
    w.Effect call (succeeding (w.initializeDevice options)).1
      (succeeding (w.initializeDevice options)).2 := by
  have effect := w.initializeDevice_effect options
  generalize w.initializeDevice options = outcome at effect ⊢
  obtain ⟨v, result⟩ := outcome
  -- an old context that is replaced is disposed of, and only then is the new one asked for
  have disposal : ∀ e ∈ w.replacement, w.ReachesDevice e := by
    intro e mem
    rw [replacement] at mem
    split at mem
    · cases List.mem_singleton.mp mem
      exact .disposed
    · cases mem
  have called {context : DeviceContext} (ready : w.deviceContext? = some context) :
      ∀ e ∈ w.replacement ++ [.createDevice options context], w.ReachesDevice e :=
    List.forall_mem_append.mpr ⟨disposal, List.forall_mem_singleton.mpr (.created options ready)⟩
  cases effect with
  | refused unready same failed =>
    cases same
    cases failed
    exact .refused refusable _ rfl
  | undisposed c ready live crashes touches failed =>
    cases failed
    exact .device uses touches (List.forall_mem_singleton.mpr .disposed) rfl (by rintro _ ⟨⟩)
  | uncreated context ready disposes reply touches failed =>
    obtain ⟨f, failed, errors⟩ := failed
    cases failed
    refine .device uses touches (called ready) rfl ?_
    rintro e ⟨⟩
    obtain ⟨chain, rfl⟩ := errors e rfl
    rfl
  | created context ready disposes reply touches succeeded =>
    cases succeeded
    exact .device uses touches (called ready) rfl (by rintro _ ⟨⟩)

/-- What can be wrong with a path is a matter of the files. -/
theorem isOfDevice_of_detect {tree : FileTree} {path : Path} {e : DeviceError}
    (undetected : Application.detect tree path = .error e) :
    SessionError.isOfDevice (.device e) = true := by
  rw [Application.detect] at undetected
  split at undetected
  · -- a directory fails with the cause that it cannot be read
    rw [Application.findRomfs] at undetected
    split at undetected <;> cases undetected
    rfl
  · split at undetected <;> cases undetected
    rfl

/-- What the load of an application comes to. -/
theorem load_asEffect (path : Path) :
    w.Effect (.load path) (answering .application (w.load path)).1
      (answering .application (w.load path)).2 := by
  have effect := w.load_effect path
  generalize w.load path = outcome at effect ⊢
  obtain ⟨v, result⟩ := outcome
  -- each way of the load is one of a call that uses the device
  cases effect with
  | refused missing same failed =>
    cases same
    cases failed
    have unlogged : v.Effect (.load path) (v.log []) (.failed (.error (.device .notInitialized))) :=
      .refused rfl [] rfl
    rw [log_nil] at unlogged
    exact unlogged
  | undetected e live detected disposes touches failed =>
    cases failed
    refine .device rfl touches (List.forall_mem_singleton.mpr .disposed) rfl ?_
    rintro _ ⟨⟩
    exact isOfDevice_of_detect detected
  | failed a chain live reply disposes touches failed =>
    cases failed
    refine .device rfl touches ?_ rfl ?_
    · exact List.forall_mem_cons.mpr ⟨.loaded a, List.forall_mem_singleton.mpr .disposed⟩
    · rintro _ ⟨⟩
      rfl
  | undisposed asked c live fails crashes touches failed =>
    cases failed
    refine .device rfl touches ?_ rfl (by rintro _ ⟨⟩)
    cases asked with
    | none => exact List.forall_mem_singleton.mpr .disposed
    | some a => exact List.forall_mem_cons.mpr ⟨.loaded a, List.forall_mem_singleton.mpr .disposed⟩
  | crashed a c live reply touches failed =>
    cases failed
    exact .device rfl touches (List.forall_mem_singleton.mpr (.loaded a)) rfl (by rintro _ ⟨⟩)
  | loaded a detected live reply touches succeeded =>
    cases succeeded
    exact .device rfl touches (List.forall_mem_singleton.mpr (.loaded a)) rfl (by rintro _ ⟨⟩)

/-- The files are reloaded, or the core could not. -/
theorem reloadFiles_effect :
    w.Effect .reloadFiles (w.perform refuseLoop .reloadFiles).1
      (w.perform refuseLoop .reloadFiles).2 := by
  simp only [perform, reloadFiles]
  split
  · exact .unserved rfl (by rintro _ ⟨⟩)
  · rename_i chain _
    refine .unserved rfl ?_
    rintro _ ⟨⟩
    exact ⟨chain, rfl⟩
  · exact .reloaded _

/-- Firmware is installed, or the core could not. -/
theorem installFirmware_effect (source : FirmwareSource) (isXci : Bool) :
    let outcome := w.perform refuseLoop (.installFirmware source isXci)
    w.Effect (.installFirmware source isXci) outcome.1 outcome.2 := by
  simp only [perform, installFirmware]
  split
  · exact .unserved rfl (by rintro _ ⟨⟩)
  · rename_i chain _
    refine .unserved rfl ?_
    rintro _ ⟨⟩
    exact ⟨chain, rfl⟩
  · exact .updated source isXci _

/-- The firmware can be asked for at any time, and a crash of the core over it is a missing version.
-/
theorem firmwareVersion_effect :
    w.Effect .firmwareVersion (w.perform refuseLoop .firmwareVersion).1
      (w.perform refuseLoop .firmwareVersion).2 := by
  simp only [perform, firmwareVersion]
  split
  · exact .of_look rfl rfl (by rintro _ ⟨⟩)
  · cases version : w.core.firmware with
    | none => exact .of_look rfl rfl (by rintro _ ⟨⟩)
    | some version => exact .of_look rfl rfl (by rintro _ ⟨⟩)

/-! ## All calls -/

/-- Each call goes in one of its ways, if a loop that is asked for is refused. -/
theorem perform_effect {loop : Loop κ} {call : HostCall}
    (refused : call = .runLoop → loop w = w.refuseLoop) :
    w.Effect call (w.perform loop call).1 (w.perform loop call).2 := by
  cases call with
  | input call => exact .input call
  | configureGraphics => exact w.configureGraphics_effect rfl rfl
  | configureGraphicsDefault => exact w.configureGraphics_effect rfl rfl
  | initializeRenderer backend table => exact w.initializeRenderer_effect backend table
  | initializeRendererWith backend table => exact w.initializeRendererWith_effect backend table
  | setSize width height => exact w.setSize_effect width height
  | setVsync enabled => exact .vsynced enabled _
  | setCallback callback => exact .installed callback
  | requestStop => exact .stopRequested _
  | tearDown => exact w.tearDown_effect
  | runLoop =>
    -- the loop is the one call that may do more than this, and its hypothesis refuses it
    rw [perform, refused rfl]
    exact .refused rfl _ rfl
  | rendererInfo =>
    cases held : w.graphics.info with
    | none =>
      rw [perform, held]
      exact .of_look rfl rfl (by rintro _ ⟨⟩)
    | some own =>
      rw [perform, held]
      exact .looked rfl (fun _ shown => held.trans shown) (by rintro _ ⟨⟩)
  | firmwareVersion => exact w.firmwareVersion_effect
  | initializeDevice options => exact w.initializeDevice_asEffect rfl rfl options
  | initializeDeviceDefault => exact w.initializeDevice_asEffect rfl rfl w.config.device
  | load path => exact w.load_asEffect path
  | reloadFiles => exact w.reloadFiles_effect
  | installFirmware source isXci => exact w.installFirmware_effect source isXci
  | phase | geometry | configurations | counters | figures | config | deviceState =>
    exact .of_look rfl rfl (by rintro _ ⟨⟩)

/-- In the middle of a frame the loop is refused. -/
theorem perform_refuseLoop_effect (call : HostCall) :
    w.Effect call (w.perform refuseLoop call).1 (w.perform refuseLoop call).2 :=
  w.perform_effect fun _ => rfl

variable {w} in
/-- A call that has nothing to do with the device context leaves it alone. -/
theorem Effect.device_eq {v : World κ} {call : HostCall} {answer : Answer}
    (effect : w.Effect call v answer) (other : call.usesDevice = false) : v.device = w.device := by
  cases effect with
  | device uses =>
    rw [uses] at other
    cases other
  | _ => rfl

/-! ## Calls out -/

/-- What there is to say of a call out of a session that a call of the host, which is answered with
`answer`, has led to. -/
structure CallsOut (w : World κ) (call : HostCall) (answer : Answer) (e : Event) : Prop where
  /-- The calls of a frame are made by the loop. -/
  frameless : e.isFrameCall = false
  /-- Only a call that works on the device context reaches it. -/
  device : e.isDeviceCall = true → call.usesDevice = true ∧ w.ReachesDevice e
  /-- The core is asked for a renderer with the configuration that was accepted. -/
  requested : ∀ capabilities c probes, e = .createRenderer capabilities c probes →
    w.graphics.requested = some c
  /-- A renderer that is made, and stands the questions, is in the answer. -/
  made : ∀ capabilities c probes, e = .createRenderer capabilities c probes →
    w.core.rendererReply = .success →
    (w.core.renderer capabilities.backend).questionCrash? = none →
    answer = .renderer ((w.core.renderer capabilities.backend).info c)

/-- A call that makes no renderer has nothing to do with one. -/
theorem CallsOut.of_other {w : World κ} {call : HostCall} {answer : Answer} {e : Event}
    (frameless : e.isFrameCall = false)
    (device : e.isDeviceCall = true → call.usesDevice = true ∧ w.ReachesDevice e)
    (other : (e matches .createRenderer ..) = false) : w.CallsOut call answer e := by
  refine ⟨frameless, device, ?_, ?_⟩
  · rintro _ _ _ rfl
    cases other
  · rintro _ _ _ rfl
    cases other

/-- What a call of the host adds to the calls out of a session. -/
theorem Effect.events {w v : World κ} {call : HostCall} {answer : Answer}
    (effect : w.Effect call v answer) :
    ∃ calls, v.events = w.events ++ calls ∧ ∀ e ∈ calls, w.CallsOut call answer e := by
  have none {u : World κ} (same : u.events = w.events) :
      ∃ calls, u.events = w.events ++ calls ∧ ∀ e ∈ calls, w.CallsOut call answer e :=
    ⟨[], same.trans (List.append_nil _).symm, List.forall_mem_nil _⟩
  have one {u : World κ} {e : Event} (noted : u.events = w.events ++ [e])
      (out : w.CallsOut call answer e) :
      ∃ calls, u.events = w.events ++ calls ∧ ∀ e ∈ calls, w.CallsOut call answer e :=
    ⟨[e], noted, List.forall_mem_singleton.mpr out⟩
  have ending : w.CallsOut call answer .rendererDropped :=
    .of_other rfl nofun rfl
  -- only calls that reach foreign code are noted, each under the name that the table has for it
  cases effect with
  | looked | installed => exact none rfl
  | refused | input | configured | sized | vsynced | stopRequested => exact none (events_log ..)
  | uncreated asks configured requested accepted reply =>
    refine one ((events_log ..).trans (w.askedForRenderer_events _ _ _)) ⟨rfl, nofun, ?_, ?_⟩
    · rintro _ _ _ ⟨⟩
      exact requested
    · exact fun _ _ _ _ success => absurd success reply
  | dropped asks configured requested accepted reply crashes =>
    refine ⟨_, by rw [events_record, events_log, askedForRenderer_events, List.append_assoc], ?_⟩
    refine List.forall_mem_cons.mpr ⟨⟨rfl, nofun, ?_, ?_⟩, List.forall_mem_singleton.mpr ending⟩
    · rintro _ _ _ ⟨⟩
      -- the renderer is dropped at once, since the crash has unwound the call that made it
      exact requested
    · rintro _ _ _ ⟨⟩ - stands
      rw [stands] at crashes
      cases crashes
  | created asks configured requested =>
    refine one ((events_log ..).trans (w.askedForRenderer_events _ _ _)) ⟨rfl, nofun, ?_, ?_⟩
    · rintro _ _ _ ⟨⟩
      exact requested
    · rintro _ _ _ ⟨⟩ - -
      rfl
  | tornDown =>
    refine ⟨_, (events_log ..).trans w.dropRenderer_events, fun e mem => ?_⟩
    cases (List.mem_ite_nil_right.mp mem).2 with
    | head => exact ending
    | tail _ never => cases never
  | reloaded | updated =>
    exact one ((events_log ..).trans (w.events_record _)) (.of_other rfl nofun rfl)
  | unserved service =>
    -- the services are neither part of a frame nor of the life of a device context
    refine one (w.events_record _) (.of_other ?_ ?_ ?_)
    · cases call <;> cases service <;> rfl
    · cases call <;> cases service <;> exact nofun
    · cases call <;> cases service <;> rfl
  | device uses touches called =>
    refine ⟨_, touches.events, fun e mem => .of_other ?_ (fun _ => ⟨uses, called e mem⟩) ?_⟩
    · exact e.isFrameCall_of_isDeviceCall (called e mem).isDeviceCall
    · cases called e mem <;> rfl

end World

end EmuHost
