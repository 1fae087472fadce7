import EmuHost.Proofs.LoopFrames
import EmuHost.Proofs.RouterSlots

/-!
# Sessions side by side

Two sessions may differ in a few things and still do the same for ever. A session never looks at the
calls that its host makes in the middle of a frame: they wait in the script of the core until an
interpreter performs them, so each of them can be replaced by other ones that do the same. It never
looks at its statistics either, but for the two calls that read them. A `Translation` says how the
second session differs from the first in these things, and which journals are taken for alike.

Each operation takes two such sessions to two such sessions, with the same result. So the two go
side by side through all calls of their hosts, and through whole loops if the calls in the middle of
frames keep them side by side (`Translation.Carries`).

## Key results

- `Translation.Mirrors.perform`: every call of the host keeps two sessions side by side
- `Translation.Mirrors.runLoop`: so does a loop, if the calls in the middle of its frames do
-/

namespace EmuHost

/-- How one session is put for another one, in sessions with a given configuration. -/
structure Translation (κ ι : Type) where
  config : HostConfig
  /-- The calls that are put for a call in the middle of a frame. -/
  calls : κ → List ι
  /-- The statistics that are put for those of the first session. -/
  statistics : Statistics Binary64 → Statistics Binary64
  /-- What is known of the router, which is the same for both. -/
  Trusts : Router → Prop
  /-- Which journals are taken for alike. -/
  Alike : Journal → Journal → Prop
  /-- An entry to both journals leaves them alike. -/
  both : ∀ {told noted : Journal} (entry : Entry), Alike told noted →
    Alike (told ++ [entry]) (noted ++ [entry])
  input : ∀ {r : Router} (call : InputCall), Trusts r → Trusts (r.perform call).1
  aspect : ∀ {r : Router} (a : AspectRatio), Trusts r → Trusts (r.setAspectRatio a)

namespace Translation

variable {κ ι : Type} (T : Translation κ ι)

/-! ## Translated parts -/

/-- A frame with the other calls of the host. -/
def frame (f : Frame κ) : Frame ι :=
  { f with
    resizeCalls := f.resizeCalls.flatMap T.calls
    vsyncCalls := f.vsyncCalls.flatMap T.calls
    calls := f.calls.flatMap T.calls
    presentCalls := f.presentCalls.flatMap T.calls
    swapCalls := f.swapCalls.flatMap T.calls }

/-- A renderer with the other frames. -/
def renderer (r : Renderer κ) : Renderer ι := { r with frames := r.frames.map T.frame }

/-- The script of a core with the other frames. -/
def core (s : CoreScript κ) : CoreScript ι := { s with frames := s.frames.map T.frame }

/-- Graphics with the other renderer and the other statistics. -/
def graphics (g : Graphics κ) : Graphics ι :=
  { g with
    renderer := g.renderer.map T.renderer
    statistics := T.statistics g.statistics }

/-- The reply of the graphics, put for the other session. -/
def reply {α : Type} (r : Reply (Graphics κ) α) : Reply (Graphics ι) α :=
  ⟨T.graphics r.state, r.result, r.log⟩

/-- An answer, put for the other session: it may tell of the statistics. -/
def answer : Answer → Answer
  | .counters s => .counters (T.statistics s)
  | .figures s => .figures (T.statistics s)
  | plain => plain

/-- Something that the renderer is told, with the other calls of the host. -/
def push (p : Push κ) : Push ι := { p with calls := p.calls.flatMap T.calls }

/-- What the renderer is told is the same in both frames, but for the calls of the host. -/
theorem pushes_eq (f : Frame κ) (start : FrameStart) :
    (T.frame f).pushes start = (f.pushes start).map T.push := by
  simp only [Frame.pushes]
  -- what is pushed depends on the start of the frame, and its crashes on the script of the frame
  cases start.resized <;> cases start.vsyncChanged <;> rfl

/-- The answer of the router tells nothing of the graphics. -/
theorem answer_ofInput (a : InputAnswer) : T.answer (.ofInput a) = .ofInput a := by
  cases a <;> rfl

section Graphics

variable (g : Graphics κ)

/-- A configuration is accepted or refused on both sides. -/
theorem configure_eq (c : GraphicsConfig) :
    (T.graphics g).configure c = T.reply (g.configure c) := by
  -- the phase is not translated, so both sides branch alike here and below
  by_cases blank : g.phase = .uninitialized
  · have same : (T.graphics g).phase = .uninitialized := blank
    simp only [Graphics.configure, blank, same, ne_eq, not_true_eq_false, if_false]
    cases c.check <;> rfl
  · have same : (T.graphics g).phase ≠ .uninitialized := blank
    rw [Graphics.configure, Graphics.configure, if_pos same, if_pos blank]
    rfl

/-- A size is staged or refused on both sides. -/
theorem setSize_eq (width height : Int) :
    (T.graphics g).setSize width height = T.reply (g.setSize width height) := by
  by_cases early : g.phase ≠ .rendererReady ∧ g.phase ≠ .running
  · have same : (T.graphics g).phase ≠ .rendererReady ∧ (T.graphics g).phase ≠ .running := early
    rw [Graphics.setSize, Graphics.setSize, if_pos same, if_pos early]
    rfl
  · have same : ¬((T.graphics g).phase ≠ .rendererReady ∧ (T.graphics g).phase ≠ .running) := early
    -- a size that is too small is refused by its numbers, which are the same
    rw [Graphics.setSize, Graphics.setSize, if_neg same, if_neg early]
    split <;> rfl

/-- A teardown is done or refused on both sides. -/
theorem tearDown_eq : (T.graphics g).tearDown = T.reply g.tearDown := by
  by_cases running : g.phase = .running
  · have same : (T.graphics g).phase = .running := running
    rw [Graphics.tearDown, Graphics.tearDown, if_pos same, if_pos running]
    rfl
  · have same : ¬(T.graphics g).phase = .running := running
    rw [Graphics.tearDown, Graphics.tearDown, if_neg same, if_neg running]
    rfl

end Graphics

/-! ## Side by side -/

/-- Two sessions that differ as a translation says, and in nothing else. -/
structure Mirrors (v : World κ) (w : World ι) : Prop where
  core : w.core = T.core v.core
  files : w.files = v.files
  home : w.home = v.home
  config : v.config = T.config
  sameConfig : w.config = v.config
  graphics : w.graphics = T.graphics v.graphics
  router : w.router = v.router
  device : w.device = v.device
  noted : T.Alike v.journal w.journal
  trusted : T.Trusts v.router

/-- Two operations that leave sessions side by side, with the same result. -/
structure Parallel {α : Type} (one : World κ × α) (other : World ι × α) : Prop where
  mirrors : T.Mirrors one.1 other.1
  result : other.2 = one.2

/-- Two calls that leave sessions side by side, with answers that differ in the statistics only. -/
structure Alongside (one : World κ × Answer) (other : World ι × Answer) : Prop where
  mirrors : T.Mirrors one.1 other.1
  answer : other.2 = T.answer one.2

variable {T} {v : World κ} {w : World ι}

/-- Whatever is noted on both sides leaves the journals alike. -/
theorem alike_append {told noted : Journal} (alike : T.Alike told noted) (entries : List Entry) :
    T.Alike (told ++ entries) (noted ++ entries) := by
  -- on the entries: each one goes to both journals
  induction entries generalizing told noted with
  | nil =>
    rw [List.append_nil, List.append_nil]
    exact alike
  | cons entry entries ih =>
    have rest := ih (T.both entry alike)
    rw [List.append_assoc, List.append_assoc] at rest
    exact rest

namespace Mirrors

/-! ### Primitive changes -/

/-- The two may note different things, as long as their journals are taken for alike. -/
theorem note (m : T.Mirrors v w) {told noted : Journal} (alike : T.Alike told noted) :
    T.Mirrors { v with journal := told } { w with journal := noted } :=
  { m with noted := alike }

/-- A call out of both sessions. -/
theorem record (m : T.Mirrors v w) (e : Event) : T.Mirrors (v.record e) (w.record e) :=
  m.note (T.both (.event e) m.noted)

/-- Lines in the logs of both sessions. -/
theorem log (m : T.Mirrors v w) (lines : List LogLine) : T.Mirrors (v.log lines) (w.log lines) :=
  m.note (alike_append m.noted _)

/-- The graphics may change in the same way on both sides. -/
theorem withGraphics (m : T.Mirrors v w) {g : Graphics κ} {h : Graphics ι}
    (same : h = T.graphics g) :
    T.Mirrors { v with graphics := g } { w with graphics := h } :=
  { m with graphics := same }

/-- So may the script of the core. -/
theorem withCore (m : T.Mirrors v w) {s : CoreScript κ} {q : CoreScript ι} (same : q = T.core s) :
    T.Mirrors { v with core := s } { w with core := q } :=
  { m with core := same }

/-- So may what is known of the device context. -/
theorem withDevice (m : T.Mirrors v w) (device : DeviceState) :
    T.Mirrors { v with device } { w with device } :=
  { m with device := rfl }

/-- And so may the router, if it stays one that is trusted. -/
theorem withRouter (m : T.Mirrors v w) {r q : Router} (same : q = r) (trusted : T.Trusts r) :
    T.Mirrors { v with router := r } { w with router := q } :=
  { m with router := same, trusted }

/-- The phases are the same. -/
theorem phase (m : T.Mirrors v w) : w.graphics.phase = v.graphics.phase := by
  rw [m.graphics]
  rfl

/-- A stop is requested on both sides, or on neither. -/
theorem stopRequested (m : T.Mirrors v w) :
    w.graphics.stopRequested = v.graphics.stopRequested := by
  rw [m.graphics]
  rfl

/-- An operation on the graphics that replies in the same way on both sides. -/
theorem onGraphics (m : T.Mirrors v w) {α : Type} {operate : Graphics κ → Reply (Graphics κ) α}
    {other : Graphics ι → Reply (Graphics ι) α}
    (same : other (T.graphics v.graphics) = T.reply (operate v.graphics)) :
    T.Parallel (v.onGraphics operate) (w.onGraphics other) := by
  have reply : other w.graphics = T.reply (operate v.graphics) := by rw [m.graphics, same]
  simp only [World.onGraphics, reply]
  exact ⟨(m.withGraphics rfl).log _, rfl⟩

/-! ### The operations -/

/-- A call to the router. -/
theorem performInput (m : T.Mirrors v w) (call : InputCall) :
    T.Alongside (v.performInput call) (w.performInput call) := by
  simp only [World.performInput, m.router]
  exact ⟨(m.withRouter rfl (T.input call m.trusted)).log _, (T.answer_ofInput _).symm⟩

/-- The configuration of the graphics. -/
theorem configureGraphics (m : T.Mirrors v w) (c : GraphicsConfig) :
    T.Parallel (v.configureGraphics c) (w.configureGraphics c) := by
  have configured : T.Parallel (v.onGraphics (·.configure c)) (w.onGraphics (·.configure c)) :=
    m.onGraphics (T.configure_eq v.graphics c)
  simp only [World.configureGraphics]
  generalize v.onGraphics (·.configure c) = one at configured
  generalize w.onGraphics (·.configure c) = other at configured
  -- only a configuration that was accepted sets the shape of the screen
  obtain ⟨v, _ | _⟩ := one <;> obtain ⟨w, _⟩ := other <;> obtain ⟨m, ⟨⟩⟩ := configured
  · exact ⟨m, rfl⟩
  · have same : w.router.setAspectRatio c.aspectRatio = v.router.setAspectRatio c.aspectRatio :=
      congrArg (Router.setAspectRatio · c.aspectRatio) m.router
    exact ⟨m.withRouter same (T.aspect c.aspectRatio m.trusted), rfl⟩

/-- A refusal by the phase. -/
theorem refuse (m : T.Mirrors v w) {α : Type} (operation : Operation) :
    T.Parallel (v.onGraphics (α := α) (·.refuse operation)) (w.onGraphics (·.refuse operation)) :=
  m.onGraphics rfl

/-- A renderer that the core has made, up to a crash over a question. -/
theorem takeOver (m : T.Mirrors v w) (c : GraphicsConfig) (renderer : Renderer κ) :
    T.Parallel (v.takeOver c renderer) (w.takeOver c (T.renderer renderer)) := by
  have ceiling : (T.renderer renderer).ceilingCrash = renderer.ceilingCrash := rfl
  have threading : (T.renderer renderer).threadingCrash = renderer.threadingCrash := rfl
  simp only [World.takeOver, ceiling, threading]
  -- in the order of the questions to the renderer
  split
  · exact ⟨m.record .rendererDropped, rfl⟩
  · exact ⟨(m.log _).record .rendererDropped, rfl⟩
  · exact m.onGraphics rfl

/-- The creation of a renderer. -/
theorem createRenderer (m : T.Mirrors v w) (capabilities : Capabilities) :
    T.Parallel (v.createRenderer capabilities) (w.createRenderer capabilities) := by
  have requested : w.graphics.requested = v.graphics.requested := by rw [m.graphics]; rfl
  have probes : w.core.probeAnswers = v.core.probeAnswers := by rw [m.core]; rfl
  simp only [World.createRenderer, m.phase, requested, probes]
  split
  · rename_i c _ _
    have asked := m.record
      (.createRenderer capabilities c (v.core.probeAnswers capabilities.backend))
    -- from here on the core has been asked, on both sides
    generalize v.record _ = v at asked ⊢
    generalize w.record _ = w at asked ⊢
    have reply : w.core.rendererReply = v.core.rendererReply := by rw [asked.core]; rfl
    have made : w.core.renderer capabilities.backend =
        T.renderer (v.core.renderer capabilities.backend) := by rw [asked.core]; rfl
    rw [reply, made]
    split
    · exact ⟨asked, rfl⟩
    · exact ⟨asked.log _, rfl⟩
    · exact asked.takeOver c _
  · exact m.refuse .initializeRenderer

/-- The check of the procedures, and the creation behind it. -/
theorem initializeRenderer (m : T.Mirrors v w) (backend : Backend) (table : InteropTable) :
    T.Parallel (v.initializeRenderer backend table) (w.initializeRenderer backend table) := by
  simp only [World.initializeRenderer, m.phase]
  split
  · exact m.refuse .initializeRenderer
  · split
    · exact ⟨m.log _, rfl⟩
    · exact (m.log _).createRenderer _

/-- The same with procedures that the host has checked. -/
theorem initializeRendererWith (m : T.Mirrors v w) (backend : Backend) (table : InteropTable) :
    T.Parallel (v.initializeRendererWith backend table)
      (w.initializeRendererWith backend table) := by
  simp only [World.initializeRendererWith]
  split
  · exact ⟨m.log _, rfl⟩
  · exact (m.log _).createRenderer _

/-- A teardown, with the drop of the renderer. -/
theorem tearDown (m : T.Mirrors v w) : T.Parallel v.tearDown w.tearDown := by
  -- whether there is a renderer to drop does not depend on its frames
  have renderer : w.graphics.renderer.isSome = v.graphics.renderer.isSome := by
    rw [m.graphics]
    exact Option.isSome_map
  simp only [World.tearDown, m.phase, renderer]
  split
  · exact (m.record .rendererDropped).onGraphics (T.tearDown_eq v.graphics)
  · exact m.onGraphics (T.tearDown_eq v.graphics)

/-- The disposal of a context that makes room for another one. -/
theorem replaceDevice (m : T.Mirrors v w) : T.Parallel v.replaceDevice w.replaceDevice := by
  simp only [World.replaceDevice, m.device]
  -- where there is a context, the options are gone before the core is asked
  split
  · have asked := ((m.withDevice { v.device with options := none }).log
      [.info "Replacing existing device context"]).record .disposeDevice
    generalize World.record (.log ⟨v.toSurroundings, _, _, _, _⟩ _) _ = v at asked ⊢
    generalize World.record (.log ⟨w.toSurroundings, _, _, _, _⟩ _) _ = w at asked ⊢
    have disposal : w.core.disposalCrash = v.core.disposalCrash := by rw [asked.core]; rfl
    rw [disposal, asked.device]
    split
    · exact ⟨asked, rfl⟩
    · exact ⟨asked.withDevice _, rfl⟩
  · exact ⟨m, rfl⟩

/-- The settings of a new device context are the same. -/
theorem deviceContext? (m : T.Mirrors v w) : w.deviceContext? = v.deviceContext? := by
  have info : w.graphics.info = v.graphics.info := by rw [m.graphics]; rfl
  have effective : w.graphics.effectiveConfig = v.graphics.effectiveConfig := by
    rw [m.graphics]; rfl
  -- it is taken from the graphics, but from none of what is translated
  rw [World.deviceContext?, info, effective, m.phase, World.deviceContext?]

/-- The creation of a device context where there is room for it. -/
theorem createDevice (m : T.Mirrors v w) (options : DeviceOptions) (context : DeviceContext) :
    T.Parallel (v.createDevice options context) (w.createDevice options context) := by
  have asked := m.record (.createDevice options context)
  simp only [World.createDevice]
  generalize v.record _ = v at asked ⊢
  generalize w.record _ = w at asked ⊢
  have reply : w.core.deviceReply = v.core.deviceReply := by rw [asked.core]; rfl
  rw [reply, asked.device]
  split
  · exact ⟨asked, rfl⟩
  · exact ⟨asked, rfl⟩
  · exact ⟨(asked.withDevice _).log _, rfl⟩

/-- The creation of a device context, with the disposal before it. -/
theorem initializeDevice (m : T.Mirrors v w) (options : DeviceOptions) :
    T.Parallel (v.initializeDevice options) (w.initializeDevice options) := by
  have line : w.graphics.refusalLine .deviceInitialize =
      v.graphics.refusalLine .deviceInitialize := by rw [m.graphics]; rfl
  simp only [World.initializeDevice, m.deviceContext?, line]
  split
  · exact ⟨m.log _, rfl⟩
  · rename_i context _
    have replaced := m.replaceDevice
    generalize v.replaceDevice = one at replaced ⊢
    generalize w.replaceDevice = other at replaced ⊢
    -- either there is room on both sides now, or the same crash
    obtain ⟨v, _ | _⟩ := one <;> obtain ⟨w, _⟩ := other <;> obtain ⟨m, ⟨⟩⟩ := replaced
    · exact ⟨m, rfl⟩
    · exact m.createDevice options context

/-- The disposal after a load that has failed. -/
theorem abandonLoad (m : T.Mirrors v w) (path : Path) (e : DeviceError) :
    T.Parallel (v.abandonLoad path e) (w.abandonLoad path e) := by
  have asked := (m.log [.error ("Failed to load " ++ path ++ ": " ++ e.message)]).record
    .disposeDevice
  simp only [World.abandonLoad]
  generalize (v.log _).record _ = v at asked ⊢
  generalize (w.log _).record _ = w at asked ⊢
  have disposal : w.core.disposalCrash = v.core.disposalCrash := by rw [asked.core]; rfl
  rw [disposal]
  split
  · exact ⟨asked, rfl⟩
  · exact ⟨asked.withDevice {}, rfl⟩

/-- The load of an application. -/
theorem load (m : T.Mirrors v w) (path : Path) : T.Parallel (v.load path) (w.load path) := by
  simp only [World.load, m.device, m.files]
  split
  · exact ⟨m, rfl⟩
  -- the files are the same, so the same application is detected
  · split
    · exact m.abandonLoad path _
    · rename_i a _
      have asked := m.record (.load a)
      generalize v.record _ = v at asked ⊢
      generalize w.record _ = w at asked ⊢
      have reply : w.core.loadReply = v.core.loadReply := by rw [asked.core]; rfl
      rw [reply, asked.device]
      split
      · exact ⟨asked, rfl⟩
      · exact asked.abandonLoad path _
      · exact ⟨(asked.withDevice _).log _, rfl⟩

/-- The scan of the files of the core. -/
theorem reloadFiles (m : T.Mirrors v w) : T.Parallel v.reloadFiles w.reloadFiles := by
  have asked := m.record .reloadFiles
  have reply : (w.record .reloadFiles).core.reloadReply =
      (v.record .reloadFiles).core.reloadReply := by rw [asked.core]; rfl
  simp only [World.reloadFiles, reply]
  split
  · exact ⟨asked, rfl⟩
  · exact ⟨asked, rfl⟩
  · exact ⟨asked.log _, rfl⟩

/-- The installation of a firmware archive. -/
theorem installFirmware (m : T.Mirrors v w) (source : FirmwareSource) (isXci : Bool) :
    T.Parallel (v.installFirmware source isXci) (w.installFirmware source isXci) := by
  have asked := m.record (.installFirmware source isXci)
  simp only [World.installFirmware]
  generalize v.record _ = v at asked ⊢
  generalize w.record _ = w at asked ⊢
  have reply : w.core.firmwareReply = v.core.firmwareReply := by rw [asked.core]; rfl
  have installs : w.core.installs = v.core.installs := by rw [asked.core]; rfl
  rw [reply, installs]
  split
  · exact ⟨asked, rfl⟩
  · exact ⟨asked, rfl⟩
  · exact ⟨(asked.withCore (by rw [asked.core]; rfl)).log _, rfl⟩

/-- The question for the version of the firmware. -/
theorem firmwareVersion (m : T.Mirrors v w) : T.Parallel v.firmwareVersion w.firmwareVersion := by
  have crash : w.core.versionCrash = v.core.versionCrash := by rw [m.core]; rfl
  have version : w.core.firmware = v.core.firmware := by rw [m.core]; rfl
  simp only [World.firmwareVersion, crash, version]
  split <;> exact ⟨m, rfl⟩

end Mirrors

/-! ### Every call of the host -/

/-- Operations with the same result have the same answer, if success tells of no statistics. -/
theorem Parallel.answering {α : Type} {one : World κ × Except Failure α}
    {other : World ι × Except Failure α} (p : T.Parallel one other) (present : α → Answer)
    (plain : ∀ a, T.answer (present a) = present a) :
    T.Alongside (World.answering present one) (World.answering present other) := by
  obtain ⟨v, _ | a⟩ := one <;> obtain ⟨w, _⟩ := other <;> obtain ⟨m, ⟨⟩⟩ := p
  · exact ⟨m, rfl⟩
  · exact ⟨m, (plain a).symm⟩

namespace Mirrors

/-- Every call of the host keeps two sessions side by side, if the loop does. -/
theorem perform (m : T.Mirrors v w) {loop : World.Loop κ} {other : World.Loop ι} {call : HostCall}
    (loops : call = .runLoop → T.Parallel (loop v) (other w)) :
    T.Alongside (v.perform loop call) (w.perform other call) := by
  -- each call of the host by its operation; the answers follow the results
  cases call with
  | input call => exact m.performInput call
  | configureGraphics c => exact (m.configureGraphics c).answering _ fun _ => rfl
  | configureGraphicsDefault =>
    simp only [World.perform, m.sameConfig]
    -- a call without arguments of its own takes them from the configuration
    exact (m.configureGraphics v.config.graphics).answering _ fun _ => rfl
  | initializeRenderer backend table =>
    exact (m.initializeRenderer backend table).answering _ fun _ => rfl
  | initializeRendererWith backend table =>
    exact (m.initializeRendererWith backend table).answering _ fun _ => rfl
  | setSize width height =>
    have staged : T.Parallel (v.onGraphics (·.setSize width height))
        (w.onGraphics (·.setSize width height)) :=
      m.onGraphics (T.setSize_eq v.graphics width height)
    exact staged.answering (fun _ => .success) fun _ => rfl
  | setVsync enabled =>
    have staged : T.Parallel (v.onGraphics (·.setVsync enabled))
        (w.onGraphics (·.setVsync enabled)) := m.onGraphics rfl
    exact staged.answering (fun _ => .nothing) fun _ => rfl
  | setCallback callback => exact ⟨m.withGraphics (by rw [m.graphics]; rfl), rfl⟩
  | requestStop =>
    have asked : T.Parallel (v.onGraphics (·.requestStop)) (w.onGraphics (·.requestStop)) :=
      m.onGraphics rfl
    exact asked.answering (fun _ => .nothing) fun _ => rfl
  | tearDown => exact m.tearDown.answering _ fun _ => rfl
  | runLoop => exact (loops rfl).answering _ fun _ => rfl
  | initializeDevice options => exact (m.initializeDevice options).answering _ fun _ => rfl
  | initializeDeviceDefault =>
    simp only [World.perform, m.sameConfig]
    exact (m.initializeDevice v.config.device).answering _ fun _ => rfl
  | load path => exact (m.load path).answering _ fun _ => rfl
  | reloadFiles => exact m.reloadFiles.answering _ fun _ => rfl
  | installFirmware source isXci => exact (m.installFirmware source isXci).answering _ fun _ => rfl
  -- a version or none, and neither is a statistic
  | firmwareVersion =>
    refine m.firmwareVersion.answering _ fun version => ?_
    cases version <;> rfl
  | rendererInfo =>
    refine ⟨m, ?_⟩
    have info : w.graphics.info = v.graphics.info := by rw [m.graphics]; rfl
    simp only [World.perform, info]
    cases v.graphics.info <;> rfl
  -- what is looked at may be the statistics, which the answer is translated for
  | phase | geometry | configurations | counters | figures =>
    refine ⟨m, ?_⟩
    simp only [World.perform, m.graphics]
    rfl
  | config => exact ⟨m, by rw [World.perform, World.perform, m.sameConfig]; rfl⟩
  | deviceState => exact ⟨m, by rw [World.perform, World.perform, m.device]; rfl⟩

end Mirrors

/-! ## Loops -/

/-- Whether loops keep sessions side by side: the calls in the middle of a frame do, and the frames
are counted alike. -/
structure Carries (T : Translation κ ι) (i : Interpreter κ) (j : Interpreter ι) : Prop where
  calls : ∀ (v : World κ) (w : World ι) (call : κ), T.Mirrors v w →
    T.Mirrors (v.callDuringFrame i call) (w.callsDuringFrame j (T.calls call))
  statistics : ∀ s, T.statistics s = s

namespace Mirrors

variable {i : Interpreter κ} {j : Interpreter ι} (carries : T.Carries i j)

include carries

/-- All calls of the host at one point of a frame. -/
theorem callsDuringFrame (m : T.Mirrors v w) (calls : List κ) :
    T.Mirrors (v.callsDuringFrame i calls) (w.callsDuringFrame j (calls.flatMap T.calls)) := by
  -- on the calls, each of which may stand for several calls on the other side
  induction calls generalizing v w with
  | nil => exact m
  | cons call calls ih =>
    have rest := ih (carries.calls v w call m)
    rw [List.flatMap_cons]
    simp only [World.callsDuringFrame, List.foldl_append, List.foldl_cons] at rest ⊢
    exact rest

/-- What the renderer is told, up to the first crash over it. -/
theorem tell (m : T.Mirrors v w) (pushes : List (Push κ)) :
    T.Parallel (v.tell i pushes) (w.tell j (pushes.map T.push)) := by
  -- on what is told: a crash over it keeps the rest from being told on both sides
  induction pushes generalizing v w with
  | nil => exact ⟨m, rfl⟩
  | cons push pushes ih =>
    have called := (m.record push.event).callsDuringFrame carries push.calls
    have crash : (T.push push).crash = push.crash := rfl
    rw [List.map_cons, World.tell, World.tell, crash]
    split
    · exact ⟨called, rfl⟩
    · exact ih called

/-- The count of a frame that is over. -/
theorem countFrame (m : T.Mirrors v w) (timing : FrameTiming) (wasPresented : Bool) :
    T.Mirrors (v.countFrame timing wasPresented) (w.countFrame timing wasPresented) :=
  m.withGraphics (by simp only [m.graphics, Translation.graphics, carries.statistics])

/-- The callback of a frame. -/
theorem swapFrame (m : T.Mirrors v w) (callback : Option SwapCallback) (frame : Frame κ) :
    T.Parallel (v.swapFrame i callback frame) (w.swapFrame j callback (T.frame frame)) := by
  cases callback with
  | none => exact ⟨m.countFrame carries _ _, rfl⟩
  | some id =>
    have called := (m.record (.swap id)).callsDuringFrame carries frame.swapCalls
    have crash : (T.frame frame).swapCrash = frame.swapCrash := rfl
    simp only [World.swapFrame, crash]
    -- a callback that crashes leaves the frame uncounted
    split
    · exact ⟨called, rfl⟩
    · exact ⟨called.countFrame carries _ _, rfl⟩

/-- The presentation of a frame, and its callback. -/
theorem presentFrame (m : T.Mirrors v w) (callback : Option SwapCallback) (frame : Frame κ) :
    T.Parallel (v.presentFrame i callback frame) (w.presentFrame j callback (T.frame frame)) := by
  have called := (m.record .present).callsDuringFrame carries frame.presentCalls
  have fault : (T.frame frame).presentFault = frame.presentFault := rfl
  simp only [World.presentFrame, fault]
  split
  · exact ⟨called, rfl⟩
  · exact called.swapFrame carries callback frame

/-- The submission of a frame, and what comes of it. -/
theorem submitFrame (m : T.Mirrors v w) (config : GraphicsConfig) (index : Nat)
    (start : FrameStart) (frame : Frame κ) :
    T.Parallel (v.submitFrame i config index start frame)
      (w.submitFrame j config index start (T.frame frame)) := by
  have called := (m.record (.submit ⟨index, start.geometry, config, v.router.published⟩))
    |>.callsDuringFrame carries frame.calls
  have submitted : (T.frame frame).submitted = frame.submitted := rfl
  simp only [World.submitFrame, submitted, m.router]
  split
  · exact ⟨called, rfl⟩
  · exact ⟨called.countFrame carries _ _, rfl⟩
  · exact called.presentFrame carries _ frame

/-- A whole frame. -/
theorem runFrame (m : T.Mirrors v w) (config : GraphicsConfig) (index : Nat) (frame : Frame κ) :
    T.Parallel (v.runFrame i config index frame) (w.runFrame j config index (T.frame frame)) := by
  have surface : w.graphics.surface = v.graphics.surface := by rw [m.graphics]; rfl
  -- the start of the frame changes the surface only
  simp only [World.runFrame, surface]
  generalize v.graphics.surface.beginFrame = begun
  obtain ⟨surface, start⟩ := begun
  have begun := m.withGraphics (g := { v.graphics with surface })
    (h := { w.graphics with surface }) (by rw [m.graphics]; rfl)
  have told := begun.tell carries (frame.pushes start)
  rw [← T.pushes_eq] at told
  generalize World.tell i _ _ = one at told ⊢
  generalize World.tell j _ _ = other at told ⊢
  obtain ⟨v, _ | c⟩ := one <;> obtain ⟨w, _⟩ := other <;> obtain ⟨m, ⟨⟩⟩ := told
  · exact m.submitFrame carries config index start frame
  · exact ⟨m, rfl⟩

/-- What the end of a frame means for the loop. -/
theorem afterFrame (m : T.Mirrors v w) (index : Nat) (frameEnd : FrameEnd) :
    T.Parallel (v.afterFrame index frameEnd) (w.afterFrame index frameEnd) := by
  -- the ways in which a frame ends: it is done, it failed, the backend is lost, or it crashed
  obtain _ | _ | _ | _ := frameEnd
  · exact ⟨m, rfl⟩
  · have counted : T.Mirrors v.countError w.countError :=
      m.withGraphics (by simp only [m.graphics, Translation.graphics, carries.statistics])
    exact ⟨counted.log _, rfl⟩
  · exact ⟨m.log _, rfl⟩
  · exact ⟨m, rfl⟩

omit carries in
/-- A stop that is taken up. -/
theorem takeStop (m : T.Mirrors v w) (index : Nat) :
    T.Mirrors (v.takeStop index) (w.takeStop index) :=
  (m.withGraphics (by rw [m.graphics]; rfl)).log _

/-- A frame of a loop up to its end. -/
theorem finish (m : T.Mirrors v w) (config : GraphicsConfig) (index : Nat) (frame : Frame κ) :
    T.Parallel (FrameRun.finish ⟨index, frame, v⟩ i config)
      (FrameRun.finish ⟨index, T.frame frame, w⟩ j config) := by
  obtain ⟨ran, how⟩ := m.runFrame carries config index frame
  simp only [FrameRun.finish, how]
  exact ran.afterFrame carries index _

/-- Frames keep two sessions side by side, and their loops end the same way. -/
theorem runFrames (m : T.Mirrors v w) (config : GraphicsConfig) (index : Nat)
    (frames : List (Frame κ)) :
    T.Parallel (World.runFrames i config index frames v)
      (World.runFrames j config index (frames.map T.frame) w) := by
  induction frames generalizing index v w with
  | nil =>
    -- the flag is the same, so both stop here or neither does
    rw [List.map_nil, World.runFrames_nil, World.runFrames_nil, m.stopRequested]
    split
    · exact ⟨m.takeStop index, rfl⟩
    · have ended := m.finish carries config index .exhausted
      exact ⟨ended.mirrors, congrArg (fun how : Option LoopEnd => how.getD .stopped) ended.result⟩
  | cons frame frames ih =>
    rw [List.map_cons, World.runFrames_cons, World.runFrames_cons, m.stopRequested]
    split
    · exact ⟨m.takeStop index, rfl⟩
    · have ended := m.finish carries config index frame
      generalize FrameRun.finish ⟨index, frame, v⟩ i config = one at ended ⊢
      generalize FrameRun.finish ⟨index, T.frame frame, w⟩ j config = other at ended ⊢
      obtain ⟨v, _ | loopEnd⟩ := one <;> obtain ⟨w, _⟩ := other <;> obtain ⟨m, ⟨⟩⟩ := ended
      · exact ih m (index + 1)
      · exact ⟨m, rfl⟩

/-- The frames of a renderer, unless it crashes before the first. -/
theorem runRenderer (m : T.Mirrors v w) (config : GraphicsConfig) (renderer : Renderer κ) :
    T.Parallel (World.runRenderer i config renderer v)
      (World.runRenderer j config (T.renderer renderer) w) := by
  have crash : (T.renderer renderer).backendCrash = renderer.backendCrash := rfl
  simp only [World.runRenderer, crash]
  split
  · exact ⟨m, rfl⟩
  · exact m.runFrames carries config 0 renderer.frames

/-- The start of a loop. -/
theorem enterLoop (m : T.Mirrors v w) (renderer : Renderer κ) :
    T.Mirrors (v.enterLoop renderer) (w.enterLoop (T.renderer renderer)) := by
  have callback : w.graphics.surface.callback = v.graphics.surface.callback := by
    rw [m.graphics]
    rfl
  simp only [World.enterLoop, callback]
  refine (m.withGraphics ?_).log _
  simp only [m.graphics, Translation.graphics, carries.statistics, Option.map_none]

omit carries in
/-- The end of a loop. -/
theorem leaveLoop (m : T.Mirrors v w) : T.Mirrors v.leaveLoop w.leaveLoop :=
  (m.withGraphics (by rw [m.graphics]; rfl)).record .rendererDropped

/-- A loop keeps two sessions side by side, if the calls in the middle of its frames do. -/
theorem runLoop (m : T.Mirrors v w) : T.Parallel (v.runLoop i) (w.runLoop j) := by
  have phase := m.phase
  have effective : w.graphics.effective = v.graphics.effective := by rw [m.graphics]; rfl
  have renderer : w.graphics.renderer = v.graphics.renderer.map T.renderer := by
    rw [m.graphics]; rfl
  by_cases accepted : ∃ renderer config, v.graphics.phase = .rendererReady ∧
      v.graphics.renderer = some renderer ∧ v.graphics.effective = some config
  · obtain ⟨own, config, ready, held, limited⟩ := accepted
    rw [ready] at phase
    rw [held] at renderer
    rw [limited] at effective
    have ran := (m.enterLoop carries own).runRenderer carries config own
    simp only [World.runLoop, phase, renderer, effective, ready, held, limited, Option.map_some]
    exact ⟨ran.mirrors.leaveLoop, congrArg LoopEnd.result ran.result⟩
  · rw [v.runLoop_refused i accepted, w.runLoop_refused j ?_]
    · exact m.refuse .runLoop
    · -- what the other session has to run is a translation of what this one has
      rintro ⟨own, config, ready, held, limited⟩
      rw [renderer] at held
      obtain ⟨before, was, -⟩ := Option.map_eq_some_iff.mp held
      exact accepted ⟨before, config, phase.symm.trans ready, was, effective.symm.trans limited⟩

end Mirrors

end Translation

end EmuHost
