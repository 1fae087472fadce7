import EmuHost.Proofs.Bootstrap
import EmuHost.Proofs.EntryArguments
import EmuHost.Proofs.SessionHistory
import EmuHost.Proofs.SessionTranslation

/-!
# Entry functions and the session behind them

A process keeps one session, and its entry functions are calls to it. This file puts a second
session beside the process, one whose host makes these calls itself
(`EmbeddingCall.sessionCalls`), between loops and in the middle of frames. The two stay side by side
for ever: whatever the host passes and whatever the core replies, they call the core, its renderer
and the callback alike, and the host of the process is shown what the session answered.

## Key results

- `EntryFunction.perform_comesTo`: one entry function beside the call that it stands for
- `sessionTranslation_carries`: entry functions in the middle of a frame
- `Embedding.simulates_session`: all calls to a process, before and after its session is opened
-/

namespace EmuHost

/-! ## The calls to the session -/

mutual

/-- The calls to its session that a call to a process stands for. -/
def EmbeddingCall.sessionCalls (config : HostConfig) : EmbeddingCall → List SessionCall
  | .entry f =>
    match f.convert config with
    | .call c => [.host f.name c]
    | .refused _ => []
  | .script change => [.script (ScriptChange.forSession config change)]
  | .boot _ | .registerCore | .defaultBasePath | .startLog _ | .state => []

/-- The change of a script with the frames that a session is given. -/
def ScriptChange.forSession (config : HostConfig) :
    ScriptChange EmbeddingCall → ScriptChange SessionCall
  | ⟨rendererReply, deviceReply, reloadReply, loadReply, firmwareReply, prefersThreading,
      anisotropyCeiling, plainRenderer, ceilingCrash, threadingCrash, backendCrash, disposalCrash,
      firmware, versionCrash, installs, probes, frames⟩ =>
    ⟨rendererReply, deviceReply, reloadReply, loadReply, firmwareReply, prefersThreading,
      anisotropyCeiling, plainRenderer, ceilingCrash, threadingCrash, backendCrash, disposalCrash,
      firmware, versionCrash, installs, probes, EmbeddingCall.newFrames config frames⟩

/-- The new frames of a script, if it is given any. -/
def EmbeddingCall.newFrames (config : HostConfig) :
    Option (List (Frame EmbeddingCall)) → Option (List (Frame SessionCall))
  | none => none
  | some frames => some (EmbeddingCall.sessionFrames config frames)

/-- Frames with the calls to the session in them. -/
def EmbeddingCall.sessionFrames (config : HostConfig) :
    List (Frame EmbeddingCall) → List (Frame SessionCall)
  | [] => []
  | frame :: frames =>
    EmbeddingCall.sessionFrame config frame :: EmbeddingCall.sessionFrames config frames

/-- One frame with the calls to the session in it. -/
def EmbeddingCall.sessionFrame (config : HostConfig) : Frame EmbeddingCall → Frame SessionCall
  | ⟨resizeCalls, resizeCrash, vsyncCalls, vsyncCrash, calls, submitted, presentCalls, presentFault,
      swapCalls, swapCrash, timing⟩ =>
    ⟨EmbeddingCall.allCalls config resizeCalls, resizeCrash,
      EmbeddingCall.allCalls config vsyncCalls, vsyncCrash, EmbeddingCall.allCalls config calls,
      submitted, EmbeddingCall.allCalls config presentCalls, presentFault,
      EmbeddingCall.allCalls config swapCalls, swapCrash, timing⟩

/-- The calls to the session that several calls to a process stand for. -/
def EmbeddingCall.allCalls (config : HostConfig) : List EmbeddingCall → List SessionCall
  | [] => []
  | call :: calls => call.sessionCalls config ++ EmbeddingCall.allCalls config calls

end

/-! ## What is noted beside the session -/

/-- What only the process notes: the lines of its log on calls that show as a failure, calls in the
middle of a frame that its session does not hear of, and the end of a core that was registered too
late. -/
inductive Entry.Aside (config : HostConfig) : Entry → Prop where
  | line (l : LogLine) : Aside config (.log l)
  | unheard {call : EmbeddingCall} {shown : Answer} (none : call.sessionCalls config = [])
      (fallback : ∀ f, call = .entry f → shown = f.fallback) :
      Aside config (.event (.answered call.name shown))
  | dropped : Aside config (.event .coreDropped)

/-- A process and its session note the same but for the answers to the host: the process notes what
the host is shown, and has lines of its own on that. -/
inductive NotedAlike (config : HostConfig) : Journal → Journal → Prop where
  | start (journal : Journal) : NotedAlike config journal journal
  | both {told noted : Journal} (entry : Entry) (alike : NotedAlike config told noted) :
      NotedAlike config (told ++ [entry]) (noted ++ [entry])
  | shown {told noted : Journal} {f : EntryFunction} {c : HostCall} (asks : f.Asks config c)
      {answer shown : Answer} (shows : f.returns.Shows answer shown)
      (alike : NotedAlike config told noted) :
      NotedAlike config (told ++ [.event (.answered f.name shown)])
        (noted ++ [.event (.answered f.name answer)])
  | aside {told noted : Journal} {entry : Entry} (aside : entry.Aside config)
      (alike : NotedAlike config told noted) : NotedAlike config (told ++ [entry]) noted

/-- Whether a call goes to the core, its renderer or the callback. -/
def Event.isCallOut : Event → Bool
  | .answered .. | .coreDropped => false
  | _ => true

/-- The calls to the core, its renderer and the callback in a journal. -/
def Journal.callsOut (j : Journal) : List Event := j.events.filter Event.isCallOut

/-- The calls out are those of the parts of a journal. -/
theorem Journal.callsOut_append (j k : Journal) : callsOut (j ++ k) = j.callsOut ++ k.callsOut := by
  rw [callsOut, events_append, List.filter_append]
  rfl

/-- Process and session call the core, its renderer and the callback alike. -/
theorem NotedAlike.callsOut {config : HostConfig} {told noted : Journal}
    (alike : NotedAlike config told noted) : told.callsOut = noted.callsOut := by
  -- on how the two journals have come about: what the process notes alone is no call out
  induction alike with
  | start => rfl
  | both e _ ih => rw [Journal.callsOut_append, Journal.callsOut_append, ih]
  | shown asks shows _ ih =>
    rw [Journal.callsOut_append, Journal.callsOut_append, ih]
    rfl
  | aside aside _ ih =>
    rw [Journal.callsOut_append, ih]
    cases aside <;> exact List.append_nil _

/-- Lines in the log of the process alone. -/
theorem NotedAlike.lines {config : HostConfig} {told noted : Journal}
    (alike : NotedAlike config told noted) (lines : List LogLine) :
    NotedAlike config (told ++ lines.map .log) noted := by
  induction lines generalizing told with
  | nil =>
    rw [List.map_nil, List.append_nil]
    exact alike
  | cons line lines ih =>
    have rest := ih (.aside (.line line) alike)
    rw [List.append_assoc] at rest
    exact rest

/-- A session beside a process. -/
def sessionTranslation (config : HostConfig) : Translation EmbeddingCall SessionCall where
  config := config
  calls := EmbeddingCall.sessionCalls config
  statistics s := s
  Trusts := Router.HandlesPositive
  Alike := NotedAlike config
  both := NotedAlike.both
  input call positive := positive.perform call
  aspect _ positive := ⟨positive.held, positive.next⟩

section Translation

variable (config : HostConfig)

/-- The calls in a frame are put one after the other. -/
theorem allCalls_eq (calls : List EmbeddingCall) :
    EmbeddingCall.allCalls config calls = calls.flatMap (EmbeddingCall.sessionCalls config) := by
  induction calls with
  | nil => rfl
  | cons call calls ih => rw [EmbeddingCall.allCalls, ih, List.flatMap_cons]

/-- Frames are put one by one. -/
theorem sessionFrames_eq (frames : List (Frame EmbeddingCall)) :
    EmbeddingCall.sessionFrames config frames = frames.map (sessionTranslation config).frame := by
  induction frames with
  | nil => rfl
  | cons frame frames ih =>
    rw [EmbeddingCall.sessionFrames, ih, List.map_cons, EmbeddingCall.sessionFrame]
    simp only [allCalls_eq]
    rfl

/-- To change the script and to put it for the session is the same in either order. -/
theorem change_eq (s : CoreScript EmbeddingCall) (change : ScriptChange EmbeddingCall) :
    ((sessionTranslation config).core s).change (ScriptChange.forSession config change) =
      (sessionTranslation config).core (s.change change) := by
  -- only new frames have calls of the host in them, and with them something to put
  obtain ⟨_, _, _, _, _, _, _, _, _, _, _, _, _, _, _, _, frames⟩ := change
  rw [ScriptChange.forSession]
  cases frames with
  | none => rfl
  | some frames =>
    rw [EmbeddingCall.newFrames, sessionFrames_eq]
    rfl

/-- The session answers what the process is answered. -/
theorem sessionTranslation_answer (answer : Answer) :
    (sessionTranslation config).answer answer = answer := by
  cases answer <;> rfl

end Translation

/-! ## Side by side -/

section Mirrors

variable {config : HostConfig} {v : World EmbeddingCall} {w : World SessionCall}

/-- An entry function stands for the call that it asks for. -/
theorem EntryFunction.sessionCalls_of_asks {f : EntryFunction} {c : HostCall}
    (asks : f.Asks config c) : (EmbeddingCall.entry f).sessionCalls config = [.host f.name c] := by
  rw [EmbeddingCall.sessionCalls, convert_iff.mpr asks]

/-- If it asks for none, it stands for none. -/
theorem EntryFunction.sessionCalls_of_unasked {f : EntryFunction}
    (unasked : ∀ c, ¬f.Asks config c) : (EmbeddingCall.entry f).sessionCalls config = [] := by
  obtain ⟨line, refused⟩ := convert_refused unasked
  rw [EmbeddingCall.sessionCalls, refused]

/-- What an entry function comes to beside a session, given how the session responds to calls. -/
inductive EntryFunction.ComesTo (f : EntryFunction) (v : World EmbeddingCall)
    (respond : HostCall → World SessionCall × Answer) (outcome : World EmbeddingCall × Answer) :
    Prop where
  /-- It is one call to the session, and its answer is what the host is shown. An error and a crash
  get a line in the log, and that is all that is added to what the session does. -/
  | call {c : HostCall} (asks : f.Asks v.config c) {u : World EmbeddingCall}
      (mirrors : (sessionTranslation v.config).Mirrors u (respond c).1)
      (reported : outcome.1 = u.log (f.report (respond c).2))
      (shows : f.returns.Shows (respond c).2 outcome.2)
  /-- It is no call: nothing is touched, and nothing is to show. -/
  | none (unasked : ∀ c, ¬f.Asks v.config c) {line : LogLine}
      (untouched : outcome = (v.log [line], f.fallback))

/-- Lines in the log of the process are no concern of the session. -/
theorem log_mirrors (m : (sessionTranslation config).Mirrors v w) (lines : List LogLine) :
    (sessionTranslation config).Mirrors (v.log lines) w :=
  m.note (m.noted.lines lines)

/-- One entry function beside the call that it stands for. -/
theorem EntryFunction.perform_comesTo (f : EntryFunction)
    (m : (sessionTranslation v.config).Mirrors v w) {loop : World.Loop EmbeddingCall}
    {other : World.Loop SessionCall}
    (loops : (sessionTranslation v.config).Parallel (loop v) (other w)) :
    f.ComesTo v (w.perform other) (f.perform loop v) := by
  rw [perform]
  -- the session hears of a call only if its arguments were accepted
  cases converted : f.convert v.config with
  | call c =>
    have asks := convert_iff.mp converted
    obtain ⟨mirrors, same⟩ := m.perform fun (_ : c = .runLoop) => loops
    rw [sessionTranslation_answer] at same
    refine .call asks mirrors (by rw [same]) ?_
    rw [same]
    exact shows asks loop m.trusted
  | refused line =>
    refine .none (fun c asks => ?_) rfl
    rw [convert_iff.mpr asks] at converted
    cases converted

/-- What the session does not hear of is noted by the process alone. -/
theorem unheard_mirrors (call : EmbeddingCall) (m : (sessionTranslation config).Mirrors v w)
    {shown : Answer} (none : call.sessionCalls config = [])
    (fallback : ∀ f, call = .entry f → shown = f.fallback) :
    (sessionTranslation config).Mirrors (v.record (.answered call.name shown)) w :=
  m.note (.aside (.unheard none fallback) m.noted)

/-- A core that is registered too late is the end of that core, and of nothing else. -/
theorem registerCore_mirrors (m : (sessionTranslation config).Mirrors v w) (line : LogLine) :
    (sessionTranslation config).Mirrors ((v.log [line]).record .coreDropped) w :=
  (log_mirrors m [line]).note (.aside .dropped (log_mirrors m [line]).noted)

/-- A new script is put for the session. -/
theorem script_mirrors (m : (sessionTranslation config).Mirrors v w)
    (change : ScriptChange EmbeddingCall) :
    (sessionTranslation config).Mirrors { v with core := v.core.change change }
      { w with core := w.core.change (ScriptChange.forSession config change) } :=
  m.withCore (by rw [m.core, change_eq])

/-- An entry function in the middle of a frame keeps process and session side by side. -/
theorem entry_callDuringFrame (f : EntryFunction)
    (m : (sessionTranslation v.config).Mirrors v w) :
    (sessionTranslation v.config).Mirrors (v.callDuringFrame EmbeddingCall.duringFrame (.entry f))
      (w.callsDuringFrame SessionCall.duringFrame
        ((EmbeddingCall.entry f).sessionCalls v.config)) := by
  -- a loop is running, so another one is refused on both sides
  have loops : (sessionTranslation v.config).Parallel (World.refuseLoop v)
      (World.refuseLoop w) := m.refuse .runLoop
  have noted : v.callDuringFrame EmbeddingCall.duringFrame (.entry f) =
      (f.perform World.refuseLoop v).1.record
        (.answered f.name (f.perform World.refuseLoop v).2) := rfl
  rw [noted]
  cases f.perform_comesTo m loops with
  | @call c asks u mirrors reported shows =>
    rw [f.sessionCalls_of_asks asks, reported]
    -- the process notes what the host is shown, the session what it has answered
    have logged := log_mirrors mirrors (f.report (w.perform World.refuseLoop c).2)
    exact logged.note (.shown asks shows logged.noted)
  | @none unasked line untouched =>
    have calls := f.sessionCalls_of_unasked unasked
    rw [untouched, calls]
    refine unheard_mirrors (.entry f) (log_mirrors m [line]) calls ?_
    rintro _ ⟨⟩
    rfl

/-- All calls in the middle of a frame keep process and session side by side. -/
theorem sessionTranslation_carries (config : HostConfig) :
    (sessionTranslation config).Carries EmbeddingCall.duringFrame SessionCall.duringFrame where
  calls v w call m := by
    obtain rfl : v.config = config := m.config
    -- the other functions of the process never reach the session
    cases call with
    | entry f => exact entry_callDuringFrame f m
    | script change => exact (script_mirrors m change).record _
    | boot path => exact unheard_mirrors (.boot path) (log_mirrors m _) rfl fun _ is => nomatch is
    | registerCore =>
      exact unheard_mirrors .registerCore (registerCore_mirrors m _) rfl fun _ is => nomatch is
    | defaultBasePath => exact unheard_mirrors .defaultBasePath m rfl fun _ is => nomatch is
    | startLog filter => exact unheard_mirrors (.startLog filter) m rfl fun _ is => nomatch is
    | state => exact unheard_mirrors .state m rfl fun _ is => nomatch is
  statistics _ := rfl

/-- Between loops an entry function comes to one call of the session, or to none. -/
theorem EntryFunction.perform_between (f : EntryFunction)
    (m : (sessionTranslation v.config).Mirrors v w) :
    f.ComesTo v (fun c => SessionCall.perform w (.host f.name c))
      (f.perform (World.runLoop EmbeddingCall.duringFrame) v) :=
  f.perform_comesTo m (m.runLoop (sessionTranslation_carries v.config))

/-- A call to a process with a session, between loops. -/
theorem performWith_mirrors (m : (sessionTranslation config).Mirrors v w) (call : EmbeddingCall) :
    (sessionTranslation config).Mirrors
      (call.performWith (World.runLoop EmbeddingCall.duringFrame) v).1
      (SessionCall.after w (call.sessionCalls config)) := by
  obtain rfl : v.config = config := m.config
  cases call with
  | entry f =>
    rw [EmbeddingCall.performWith]
    cases f.perform_between m with
    | call asks mirrors reported shows =>
      rw [f.sessionCalls_of_asks asks, reported]
      exact log_mirrors mirrors _
    | none unasked untouched =>
      rw [f.sessionCalls_of_unasked unasked, untouched]
      exact log_mirrors m _
  | script change => exact script_mirrors m change
  | boot path => exact log_mirrors m _
  | registerCore => exact registerCore_mirrors m _
  | defaultBasePath | startLog filter | state => exact m

end Mirrors

/-! ## Processes -/

/-- What is there before a process has a session, for a session beside it. -/
def Surroundings.forSession (s : Surroundings EmbeddingCall) (config : HostConfig) :
    Surroundings SessionCall where
  core := (sessionTranslation config).core s.core
  files := s.files
  home := s.home
  journal := s.journal

/-- Whether a process does what a session does, and nothing else. -/
structure World.Simulates (v : World EmbeddingCall) (w : World SessionCall) : Prop where
  mirrors : (sessionTranslation v.config).Mirrors v w
  /-- The core, its renderer and the callback are called alike. -/
  callsOut : v.journal.callsOut = w.journal.callsOut
  /-- An entry function is a call to the session, whose answer it shows, or it does nothing. -/
  functions (f : EntryFunction) : f.ComesTo v (fun c => SessionCall.perform w (.host f.name c))
    (f.perform (World.runLoop EmbeddingCall.duringFrame) v)
  /-- With a negative index nothing is reached. -/
  unreached (f : EntryFunction) {index : Int} (named : f.index? = some index)
    (negative : index < 0) (loop : World.Loop EmbeddingCall) :
    ∃ lines, f.perform loop v = (v.log lines, f.fallback)

/-- What goes beside a session does what the session does. -/
theorem World.Simulates.of_mirrors {config : HostConfig} {v : World EmbeddingCall}
    {w : World SessionCall} (m : (sessionTranslation config).Mirrors v w) : v.Simulates w := by
  obtain rfl : v.config = config := m.config
  exact {
    mirrors := m
    callsOut := m.noted.callsOut
    functions := fun f => f.perform_between m
    unreached := fun f _ named negative loop => f.perform_of_negative named negative loop v }

/-- A new session beside the one that a boot has opened. -/
theorem ofConfig_mirrors {s : Surroundings EmbeddingCall} {lines : List LogLine} {c : HostConfig}
    {v : World EmbeddingCall} (opens : World.ofConfig (s.log lines) c = .ok v) :
    ∃ w, World.ofConfig (s.forSession c) c = .ok w ∧ (sessionTranslation c).Mirrors v w := by
  rw [World.ofConfig] at opens ⊢
  -- whether a session opens is up to its configuration, which is the same
  cases valid : Router.ofMaxControllers c.maxControllers with
  | error e =>
    rw [valid] at opens
    cases opens
  | ok router =>
    rw [valid] at opens
    cases opens
    have unlogged : (sessionTranslation c).Mirrors
        ({ s with config := c, router } : World EmbeddingCall)
        ({ s.forSession c with config := c, router } : World SessionCall) := {
      core := rfl
      files := rfl
      home := rfl
      config := rfl
      sameConfig := rfl
      graphics := rfl
      router := rfl
      device := rfl
      noted := .start _
      trusted := Router.handlesPositive_fresh _ valid }
    exact ⟨_, rfl, log_mirrors unlogged lines⟩

namespace Embedding

/-- Process and session go side by side through all calls. -/
theorem after_mirrors {config : HostConfig} {v : World EmbeddingCall} {w : World SessionCall}
    (m : (sessionTranslation config).Mirrors v w) (calls : List EmbeddingCall) :
    ∃ u, (booted v).after calls = .booted u ∧ (sessionTranslation config).Mirrors u
      (SessionCall.after w (calls.flatMap (·.sessionCalls config))) := by
  induction calls generalizing v w with
  | nil => exact ⟨v, rfl, m⟩
  | cons call calls ih =>
    -- one call of the process is a stretch of calls of the session, of one call or none
    obtain ⟨u, came, mirrors⟩ := ih (performWith_mirrors m call)
    refine ⟨u, came, ?_⟩
    rw [List.flatMap_cons, SessionCall.after_append]
    exact mirrors

/-- A process does nothing before its session is opened, and then what a session does whose host
makes the calls itself. -/
theorem simulates_session (s : Surroundings EmbeddingCall) (isRegistered : Bool)
    (calls : List EmbeddingCall) (fail : (waiting s isRegistered).BootsFail calls) :
    ∃ t still, (waiting s isRegistered).after calls = .waiting t still ∧
      (∀ f : EntryFunction, ∃ line,
        (waiting t still).perform (.entry f) = (.waiting (t.log [line]) still, f.fallback)) ∧
      ∀ path, ((waiting t still).perform (.boot path)).2 = .flag true →
        ∃ c w, t.configFor? path = some c ∧ World.ofConfig (t.forSession c) c = .ok w ∧
          ∀ later, ∃ v, ((waiting t still).perform (.boot path)).1.after later = .booted v ∧
            v.config = c ∧
              v.Simulates (SessionCall.after w (later.flatMap (·.sessionCalls c))) := by
  obtain ⟨t, still, came, -⟩ := after_failed_boots s isRegistered calls fail
  refine ⟨t, still, came, fun f => ⟨_, rfl⟩, fun path succeeds => ?_⟩
  have ends := boot_ends t still path
  simp only [perform, performWaiting] at succeeds ⊢
  generalize boot t still path = outcome at ends succeeds ⊢
  cases ends with
  | refused => cases succeeds
  | lost => cases succeeds
  | @opened registered c found fits before after v opens =>
    obtain ⟨w, beside, mirrors⟩ := ofConfig_mirrors opens
    refine ⟨c, w, found, beside, fun later => ?_⟩
    obtain ⟨u, came, mirrors⟩ := after_mirrors (log_mirrors mirrors after) later
    exact ⟨u, came, mirrors.config, .of_mirrors mirrors⟩

/-- A core that has no files to scan, and that crashes over its version. -/
def troubled : ScriptChange EmbeddingCall where
  reloadReply := some (.failure ["offline"])
  versionCrash := some (some ⟨some "boom"⟩)

/-- Functions of which none goes well with that core: one for a backend that there is not, one that
fails and one over which the core crashes. -/
def luckless : List EntryFunction :=
  [.initializeRenderer 7 {}, .reloadFiles, .firmwareVersion]

/-- An entry function too early, a boot, and functions that do not go well. The session hears of all
but the one with the unknown backend. It answers with an error and with a crash, and the host is
shown the fallback each time. -/
theorem simulates_session_troubled :
    (waiting { home := some "/home" } true).BootsFail [.entry .update] ∧
      ∃ (w : World SessionCall) (v : World EmbeddingCall),
        (waiting { home := some "/home" } true).after
          (.entry .update :: .boot none :: .script troubled :: luckless.map .entry) = .booted v ∧
        let u := SessionCall.after w
          [.script (troubled.forSession {}), .host "device_reloadFilesystem" .reloadFiles,
            .host "device_get_installed_firmware_version" .firmwareVersion]
        v.Simulates u ∧
          (SessionCall.perform u (.host "device_reloadFilesystem" .reloadFiles)).2 =
            .failed (.error (.device (.core ["offline"]))) ∧
          (SessionCall.perform u
            (.host "device_get_installed_firmware_version" .firmwareVersion)).2 =
            .failed (.crash ⟨some "boom"⟩) ∧
          ∀ f ∈ luckless,
            (f.perform (World.runLoop EmbeddingCall.duringFrame) v).2 = f.fallback := by
  have fail : (waiting { home := some "/home" } true).BootsFail [.entry .update] :=
    ⟨fun _ is => (nomatch is), trivial⟩
  obtain ⟨t, still, came, -, opens⟩ := simulates_session { home := some "/home" } true _ fail
  cases came
  obtain ⟨c, w, found, opened, beside⟩ := opens none rfl
  cases found
  cases opened
  obtain ⟨v, after, -, simulates⟩ := beside (.script troubled :: luckless.map .entry)
  cases after
  refine ⟨fail, _, _, rfl, simulates, rfl, rfl, fun f mem => ?_⟩
  simp only [luckless, List.mem_cons, List.not_mem_nil, or_false] at mem
  obtain rfl | rfl | rfl := mem <;> rfl

end Embedding

end EmuHost
