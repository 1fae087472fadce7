import EmuHost.Entry.Function
import EmuHost.Settings.File

/-!
# Embeddings

The life of the library in one process, which has at most one session. The embedding program
registers a core, the host boots the session around it, and from then on the entry functions drive
it; before that they do nothing. A session that could not be opened takes the core with it.
-/

namespace EmuHost

/-- A call to the library in a process: an entry function, or one of those around the session. -/
inductive EmbeddingCall where
  /-- Opens the session with the configuration of a directory. -/
  | boot (basePath : Option HostString)
  | entry (f : EntryFunction)
  | registerCore
  | defaultBasePath
  /-- Starts the log, which the process has started before. -/
  | startLog (filter : String)
  | state
  | script (change : ScriptChange EmbeddingCall)

/-- A process before or after its session was opened. -/
inductive Embedding where
  | waiting (s : Surroundings EmbeddingCall) (isRegistered : Bool)
  | booted (w : World EmbeddingCall)

/-- The directory used where the host names none: one of its own in the data of the user. -/
def defaultBasePath (home : Option Path) : Option Path :=
  home.map fun home => (home.join ".local/share").join "emubridge"

/-- The directory that the host means. -/
def basePath (home : Option Path) : Option HostString → Except BootstrapError Path
  | some path =>
    match path.text? with
    | some path => .ok path
    | none => .error .basePathNotUtf8
  | none =>
    match defaultBasePath home with
    | some path => .ok path
    | none => .error .noHomeDirectory

namespace EmbeddingCall

/-- The name that a call during a frame is noted by. -/
def name : EmbeddingCall → String
  | .boot _ => "initialize"
  | .entry f => f.name
  | .registerCore => "register_core"
  | .defaultBasePath => "default_base_path"
  | .startLog _ => "logging_init"
  | .state => "state"
  | .script _ => "mock"

/-- The line on a session that could not be opened. -/
def bootFailure (e : SessionError) : LogLine := .error ("initialize failed: " ++ e.message)

/-- The answer with the default directory. -/
def defaultPathAnswer (home : Option Path) : Answer :=
  (EmuHost.defaultBasePath home).elim .nothing .text

/-- Performs a call of a process with a session, given how the loop is run. -/
def performWith (loop : World.Loop EmbeddingCall) (w : World EmbeddingCall) :
    EmbeddingCall → World EmbeddingCall × Answer
  | .boot _ =>
    -- the path is not even looked at
    (w.log [bootFailure (.device (.bootstrap .alreadyInitialized))], .flag false)
  | .entry f => f.perform loop w
  | .registerCore =>
    ((w.log [.warn "register_core ignored: bridge already initialized"]).record .coreDropped,
      .flag false)
  | .defaultBasePath => (w, defaultPathAnswer w.home)
  | .startLog _ => (w, .flag false)
  | .state => (w, .view w.view)
  | .script change => ({ w with core := w.core.change change }, .nothing)

/-- Calls during a frame. The loop is running then, so it is refused. -/
def duringFrame : Interpreter EmbeddingCall where
  name := name
  perform w call := performWith World.refuseLoop w call

end EmbeddingCall

namespace Embedding

open EmbeddingCall (bootFailure)

/-- A boot has failed. -/
def bootFailed (s : Surroundings EmbeddingCall) (isRegistered : Bool) (e : SessionError) :
    Embedding × Answer :=
  (.waiting (s.log [bootFailure e]) isRegistered, .flag false)

/-- The configuration of a directory, the defaults where it cannot be loaded, with a line on why. -/
def loadConfig (s : Surroundings EmbeddingCall) (dir : Path) : List LogLine × HostConfig :=
  match HostConfig.load s.files dir with
  | .ok config => ([], config)
  | .error e =>
    ([.warn ("Using default configuration: " ++ CauseChain.message e.chain)], {})

/-- Opens the session. -/
def boot (s : Surroundings EmbeddingCall) (isRegistered : Bool) (path : Option HostString) :
    Embedding × Answer :=
  match basePath s.home path with
  | .error e => bootFailed s isRegistered (.device (.bootstrap e))
  | .ok dir =>
    let (lines, config) := loadConfig s dir
    -- from here on the line on the configuration is in the log, whatever comes of the boot
    let s := s.log lines
    if !isRegistered then bootFailed s false (.device (.bootstrap .noCore))
    else match World.ofConfig s config with
      -- the core is gone with the session that was to have it
      | .error e => bootFailed (s.record .coreDropped) false e
      | .ok w => (.booted (w.log [.info ("Bridge initialized at " ++ dir)]), .flag true)

/-- Registers a core, in place of one that was registered before. -/
def registerCore (s : Surroundings EmbeddingCall) (isRegistered : Bool) : Embedding × Answer :=
  -- the core from before is dropped
  (.waiting (if isRegistered then s.record .coreDropped else s) true, .flag true)

/-- Performs a call of a process without a session. -/
def performWaiting (s : Surroundings EmbeddingCall) (isRegistered : Bool) :
    EmbeddingCall → Embedding × Answer
  | .boot path => boot s isRegistered path
  | .entry f =>
    (.waiting (s.log [.warn (f.name ++ " called before initialize")]) isRegistered, f.fallback)
  | .registerCore => registerCore s isRegistered
  | .defaultBasePath => (.waiting s isRegistered, EmbeddingCall.defaultPathAnswer s.home)
  | .startLog _ => (.waiting s isRegistered, .flag false)
  | .state => (.waiting s isRegistered, .nothing)
  | .script change => (.waiting { s with core := s.core.change change } isRegistered, .nothing)

/-- Performs a call. -/
def perform (p : Embedding) (call : EmbeddingCall) : Embedding × Answer :=
  match p with
  | .waiting s isRegistered => performWaiting s isRegistered call
  | .booted w =>
    let (w, answer) := call.performWith (World.runLoop EmbeddingCall.duringFrame) w
    (.booted w, answer)

/-- All that has happened. -/
def journal : Embedding → Journal
  | .waiting s _ => s.journal
  | .booted w => w.journal

/-- The phase of the session's graphics. -/
def phase? : Embedding → Option Phase
  | .waiting .. => none
  | .booted w => some w.graphics.phase

end Embedding

end EmuHost
