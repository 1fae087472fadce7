import EmuHost.Session.Journal

/-!
# Sessions and their surroundings

A session with all that it works on: the scripted core, the files, and the journal of what has
happened so far. Parts of a session answer with a `Reply`, which `World` puts in place and logs.
-/

namespace EmuHost

/-- What is there before any session: the core's script, the files, the home directory of the host,
and the journal. -/
structure Surroundings (κ : Type) where
  core : CoreScript κ := {}
  files : FileTree := {}
  home : Option Path := none
  journal : Journal := []

namespace Surroundings

variable {κ : Type}

/-- Notes a call out of the session. -/
def record (s : Surroundings κ) (e : Event) : Surroundings κ :=
  { s with journal := s.journal ++ [.event e] }

/-- Notes lines of the log. -/
def log (s : Surroundings κ) (lines : List LogLine) : Surroundings κ :=
  { s with journal := s.journal ++ lines.map .log }

end Surroundings

/-- The device context as far as the session keeps track of it. -/
structure DeviceState where
  /-- The options of the context, if there is one. -/
  options : Option DeviceOptions := none
  /-- The application loaded into it. -/
  loaded : Option Application := none
  deriving DecidableEq

/-- A session and its surroundings. -/
structure World (κ : Type) extends Surroundings κ where
  config : HostConfig
  graphics : Graphics κ := {}
  router : Router
  device : DeviceState := {}

namespace World

variable {κ : Type} {α : Type}

/-- Opens a session. The configuration has to ask for a number of controllers that the device
has. -/
def ofConfig (s : Surroundings κ) (config : HostConfig) : Except SessionError (World κ) :=
  match Router.ofMaxControllers config.maxControllers with
  | .error e => .error (.configuration e)
  | .ok router => .ok { s with config, router }

/-- Notes a call out of the session. -/
def record (w : World κ) (e : Event) : World κ :=
  { w with toSurroundings := w.toSurroundings.record e }

/-- Notes lines of the log. -/
def log (w : World κ) (lines : List LogLine) : World κ :=
  { w with toSurroundings := w.toSurroundings.log lines }

/-- The result of a part of the session as a result of the session. -/
def resultOf (r : Except SessionError α) : Except Failure α := r.mapError .error

/-- Puts in place what an operation on the graphics gives back. -/
def onGraphics (w : World κ) (operate : Graphics κ → Reply (Graphics κ) α) :
    World κ × Except Failure α :=
  let reply := operate w.graphics
  ({ w with graphics := reply.state }.log reply.log, resultOf reply.result)

/-- All that a host can look at. -/
def view (w : World κ) : SessionView where
  snapshot := w.router.published
  inputInitialized := w.router.isInitialized
  config := w.config
  geometry := w.graphics.surface.staged
  effective := w.graphics.effectiveConfig
  info := w.graphics.info
  statistics := w.graphics.statistics
  options := w.device.options
  loaded := w.device.loaded

end World

end EmuHost
