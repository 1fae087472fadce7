/-!
# Graphics phases

A session's graphics are brought up in stages: configured, given a renderer, run, and stopped. Each
operation on them is valid in some phases only.
-/

namespace EmuHost

/-- The stages of a session's graphics. -/
inductive Phase where
  | uninitialized
  | configured
  | rendererReady
  | running
  | stopped
  deriving DecidableEq, Repr

def Phase.name : Phase → String
  | .uninitialized => "uninitialized"
  | .configured => "configured"
  | .rendererReady => "renderer-initialized"
  | .running => "running"
  | .stopped => "stopped"

end EmuHost
