/-!
# Log lines

What a session reports while it works, each line at a level.
-/

namespace EmuHost

/-- How urgent a line is, the most urgent first. -/
inductive Level where
  | error
  | warn
  | info
  | debug
  | trace
  deriving DecidableEq, Repr

namespace Level

def name : Level → String
  | .error => "ERROR"
  | .warn => "WARN"
  | .info => "INFO"
  | .debug => "DEBUG"
  | .trace => "TRACE"

/-- The place in the order of urgency. -/
def rank : Level → Nat
  | .error => 0
  | .warn => 1
  | .info => 2
  | .debug => 3
  | .trace => 4

end Level

/-- One line of the log. -/
structure LogLine where
  level : Level
  text : String
  deriving DecidableEq, Repr

namespace LogLine

def error (text : String) : LogLine := ⟨.error, text⟩
def warn (text : String) : LogLine := ⟨.warn, text⟩
def info (text : String) : LogLine := ⟨.info, text⟩
def debug (text : String) : LogLine := ⟨.debug, text⟩
def trace (text : String) : LogLine := ⟨.trace, text⟩

/-- Whether a log at the level `limit` shows the line. -/
def isShownAt (limit : Level) (l : LogLine) : Bool := l.level.rank ≤ limit.rank

end LogLine

end EmuHost
