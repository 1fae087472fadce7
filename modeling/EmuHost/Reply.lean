import EmuHost.Error
import EmuHost.Log

/-!
# Replies

What an operation on one part of a session gives back: the new state of the part, a result or an
error, and the lines it logged.
-/

namespace EmuHost

/-- The outcome of an operation on a part `σ` of a session. -/
structure Reply (σ α : Type) where
  state : σ
  result : Except SessionError α
  log : List LogLine := []

namespace Reply

variable {σ α : Type}

/-- The operation is done. -/
def done (state : σ) (log : List LogLine) : Reply σ Unit := ⟨state, .ok (), log⟩

/-- The operation is refused and nothing changes. -/
def refused (state : σ) (e : SessionError) (log : List LogLine := []) : Reply σ α :=
  ⟨state, .error e, log⟩

end Reply

end EmuHost
