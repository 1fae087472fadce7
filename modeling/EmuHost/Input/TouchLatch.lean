/-!
# Touch latch

The single touch point between two publications. A press that is released before the next
publication is still published once, so that quick taps are not lost.
-/

namespace EmuHost

/-- The touch point of a host, at positions of type `α`. -/
structure TouchLatch (α : Type) where
  position : Option α := none
  held : Bool := false
  unpublished : Bool := false
  deriving DecidableEq

namespace TouchLatch

variable {α : Type}

/-- Touches, or moves the touch. -/
def press (_ : TouchLatch α) (position : α) : TouchLatch α := ⟨some position, true, true⟩

/-- Lets go. -/
def release (t : TouchLatch α) : TouchLatch α := { t with held := false }

/-- The position to publish, if the touch is held or was pressed since the last publication. -/
def current (t : TouchLatch α) : Option α := if t.held || t.unpublished then t.position else none

/-- The latch after its position was published. -/
def afterPublish (t : TouchLatch α) : TouchLatch α :=
  { t with unpublished := false, position := if t.held then t.position else none }

end TouchLatch

end EmuHost
