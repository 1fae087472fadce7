import EmuHost.Duration

/-!
# Frame statistics

Counters and smoothed timings of a render loop. The first frame's timings are taken as they are;
each later frame moves them by a tenth of its difference. The timings are written over any `Scalar`,
so they can be read with a rounding at every step or exactly.
-/

namespace EmuHost

/-- How long a frame and the core's part in it took. -/
structure FrameTiming where
  frame : Duration := .zero
  submission : Duration := .zero
  deriving DecidableEq, Repr

/-- The statistics of a render loop; times in seconds. -/
structure Statistics (α : Type) where
  submitted : Nat := 0
  presented : Nat := 0
  recoverableErrors : Nat := 0
  frameTime : α
  submissionTime : α
  deriving DecidableEq

/-- The figures reported to the host: the share of a frame spent in the core in percent, frames per
second, and the milliseconds of a frame. -/
structure GameFigures (α : Type) where
  fifo : α
  framesPerSecond : α
  milliseconds : α
  deriving DecidableEq

namespace Statistics

variable {α : Type} [Scalar α]

open Scalar

/-- The statistics of a loop that ran no frame. -/
def empty : Statistics α := { frameTime := ofNat 0, submissionTime := ofNat 0 }

instance : Inhabited (Statistics α) := ⟨empty⟩

/-- A smoothed time moved toward a new sample. -/
def smooth (average sample : α) : α := average + (sample - average) * ofRat (1 / 10)

/-- Counts a finished frame. -/
def recordFrame (s : Statistics α) (timing : FrameTiming) (wasPresented : Bool) : Statistics α :=
  let frame : α := timing.frame.toSeconds
  let submission : α := timing.submission.toSeconds
  { s with
    -- the first frame is taken as it is
    frameTime := if s.submitted = 0 then frame else smooth s.frameTime frame
    submissionTime := if s.submitted = 0 then submission else smooth s.submissionTime submission
    submitted := s.submitted + 1
    presented := if wasPresented then s.presented + 1 else s.presented }

/-- Counts a frame that failed and was given up. -/
def recordError (s : Statistics α) : Statistics α :=
  { s with recoverableErrors := s.recoverableErrors + 1 }

/-- Whether any time passed at all. -/
def isTimed (s : Statistics α) : Bool := lt (ofNat 0) s.frameTime

/-- Frames per second at the smoothed frame time. -/
def framesPerSecond (s : Statistics α) : α :=
  if s.isTimed then ofNat 1 / s.frameTime else ofNat 0

/-- The percentage of a frame that the core takes, before the cap. -/
def share (s : Statistics α) : α := s.submissionTime / s.frameTime * ofNat 100

/-- The percentage of a frame that the core takes, at most 100. -/
def fifoPercent (s : Statistics α) : α :=
  if s.isTimed then
    -- a share that is no number is capped as well
    if lt s.share (ofNat 100) then s.share else ofNat 100
  else ofNat 0

/-- The figures reported to the host. -/
def figures (s : Statistics α) : GameFigures α :=
  ⟨s.fifoPercent, s.framesPerSecond, s.frameTime * ofNat 1000⟩

end Statistics

end EmuHost
