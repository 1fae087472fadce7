import EmuHost.Scalar

/-!
# Touch panel

How a point of the host's client area falls on the emulated touch panel. The emulated screen is
fitted into the client area at its aspect ratio and centered, which leaves bars on one axis; points
on the bars are off the panel. The mapping is written over any `Scalar`, so it can be read with a
rounding at every step or exactly.
-/

namespace EmuHost

/-- A pair of coordinates. -/
structure Vec2 (α : Type) where
  x : α
  y : α
  deriving DecidableEq

/-- A triple of coordinates. -/
structure Vec3 (α : Type) where
  x : α
  y : α
  z : α
  deriving DecidableEq

namespace Panel

/-- The size of the emulated panel in its own pixels. -/
def width : Nat := 1280

def height : Nat := 720

variable {α : Type} [Scalar α]

open Scalar

/-- The size of the emulated screen inside a client area: as high as the area if the area is wider
than the ratio asks, else as wide. -/
def screenSize (client : Vec2 α) (aspect : α) : Vec2 α :=
  -- a ratio that is no number compares with nothing, and the area counts as narrow
  if lt (client.y * aspect) client.x then ⟨client.y * aspect, client.y⟩
  else ⟨client.x, client.x / aspect⟩

/-- The corner of the screen nearest to the origin, when the screen is centered in the client
area. -/
def screenStart (client screen : Vec2 α) : Vec2 α :=
  let half : α := ofRat (1 / 2)
  ⟨(client.x - screen.x) * half, (client.y - screen.y) * half⟩

/-- The corner opposite to `screenStart`. -/
def screenEnd (start screen : Vec2 α) : Vec2 α := ⟨start.x + screen.x, start.y + screen.y⟩

/-- Whether a point lies left of or above the screen, or at or past its far edges. -/
def isOutside (point start stop : Vec2 α) : Bool :=
  -- the near edges belong to the screen, the far ones do not
  lt point.x start.x || lt point.y start.y || le stop.x point.x || le stop.y point.y

/-- A point of the screen in pixels of the panel. -/
def scaled (point start screen : Vec2 α) : Vec2 α :=
  -- the point is measured from the start of the screen, in parts of its size
  ⟨(point.x - start.x) / screen.x * ofNat width, (point.y - start.y) / screen.y * ofNat height⟩

/-- The panel position of a point of a client area, `none` on the bars, in an empty area and for a
ratio that is not positive. -/
def position? (point : Vec2 α) (clientWidth clientHeight : Nat) (aspect : α) :
    Option (Vec2 α) :=
  if clientWidth = 0 ∨ clientHeight = 0 ∨ le aspect (ofNat 0) then none
  else
    let client : Vec2 α := ⟨ofNat clientWidth, ofNat clientHeight⟩
    let screen := screenSize client aspect
    let start := screenStart client screen
    if isOutside point start (screenEnd start screen) then none
    else some (scaled point start screen)

end Panel

end EmuHost
