import EmuHost.Settings.Device
import EmuHost.Settings.Graphics

/-!
# Host configuration

The configuration of a whole session: how much is logged, how many controllers may connect, and the
settings used where the host gives none.
-/

namespace EmuHost

/-- The number of controller slots in the emulated device. -/
def slotCount : Nat := 8

/-- The number of controllers that may connect if the configuration does not say. -/
def defaultMaxControllers : Nat := 4

/-- The configuration of a session. -/
structure HostConfig where
  logFilter : String := "info"
  maxControllers : Nat := defaultMaxControllers
  device : DeviceOptions := {}
  graphics : GraphicsConfig := {}
  deriving DecidableEq

/-- The name of the configuration file in its directory. -/
def configFileName : String := "config.toml"

end EmuHost
