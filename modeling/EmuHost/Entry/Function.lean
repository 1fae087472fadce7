import EmuHost.Session.Call
import EmuHost.Text.HostString

/-!
# Entry functions

The functions by which a host in another language drives the session of its process. Their arguments
are plain numbers and strings as the host passes them; each is converted and becomes one call to the
session, or none if a number names no value or a string is not text. Failures and crashes are logged
and show as false.
-/

namespace EmuHost

/-- The options of a device context as the host passes them. -/
structure DeviceArguments where
  hostMapped : Bool
  useNce : Bool
  systemLanguage : Int
  region : Int
  enableVsync : Bool
  dockedMode : Bool
  enablePtc : Bool
  enableInternetAccess : Bool
  timeZone : Option HostString
  ignoreMissingServices : Bool

namespace DeviceArguments

/-- The options, given the time zone as text. The language is looked up before the region. -/
def options (a : DeviceArguments) (timeZone : String) : Except UnknownCode DeviceOptions := do
  let systemLanguage ← SystemLanguage.ofCode a.systemLanguage
  let region ← RegionCode.ofCode a.region
  return {
    hostMapped := a.hostMapped
    useNce := a.useNce
    systemLanguage, region
    enableVsync := a.enableVsync
    dockedMode := a.dockedMode
    enablePtc := a.enablePtc
    enableInternetAccess := a.enableInternetAccess
    timeZone
    ignoreMissingServices := a.ignoreMissingServices }

end DeviceArguments

/-- A call of the host to an entry function. -/
inductive EntryFunction where
  | initializeDevice (arguments : DeviceArguments)
  | reloadFiles
  | load (path : Option HostString)
  | installFirmware (descriptor : Int) (isXci : Bool)
  | firmwareVersion
  | figures
  | configureGraphics (c : RawGraphicsConfig)
  | initializeRenderer (backend : Int) (table : InteropTable)
  | setSize (width height : Int)
  | runLoop
  | setVsync (enabled : Bool)
  | setCallback (callback : Option SwapCallback)
  | requestStop
  | tearDown
  | openClient (width height : Int)
  | resizeClient (width height : Int)
  | touch (x y : Int)
  | releaseTouch
  | update
  | press (button : Int) (index : Int)
  | release (button : Int) (index : Int)
  | accelerometer (value : Vec3 Binary32) (index : Int)
  | gyro (value : Vec3 Binary32) (index : Int)
  | moveStick (stick : Int) (value : Vec2 Binary32) (index : Int)
  | connect (index : Int)

/-- What an entry function gives back. -/
inductive EntryResult where
  /-- Whether the call succeeded. -/
  | flag
  /-- A handle, or 0 for none. -/
  | handle
  /-- A string without zero characters, or none. -/
  | text
  | figures
  | nothing
  deriving DecidableEq, Repr

/-- What the arguments of an entry function amount to: a call, or a line that says why there is
none. -/
inductive Conversion where
  | call (c : HostCall)
  | refused (line : LogLine)

/-- The slot that a number of the host means. Negative numbers mean one that no session has. -/
def slotOf (index : Int) : Nat :=
  -- the largest machine word stands for all that is no index, far past the last slot
  if index < 0 then Nat.pow 2 64 - 1 else index.toNat

namespace EntryFunction

/-- The name by which the host calls the function. -/
def name : EntryFunction → String
  | .initializeDevice _ => "device_initialize"
  | .reloadFiles => "device_reloadFilesystem"
  | .load _ => "device_load"
  | .installFirmware .. => "device_install_firmware"
  | .firmwareVersion => "device_get_installed_firmware_version"
  | .figures => "device_get_game_stats"
  | .configureGraphics _ => "graphics_initialize"
  | .initializeRenderer .. => "graphics_initialize_renderer"
  | .setSize .. => "graphics_renderer_set_size"
  | .runLoop => "graphics_renderer_run_loop"
  | .setVsync _ => "graphics_renderer_set_vsync"
  | .setCallback _ => "graphics_renderer_set_swap_buffer_callback"
  | .requestStop => "graphics_renderer_stop"
  | .tearDown => "graphics_teardown"
  | .openClient .. => "input_initialize"
  | .resizeClient .. => "input_set_client_size"
  | .touch .. => "input_set_touch_point"
  | .releaseTouch => "input_release_touch_point"
  | .update => "input_update"
  | .press .. => "input_set_button_pressed"
  | .release .. => "input_set_button_released"
  | .accelerometer .. => "input_set_accelerometer_data"
  | .gyro .. => "input_set_gyro_data"
  | .moveStick .. => "input_set_stick_axis"
  | .connect _ => "input_connect_gamepad"

/-- What the function gives back. -/
def returns : EntryFunction → EntryResult
  | .firmwareVersion => .text
  | .figures => .figures
  | .connect _ => .handle
  | .setVsync _ | .setCallback _ | .requestStop | .touch .. | .releaseTouch | .update | .press ..
  | .release .. | .accelerometer .. | .gyro .. | .moveStick .. => .nothing
  | .initializeDevice _ | .reloadFiles | .load _ | .installFirmware .. | .configureGraphics _
  | .initializeRenderer .. | .setSize .. | .runLoop | .tearDown | .openClient .. | .resizeClient ..
    => .flag

/-- The line on a failure of the function. -/
def failureLine (f : EntryFunction) (e : SessionError) : LogLine :=
  .error (f.name ++ " failed: " ++ e.message)

/-- The line on a crash under the function. -/
def crashLine (f : EntryFunction) (c : Crash) : LogLine :=
  .error (f.name ++ " panicked: " ++ c.message)

/-- Converts a number among the arguments; one that names no value is a failure. -/
def withCode {α : Type} (f : EntryFunction) (code : Except UnknownCode α) (call : α → HostCall) :
    Conversion :=
  match code with
  | .ok a => .call (call a)
  | .error e => .refused (f.failureLine (.configuration (.unknownCode e)))

/-- Converts the number of a button or stick; the event of an unknown one is dropped. -/
def withInputCode {α : Type} (kind : String) (code : Except UnknownCode α)
    (call : α → InputCall) : Conversion :=
  match code with
  | .ok a => .call (.input (call a))
  | .error e => .refused (.trace ("Dropped " ++ kind ++ " event: " ++ e.message))

/-- Converts the arguments of a new device context. Without a time zone the configured one is
used. -/
def convertDevice (f : EntryFunction) (config : HostConfig) (a : DeviceArguments) : Conversion :=
  -- the time zone is looked at before the numbers
  match a.timeZone.map (·.text?) with
  | some none => .refused (.error "device_initialize: time zone is not valid UTF-8")
  | some (some zone) => f.withCode (a.options zone) .initializeDevice
  | none => f.withCode (a.options config.device.timeZone) .initializeDevice

/-- Converts the arguments. -/
def convert (f : EntryFunction) (config : HostConfig) : Conversion :=
  match f with
  | .initializeDevice arguments => f.convertDevice config arguments
  | .reloadFiles => .call .reloadFiles
  | .load path =>
    match path.bind (·.text?) with
    | some path => .call (.load path)
    | none => .refused (.error "device_load: path is null or not valid UTF-8")
  | .installFirmware descriptor isXci => .call (.installFirmware (.descriptor descriptor) isXci)
  | .firmwareVersion => .call .firmwareVersion
  | .figures => .call .figures
  | .configureGraphics c => f.withCode c.decode .configureGraphics
  | .initializeRenderer backend table =>
    f.withCode (Backend.ofCode backend) (.initializeRenderer · table)
  | .setSize width height => .call (.setSize width height)
  | .runLoop => .call .runLoop
  | .setVsync enabled => .call (.setVsync enabled)
  | .setCallback callback => .call (.setCallback callback)
  | .requestStop => .call .requestStop
  | .tearDown => .call .tearDown
  | .openClient width height => .call (.input (.openClient width height))
  | .resizeClient width height => .call (.input (.resizeClient width height))
  | .touch x y => .call (.input (.touch x y))
  | .releaseTouch => .call (.input .releaseTouch)
  | .update => .call (.input .update)
  | .press button index => withInputCode "button" (Button.ofCode button) (.press · (slotOf index))
  | .release button index =>
    withInputCode "button" (Button.ofCode button) (.release · (slotOf index))
  | .accelerometer value index => .call (.input (.accelerometer value (slotOf index)))
  | .gyro value index => .call (.input (.gyro value (slotOf index)))
  | .moveStick stick value index =>
    withInputCode "stick" (Stick.ofCode stick) (.moveStick · value (slotOf index))
  | .connect index => .call (.input (.connect (slotOf index)))

/-- What the function gives back when there is nothing to give. -/
def fallback (f : EntryFunction) : Answer :=
  match f.returns with
  | .flag => .flag false
  | .handle => .number 0
  | .text => .nothing
  | .figures => .figures .empty
  | .nothing => .nothing

/-- What the function gives back for an answer of the session. -/
def present (f : EntryFunction) (answer : Answer) : Answer :=
  match f.returns, answer with
  | _, .failed _ => f.fallback
  | .flag, _ => .flag true
  | .handle, .number n => .number n
  -- a text with a zero in it cannot be given back
  | .text, .text s => if s.toList.contains '\x00' then .nothing else .text s
  | .figures, .figures s => .figures s
  | _, _ => f.fallback

/-- The lines on an answer of the session: one if it is a failure. -/
def report (f : EntryFunction) : Answer → List LogLine
  | .failed (.error e) => [f.failureLine e]
  | .failed (.unknownCode e) => [f.failureLine (.configuration (.unknownCode e))]
  | .failed (.crash c) => [f.crashLine c]
  | _ => []

/-- Performs the function on a session, given how the loop is run. -/
def perform {κ : Type} (loop : World.Loop κ) (w : World κ) (f : EntryFunction) :
    World κ × Answer :=
  match f.convert w.config with
  | .refused line => (w.log [line], f.fallback)
  | .call c =>
    let (w, answer) := w.perform loop c
    (w.log (f.report answer), f.present answer)

end EntryFunction

end EmuHost
