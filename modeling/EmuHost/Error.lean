import EmuHost.Binary.Decimal
import EmuHost.Files.Path
import EmuHost.Graphics.Phase
import EmuHost.Settings.Basic

/-!
# Session errors

Why an operation of a session fails, by cause, and the message of each cause. A crash is not an
error: it is core code that dies in the middle of a call (`Crash`), and an operation that it ends
fails with it (`Failure`).
-/

namespace EmuHost

/-- A value of a configuration that a session does not accept. -/
inductive ConfigurationError where
  | resolutionScale (scale : Binary32)
  | anisotropy (level : Binary32)
  | unknownCode (e : UnknownCode)
  | size (width height : Int)
  | controllerCount (n : Nat)
  deriving DecidableEq

def ConfigurationError.message : ConfigurationError → String
  | .resolutionScale x =>
    "resolution scale " ++ x.text ++ " must be finite and greater than 0"
  | .anisotropy x => "max anisotropy " ++ x.text ++ " must be -1 (auto) or within 1..=16"
  | .unknownCode e => e.message
  | .size width height => s!"size {width}x{height} must be positive in both dimensions"
  | .controllerCount n => s!"max_controllers {n} must be within 1..={slotCount}"

/-- Why a process-wide session could not be set up. -/
inductive BootstrapError where
  | alreadyInitialized
  | basePathNotUtf8
  | noHomeDirectory
  | noCore
  deriving DecidableEq, Repr

def BootstrapError.message : BootstrapError → String
  | .alreadyInitialized => "bridge is already initialized"
  | .basePathNotUtf8 => "base path is not valid UTF-8"
  | .noHomeDirectory => "no base path and no home directory"
  | .noCore => "no emulation core registered"

/-- The causes that a core reports for a failure, the outermost first. -/
abbrev CauseChain := List String

def CauseChain.message (chain : CauseChain) : String := ": ".intercalate chain

/-- A failure in the life of the device context. -/
inductive DeviceError where
  | bootstrap (e : BootstrapError)
  | rendererNotReady
  | notInitialized
  | unsupportedApplication (path : Path)
  | core (chain : CauseChain)
  deriving DecidableEq, Repr

def DeviceError.message : DeviceError → String
  | .bootstrap e => "bridge bootstrap: " ++ e.message
  | .rendererNotReady => "device requires an initialized renderer"
  | .notInitialized => "device context is not initialized"
  | .unsupportedApplication path =>
    "couldn't load '" ++ path
      ++ "': specify a valid XCI/NCA/NSP/PFS0/NRO file or cart directory"
  | .core chain => "core: " ++ CauseChain.message chain

/-- The operations that are valid in some states only. -/
inductive Operation where
  | graphicsInitialize
  | initializeRenderer
  | setSize
  | teardown
  | runLoop
  | inputInitialize
  | setClientSize
  | deviceInitialize
  deriving DecidableEq, Repr

def Operation.name : Operation → String
  | .graphicsInitialize => "graphics_initialize"
  | .initializeRenderer => "graphics_initialize_renderer"
  | .setSize => "graphics_renderer_set_size"
  | .teardown => "graphics_teardown"
  | .runLoop => "graphics_renderer_run_loop"
  | .inputInitialize => "input_initialize"
  | .setClientSize => "input_set_client_size"
  | .deviceInitialize => "device_initialize"

/-- The state that an operation was refused in. -/
inductive SequenceState where
  | graphics (phase : Phase)
  | inputUninitialized
  | inputInitialized
  deriving DecidableEq, Repr

def SequenceState.message : SequenceState → String
  | .graphics phase => "graphics is " ++ phase.name
  | .inputUninitialized => "input is not initialized"
  | .inputInitialized => "input is already initialized"

/-- The entries of a host's procedure table that a backend may require. -/
inductive InteropField where
  | glGetProcAddress
  | vkContextLoader
  | vkCreateSurface
  | vkExtensionCount
  | vkExtensions
  deriving DecidableEq, Repr

def InteropField.name : InteropField → String
  | .glGetProcAddress => "gl_get_proc_address"
  | .vkContextLoader => "vk_native_context_loader"
  | .vkCreateSurface => "vk_create_surface"
  | .vkExtensionCount => "vk_required_extensions_count"
  | .vkExtensions => "vk_required_extensions"

/-- Why an operation of a session fails. -/
inductive SessionError where
  | configuration (e : ConfigurationError)
  | interopMissing (backend : Backend) (field : InteropField)
  | contextCreation (chain : CauseChain)
  | outOfOrder (operation : Operation) (state : SequenceState)
  | notConnected (index : Nat)
  | backendLost (reason : String)
  | device (e : DeviceError)
  deriving DecidableEq

def SessionError.message : SessionError → String
  | .configuration e => "invalid configuration: " ++ e.message
  | .interopMissing backend field =>
    backend.title ++ " backend requires interop field `" ++ field.name ++ "`"
  | .contextCreation chain => "native context creation failed: " ++ CauseChain.message chain
  | .outOfOrder operation state => operation.name ++ " is not valid while " ++ state.message
  | .notConnected index => s!"no controller connected at index {index}"
  | .backendLost reason => "graphics backend lost: " ++ reason
  | .device e => e.message

/-- Core or host code that died in the middle of a call, with what it said, if anything. -/
structure Crash where
  text : Option String
  deriving DecidableEq, Repr

def Crash.message (c : Crash) : String := c.text.getD "unknown panic"

/-- Why an operation gave no result. -/
inductive Failure where
  | error (e : SessionError)
  | unknownCode (e : UnknownCode)
  | crash (c : Crash)
  deriving DecidableEq

def Failure.message : Failure → String
  | .error e => e.message
  | .unknownCode e => e.message
  | .crash c => c.message

end EmuHost
