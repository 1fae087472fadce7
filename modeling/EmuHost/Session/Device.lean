import EmuHost.Session.World

/-!
# Device life

The operations of a session that create, fill and end the device context in the core. A context that
is replaced or whose load fails is disposed of, so that the session never believes in a context that
the core does not have. A core that crashes over this leaves the operation half done.
-/

namespace EmuHost.World

variable {κ : Type}

/-- A failure that the core reports, as a failure of the session. -/
def coreFailure (chain : CauseChain) : Failure := .error (.device (.core chain))

/-- The settings of a new device context, once there is a renderer that is not used up. -/
def deviceContext? (w : World κ) : Option DeviceContext :=
  match w.graphics.info, w.graphics.effectiveConfig with
  | some info, some config =>
    if w.graphics.phase = .rendererReady ∨ w.graphics.phase = .running then
      some ⟨info.backend, info.threaded, config.aspectRatio⟩
    else none
  | _, _ => none

/-- Disposes of the device context, if there is one, to make room for a new one. The application in
it is forgotten once it is gone. -/
def replaceDevice (w : World κ) : World κ × Except Failure Unit :=
  if w.device.options.isSome then
    -- the options are taken before the core is asked, so a crash leaves none
    let w := { w with device.options := none }.log [.info "Replacing existing device context"]
      |>.record .disposeDevice
    match w.core.disposalCrash with
    | some c => (w, .error (.crash c))
    | none => ({ w with device.loaded := none }, .ok ())
  else (w, .ok ())

/-- Has the core create a device context where there is none. -/
def createDevice (w : World κ) (options : DeviceOptions) (context : DeviceContext) :
    World κ × Except Failure Unit :=
  let w := w.record (.createDevice options context)
  match w.core.deviceReply with
  | .crash c => (w, .error (.crash c))
  | .failure chain => (w, .error (coreFailure chain))
  | .success =>
    let line := "Device initialized (" ++ context.backend.title ++ ", threaded backend: "
      ++ toString context.threaded ++ ", " ++ context.aspectRatio.name ++ ", "
      ++ options.systemLanguage.name ++ "/" ++ options.region.name ++ ")"
    ({ w with device.options := some options }.log [.info line], .ok ())

/-- Creates the device context. -/
def initializeDevice (w : World κ) (options : DeviceOptions) : World κ × Except Failure Unit :=
  match w.deviceContext? with
  | none =>
    (w.log [w.graphics.refusalLine .deviceInitialize],
      .error (.error (.device .rendererNotReady)))
  | some context =>
    match w.replaceDevice with
    | (w, .error f) => (w, .error f)
    | (w, .ok ()) => w.createDevice options context

/-- Has the core scan its files anew. -/
def reloadFiles (w : World κ) : World κ × Except Failure Unit :=
  let w := w.record .reloadFiles
  match w.core.reloadReply with
  | .crash c => (w, .error (.crash c))
  | .failure chain => (w, .error (coreFailure chain))
  | .success => (w.log [.info "Filesystem reloaded"], .ok ())

/-- A load has failed: the device context is disposed of, and then forgotten. -/
def abandonLoad (w : World κ) (path : Path) (e : DeviceError) :
    World κ × Except Failure Application :=
  let w := w.log [.error ("Failed to load " ++ path ++ ": " ++ e.message)]
    |>.record .disposeDevice
  match w.core.disposalCrash with
  -- the context is forgotten only after the core has let go of it
  | some c => (w, .error (.crash c))
  | none => ({ w with device := {} }, .error (.error (.device e)))

/-- Loads the application at a path into the device context. -/
def load (w : World κ) (path : Path) : World κ × Except Failure Application :=
  if w.device.options.isNone then (w, .error (.error (.device .notInitialized)))
  else match Application.detect w.files path with
    | .error e => w.abandonLoad path e
    | .ok application =>
      let w := w.record (.load application)
      match w.core.loadReply with
      -- a crash goes past the disposal
      | .crash c => (w, .error (.crash c))
      | .failure chain => w.abandonLoad path (.core chain)
      | .success =>
        ({ w with device.loaded := some application }.log
          [.info ("Loaded " ++ application.summary)], .ok application)

/-- Has the core install a firmware archive. -/
def installFirmware (w : World κ) (source : FirmwareSource) (isXci : Bool) :
    World κ × Except Failure Unit :=
  let w := w.record (.installFirmware source isXci)
  match w.core.firmwareReply with
  | .crash c => (w, .error (.crash c))
  | .failure chain => (w, .error (coreFailure chain))
  | .success =>
    ({ w with core.firmware := some w.core.installs }.log
      [.info ("Firmware installed from " ++ source.summary)], .ok ())

/-- Asks the core for the version of the installed firmware, if there is any. -/
def firmwareVersion (w : World κ) : World κ × Except Failure (Option String) :=
  match w.core.versionCrash with
  | some c => (w, .error (.crash c))
  | none => (w, .ok w.core.firmware)

end EmuHost.World
