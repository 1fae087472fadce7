import EmuHost.Settings.Field

/-!
# Configuration documents

The text of a configuration file: a section each for the log, the input, the device and the
graphics. Writing names every setting; reading takes the settings that are named and the defaults
for the rest.
-/

namespace EmuHost

open Toml

namespace DeviceOptions

/-- The section on the device. -/
def fields : List (Field DeviceOptions) :=
  [.of "host_mapped" (·.hostMapped) fun v o => { o with hostMapped := v },
    .of "use_nce" (·.useNce) fun v o => { o with useNce := v },
    .of "system_language" (·.systemLanguage) fun v o => { o with systemLanguage := v },
    .of "region" (·.region) fun v o => { o with region := v },
    .of "enable_vsync" (·.enableVsync) fun v o => { o with enableVsync := v },
    .of "docked_mode" (·.dockedMode) fun v o => { o with dockedMode := v },
    .of "enable_ptc" (·.enablePtc) fun v o => { o with enablePtc := v },
    .of "enable_internet_access" (·.enableInternetAccess) fun v o =>
      { o with enableInternetAccess := v },
    .of "time_zone" (·.timeZone) fun v o => { o with timeZone := v },
    .of "ignore_missing_services" (·.ignoreMissingServices) fun v o =>
      { o with ignoreMissingServices := v }]

end DeviceOptions

namespace GraphicsConfig

/-- The section on the graphics. -/
def fields : List (Field GraphicsConfig) :=
  [.of "res_scale" (·.resScale) fun v c => { c with resScale := v },
    .of "max_anisotropy" (·.maxAnisotropy) fun v c => { c with maxAnisotropy := v },
    .of "fast_gpu_time" (·.fastGpuTime) fun v c => { c with fastGpuTime := v },
    .of "fast_2d_copy" (·.fast2dCopy) fun v c => { c with fast2dCopy := v },
    .of "enable_macro_jit" (·.enableMacroJit) fun v c => { c with enableMacroJit := v },
    .of "enable_macro_hle" (·.enableMacroHle) fun v c => { c with enableMacroHle := v },
    .of "enable_shader_cache" (·.enableShaderCache) fun v c => { c with enableShaderCache := v },
    .of "enable_texture_recompression" (·.enableTextureRecompression) fun v c =>
      { c with enableTextureRecompression := v },
    .of "backend_threading" (·.backendThreading) fun v c => { c with backendThreading := v },
    .of "aspect_ratio" (·.aspectRatio) fun v c => { c with aspectRatio := v }]

end GraphicsConfig

namespace HostConfig

/-- The sections of a file. The log and the input have one setting each. -/
def sections : List (Field HostConfig) :=
  [.ofRecord "logging" "LoggingConfig" [.of "filter" id fun v _ => v] ({} : HostConfig).logFilter
      (·.logFilter) fun v c => { c with logFilter := v },
    .ofRecord "input" "InputConfig" [.of "max_controllers" id fun v _ => v]
      ({} : HostConfig).maxControllers (·.maxControllers) fun v c => { c with maxControllers := v },
    .ofRecord "device" "DeviceOptions" DeviceOptions.fields {} (·.device)
      fun v c => { c with device := v },
    .ofRecord "graphics" "GraphicsConfiguration" GraphicsConfig.fields {} (·.graphics)
      fun v c => { c with graphics := v }]

/-- The configuration that a table names, over the defaults. -/
def ofTable (table : Table) : Except Defect HostConfig := Field.readTable sections {} table

/-- The configuration that a text names, over the defaults. -/
def ofText (text : List Char) : Except Defect HostConfig := do ofTable (← Toml.read text)

/-- The text of a configuration: each section under its header, an empty line between two. A
configuration with a count that a file cannot hold has none. -/
def text? (c : HostConfig) : Option (List Char) := do
  let parts ← sections.mapM fun part => do
    return '[' :: part.key.toList ++ [']', '\n'] ++ (← part.write? c)
  return (parts.intersperse ['\n']).flatten

end HostConfig

end EmuHost
