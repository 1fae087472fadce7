import EmuHost.Proofs.StoredSettings
import EmuHost.Proofs.WrittenFiles
import EmuHost.Settings.File

/-!
# Configurations that are saved and loaded

A configuration that was saved is loaded again from the same directory, with each float read again
by way of its decimal and everything else as it was (`HostConfig.load_save`).

## Key results

- `HostConfig.ofText_text`: what the text of a configuration is read as
- `HostConfig.load_of_save`: what is loaded after saving, and when it is what was saved
-/

namespace EmuHost

open Toml

/-! ## Sections -/

/-- A section with one setting. -/
def StoredRecord.single {α : Type} [Setting α] [Stored α] (key : String) (isKey : IsKey key) :
    StoredRecord EntryLine α where
  fields := [.of key isKey id fun v _ => v]
  distinct := List.nodup_singleton _
  commute := List.pairwise_singleton _ _

/-- A record of one field is restored with it. -/
theorem StoredRecord.single_restore {α : Type} [Setting α] [Stored α] {key : String}
    (isKey : IsKey key) (v start : α) :
    (StoredRecord.single key isKey).restore v start = Stored.reread v := rfl

namespace DeviceOptions

def stored : StoredRecord EntryLine DeviceOptions where
  fields :=
    [.of "host_mapped" ⟨rfl⟩ (·.hostMapped) fun v o => { o with hostMapped := v },
      .of "use_nce" ⟨rfl⟩ (·.useNce) fun v o => { o with useNce := v },
      .of "system_language" ⟨rfl⟩ (·.systemLanguage) fun v o => { o with systemLanguage := v },
      .of "region" ⟨rfl⟩ (·.region) fun v o => { o with region := v },
      .of "enable_vsync" ⟨rfl⟩ (·.enableVsync) fun v o => { o with enableVsync := v },
      .of "docked_mode" ⟨rfl⟩ (·.dockedMode) fun v o => { o with dockedMode := v },
      .of "enable_ptc" ⟨rfl⟩ (·.enablePtc) fun v o => { o with enablePtc := v },
      .of "enable_internet_access" ⟨rfl⟩ (·.enableInternetAccess) fun v o =>
        { o with enableInternetAccess := v },
      .of "time_zone" ⟨rfl⟩ (·.timeZone) fun v o => { o with timeZone := v },
      .of "ignore_missing_services" ⟨rfl⟩ (·.ignoreMissingServices) fun v o =>
        { o with ignoreMissingServices := v }]
  distinct := by decide
  commute := by
    simp only [StoredField.of, List.pairwise_cons, List.forall_mem_cons, List.not_mem_nil,
      false_imp_iff, implies_true, List.Pairwise.nil, and_self]

/-- The options come back as they were. -/
theorem stored_restore (o start : DeviceOptions) : stored.restore o start = o := by
  simp only [StoredRecord.restore, stored, StoredField.of, Stored.reread, List.foldl_cons,
    List.foldl_nil]

end DeviceOptions

namespace GraphicsConfig

def stored : StoredRecord EntryLine GraphicsConfig where
  fields :=
    [.of "res_scale" ⟨rfl⟩ (·.resScale) fun v c => { c with resScale := v },
      .of "max_anisotropy" ⟨rfl⟩ (·.maxAnisotropy) fun v c => { c with maxAnisotropy := v },
      .of "fast_gpu_time" ⟨rfl⟩ (·.fastGpuTime) fun v c => { c with fastGpuTime := v },
      .of "fast_2d_copy" ⟨rfl⟩ (·.fast2dCopy) fun v c => { c with fast2dCopy := v },
      .of "enable_macro_jit" ⟨rfl⟩ (·.enableMacroJit) fun v c => { c with enableMacroJit := v },
      .of "enable_macro_hle" ⟨rfl⟩ (·.enableMacroHle) fun v c => { c with enableMacroHle := v },
      .of "enable_shader_cache" ⟨rfl⟩ (·.enableShaderCache) fun v c =>
        { c with enableShaderCache := v },
      .of "enable_texture_recompression" ⟨rfl⟩ (·.enableTextureRecompression) fun v c =>
        { c with enableTextureRecompression := v },
      .of "backend_threading" ⟨rfl⟩ (·.backendThreading) fun v c =>
        { c with backendThreading := v },
      .of "aspect_ratio" ⟨rfl⟩ (·.aspectRatio) fun v c => { c with aspectRatio := v }]
  distinct := by decide
  commute := by
    simp only [StoredField.of, List.pairwise_cons, List.forall_mem_cons, List.not_mem_nil,
      false_imp_iff, implies_true, List.Pairwise.nil, and_self]

/-- The configuration with its floats read again. -/
def reread (c : GraphicsConfig) : GraphicsConfig :=
  { c with resScale := c.resScale.reread, maxAnisotropy := c.maxAnisotropy.reread }

/-- Graphics are restored as they are read again. -/
theorem stored_restore (c start : GraphicsConfig) : stored.restore c start = c.reread := by
  simp only [StoredRecord.restore, stored, StoredField.of, Stored.reread, List.foldl_cons,
    List.foldl_nil, reread]

end GraphicsConfig

/-! ## Configurations -/

namespace HostConfig

def stored : StoredRecord Block HostConfig where
  fields :=
    [.ofRecord "logging" "LoggingConfig" ⟨rfl⟩ (.single "filter" ⟨rfl⟩)
        ({} : HostConfig).logFilter (·.logFilter) fun v c => { c with logFilter := v },
      .ofRecord "input" "InputConfig" ⟨rfl⟩ (.single "max_controllers" ⟨rfl⟩)
        ({} : HostConfig).maxControllers (·.maxControllers) fun v c =>
          { c with maxControllers := v },
      .ofRecord "device" "DeviceOptions" ⟨rfl⟩ DeviceOptions.stored {} (·.device)
        fun v c => { c with device := v },
      .ofRecord "graphics" "GraphicsConfiguration" ⟨rfl⟩ GraphicsConfig.stored {} (·.graphics)
        fun v c => { c with graphics := v }]
  distinct := by decide
  commute := by
    simp only [StoredField.ofRecord, List.pairwise_cons, List.forall_mem_cons, List.not_mem_nil,
      false_imp_iff, implies_true, List.Pairwise.nil, and_self]

/-- The fields of a configuration are its sections. -/
theorem stored_fields : stored.fields.map (·.field) = sections := rfl

/-- The configuration with its floats read again. -/
def reread (c : HostConfig) : HostConfig := { c with graphics := c.graphics.reread }

/-- A configuration is restored as it is read again, which concerns its graphics only. -/
theorem stored_restore (c start : HostConfig) : stored.restore c start = c.reread := by
  rw [StoredRecord.restore, stored]
  -- section by section, and each of them is restored over its own start value
  simp only [StoredField.ofRecord, List.foldl_cons, List.foldl_nil, StoredRecord.single_restore,
    DeviceOptions.stored_restore, GraphicsConfig.stored_restore, Stored.reread, reread]

/-- The text of a configuration is read as this configuration with its floats read again. -/
theorem ofText_text {c : HostConfig} {text : List Char} (written : c.text? = some text) :
    ofText text = .ok c.reread := by
  unfold text? at written
  obtain ⟨parts, each, same⟩ := Option.bind_eq_some_iff.1 written
  cases same
  rw [← stored_fields] at each
  obtain ⟨blocks, rfl, distinct, read⟩ := stored.exists_pieces each
  obtain ⟨table, whole, held⟩ := read_joined distinct
  -- what is read settles the fields over any start value, so also over the defaults
  have settled := read table held {}
  rw [stored_fields, stored_restore] at settled
  show (do ofTable (← Toml.read (joined blocks))) = _
  rw [whole]
  exact settled

/-- Saving creates the directory and writes the text into its file. -/
theorem save_ok {tree after : FileTree} {dir : Path} {c : HostConfig}
    (saved : c.save tree dir = .ok after) :
    ∃ made text, tree.createDirectories dir = .ok made ∧ c.text? = some text ∧
      made.write (path dir) (String.ofList text).toUTF8 = .ok after := by
  unfold save at saved
  -- it fails at the directory, at the text or at the file
  cases created : tree.createDirectories dir with
  | error e =>
    rw [created] at saved
    cases saved
  | ok made =>
    cases written : c.text? with
    | none =>
      rw [created, written] at saved
      cases saved
    | some text =>
      refine ⟨made, text, rfl, rfl, ?_⟩
      rw [created, written] at saved
      cases result : made.write (path dir) (String.ofList text).toUTF8 with
      | error e =>
        have : (Except.error e : Except FileError FileTree).mapError
            (ConfigFileError.unwritable (path dir)) = .ok after := result ▸ saved
        cases this
      | ok final =>
        have : (Except.ok final : Except FileError FileTree).mapError
            (ConfigFileError.unwritable (path dir)) = .ok after := result ▸ saved
        cases this
        rfl

/-- A file that holds a text is loaded as what the text is read as. -/
theorem load_of_content {tree : FileTree} {dir : Path} {text : String}
    (content : tree.read (path dir) = .ok text.toUTF8) :
    load tree dir =
      (ofText text.toList).mapError fun d => .malformed (path dir) (d.render text.toList) := by
  -- the file is there and its bytes are text
  have present := FileTree.contains_of_read content
  have decoded : String.fromUTF8? text.toUTF8 = some text := dif_pos text.isValidUTF8
  simp only [load, present, content, decoded, Bool.not_true, Bool.false_eq_true, if_false]
  cases ofText text.toList <;> rfl

/-- What was saved is loaded with its floats read again. -/
theorem load_save {tree after : FileTree} (sound : tree.Sound) {dir : Path} {c : HostConfig}
    (saved : c.save tree dir = .ok after) : load after dir = .ok c.reread := by
  obtain ⟨made, text, created, written, put⟩ := save_ok saved
  have content := FileTree.read_write (sound.createDirectories created) put
  rw [load_of_content content, String.toList_ofList, ofText_text written]
  rfl

/-- A configuration comes back as it was where no float is lost. -/
theorem reread_eq_self_iff (c : HostConfig) :
    c.reread = c ↔ ¬ c.graphics.resScale.IsLost ∧ ¬ c.graphics.maxAnisotropy.IsLost := by
  -- each float is its own question, the rest is never changed
  rw [← Binary32.reread_eq_self_iff, ← Binary32.reread_eq_self_iff]
  constructor
  · intro same
    have scale := congrArg (fun c => c.graphics.resScale) same
    have anisotropy := congrArg (fun c => c.graphics.maxAnisotropy) same
    exact ⟨scale, anisotropy⟩
  · rintro ⟨scale, anisotropy⟩
    unfold reread GraphicsConfig.reread
    rw [scale, anisotropy]

/-- What was saved is loaded with its floats read again, and so it is what was saved unless a float
is lost to a neighbour. -/
theorem load_of_save {tree after : FileTree} (sound : tree.Sound) {dir : Path} {c : HostConfig}
    (saved : c.save tree dir = .ok after) :
    load after dir = .ok c.reread ∧
      (load after dir = .ok c ↔
        ¬ c.graphics.resScale.IsLost ∧ ¬ c.graphics.maxAnisotropy.IsLost) := by
  have loaded := load_save sound saved
  refine ⟨loaded, ?_⟩
  rw [loaded, Except.ok.injEq]
  exact reread_eq_self_iff c

/-- The defaults, but for a scale with these bits. -/
def scaled (bits : Nat) : HostConfig := { graphics := { resScale := .ofBits bits } }

/-- A configuration that writes is saved somewhere. -/
theorem exists_saved (bits : Nat) (writes : ((scaled bits).save {} "base").isOk = true) :
    ∃ after, (scaled bits).save {} "base" = .ok after := by
  cases saved : (scaled bits).save {} "base" with
  | error e =>
    rw [saved] at writes
    cases writes
  | ok after => exact ⟨after, rfl⟩

/-- The defaults, whose floats have even places, are loaded as they were saved. -/
theorem load_of_save_defaults : ∃ after, (scaled 0x3f800000).save {} "base" = .ok after ∧
    load after "base" = .ok (scaled 0x3f800000) := by
  obtain ⟨after, saved⟩ := exists_saved 0x3f800000 (by decide +kernel)
  have sound : ({} : FileTree).Sound := ⟨[], rfl⟩
  have scale : (scaled 0x3f800000).graphics.resScale = .finite false ⟨0x3f800000, by decide⟩ := by
    decide +kernel
  have anisotropy : (scaled 0x3f800000).graphics.maxAnisotropy =
      .finite true ⟨0x3f800000, by decide⟩ := by
    decide +kernel
  refine ⟨after, saved, (load_of_save sound saved).2.2 ⟨?_, ?_⟩⟩
  -- even places are never lost, so no search for neighbours is needed
  · rw [scale]
    exact Binary32.not_isLost_of_even (by decide)
  · rw [anisotropy]
    exact Binary32.not_isLost_of_even (by decide)

/-- A finite scale whose shortest decimal is nearest, in eight bytes, to the middle between this
scale and its neighbour. -/
theorem load_save_loses_scale :
    (scaled 0x15ae43fd).graphics.resScale.isFinite = true ∧
      (scaled 0x15ae43fd).graphics.maxAnisotropy.isFinite = true ∧
      ∃ after, (scaled 0x15ae43fd).save {} "base" = .ok after ∧
        load after "base" = .ok (scaled 0x15ae43fe) ∧ scaled 0x15ae43fe ≠ scaled 0x15ae43fd := by
  obtain ⟨after, saved⟩ := exists_saved 0x15ae43fd (by decide +kernel)
  have sound : ({} : FileTree).Sound := ⟨[], rfl⟩
  have changed : (scaled 0x15ae43fd).reread = scaled 0x15ae43fe := by decide +kernel
  refine ⟨by decide +kernel, by decide +kernel, after, saved, ?_, by decide +kernel⟩
  rw [load_save sound saved, changed]

end HostConfig

end EmuHost
