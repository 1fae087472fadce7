import EmuHost.Proofs.GivenSettings
import EmuHost.Proofs.SavedConfiguration

/-!
# Configuration files that name some settings

A configuration file gives some settings and leaves the others at their defaults. Which keys there
are, and of which kind their values have to be, is written down once more as data
(`HostConfig.kinds`), and so is each default (`HostConfig.overDefaults`): what is loaded is compared
with both. Keys and sections may come in any order, and unknown ones do not matter.

## Key results

- `HostConfig.ofTable_wellTyped`, `HostConfig.ofTable_breaks`: what a document is read as
- `HostConfig.load_partial`: what is loaded from a directory
-/

namespace EmuHost

open Toml

/-! ## Sections -/

/-- A section with one setting. -/
def GivenRecord.single {α : Type} [Setting α] [GivenSetting α] (key : String) : GivenRecord α where
  fields := [.of key id fun v _ => v]
  distinct := List.nodup_singleton _
  commute := List.pairwise_singleton _ _

/-- A record of one field is settled by what is given for it. -/
theorem GivenRecord.single_settle {α : Type} [Setting α] [GivenSetting α] (key : String)
    (table : Table) (start : α) : (single key).settle table start = table.given key start :=
  GivenField.settle_of (fun _ => rfl) table start

namespace DeviceOptions

/-- The keys on the device and the kinds of their values. -/
def kinds : List (String × Kind) :=
  [("host_mapped", .flag), ("use_nce", .flag),
    ("system_language", .name (SystemLanguage.all.map SystemLanguage.name)),
    ("region", .name (RegionCode.all.map RegionCode.name)), ("enable_vsync", .flag),
    ("docked_mode", .flag), ("enable_ptc", .flag), ("enable_internet_access", .flag),
    ("time_zone", .text), ("ignore_missing_services", .flag)]

/-- The options that a table gives, and for the others their defaults. -/
def overDefaults (table : Table) : DeviceOptions where
  hostMapped := table.given "host_mapped" true
  useNce := table.given "use_nce" false
  systemLanguage := table.given "system_language" .americanEnglish
  region := table.given "region" .usa
  enableVsync := table.given "enable_vsync" true
  dockedMode := table.given "docked_mode" true
  enablePtc := table.given "enable_ptc" true
  enableInternetAccess := table.given "enable_internet_access" false
  timeZone := table.given "time_zone" "UTC"
  ignoreMissingServices := table.given "ignore_missing_services" false

def given : GivenRecord DeviceOptions where
  fields :=
    [.of "host_mapped" (·.hostMapped) fun v o => { o with hostMapped := v },
      .of "use_nce" (·.useNce) fun v o => { o with useNce := v },
      .of "system_language" (·.systemLanguage) fun v o => { o with systemLanguage := v },
      .of "region" (·.region) fun v o => { o with region := v },
      .of "enable_vsync" (·.enableVsync) fun v o => { o with enableVsync := v },
      .of "docked_mode" (·.dockedMode) fun v o => { o with dockedMode := v },
      .of "enable_ptc" (·.enablePtc) fun v o => { o with enablePtc := v },
      .of "enable_internet_access" (·.enableInternetAccess) fun v o =>
        { o with enableInternetAccess := v },
      .of "time_zone" (·.timeZone) fun v o => { o with timeZone := v },
      .of "ignore_missing_services" (·.ignoreMissingServices) fun v o =>
        { o with ignoreMissingServices := v }]
  distinct := by decide
  commute := by
    simp only [GivenField.of, List.pairwise_cons, List.forall_mem_cons, List.not_mem_nil,
      false_imp_iff, implies_true, List.Pairwise.nil, and_self]

/-- What is given for a device goes over its defaults. -/
theorem given_settle (table : Table) : given.settle table {} = overDefaults table := by
  simp (disch := exact fun _ => rfl) only [GivenRecord.settle, given, List.foldl_cons,
    List.foldl_nil, GivenField.settle_of]
  rfl

end DeviceOptions

namespace GraphicsConfig

/-- The keys on the graphics and the kinds of their values. -/
def kinds : List (String × Kind) :=
  [("res_scale", .measure), ("max_anisotropy", .measure), ("fast_gpu_time", .flag),
    ("fast_2d_copy", .flag), ("enable_macro_jit", .flag), ("enable_macro_hle", .flag),
    ("enable_shader_cache", .flag), ("enable_texture_recompression", .flag),
    ("backend_threading", .name (BackendThreading.all.map BackendThreading.name)),
    ("aspect_ratio", .name (AspectRatio.all.map AspectRatio.name))]

/-- The settings that a table gives, and for the others their defaults. -/
def overDefaults (table : Table) : GraphicsConfig where
  resScale := table.given "res_scale" (.ofInt 1)
  maxAnisotropy := table.given "max_anisotropy" (.ofInt (-1))
  fastGpuTime := table.given "fast_gpu_time" true
  fast2dCopy := table.given "fast_2d_copy" true
  enableMacroJit := table.given "enable_macro_jit" false
  enableMacroHle := table.given "enable_macro_hle" true
  enableShaderCache := table.given "enable_shader_cache" false
  enableTextureRecompression := table.given "enable_texture_recompression" false
  backendThreading := table.given "backend_threading" .auto
  aspectRatio := table.given "aspect_ratio" .fixed16x9

def given : GivenRecord GraphicsConfig where
  fields :=
    [.of "res_scale" (·.resScale) fun v c => { c with resScale := v },
      .of "max_anisotropy" (·.maxAnisotropy) fun v c => { c with maxAnisotropy := v },
      .of "fast_gpu_time" (·.fastGpuTime) fun v c => { c with fastGpuTime := v },
      .of "fast_2d_copy" (·.fast2dCopy) fun v c => { c with fast2dCopy := v },
      .of "enable_macro_jit" (·.enableMacroJit) fun v c => { c with enableMacroJit := v },
      .of "enable_macro_hle" (·.enableMacroHle) fun v c => { c with enableMacroHle := v },
      .of "enable_shader_cache" (·.enableShaderCache) fun v c =>
        { c with enableShaderCache := v },
      .of "enable_texture_recompression" (·.enableTextureRecompression) fun v c =>
        { c with enableTextureRecompression := v },
      .of "backend_threading" (·.backendThreading) fun v c => { c with backendThreading := v },
      .of "aspect_ratio" (·.aspectRatio) fun v c => { c with aspectRatio := v }]
  distinct := by decide
  commute := by
    simp only [GivenField.of, List.pairwise_cons, List.forall_mem_cons, List.not_mem_nil,
      false_imp_iff, implies_true, List.Pairwise.nil, and_self]

/-- What is given for the graphics goes over theirs. -/
theorem given_settle (table : Table) : given.settle table {} = overDefaults table := by
  simp (disch := exact fun _ => rfl) only [GivenRecord.settle, given, List.foldl_cons,
    List.foldl_nil, GivenField.settle_of]
  rfl

end GraphicsConfig

/-! ## Configurations -/

namespace HostConfig

/-- The sections with their keys and the kinds of their values. -/
def kinds : List (String × List (String × Kind)) :=
  [("logging", [("filter", .text)]), ("input", [("max_controllers", .count)]),
    ("device", DeviceOptions.kinds), ("graphics", GraphicsConfig.kinds)]

/-- The settings that the sections of a document give, and for the others their defaults. -/
def overDefaults (table : Table) : HostConfig where
  logFilter := (table.subtable "logging").given "filter" "info"
  maxControllers := (table.subtable "input").given "max_controllers" 4
  device := .overDefaults (table.subtable "device")
  graphics := .overDefaults (table.subtable "graphics")

/-- A document that gives nothing leaves all settings at their defaults. -/
theorem overDefaults_empty : overDefaults .empty = {} := rfl

def given : GivenRecord HostConfig where
  fields :=
    [.ofRecord "logging" "LoggingConfig" (.single "filter") ({} : HostConfig).logFilter
        (·.logFilter) fun v c => { c with logFilter := v },
      .ofRecord "input" "InputConfig" (.single "max_controllers")
        ({} : HostConfig).maxControllers (·.maxControllers) fun v c =>
          { c with maxControllers := v },
      .ofRecord "device" "DeviceOptions" DeviceOptions.given {} (·.device)
        fun v c => { c with device := v },
      .ofRecord "graphics" "GraphicsConfiguration" GraphicsConfig.given {} (·.graphics)
        fun v c => { c with graphics := v }]
  distinct := by decide
  commute := by
    simp only [GivenField.ofRecord, List.pairwise_cons, List.forall_mem_cons, List.not_mem_nil,
      false_imp_iff, implies_true, List.Pairwise.nil, and_self]

/-- The fields of a configuration are its sections. -/
theorem given_fields : given.fields.map (·.field) = sections := rfl

/-- The rules of a configuration are those of its sections. -/
theorem given_rules :
    given.rules = kinds.map fun part => Rule.ofTable part.1 (part.2.map Rule.ofKind) := rfl

/-- What is given for a configuration goes over its defaults, section by section. -/
theorem given_settle (table : Table) : given.settle table {} = overDefaults table := by
  -- a section that is absent is read as one that is empty, by the defaults of its record
  rw [overDefaults, ← GivenRecord.single_settle, ← GivenRecord.single_settle,
    ← DeviceOptions.given_settle, ← GraphicsConfig.given_settle, GivenRecord.settle_subtable _ rfl,
    GivenRecord.settle_subtable _ rfl, GivenRecord.settle_subtable _ rfl,
    GivenRecord.settle_subtable _ rfl, GivenRecord.settle, given]
  -- each field has one default
  simp (disch := exact fun _ => rfl) only [List.foldl_cons, List.foldl_nil,
    GivenField.settle_ofRecord]
  rfl

/-! ## Documents -/

/-- A document has tables under the names of sections, and values of their kinds under the keys in
these. -/
structure WellTyped (table : Table) : Prop where
  sections : ∀ part ∈ kinds, ∀ v, table.value? part.1 = some v →
    ∃ origin entries, v = .table origin entries
  settings : ∀ part ∈ kinds, ∀ k ∈ part.2, ∀ v,
    (table.subtable part.1).value? k.1 = some v → k.2.Accepts v

/-- Under a key in a section a document has a scalar of another kind. -/
def IllTyped (table : Table) : Prop :=
  ∃ part ∈ kinds, ∃ k ∈ part.2, ∃ v,
    (table.subtable part.1).value? k.1 = some v ∧ k.2.Refuses v

variable {table : Table}

/-- The section that stands under a name. -/
theorem WellTyped.exists_section (typed : WellTyped table) (distinct : table.Distinct)
    {part : String × List (String × Kind)} (among : part ∈ kinds) {v : Value}
    (found : table.value? part.1 = some v) :
    ∃ origin, ∃ entries : Table, v = .table origin entries ∧ (entries.map (·.1)).Nodup ∧
      ∀ k ∈ part.2, ∀ v, entries.value? k.1 = some v → k.2.Accepts v := by
  obtain ⟨origin, entries, rfl⟩ := typed.sections part among v found
  obtain ⟨span, held⟩ := Table.exists_of_value? found
  -- the tables in a document have distinct keys as well
  have inner : Table.Distinct entries := .of_table (distinct.values _ held)
  refine ⟨origin, entries, rfl, inner.keys, ?_⟩
  rw [← Table.subtable_of_value? found]
  exact typed.settings part among

/-- A table whose settings are of their kinds fits the rules. -/
theorem WellTyped.fits (typed : WellTyped table) (distinct : table.Distinct)
    (usable : table.IsUsable) : Rule.Fits given.rules table where
  unique := distinct.keys
  known rule among v found := by
    -- each rule is that of a section, which is a table with its own rules
    rw [given_rules] at among
    obtain ⟨part, known, rfl⟩ := List.mem_map.1 among
    obtain ⟨origin, entries, rfl, unique, accepts⟩ := typed.exists_section distinct known found
    obtain ⟨span, held⟩ := Table.exists_of_value? found
    have inner : entries.IsUsable := Value.isUsable_table.1 (usable _ held)
    exact ⟨origin, entries, rfl, Rule.fits_ofKind accepts unique inner⟩
  unknown entry among _ := usable entry among

/-- With a number in it that cannot be held it breaks them. -/
theorem WellTyped.breaks (typed : WellTyped table) (distinct : table.Distinct)
    (unusable : ¬ table.IsUsable) : Rule.Breaks given.rules table := by
  -- it stands in a section, whose rules it breaks, or under a key that is none
  refine Rule.breaks_of_unusable distinct.keys (fun rule among v found bad => ?_) unusable
  rw [given_rules] at among
  obtain ⟨part, known, rfl⟩ := List.mem_map.1 among
  obtain ⟨origin, entries, rfl, unique, accepts⟩ := typed.exists_section distinct known found
  have inner : ¬ entries.IsUsable := fun usable => bad (Value.isUsable_table.2 usable)
  exact ⟨origin, entries, rfl, Rule.breaks_ofKind accepts unique inner⟩

/-- A setting of another kind breaks the rules of its section, and so those of the configuration. -/
theorem IllTyped.breaks (typed : IllTyped table) : Rule.Breaks given.rules table := by
  obtain ⟨part, among, k, known, v, found, refuses⟩ := typed
  obtain ⟨origin, entries, there, held⟩ := Table.exists_of_subtable found
  have inner : Rule.Breaks (part.2.map Rule.ofKind) entries :=
    .known (List.mem_map_of_mem known) held refuses
  rw [given_rules]
  exact .known (List.mem_map_of_mem among) there ⟨origin, entries, rfl, inner⟩

/-- The given settings are taken over. -/
theorem ofTable_wellTyped (typed : WellTyped table) (distinct : table.Distinct)
    (usable : table.IsUsable) : ofTable table = .ok (overDefaults table) := by
  have read := GivenRecord.readTable_fits (typed.fits distinct usable) {}
  rw [given_fields, given_settle] at read
  exact read

/-- A table that breaks the rules is no configuration. -/
theorem ofTable_breaks (breaks : Rule.Breaks given.rules table) :
    ∃ e, ofTable table = .error e := by
  have read := GivenRecord.readTable_breaks breaks {}
  rw [given_fields] at read
  exact read

/-! ## Files -/

/-- A file with the text of a document is loaded as what the document is read as. -/
theorem load_of_parsed {tree : FileTree} {dir : Path} {text : String}
    (content : tree.read (path dir) = .ok text.toUTF8)
    (parsed : Toml.read text.toList = .ok table) :
    load tree dir =
      (ofTable table).mapError fun d => .malformed (path dir) (d.render text.toList) := by
  have whole : ofText text.toList = ofTable table := by
    show (do ofTable (← Toml.read text.toList)) = _
    rw [parsed]
    rfl
  rw [load_of_content content, whole]

/-- A directory without a configuration file stands for the defaults. A file that gives some
settings as values of their kinds stands for these and the defaults of the others, whatever else it
holds, unless it holds a number that cannot be held. If it gives any setting as a scalar of another
kind, nothing is loaded. -/
theorem load_partial (tree : FileTree) (dir : Path) :
    overDefaults .empty = {} ∧
      (tree.contains (path dir) = false → load tree dir = .ok {}) ∧
      ∀ (text : String) (table : Table), tree.read (path dir) = .ok text.toUTF8 →
        Toml.read text.toList = .ok table →
          (WellTyped table → table.IsUsable → load tree dir = .ok (overDefaults table)) ∧
            (WellTyped table ∧ ¬ table.IsUsable ∨ IllTyped table →
              ∃ description, load tree dir = .error (.malformed (path dir) description)) := by
  refine ⟨overDefaults_empty, fun missing => ?_, fun text table content parsed => ?_⟩
  · simp only [load, missing, Bool.not_false, if_true]
  · have distinct := distinct_of_read parsed
    -- the file has been read, so all depends on the table
    have loaded := load_of_parsed content parsed
    constructor
    · intro typed usable
      rw [loaded, ofTable_wellTyped typed distinct usable]
      rfl
    · intro wrong
      have breaks : Rule.Breaks given.rules table := by
        rcases wrong with ⟨typed, unusable⟩ | typed
        · exact typed.breaks distinct unusable
        · exact typed.breaks
      obtain ⟨e, failed⟩ := ofTable_breaks breaks
      rw [loaded, failed]
      exact ⟨_, rfl⟩

/-- A tree with one configuration file. -/
def holding (text : String) : FileTree where
  root := .directory [("base", .directory [(configFileName, .file text.toUTF8)])]

/-- The file is there with its text. -/
theorem read_holding (text : String) : (holding text).read (path "base") = .ok text.toUTF8 := by
  have leads : (holding text).place .look (path "base") = .ok ["base", configFileName] := by rfl
  simp only [FileTree.read, leads]
  rfl

/-- A text that gives two settings among unknown ones. -/
def sparseText : String :=
  "[spare]\n\n[graphics]\nres_scale = 2\n\n[device]\nshade = 3\nregion = \"Europe\"\n"

def sparseTable (spare graphics scale device shade region : Span) : Table :=
  [("spare", spare, .table .headed []),
    ("graphics", graphics, .table .headed [("res_scale", scale, .integer 2)]),
    ("device", device, .table .headed
      [("shade", shade, .integer 3), ("region", region, .string "Europe")])]

/-- The text is read as that table. -/
theorem exists_sparseTable :
    ∃ a b c d e f, Toml.read sparseText.toList = .ok (sparseTable a b c d e f) := by
  obtain ⟨table, read, held⟩ := @read_joined
    [⟨"spare", [], ⟨rfl⟩, List.nodup_nil⟩,
      ⟨"graphics",
        [⟨"res_scale", Nat.toDigits 10 2, .integer 2, ⟨rfl⟩, digits_denotes (by decide)⟩],
        ⟨rfl⟩, List.nodup_singleton _⟩,
      ⟨"device",
        [⟨"shade", Nat.toDigits 10 3, .integer 3, ⟨rfl⟩, digits_denotes (by decide)⟩,
          ⟨"region", quoted "Europe", .string "Europe", ⟨rfl⟩, quoted_denotes "Europe"⟩],
        ⟨rfl⟩, by decide⟩] (by decide)
  -- what is held is taken apart block by block, with the places of the entries left open
  obtain ⟨a, _, _, rfl, spare, others⟩ := Block.exists_of_holds held
  obtain ⟨b, _, _, rfl, graphics, last⟩ := Block.exists_of_holds others
  obtain ⟨c, _, rfl, noScale⟩ := EntryLine.exists_of_holds graphics
  obtain ⟨d, _, _, rfl, device, noBlock⟩ := Block.exists_of_holds last
  obtain ⟨e, _, rfl, region⟩ := EntryLine.exists_of_holds device
  obtain ⟨f, _, rfl, noLine⟩ := EntryLine.exists_of_holds region
  cases spare
  cases noScale
  cases noLine
  cases noBlock
  refine ⟨a, b, c, d, e, f, Eq.trans (congrArg Toml.read ?_) read⟩
  decide +kernel

/-- Its settings are of their kinds, and what is not known counts for nothing. -/
theorem sparseTable_wellTyped (a b c d e f : Span) : WellTyped (sparseTable a b c d e f) where
  sections := by
    simp [kinds, sparseTable, Table.value?, List.lookup_cons]
  settings := by
    simp only [kinds, DeviceOptions.kinds, GraphicsConfig.kinds, List.forall_mem_cons]
    simp [sparseTable, Table.subtable, Table.empty, Table.value?, List.lookup_cons, Value.entries,
      Kind.Accepts, RegionCode.all, RegionCode.name]

/-- It has no number that cannot be held. -/
theorem sparseTable_isUsable (a b c d e f : Span) : (sparseTable a b c d e f).IsUsable := by
  simp only [sparseTable, Table.IsUsable, List.forall_mem_cons, Value.isUsable_table]
  simp [← Value.unusable?_eq_none_iff ⟨0, 0⟩, Value.unusable?, Value.describe]

/-- A text that gives a scale as a whole number of more than eight bytes. Four bytes hold this scale
as a float without rounding. -/
def wideText : String := "[graphics]\nres_scale = 18446744073709551616\n"

def wideTable (graphics scale : Span) : Table :=
  [("graphics", graphics, .table .headed [("res_scale", scale, .integer (2 ^ 64))])]

/-- The text is read as that table. -/
theorem exists_wideTable : ∃ a b, Toml.read wideText.toList = .ok (wideTable a b) := by
  obtain ⟨table, read, held⟩ := @read_joined
    [⟨"graphics",
      [⟨"res_scale", Nat.toDigits 10 (2 ^ 64), .integer (2 ^ 64), ⟨rfl⟩,
        digits_denotes (by decide)⟩],
      ⟨rfl⟩, List.nodup_singleton _⟩] (List.nodup_singleton _)
  obtain ⟨a, _, _, rfl, graphics, noBlock⟩ := Block.exists_of_holds held
  obtain ⟨b, _, rfl, noLine⟩ := EntryLine.exists_of_holds graphics
  cases noLine
  cases noBlock
  refine ⟨a, b, Eq.trans (congrArg Toml.read ?_) read⟩
  decide +kernel

/-- The number can be held. -/
theorem wideTable_isUsable (a b : Span) : (wideTable a b).IsUsable := by
  simp only [wideTable, Table.IsUsable, List.forall_mem_cons, Value.isUsable_table]
  simp [← Value.unusable?_eq_none_iff ⟨0, 0⟩, Value.unusable?, Value.describe]

/-- But it is too large for a measure. -/
theorem wideTable_illTyped (a b : Span) : IllTyped (wideTable a b) := by
  refine ⟨("graphics", GraphicsConfig.kinds), by simp [kinds], ("res_scale", .measure),
    by simp [GraphicsConfig.kinds], .integer (2 ^ 64), rfl, trivial, ?_⟩
  rintro ⟨-, small⟩
  exact absurd small (by decide)

/-- No file, a file that gives two settings, and one that gives a number of more than eight
bytes. -/
theorem load_partial_sparse :
    load {} "base" = .ok {} ∧
      load (holding sparseText) "base" =
        .ok { device := { region := .europe }, graphics := { resScale := .ofInt 2 } } ∧
      ∃ description,
        load (holding wideText) "base" = .error (.malformed (path "base") description) := by
  refine ⟨(load_partial {} "base").2.1 (by decide +kernel), ?_, ?_⟩
  · obtain ⟨a, b, c, d, e, f, parsed⟩ := exists_sparseTable
    exact ((load_partial (holding sparseText) "base").2.2 _ _ (read_holding _) parsed).1
      (sparseTable_wellTyped a b c d e f) (sparseTable_isUsable a b c d e f)
  · obtain ⟨a, b, parsed⟩ := exists_wideTable
    exact ((load_partial (holding wideText) "base").2.2 _ _ (read_holding _) parsed).2
      (.inr (wideTable_illTyped a b))

/-- A whole number is not enough for a float: with one of more than eight bytes nothing is loaded,
although the text is read and gives one setting only. -/
theorem load_refuses_wide_scale :
    ∃ table, (holding wideText).read (path "base") = .ok wideText.toUTF8 ∧
      Toml.read wideText.toList = .ok table ∧ table.IsUsable ∧
      table.map (·.1) = ["graphics"] ∧ (table.subtable "graphics").map (·.1) = ["res_scale"] ∧
      (table.subtable "graphics").value? "res_scale" = some (.integer (2 ^ 64)) ∧
      ∃ e, load (holding wideText) "base" = .error e := by
  obtain ⟨a, b, parsed⟩ := exists_wideTable
  obtain ⟨e, failed⟩ := ofTable_breaks (wideTable_illTyped a b).breaks
  refine ⟨wideTable a b, read_holding _, parsed, wideTable_isUsable a b, rfl, rfl, rfl, ?_⟩
  rw [load_of_parsed (read_holding _) parsed, failed]
  exact ⟨_, rfl⟩

end HostConfig

end EmuHost
