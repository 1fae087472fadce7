import EmuHost.Proofs.GraphicsStages

/-!
# What a table of procedures is checked for

Each backend requires some fields of the host's table (`Backend.requirements`). This file shows that
a table is accepted if it meets all of them and refused for the first that it does not meet, and
that nothing else in it matters. A renderer is asked for with accepted tables only, in the phase
that it belongs to.

## Key results

- `Capabilities.readExtensions_ok_iff`: which arrays of extension names can be read
- `Capabilities.ofInterop_accepts`, `Capabilities.ofInterop_rejects`: which tables are accepted
- `World.initializeRenderer_asks`, `World.initializeRenderer_quiet`: when the core is asked for a
  renderer
- `SessionCall.interop_checked`: all of this for a session in any state
-/

namespace EmuHost

/-! ## Extension names -/

/-- A string from the host as the bytes of a text. -/
def HostString.ofUtf8 (text : String) : HostString := ⟨text.toUTF8⟩

/-- The bytes of a text are decoded to it. -/
theorem HostString.decode_ofUtf8 (text : String) : (ofUtf8 text).decode = .ok text := by
  have read : String.fromUTF8? text.toUTF8 = some text := dif_pos text.isValidUTF8
  simp only [decode, ofUtf8, read]

/-- Only the bytes of a text are decoded to it. -/
theorem HostString.eq_of_decode {s : HostString} {text : String} (decoded : s.decode = .ok text) :
    s = ofUtf8 text := by
  obtain ⟨bytes⟩ := s
  unfold decode at decoded
  by_cases valid : bytes.IsValidUTF8
  · have read : String.fromUTF8? bytes = some ⟨bytes, valid⟩ := dif_pos valid
    rw [read] at decoded
    cases decoded
    rfl
  · have unread : String.fromUTF8? bytes = none := dif_neg valid
    simp [unread] at decoded

namespace Capabilities

/-- Texts are read to themselves. -/
theorem readExtensions_map (index : Nat) (names : List String) :
    readExtensions index (names.map fun name => some (.ofUtf8 name)) = .ok names := by
  -- on the names, from any index: the index is for the lines of the log only
  induction names generalizing index with
  | nil => rfl
  | cons name names ih =>
    simp only [List.map_cons, readExtensions, HostString.decode_ofUtf8, ih]
    rfl

/-- And only texts are read. -/
theorem eq_of_readExtensions {index : Nat} {entries : List (Option HostString)}
    {names : List String} (read : readExtensions index entries = .ok names) :
    entries = names.map fun name => some (.ofUtf8 name) := by
  induction entries generalizing index names with
  | nil =>
    cases read
    rfl
  | cons entry rest ih =>
    cases entry with
    | none => simp [readExtensions] at read
    | some name =>
      cases decoded : name.decode with
      | error defect => simp [readExtensions, decoded] at read
      | ok text =>
        -- the rest is read as well, to all names but the first
        cases others : readExtensions (index + 1) rest with
        | error line => simp [readExtensions, decoded, others, Except.map] at read
        | ok tail =>
          simp only [readExtensions, decoded, others, Except.map, Except.ok.injEq] at read
          rw [← read, List.map_cons, ← ih others, HostString.eq_of_decode decoded]

/-- An array is read if each entry is there and is a text, and what is read are these texts. -/
theorem readExtensions_ok_iff (index : Nat) (entries : List (Option HostString))
    (names : List String) :
    readExtensions index entries = .ok names ↔
      entries = names.map fun name => some (.ofUtf8 name) := by
  constructor
  · exact eq_of_readExtensions
  · rintro rfl
    exact readExtensions_map index names

end Capabilities

/-! ## Requirements -/

/-- The fields that a backend requires, in the order in which they are checked. -/
def Backend.requirements : Backend → List InteropField
  | .vulkan => [.vkContextLoader, .vkCreateSurface, .vkExtensionCount, .vkExtensions]
  | .openGl => [.glGetProcAddress]

example : Backend.vulkan.requirements.map InteropField.name =
    ["vk_native_context_loader", "vk_create_surface", "vk_required_extensions_count",
      "vk_required_extensions"] := rfl

namespace InteropTable

/-- The entries of the array that count, if there is an array. -/
def counted? (table : InteropTable) : Option (List (Option HostString)) :=
  table.vkExtensions.map (·.take table.vkExtensionCount.toNat)

/-- An array that is as long as it says counts as a whole. -/
theorem counted?_eq {table : InteropTable} (exact : ∀ entries, table.vkExtensions = some entries →
    (entries.length : Int) = table.vkExtensionCount) : table.counted? = table.vkExtensions := by
  unfold counted?
  cases present : table.vkExtensions with
  | none => rfl
  | some entries =>
    have length := exact entries present
    rw [Option.map_some, List.take_of_length_le (by omega)]

/-- Whether a table has what a field asks for: the procedure, a positive count, or an array in which
each entry that counts is there and is a text. -/
def Meets (table : InteropTable) : InteropField → Prop
  | .glGetProcAddress => table.glGetProcAddress = true
  | .vkContextLoader => table.vkContextLoader = true
  | .vkCreateSurface => table.vkCreateSurface = true
  | .vkExtensionCount => 0 < table.vkExtensionCount
  | .vkExtensions => ∃ entries, table.counted? = some entries ∧
      ∀ entry ∈ entries, ∃ name, entry = some (.ofUtf8 name)

/-- Whether these are the capabilities that a table gives to a backend. For Vulkan they name all the
entries that count, in their order. -/
def Gives (table : InteropTable) : Backend → Capabilities → Prop
  | .vulkan, capabilities => ∃ names, capabilities = .vulkan names ∧
      table.counted? = some (names.map fun name => some (.ofUtf8 name))
  | .openGl, capabilities => capabilities = .openGl

/-- Entries that are all texts are the texts of some names. -/
theorem exists_names {entries : List (Option HostString)}
    (texts : ∀ entry ∈ entries, ∃ name, entry = some (.ofUtf8 name)) :
    ∃ names : List String, entries = names.map fun name => some (.ofUtf8 name) := by
  induction entries with
  | nil => exact ⟨[], rfl⟩
  | cons entry rest ih =>
    obtain ⟨⟨name, rfl⟩, others⟩ := List.forall_mem_cons.mp texts
    obtain ⟨names, rfl⟩ := ih others
    exact ⟨name :: names, rfl⟩

/-- An array of texts meets its requirement. -/
theorem meets_of_counted? {table : InteropTable} {names : List String}
    (counted : table.counted? = some (names.map fun name => some (.ofUtf8 name))) :
    table.Meets .vkExtensions := by
  refine ⟨_, counted, ?_⟩
  intro entry mem
  obtain ⟨name, -, rfl⟩ := List.mem_map.mp mem
  exact ⟨name, rfl⟩

/-- A table gives a backend one set of capabilities only. -/
theorem Gives.unique {table : InteropTable} {backend : Backend} {one other : Capabilities}
    (gives : table.Gives backend one) (also : table.Gives backend other) : one = other := by
  cases backend with
  | openGl => exact gives.trans also.symm
  | vulkan =>
    obtain ⟨names, rfl, counted⟩ := gives
    obtain ⟨others, rfl, same⟩ := also
    rw [counted, Option.some.injEq] at same
    -- what is read of the array is both lists of names
    have read := Capabilities.readExtensions_map 0 names
    rw [same, Capabilities.readExtensions_map, Except.ok.injEq] at read
    rw [read]

end InteropTable

namespace Capabilities

variable {backend : Backend} {table : InteropTable}

/-- A table that meets all requirements of a backend is accepted, and nothing is logged. -/
theorem ofInterop_accepts (met : ∀ field ∈ backend.requirements, table.Meets field) :
    ∃ capabilities, ofInterop backend table = ([], .ok capabilities) ∧
      table.Gives backend capabilities := by
  cases backend with
  | openGl =>
    have resolver : table.glGetProcAddress = true := met .glGetProcAddress (by decide)
    exact ⟨.openGl, by simp [ofInterop, resolver], rfl⟩
  | vulkan =>
    have loader : table.vkContextLoader = true := met .vkContextLoader (by decide)
    have creator : table.vkCreateSurface = true := met .vkCreateSurface (by decide)
    have count : ¬table.vkExtensionCount ≤ 0 := Int.not_le.mpr (met .vkExtensionCount (by decide))
    -- the array is long enough, and the names in it are texts
    obtain ⟨entries, counted, texts⟩ := met .vkExtensions (by decide)
    obtain ⟨names, rfl⟩ := InteropTable.exists_names texts
    refine ⟨.vulkan names, ?_, names, rfl, counted⟩
    obtain ⟨array, present, first⟩ := Option.map_eq_some_iff.mp counted
    simp [ofInterop, loader, creator, count, present, first, readExtensions_map]

/-- With the other three requirements met, an array that cannot be read is what is missing. -/
theorem ofInterop_of_unread (loader : table.Meets .vkContextLoader)
    (creator : table.Meets .vkCreateSurface) (count : table.Meets .vkExtensionCount)
    (unread : ¬table.Meets .vkExtensions) :
    (ofInterop .vulkan table).2 = .error (.interopMissing .vulkan .vkExtensions) := by
  have loader : table.vkContextLoader = true := loader
  have creator : table.vkCreateSurface = true := creator
  have count : ¬table.vkExtensionCount ≤ 0 := Int.not_le.mpr count
  cases present : table.vkExtensions with
  | none => simp [ofInterop, loader, creator, count, present]
  | some entries =>
    -- all before the array is in order, so what is wrong is in the names
    cases read : readExtensions 0 (entries.take table.vkExtensionCount.toNat) with
    | ok names =>
      have texts := (readExtensions_ok_iff _ _ _).mp read
      have counted : table.counted? = some (names.map fun name => some (.ofUtf8 name)) := by
        rw [InteropTable.counted?, present, Option.map_some, texts]
      exact absurd (InteropTable.meets_of_counted? counted) unread
    | error line => simp [ofInterop, loader, creator, count, present, read]

/-- A table that does not is refused for the first requirement that it does not meet. -/
theorem ofInterop_rejects (unmet : ¬∀ field ∈ backend.requirements, table.Meets field) :
    ∃ met field rest, backend.requirements = met ++ field :: rest ∧
      (∀ other ∈ met, table.Meets other) ∧ ¬table.Meets field ∧
      (ofInterop backend table).2 = .error (.interopMissing backend field) := by
  cases backend with
  | openGl =>
    have resolver : ¬table.Meets .glGetProcAddress := by simpa [Backend.requirements] using unmet
    refine ⟨[], .glGetProcAddress, [], rfl, by simp, resolver, ?_⟩
    have absent : ¬table.glGetProcAddress = true := resolver
    simp [ofInterop, absent]
  | vulkan =>
    -- the requirements are looked at one after the other
    by_cases loader : table.Meets .vkContextLoader
    · by_cases creator : table.Meets .vkCreateSurface
      · by_cases count : table.Meets .vkExtensionCount
        · have unread : ¬table.Meets .vkExtensions := by
            intro names
            exact unmet (by simp [Backend.requirements, loader, creator, count, names])
          refine ⟨[.vkContextLoader, .vkCreateSurface, .vkExtensionCount], .vkExtensions, [], rfl,
            by simp [loader, creator, count], unread, ?_⟩
          exact ofInterop_of_unread loader creator count unread
        · refine ⟨[.vkContextLoader, .vkCreateSurface], .vkExtensionCount, _, rfl,
            by simp [loader, creator], count, ?_⟩
          have loader : table.vkContextLoader = true := loader
          have creator : table.vkCreateSurface = true := creator
          have count : table.vkExtensionCount ≤ 0 := Int.not_lt.mp count
          simp [ofInterop, loader, creator, count]
      · refine ⟨[.vkContextLoader], .vkCreateSurface, _, rfl, by simp [loader], creator, ?_⟩
        have loader : table.vkContextLoader = true := loader
        have creator : ¬table.vkCreateSurface = true := creator
        simp [ofInterop, loader, creator]
    · refine ⟨[], .vkContextLoader, _, rfl, by simp, loader, ?_⟩
      have loader : ¬table.vkContextLoader = true := loader
      simp [ofInterop, loader]

end Capabilities

/-! ## Asking for a renderer -/

/-- What follows when a renderer was asked for: one that is made but crashes over a question is
dropped. -/
def CoreScript.aftermath {κ : Type} (s : CoreScript κ) (backend : Backend) : List Event :=
  if s.rendererReply = .success then
    (s.renderer backend).questionCrash?.toList.map fun _ => .rendererDropped
  else []

/-- What a table gives is for its backend. -/
theorem InteropTable.Gives.backend_eq {table : InteropTable} {backend : Backend}
    {capabilities : Capabilities} (gives : table.Gives backend capabilities) :
    capabilities.backend = backend := by
  cases backend with
  | vulkan =>
    obtain ⟨_, rfl, -⟩ := gives
    rfl
  | openGl =>
    cases gives
    rfl

namespace World

variable {κ : Type} (w : World κ)

/-- A renderer is dropped at once if it crashes over a question. -/
theorem takeOver_events (c : GraphicsConfig) (renderer : Renderer κ) :
    (w.takeOver c renderer).1.events =
      w.events ++ renderer.questionCrash?.toList.map fun _ => .rendererDropped := by
  rw [takeOver, Renderer.questionCrash?]
  cases renderer.ceilingCrash with
  | some crash => exact w.events_record _
  | none =>
    cases renderer.threadingCrash with
    | some crash => exact (events_record ..).trans (congrArg (· ++ _) (w.events_log _))
    | none => exact (w.events_onGraphics _).trans (List.append_nil _).symm

/-- With a configuration that was accepted, the core is asked for a renderer once. -/
theorem createRenderer_events {c : GraphicsConfig} (configured : w.graphics.phase = .configured)
    (requested : w.graphics.requested = some c) (capabilities : Capabilities) :
    ∃ probes, (w.createRenderer capabilities).1.events = w.events ++
      .createRenderer capabilities c probes :: w.core.aftermath capabilities.backend := by
  let probes := w.core.probeAnswers capabilities.backend
  have asked : (w.record (.createRenderer capabilities c probes)).events =
      w.events ++ [.createRenderer capabilities c probes] := w.events_record _
  refine ⟨probes, ?_⟩
  rw [List.append_cons, ← asked]
  simp only [createRenderer, configured, requested]
  have silent (failing : w.core.rendererReply ≠ .success) :
      w.core.aftermath capabilities.backend = [] := if_neg failing
  -- whatever the core replies, it was asked
  split
  · rename_i crash reply
    rw [silent (CoreReply.ne_success_of_crash reply), List.append_nil]
  · rename_i chain reply
    rw [silent (CoreReply.ne_success_of_failure reply), List.append_nil]
    exact events_log ..
  · rename_i reply
    have made : w.core.rendererReply = .success := reply
    rw [CoreScript.aftermath, if_pos made]
    exact takeOver_events ..

/-- In its phase, and with a table that is accepted, the core is asked for a renderer with what the
table gives and with the configuration that was accepted. -/
theorem initializeRenderer_asks {c : GraphicsConfig} (configured : w.graphics.phase = .configured)
    (requested : w.graphics.requested = some c) {backend : Backend} {table : InteropTable}
    (met : ∀ field ∈ backend.requirements, table.Meets field) :
    ∃ capabilities probes, table.Gives backend capabilities ∧
      (w.initializeRenderer backend table).1.events = w.events ++
        .createRenderer capabilities c probes :: w.core.aftermath backend := by
  obtain ⟨capabilities, accepted, gives⟩ := Capabilities.ofInterop_accepts met
  obtain ⟨probes, asked⟩ := (w.log []).createRenderer_events configured requested capabilities
  refine ⟨capabilities, probes, gives, ?_⟩
  rw [log_nil, gives.backend_eq] at asked
  simpa [initializeRenderer, configured, accepted, log_nil] using asked

/-- Otherwise the core is not called at all. -/
theorem initializeRenderer_quiet {backend : Backend} {table : InteropTable}
    (unfit : ¬(w.graphics.phase = .configured ∧
      ∀ field ∈ backend.requirements, table.Meets field)) :
    (w.initializeRenderer backend table).1.events = w.events := by
  unfold initializeRenderer
  -- out of its phase the call does not get as far as the table
  by_cases configured : w.graphics.phase = .configured
  · have unmet : ¬∀ field ∈ backend.requirements, table.Meets field :=
      fun met => unfit ⟨configured, met⟩
    obtain ⟨_, field, _, _, _, _, refused⟩ := Capabilities.ofInterop_rejects unmet
    simp only [configured, ne_eq, not_true_eq_false, if_false]
    split
    · exact w.events_log _
    · rename_i accepted
      simp [accepted] at refused
  · rw [if_pos configured]
    exact w.events_onGraphics _

end World

/-! ## What is checked -/

/-- How a table is checked for a backend: for the requirements, and for nothing else. -/
structure Capabilities.ChecksRequirements (backend : Backend) (table : InteropTable) : Prop where
  accepts : (∀ field ∈ backend.requirements, table.Meets field) →
    ∃ capabilities, ofInterop backend table = ([], .ok capabilities) ∧
      table.Gives backend capabilities
  /-- The error names the first requirement that is not met. -/
  rejects : (¬∀ field ∈ backend.requirements, table.Meets field) →
    ∃ met field rest, backend.requirements = met ++ field :: rest ∧
      (∀ other ∈ met, table.Meets other) ∧ ¬table.Meets field ∧
      (ofInterop backend table).2 = .error (.interopMissing backend field)
  /-- An array that is as long as it says is looked at as a whole. -/
  whole : (∀ entries, table.vkExtensions = some entries →
    (entries.length : Int) = table.vkExtensionCount) → table.counted? = table.vkExtensions
  /-- For Vulkan it does not matter whether there is a resolver for OpenGL. -/
  vulkan : backend = .vulkan → ∀ glGetProcAddress,
    ofInterop backend { table with glGetProcAddress } = ofInterop backend table
  /-- For OpenGL nothing else matters. -/
  openGl : backend = .openGl → ∀ other : InteropTable,
    other.glGetProcAddress = table.glGetProcAddress →
    ofInterop backend other = ofInterop backend table

/-- When a session that was asked for a renderer asks the core for it. -/
structure AsksForRenderer (w after : World SessionCall) (backend : Backend)
    (table : InteropTable) : Prop where
  asks : w.graphics.phase = .configured → (∀ field ∈ backend.requirements, table.Meets field) →
    ∃ c capabilities probes, w.graphics.requested = some c ∧ table.Gives backend capabilities ∧
      after.events = w.events ++
        .createRenderer capabilities c probes :: w.core.aftermath backend
  quiet : ¬(w.graphics.phase = .configured ∧
    ∀ field ∈ backend.requirements, table.Meets field) → after.events = w.events

/-- The check of a table, in each of its respects. -/
theorem Capabilities.checksRequirements (backend : Backend) (table : InteropTable) :
    ChecksRequirements backend table where
  accepts := ofInterop_accepts
  rejects := ofInterop_rejects
  whole := InteropTable.counted?_eq
  vulkan := by
    rintro rfl glGetProcAddress
    rfl
  openGl := by
    rintro rfl other same
    simp only [ofInterop, same]

namespace SessionCall

/-- A configuration is accepted before the phase that a renderer is made in. -/
theorem exists_requested {w : World SessionCall} (reached : Reached w)
    (configured : w.graphics.phase = .configured) : ∃ c, w.graphics.requested = some c := by
  have parts := (staged_of_reached reached).parts
  rw [configured] at parts
  have requested : w.graphics.requested.isSome = true := congrArg GraphicsParts.requested parts
  exact Option.isSome_iff_exists.mp requested

/-- A table is checked for what its backend requires, and in every state of a session the core is
asked for a renderer if the phase is the one for it and the table is accepted. -/
theorem interop_checked (backend : Backend) (table : InteropTable) :
    Capabilities.ChecksRequirements backend table ∧
      ∀ w name, Reached w →
        AsksForRenderer w (perform w (.host name (.initializeRenderer backend table))).1
          backend table := by
  refine ⟨Capabilities.checksRequirements backend table, ?_⟩
  intro w name reached
  have after : (perform w (.host name (.initializeRenderer backend table))).1 =
      (w.initializeRenderer backend table).1 := World.answering_fst ..
  rw [after]
  constructor
  case asks =>
    intro configured met
    obtain ⟨c, requested⟩ := exists_requested reached configured
    obtain ⟨capabilities, probes, gives, asked⟩ :=
      w.initializeRenderer_asks configured requested met
    exact ⟨c, capabilities, probes, requested, gives, asked⟩
  case quiet => exact w.initializeRenderer_quiet

end SessionCall

/-- A table for Vulkan with two extension names, one of them empty. -/
def InteropTable.windowed : InteropTable where
  vkContextLoader := true
  vkCreateSurface := true
  vkExtensions := some [some (.ofUtf8 "VK_KHR_surface"), some (.ofUtf8 "")]
  vkExtensionCount := 2

/-- The array is counted as far as it goes. -/
theorem InteropTable.windowed_counted? : windowed.counted? =
    some (["VK_KHR_surface", ""].map fun name => some (.ofUtf8 name)) := rfl

/-- So the table has all that Vulkan asks for. -/
theorem InteropTable.windowed_meets :
    ∀ field ∈ Backend.vulkan.requirements, windowed.Meets field := by
  simp only [Backend.requirements, List.forall_mem_cons]
  have count : (0 : Int) < 2 := by decide
  exact ⟨rfl, rfl, count, meets_of_counted? windowed_counted?, List.forall_mem_nil _⟩

namespace SessionCall

/-- A session that has been configured hands both names on to the core, in their order. -/
theorem interop_checked_windowed :
    ∃ w, Reached w ∧ w.graphics.phase = .configured ∧
      (∀ field ∈ Backend.vulkan.requirements, InteropTable.windowed.Meets field) ∧
      ∃ c probes, (perform w (.host "graphics_initialize_renderer"
          (.initializeRenderer .vulkan .windowed))).1.events =
        w.events ++ [.createRenderer (.vulkan ["VK_KHR_surface", ""]) c probes] := by
  let opened : World SessionCall := { config := {}, router := {} }
  let w := (perform opened (.host "graphics_initialize" (.configureGraphics {}))).1
  have reached : Reached w :=
    .performed (.opened (show World.ofConfig {} {} = .ok opened from rfl)) _
  have configured : w.graphics.phase = .configured := by decide
  have met := InteropTable.windowed_meets
  refine ⟨w, reached, configured, met, ?_⟩
  have checked := (interop_checked .vulkan .windowed).2 w "graphics_initialize_renderer" reached
  obtain ⟨c, capabilities, probes, -, gives, asked⟩ := checked.asks configured met
  obtain rfl := gives.unique ⟨_, rfl, InteropTable.windowed_counted?⟩
  exact ⟨c, probes, asked⟩

end SessionCall

end EmuHost
