import EmuHost.Entry.Embedding

/-!
# Opening the session of a process

A host that could not boot the session of its process may put things right and boot again. Whether
that works depends on the core that was registered. Most failures leave it where it is: there is no
directory, or nothing was registered to begin with. But a configuration is only found not to fit the
device when the core is in use already, and then the core is lost with the session.

## Key results

- `Embedding.boot_ends`: how a boot ends, by the configuration that it finds and the registration
- `Embedding.reboot_iff`: when a boot succeeds after others have failed
-/

namespace EmuHost

/-- Whether a configuration fits the device: it asks for controllers, but not for too many. -/
def HostConfig.Fits (c : HostConfig) : Prop := 0 < c.maxControllers ∧ c.maxControllers ≤ slotCount

/-- The bytes of a text are that text. -/
theorem HostString.text?_utf8 (s : String) : HostString.text? ⟨s.toUTF8⟩ = some s :=
  dif_pos s.isValidUTF8

namespace Surroundings

variable (s : Surroundings EmbeddingCall)

/-- The configuration that a boot finds, if there is a directory to look for it. -/
def configFor? (path : Option HostString) : Option HostConfig :=
  (basePath s.home path).toOption.map fun dir => (Embedding.loadConfig s dir).2

/-- Whether a boot finds a configuration that fits the device. -/
def Suits (path : Option HostString) : Prop := ∃ c, s.configFor? path = some c ∧ c.Fits

/-- Whether a boot finds a configuration that does not fit the device. -/
def Misfits (path : Option HostString) : Prop := ∃ c, s.configFor? path = some c ∧ ¬c.Fits

variable {s} {t : Surroundings EmbeddingCall}

/-- Lines that are logged in two goes are logged in their order. -/
theorem log_log (s : Surroundings EmbeddingCall) (lines more : List LogLine) :
    (s.log lines).log more = s.log (lines ++ more) := by
  simp only [log, List.map_append, List.append_assoc]

/-- Only the files and the home directory matter. -/
theorem configFor?_congr (files : t.files = s.files) (home : t.home = s.home)
    (path : Option HostString) : t.configFor? path = s.configFor? path := by
  have same (dir : Path) : Embedding.loadConfig t dir = Embedding.loadConfig s dir := by
    rw [Embedding.loadConfig, files, Embedding.loadConfig]
  simp only [configFor?, home, same]

end Surroundings

namespace World

variable {κ : Type} {s : Surroundings κ} {c : HostConfig}

/-- A fitting configuration opens a session. -/
theorem ofConfig_fits (fits : c.Fits) : ∃ w, ofConfig s c = .ok w := by
  have supported : 0 < c.maxControllers ∧ c.maxControllers ≤ slotCount := fits
  rw [ofConfig, Router.ofMaxControllers, dif_pos supported]
  exact ⟨_, rfl⟩

/-- Any other one is refused for the number of its controllers, and for nothing else. -/
theorem ofConfig_misfit (misfit : ¬c.Fits) :
    ofConfig s c = .error (.configuration (.controllerCount c.maxControllers)) := by
  have unsupported : ¬(0 < c.maxControllers ∧ c.maxControllers ≤ slotCount) := misfit
  rw [ofConfig, Router.ofMaxControllers, dif_neg unsupported]

end World

namespace Embedding

variable {s : Surroundings EmbeddingCall} {isRegistered : Bool} {path : Option HostString}

/-! ## One boot -/

/-- How a boot ends. -/
inductive BootEnd (s : Surroundings EmbeddingCall) (isRegistered : Bool)
    (path : Option HostString) : Embedding × Answer → Prop where
  /-- Nothing is touched where there is no core, or no directory for it. -/
  | refused (missing : isRegistered = true → s.configFor? path = none) (lines : List LogLine) :
      BootEnd s isRegistered path (.waiting (s.log lines) isRegistered, .flag false)
  /-- The core is in use when the configuration is found not to fit. -/
  | lost (registered : isRegistered = true) (misfits : s.Misfits path)
      (before after : List LogLine) :
      BootEnd s isRegistered path
        (.waiting (((s.log before).record .coreDropped).log after) false, .flag false)
  | opened (registered : isRegistered = true) {c : HostConfig} (found : s.configFor? path = some c)
      (fits : c.Fits) (before after : List LogLine) {w : World EmbeddingCall}
      (opens : World.ofConfig (s.log before) c = .ok w) :
      BootEnd s isRegistered path (.booted (w.log after), .flag true)

/-- Every boot ends in one of these ways. -/
theorem boot_ends (s : Surroundings EmbeddingCall) (isRegistered : Bool)
    (path : Option HostString) : BootEnd s isRegistered path (boot s isRegistered path) := by
  -- in the order in which a boot goes on: the directory, the configuration, the core, the session
  cases place : basePath s.home path with
  | error e =>
    have missing : s.configFor? path = none := by rw [Surroundings.configFor?, place]; rfl
    rw [boot, place]
    exact .refused (fun _ => missing) _
  | ok dir =>
    have found : s.configFor? path = some (loadConfig s dir).2 := by
      rw [Surroundings.configFor?, place]
      rfl
    rw [boot, place]
    dsimp only
    generalize loadConfig s dir = loaded at found ⊢
    obtain ⟨lines, config⟩ := loaded
    cases isRegistered with
    | false =>
      show BootEnd s false path (bootFailed (s.log lines) false (.device (.bootstrap .noCore)))
      rw [bootFailed, s.log_log]
      refine .refused ?_ _
      rintro ⟨⟩
    | true =>
      by_cases fits : config.Fits
      · obtain ⟨w, opens⟩ := World.ofConfig_fits (s := s.log lines) fits
        simp only [Bool.not_true, Bool.false_eq_true, if_false, opens]
        exact .opened rfl found fits lines _ opens
      · simp only [Bool.not_true, Bool.false_eq_true, if_false, World.ofConfig_misfit fits]
        exact .lost rfl ⟨config, found, fits⟩ lines _

/-- A boot succeeds with a registered core and a configuration that fits. -/
theorem boot_succeeds_iff :
    (boot s isRegistered path).2 = .flag true ↔ isRegistered = true ∧ s.Suits path := by
  have ends := boot_ends s isRegistered path
  generalize boot s isRegistered path = outcome at ends ⊢
  cases ends with
  | refused missing lines =>
    refine ⟨by rintro ⟨⟩, ?_⟩
    rintro ⟨registered, c, found, -⟩
    cases (missing registered).symm.trans found
  | lost registered misfits before after =>
    refine ⟨by rintro ⟨⟩, ?_⟩
    rintro ⟨-, c, found, fits⟩
    obtain ⟨d, also, misfit⟩ := misfits
    cases also.symm.trans found
    exact absurd fits misfit
  | opened registered found fits before after opens =>
    exact ⟨fun _ => ⟨registered, _, found, fits⟩, fun _ => rfl⟩

/-- A boot that finds a misfit fails, and leaves no core, registered before or not. -/
theorem boot_of_misfits (isRegistered : Bool) (misfits : s.Misfits path) :
    ∃ t, boot s isRegistered path = (.waiting t false, .flag false) := by
  have ends := boot_ends s isRegistered path
  generalize boot s isRegistered path = outcome at ends ⊢
  obtain ⟨c, found, misfit⟩ := misfits
  cases ends with
  | refused missing lines =>
    cases isRegistered with
    | false => exact ⟨_, rfl⟩
    | true => cases (missing rfl).symm.trans found
  | lost registered misfits before after => exact ⟨_, rfl⟩
  | opened registered also fits before after opens =>
    -- there is one configuration at a path, which cannot fit and not fit
    cases also.symm.trans found
    exact absurd fits misfit

/-! ## A configuration that does not fit -/

/-- The text of a configuration that asks for more controllers than there can be. -/
def crowdedText : String := "[input]\nmax_controllers = 9\n"

/-- A directory with that configuration, and one without any. -/
def crowded : Surroundings EmbeddingCall where
  files :=
    { root := .directory
        [("bad", .directory [("config.toml", .file crowdedText.toUTF8)]), ("good", .directory [])] }

/-- A name as the host passes it. -/
def named (name : String) : Option HostString := some ⟨name.toUTF8⟩

/-- A directory that is named explicitly is looked into wherever the home is. -/
theorem configFor?_named (s : Surroundings EmbeddingCall) (dir : String) :
    s.configFor? (named dir) = some (loadConfig s dir).2 := by
  rw [Surroundings.configFor?, named, basePath]
  simp only [HostString.text?_utf8]
  rfl

/-- The crowded configuration does not fit. -/
theorem crowded_misfits : crowded.Misfits (named "bad") := by
  have present : crowded.files.contains (HostConfig.path "bad") = true := by decide +kernel
  have content : crowded.files.read (HostConfig.path "bad") = .ok crowdedText.toUTF8 := by rfl
  have text : String.fromUTF8? crowdedText.toUTF8 = some crowdedText :=
    HostString.text?_utf8 crowdedText
  have asks : (HostConfig.ofText crowdedText.toList).toOption.map (·.maxControllers) = some 9 := by
    decide +kernel
  refine ⟨_, configFor?_named crowded "bad", ?_⟩
  rw [loadConfig, HostConfig.load, present, content]
  simp only [text]
  -- it parses, since it is known what it asks for
  cases parsed : HostConfig.ofText crowdedText.toList with
  | error e =>
    rw [parsed] at asks
    cases asks
  | ok c =>
    rw [parsed] at asks
    have nine : c.maxControllers = 9 := Option.some.inj asks
    rintro ⟨-, few⟩
    have few : c.maxControllers ≤ slotCount := few
    rw [nine] at few
    exact absurd few (by decide)

/-- Where there is no configuration the defaults are taken, which fit. -/
theorem crowded_suits : crowded.Suits (named "good") := by
  have missing : crowded.files.contains (HostConfig.path "good") = false := by decide +kernel
  refine ⟨_, configFor?_named crowded "good", ?_⟩
  rw [loadConfig, HostConfig.load, missing]
  exact ⟨by decide, by decide⟩

/-! ## One boot after the other -/

/-- The process after calls. -/
def after (p : Embedding) : List EmbeddingCall → Embedding
  | [] => p
  | call :: calls => (p.perform call).1.after calls

/-- Whether all boots among calls fail. -/
def BootsFail (p : Embedding) : List EmbeddingCall → Prop
  | [] => True
  | call :: calls =>
    (∀ path, call = .boot path → (p.perform call).2 = .flag false) ∧
      (p.perform call).1.BootsFail calls

/-- What a call may leave of a process that goes on waiting. -/
structure Waits (s : Surroundings EmbeddingCall) (isRegistered : Bool) (call : EmbeddingCall)
    (t : Surroundings EmbeddingCall) (still : Bool) : Prop where
  files : t.files = s.files
  home : t.home = s.home
  registered : still = true ↔
    call = .registerCore ∨ isRegistered = true ∧ ∀ path, call = .boot path → ¬s.Misfits path

/-- Most calls have nothing to do with the core. -/
theorem Waits.of_other {t : Surroundings EmbeddingCall} {call : EmbeddingCall}
    (files : t.files = s.files) (home : t.home = s.home)
    (other : (call matches .registerCore | .boot _) = false) :
    Waits s isRegistered call t isRegistered := by
  refine ⟨files, home, fun registered => .inr ⟨registered, ?_⟩, ?_⟩
  · rintro path rfl
    cases other
  · rintro (rfl | ⟨registered, -⟩)
    · cases other
    · exact registered

/-- A failed boot leaves the process waiting. -/
theorem boot_waits (failed : (boot s isRegistered path).2 = .flag false) :
    ∃ t still, (boot s isRegistered path).1 = .waiting t still ∧
      Waits s isRegistered (.boot path) t still := by
  have ends := boot_ends s isRegistered path
  generalize boot s isRegistered path = outcome at ends failed ⊢
  cases ends with
  | refused missing lines =>
    refine ⟨_, _, rfl, rfl, rfl, fun registered => .inr ⟨registered, ?_⟩, ?_⟩
    · -- a registered core is only left alone if there is no configuration at all
      rintro _ ⟨⟩ ⟨c, found, -⟩
      cases (missing registered).symm.trans found
    · rintro (⟨⟨⟩⟩ | ⟨registered, -⟩)
      exact registered
  | lost registered misfits before after =>
    refine ⟨_, _, rfl, rfl, rfl, nofun, ?_⟩
    rintro (⟨⟨⟩⟩ | ⟨-, fitting⟩)
    exact absurd misfits (fitting path rfl)
  | opened => cases failed

/-- No call but a successful boot ends the waiting. -/
theorem perform_waiting (s : Surroundings EmbeddingCall) (isRegistered : Bool)
    (call : EmbeddingCall)
    (unopened : ∀ path, call = .boot path →
      ((waiting s isRegistered).perform call).2 = .flag false) :
    ∃ t still, ((waiting s isRegistered).perform call).1 = .waiting t still ∧
      Waits s isRegistered call t still := by
  cases call with
  | boot path => exact boot_waits (unopened path rfl)
  | registerCore =>
    refine ⟨_, _, rfl, ?_, ?_, fun _ => .inl rfl, fun _ => rfl⟩
    · split <;> rfl
    · split <;> rfl
  | entry f => exact ⟨_, _, rfl, .of_other rfl rfl rfl⟩
  | defaultBasePath => exact ⟨_, _, rfl, .of_other rfl rfl rfl⟩
  | startLog filter => exact ⟨_, _, rfl, .of_other rfl rfl rfl⟩
  | state => exact ⟨_, _, rfl, .of_other rfl rfl rfl⟩
  | script change => exact ⟨_, _, rfl, .of_other rfl rfl rfl⟩

/-- After failed boots the process waits as before. Its core is there unless a boot has found a
configuration that does not fit. -/
theorem after_failed_boots (s : Surroundings EmbeddingCall) (isRegistered : Bool)
    (calls : List EmbeddingCall) (fail : (waiting s isRegistered).BootsFail calls) :
    ∃ t still, (waiting s isRegistered).after calls = .waiting t still ∧ t.files = s.files ∧
      t.home = s.home ∧ (.registerCore ∉ calls →
        (still = true ↔ isRegistered = true ∧ ∀ path, .boot path ∈ calls → ¬s.Misfits path)) := by
  -- on the calls: each one leaves a waiting process, for which the rest holds again
  induction calls generalizing s isRegistered with
  | nil =>
    refine ⟨s, isRegistered, rfl, rfl, rfl, fun _ => ⟨fun registered => ⟨registered, ?_⟩, And.left⟩⟩
    exact fun _ none => nomatch none
  | cons call calls ih =>
    obtain ⟨now, later⟩ := fail
    obtain ⟨t, between, goes, waits⟩ := perform_waiting s isRegistered call now
    rw [goes] at later
    obtain ⟨u, still, came, files, home, kept⟩ := ih t between later
    refine ⟨u, still, ?_, files.trans waits.files, home.trans waits.home, fun unaided => ?_⟩
    · rw [after, goes, came]
    · rw [List.mem_cons, not_or] at unaided
      obtain ⟨other, others⟩ := unaided
      -- the files are still the same, so what did not fit then does not fit now
      have same (path : Option HostString) : t.Misfits path ↔ s.Misfits path := by
        rw [Surroundings.Misfits, Surroundings.configFor?_congr waits.files waits.home,
          Surroundings.Misfits]
      rw [kept others, waits.registered]
      simp only [same, List.mem_cons, or_imp, forall_and]
      constructor
      · rintro ⟨registers | ⟨registered, first⟩, rest⟩
        · exact absurd registers.symm other
        · exact ⟨registered, fun path is => first path is.symm, rest⟩
      · rintro ⟨registered, first, rest⟩
        exact ⟨.inr ⟨registered, fun path is => first path is.symm⟩, rest⟩

/-- A host can boot again after boots that have failed, with whatever it has put right in the
files: it succeeds with a configuration that fits, as long as the core is there that was registered
before. The core is gone if one of the failed boots has found a configuration that does not fit. -/
theorem reboot_iff (s : Surroundings EmbeddingCall) (isRegistered : Bool)
    (calls : List EmbeddingCall) (fail : (waiting s isRegistered).BootsFail calls)
    (unaided : .registerCore ∉ calls) :
    ∃ t still, (waiting s isRegistered).after calls = .waiting t still ∧ t.home = s.home ∧
      (still = true ↔ isRegistered = true ∧ ∀ path, .boot path ∈ calls → ¬s.Misfits path) ∧
      ∀ (files : FileTree) (path : Option HostString),
        ((waiting { t with files } still).perform (.boot path)).2 = .flag true ↔
          still = true ∧ Surroundings.Suits { t with files } path := by
  obtain ⟨t, still, came, -, home, kept⟩ := after_failed_boots s isRegistered calls fail
  exact ⟨t, still, came, home, kept unaided, fun _ _ => boot_succeeds_iff⟩

/-- A boot that found no directory is put right. -/
theorem reboot_after_missing_directory :
    (waiting crowded true).BootsFail [.boot none] ∧
      ∃ t, (waiting crowded true).after [.boot none] = .waiting t true ∧
        ((waiting { t with files := crowded.files } true).perform (.boot (named "good"))).2 =
          .flag true := by
  have fail : (waiting crowded true).BootsFail [.boot none] := ⟨fun _ _ => rfl, trivial⟩
  -- the hypotheses are those of the theorem, so only the core is left to look after
  have unaided : EmbeddingCall.registerCore ∉ [EmbeddingCall.boot none] := by
    rw [List.mem_singleton]
    rintro ⟨⟩
  obtain ⟨t, still, came, home, kept, again⟩ := reboot_iff crowded true _ fail unaided
  have registered : still = true := by
    refine kept.mpr ⟨rfl, fun path booted => ?_⟩
    rw [List.mem_singleton] at booted
    cases booted
    rintro ⟨c, found, -⟩
    cases found
  obtain ⟨c, found, fits⟩ := crowded_suits
  have same := Surroundings.configFor?_congr (s := crowded) (t := { t with files := crowded.files })
    rfl home (named "good")
  have suits : Surroundings.Suits { t with files := crowded.files } (named "good") :=
    ⟨c, same.trans found, fits⟩
  have succeeds := (again crowded.files (named "good")).mpr ⟨registered, suits⟩
  rw [registered] at came succeeds
  exact ⟨fail, t, came, succeeds⟩

/-- A failed boot that cannot be retried: the core was lost with the configuration that did not
fit, so the next boot fails although nothing is wrong any more. -/
theorem reboot_fails_after_misfit :
    ((waiting crowded true).perform (.boot (named "bad"))).2 = .flag false ∧
      crowded.Suits (named "good") ∧
      (((waiting crowded true).after [.boot (named "bad")]).perform (.boot (named "good"))).2 ≠
        .flag true := by
  obtain ⟨t, fails⟩ := boot_of_misfits true crowded_misfits
  have failed : (waiting crowded true).perform (.boot (named "bad")) =
      (.waiting t false, .flag false) := fails
  refine ⟨by rw [failed], crowded_suits, fun again => ?_⟩
  rw [after, failed] at again
  exact absurd (boot_succeeds_iff.mp again).1 (by decide)

end Embedding

end EmuHost
