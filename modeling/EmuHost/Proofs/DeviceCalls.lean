import EmuHost.Proofs.RenderCalls

/-!
# The operations on the device context

Two operations of a session work on the device context in the core: its creation and the load of an
application. This file says what each of them calls and what it leaves behind, by the answers of
the core. Whatever happens, the device context and the journal are all that changes
(`World.TouchesDevice`).

## Key results

- `World.replaceDevice_effect`: how room is made for a new device context
- `World.initializeDevice_effect`, `World.load_effect`: the ways in which the two operations can go
-/

namespace EmuHost

/-- A core that has crashed has not succeeded. -/
theorem CoreReply.ne_success_of_crash {reply : CoreReply} {c : Crash} (crashed : reply = .crash c) :
    reply ≠ .success := by
  rw [crashed]
  rintro ⟨⟩

/-- Neither has a core that has failed. -/
theorem CoreReply.ne_success_of_failure {reply : CoreReply} {chain : CauseChain}
    (failed : reply = .failure chain) : reply ≠ .success := by
  rw [failed]
  rintro ⟨⟩

namespace World

variable {κ : Type} (w : World κ)

/-! ## What is touched -/

/-- All that has changed are the device context, as far as the session keeps track of it, and the
journal, which notes the calls `calls` behind the earlier ones. -/
structure TouchesDevice (calls : List Event) (device : DeviceState) (v : World κ) : Prop where
  same : v = { w with journal := v.journal, device }
  events : v.events = w.events ++ calls

namespace TouchesDevice

variable {w} {v : World κ} {calls : List Event} {device : DeviceState}

theorem refl (w : World κ) : w.TouchesDevice [] w.device w := ⟨rfl, (List.append_nil _).symm⟩

/-- Lines may be logged in between. -/
theorem log (touches : w.TouchesDevice calls device v) (lines : List LogLine) :
    w.TouchesDevice calls device (v.log lines) := by
  obtain ⟨same, events⟩ := touches
  refine ⟨?_, by rw [events_log, events]⟩
  rw [same]
  rfl

/-- A call that is noted is one more call. -/
theorem record (touches : w.TouchesDevice calls device v) (e : Event) :
    w.TouchesDevice (calls ++ [e]) device (v.record e) := by
  obtain ⟨same, events⟩ := touches
  refine ⟨?_, by rw [events_record, events, List.append_assoc]⟩
  rw [same]
  rfl

/-- The state of the device may be set, and nothing else is touched by that. -/
theorem withDevice (touches : w.TouchesDevice calls device v) (other : DeviceState) :
    w.TouchesDevice calls other { v with device := other } := by
  obtain ⟨same, events⟩ := touches
  refine ⟨?_, events⟩
  rw [same]

/-- The device context is the only part of the session that is another one. -/
theorem device_eq (touches : w.TouchesDevice calls device v) : v.device = device := by
  rw [touches.same]

/-- The script of the core stays. -/
theorem core_eq (touches : w.TouchesDevice calls device v) : v.core = w.core := by
  rw [touches.same]

end TouchesDevice

/-! ## Creation -/

/-- The calls that make room for a new device context. -/
def replacement : List Event := if w.device.options.isSome then [.disposeDevice] else []

/-- What the session knows of the device context once there is room. -/
def clearedDevice : DeviceState := if w.device.options.isSome then {} else w.device

/-- How room is made for a new device context. -/
inductive ReplaceEffect (outcome : World κ × Except Failure Unit) : Prop where
  | cleared (disposes : w.device.options.isSome = true → w.core.disposalCrash = none)
      (touches : w.TouchesDevice w.replacement w.clearedDevice outcome.1)
      (done : outcome.2 = .ok ())
  /-- The core crashes over the disposal. The application is not forgotten then. -/
  | undisposed (c : Crash) (live : w.device.options.isSome = true)
      (crashes : w.core.disposalCrash = some c)
      (touches : w.TouchesDevice [.disposeDevice] { w.device with options := none } outcome.1)
      (failed : outcome.2 = .error (.crash c))

/-- An old context is given up before a new one is made. -/
theorem replaceDevice_effect : w.ReplaceEffect w.replaceDevice := by
  by_cases live : w.device.options.isSome = true
  · let line : LogLine := .info "Replacing existing device context"
    -- the options are taken out first, so a crash over the disposal leaves none behind
    have asked : w.TouchesDevice [.disposeDevice] { w.device with options := none }
        (({ w with device.options := none }.log [line]).record .disposeDevice) :=
      (((TouchesDevice.refl w).withDevice _).log _).record .disposeDevice
    simp only [replaceDevice, if_pos live]
    split
    · rename_i c crashes
      exact .undisposed c live crashes asked rfl
    · rename_i disposes
      refine .cleared (fun _ => disposes) ?_ rfl
      rw [replacement, clearedDevice, if_pos live, if_pos live]
      exact asked.withDevice {}
  · rw [replaceDevice, if_neg live]
    refine .cleared (fun is => absurd is live) ?_ rfl
    rw [replacement, clearedDevice, if_neg live, if_neg live]
    exact .refl w

/-- How the creation of a device context goes. -/
inductive InitializeEffect (options : DeviceOptions) (outcome : World κ × Except Failure Unit) :
    Prop where
  | refused (unready : w.deviceContext? = none)
      (same : outcome.1 = w.log [w.graphics.refusalLine .deviceInitialize])
      (failed : outcome.2 = .error (.error (.device .rendererNotReady)))
  /-- The core crashes over the disposal of the old context, and is not asked for a new one. -/
  | undisposed (c : Crash) (ready : w.deviceContext?.isSome = true)
      (live : w.device.options.isSome = true) (crashes : w.core.disposalCrash = some c)
      (touches : w.TouchesDevice [.disposeDevice] { w.device with options := none } outcome.1)
      (failed : outcome.2 = .error (.crash c))
  /-- The core is asked once there is room, but makes no context. -/
  | uncreated (context : DeviceContext) (ready : w.deviceContext? = some context)
      (disposes : w.device.options.isSome = true → w.core.disposalCrash = none)
      (reply : w.core.deviceReply ≠ .success)
      (touches : w.TouchesDevice (w.replacement ++ [.createDevice options context])
        w.clearedDevice outcome.1)
      (failed : ∃ f, outcome.2 = .error f ∧
        ∀ e, f = .error e → ∃ chain, e = .device (.core chain))
  | created (context : DeviceContext) (ready : w.deviceContext? = some context)
      (disposes : w.device.options.isSome = true → w.core.disposalCrash = none)
      (reply : w.core.deviceReply = .success)
      (touches : w.TouchesDevice (w.replacement ++ [.createDevice options context])
        { w.clearedDevice with options := some options } outcome.1)
      (succeeded : outcome.2 = .ok ())

variable {w} in
/-- The core is asked for a device context by a session that has made room for it. -/
theorem createDevice_effect {v : World κ} (touches : w.TouchesDevice w.replacement w.clearedDevice v)
    {context : DeviceContext} (ready : w.deviceContext? = some context)
    (disposes : w.device.options.isSome = true → w.core.disposalCrash = none)
    (options : DeviceOptions) : w.InitializeEffect options (v.createDevice options context) := by
  have asked := touches.record (.createDevice options context)
  have script : (v.record (.createDevice options context)).core.deviceReply = w.core.deviceReply :=
    congrArg CoreScript.deviceReply asked.core_eq
  simp only [createDevice, script]
  -- the old context is gone by now, whatever the core replies
  split
  · rename_i c reply
    have unmade := CoreReply.ne_success_of_crash reply
    refine .uncreated context ready disposes unmade asked ⟨_, rfl, ?_⟩
    rintro _ ⟨⟩
  · rename_i chain reply
    have unmade := CoreReply.ne_success_of_failure reply
    refine .uncreated context ready disposes unmade asked ⟨_, rfl, ?_⟩
    rintro _ ⟨⟩
    exact ⟨chain, rfl⟩
  · rename_i reply
    have created := asked.withDevice { w.clearedDevice with options := some options }
    rw [← asked.device_eq] at created
    exact .created context ready disposes reply (asked.device_eq ▸ created.log _) rfl

/-- What an initialization comes to, by how far it gets. -/
theorem initializeDevice_effect (options : DeviceOptions) :
    w.InitializeEffect options (w.initializeDevice options) := by
  cases ready : w.deviceContext? with
  | none =>
    simp only [initializeDevice, ready]
    exact .refused ready rfl rfl
  | some context =>
    simp only [initializeDevice, ready]
    -- either there is room for the new context now, or the disposal of the old one has crashed
    have replaced := w.replaceDevice_effect
    generalize w.replaceDevice = outcome at replaced ⊢
    obtain ⟨v, result⟩ := outcome
    cases replaced with
    | cleared disposes touches done =>
      cases done
      exact createDevice_effect touches ready disposes options
    | undisposed c live crashes touches failed =>
      cases failed
      exact .undisposed c (by rw [ready]; rfl) live crashes touches rfl

/-! ## Loads -/

/-- How the load of an application goes. -/
inductive LoadEffect (path : Path) (outcome : World κ × Except Failure Application) : Prop where
  | refused (missing : w.device.options = none) (same : outcome.1 = w)
      (failed : outcome.2 = .error (.error (.device .notInitialized)))
  /-- The path holds no application, or cannot be looked into. -/
  | undetected (e : DeviceError) (live : w.device.options.isSome = true)
      (detected : Application.detect w.files path = .error e)
      (disposes : w.core.disposalCrash = none)
      (touches : w.TouchesDevice [.disposeDevice] {} outcome.1)
      (failed : outcome.2 = .error (.error (.device e)))
  | failed (a : Application) (chain : CauseChain) (live : w.device.options.isSome = true)
      (reply : w.core.loadReply = .failure chain) (disposes : w.core.disposalCrash = none)
      (touches : w.TouchesDevice [.load a, .disposeDevice] {} outcome.1)
      (failed : outcome.2 = .error (.error (.device (.core chain))))
  /-- The load has failed in one of these ways, and the core crashes over the disposal. -/
  | undisposed (asked : Option Application) (c : Crash) (live : w.device.options.isSome = true)
      (fails : ∀ a, asked = some a → ∃ chain, w.core.loadReply = .failure chain)
      (crashes : w.core.disposalCrash = some c)
      (touches : w.TouchesDevice (asked.toList.map .load ++ [.disposeDevice]) w.device outcome.1)
      (failed : outcome.2 = .error (.crash c))
  | crashed (a : Application) (c : Crash) (live : w.device.options.isSome = true)
      (reply : w.core.loadReply = .crash c)
      (touches : w.TouchesDevice [.load a] w.device outcome.1)
      (failed : outcome.2 = .error (.crash c))
  | loaded (a : Application) (detected : Application.detect w.files path = .ok a)
      (live : w.device.options.isSome = true) (reply : w.core.loadReply = .success)
      (touches : w.TouchesDevice [.load a] { w.device with loaded := some a } outcome.1)
      (succeeded : outcome.2 = .ok a)

variable {w} in
/-- A load that fails is over with the disposal, whether that goes well or not. -/
theorem abandonLoad_cases {v : World κ} {calls : List Event}
    (touches : w.TouchesDevice calls w.device v) (path : Path) (e : DeviceError) :
    (w.core.disposalCrash = none ∧
      w.TouchesDevice (calls ++ [.disposeDevice]) {} (v.abandonLoad path e).1 ∧
      (v.abandonLoad path e).2 = .error (.error (.device e))) ∨
    ∃ c, w.core.disposalCrash = some c ∧
      w.TouchesDevice (calls ++ [.disposeDevice]) w.device (v.abandonLoad path e).1 ∧
      (v.abandonLoad path e).2 = .error (.crash c) := by
  let line : LogLine := .error ("Failed to load " ++ path ++ ": " ++ e.message)
  have asked := (touches.log [line]).record .disposeDevice
  have script : ((v.log [line]).record .disposeDevice).core.disposalCrash = w.core.disposalCrash :=
    congrArg CoreScript.disposalCrash asked.core_eq
  -- the script is still the same at the disposal
  simp only [abandonLoad, line] at script asked ⊢
  simp only [script]
  cases crashes : w.core.disposalCrash with
  | none => exact .inl ⟨rfl, asked.withDevice {}, rfl⟩
  | some c => exact .inr ⟨c, rfl, asked, rfl⟩

/-- What a load comes to, by how far it gets. -/
theorem load_effect (path : Path) : w.LoadEffect path (w.load path) := by
  by_cases missing : w.device.options.isNone = true
  · rw [load, if_pos missing]
    exact .refused (Option.isNone_iff_eq_none.mp missing) rfl rfl
  · rw [load, if_neg missing]
    rw [Bool.not_eq_true, Option.isNone_eq_false_iff] at missing
    -- the path is looked at before the core is asked
    cases detected : Application.detect w.files path with
    | error e =>
      obtain ⟨disposes, touches, failed⟩ | ⟨c, crashes, touches, failed⟩ :=
        abandonLoad_cases (TouchesDevice.refl w) path e
      · exact .undetected e missing detected disposes touches failed
      · exact .undisposed none c missing (by rintro _ ⟨⟩) crashes touches failed
    | ok a =>
      have asked := (TouchesDevice.refl w).record (.load a)
      simp only
      -- only an error of the core gives the context up, a crash does not
      split
      · rename_i c reply
        exact .crashed a c missing reply asked rfl
      · rename_i chain reply
        have unloaded : w.core.loadReply = .failure chain := reply
        obtain ⟨disposes, touches, failed⟩ | ⟨c, crashes, touches, failed⟩ :=
          abandonLoad_cases asked path (.core chain)
        · exact .failed a chain missing reply disposes touches failed
        · exact .undisposed (some a) c missing (fun _ _ => ⟨chain, unloaded⟩) crashes touches failed
      · rename_i reply
        have loaded := asked.withDevice { w.device with loaded := some a }
        exact .loaded a detected missing reply (loaded.log _) rfl

end World

end EmuHost
