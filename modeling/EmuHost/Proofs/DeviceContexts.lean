import EmuHost.Proofs.SessionHistory

/-!
# Device contexts and what a session knows of them

The core tells nobody whether it has a device context; a session has to know it from the calls that
it made and from their replies. This file reads the context off these calls (`DeviceCall.next`), and
shows that the two fields in which the session keeps track of it never differ from that: no context
is created beside another one, none is disposed of twice, and none is lost, whatever the core
replies and wherever it crashes. The one exception is a core that crashes over a disposal
(`DeviceCall.DisposesWell`): what it has then, no session can know.

## Key results

- `World.initializeDevice_tracks`, `World.load_tracks`: the two operations on the device context
- `SessionCall.device_step`: so all that happens keeps calls to the device context in order
- `SessionCall.device_discipline`: the device contexts of a whole session
-/

namespace EmuHost

variable {κ : Type}

/-! ## Device contexts by the calls -/

/-- A device context that is live in the core. -/
structure CoreContext where
  /-- What it was created with. -/
  options : DeviceOptions
  /-- The application of the last load that went well. -/
  loaded : Option Application := none

/-- A call that concerns the device context, with the reply of the core. A disposal has nothing to
reply, but the core may crash over it. -/
inductive DeviceCall where
  | create (options : DeviceOptions) (context : DeviceContext) (reply : CoreReply)
  | load (a : Application) (reply : CoreReply)
  | dispose (crash : Option Crash)

/-- What a session should know of the device context. -/
def DeviceState.ofContext : Option CoreContext → DeviceState
  | none => {}
  | some live => { options := some live.options, loaded := live.loaded }

namespace DeviceCall

/-- The device context after a call. A creation or a load that fails or crashes makes nothing. -/
def next (live : Option CoreContext) : DeviceCall → Option CoreContext
  | create options _ .success => some { options }
  | load a .success => live.map fun context => { context with loaded := some a }
  | dispose _ => none
  | create .. | load .. => live

/-- Whether a call is in place: there is one context at most, and none is used that is not there. -/
def Allowed (live : Option CoreContext) : DeviceCall → Prop
  | create .. => live = none
  | load .. | dispose _ => live.isSome

/-- Whether each call is in place after the ones before it. -/
def Orderly (live : Option CoreContext) : List DeviceCall → Prop
  | [] => True
  | call :: calls => call.Allowed live ∧ Orderly (call.next live) calls

/-- The call as it is noted. -/
def event : DeviceCall → Event
  | create options context _ => .createDevice options context
  | load a _ => .load a
  | dispose _ => .disposeDevice

/-- Whether a call makes a device context. -/
def isCreation : DeviceCall → Bool
  | create _ _ .success => true
  | _ => false

/-- Whether a call ends a device context. -/
def isDisposal : DeviceCall → Bool
  | dispose _ => true
  | _ => false

/-- Whether the core crashes over the end of a device context. -/
def isLostDisposal : DeviceCall → Bool
  | dispose (some _) => true
  | _ => false

/-- Whether the core stands all disposals among some calls. -/
def DisposesWell (calls : List DeviceCall) : Prop := ∀ call ∈ calls, call.isLostDisposal = false

/-- The calls of two stretches are in order if those of the second are after the first. -/
theorem orderly_append {live : Option CoreContext} {first second : List DeviceCall}
    (begins : Orderly live first) (goes : Orderly (first.foldl next live) second) :
    Orderly live (first ++ second) := by
  induction first generalizing live with
  | nil => exact goes
  | cons call first ih => exact ⟨begins.1, ih begins.2 goes⟩

/-- Each context that is made is disposed of once, but for the one that is still live. -/
theorem orderly_count {live : Option CoreContext} {calls : List DeviceCall}
    (orderly : Orderly live calls) :
    live.toList.length + calls.countP isCreation =
      calls.countP isDisposal + (calls.foldl next live).toList.length := by
  induction calls generalizing live with
  | nil => exact Nat.add_comm ..
  | cons call calls ih =>
    obtain ⟨allowed, rest⟩ := orderly
    have counted := ih rest
    rw [List.countP_cons, List.countP_cons, List.foldl_cons]
    -- the balance of the one call; it is in place, so a creation finds nothing live
    have now : live.toList.length + (if call.isCreation then 1 else 0) =
        (if call.isDisposal then 1 else 0) + (call.next live).toList.length := by
      cases call with
      | create options context reply =>
        obtain rfl : live = none := allowed
        cases reply <;> rfl
      | load a reply =>
        obtain ⟨context, rfl⟩ := Option.isSome_iff_exists.mp allowed
        cases reply <;> rfl
      | dispose =>
        obtain ⟨context, rfl⟩ := Option.isSome_iff_exists.mp allowed
        rfl
    omega

/-- What the core is asked when a load is given up: to load, if anything was found, and then to
dispose of the context. -/
def abandonment (asked : Option Application) (reply : CoreReply) (crash : Option Crash) :
    List DeviceCall :=
  (asked.toList.map fun a => load a reply) ++ [dispose crash]

/-- A load that has failed leaves the context for the disposal. -/
theorem orderly_abandonment {asked : Option Application} {reply : CoreReply}
    (fails : ∀ a, asked = some a → ∃ chain, reply = .failure chain) (context : CoreContext)
    (crash : Option Crash) : Orderly (some context) (abandonment asked reply crash) := by
  cases asked with
  | none => exact ⟨rfl, trivial⟩
  | some a =>
    obtain ⟨chain, rfl⟩ := fails a rfl
    exact ⟨rfl, rfl, trivial⟩

/-- There is nothing else among these calls. -/
theorem mem_abandonment {call : DeviceCall} {asked : Option Application} {reply : CoreReply}
    {crash : Option Crash} (mem : call ∈ abandonment asked reply crash) :
    (∃ a, asked = some a ∧ call = load a reply) ∨ call = dispose crash := by
  obtain mem | mem := List.mem_append.mp mem
  · obtain ⟨a, asks, is⟩ := List.mem_map.mp mem
    exact .inl ⟨a, Option.mem_toList.mp asks, is.symm⟩
  · exact .inr (List.mem_singleton.mp mem)

end DeviceCall

open DeviceCall (Orderly DisposesWell)

/-- A call out of a session as a call that concerns the device context, with the reply that the core
has for it. -/
def Event.deviceCall? (core : CoreScript κ) : Event → Option DeviceCall
  | .createDevice options context => some (.create options context core.deviceReply)
  | .load a => some (.load a core.loadReply)
  | .disposeDevice => some (.dispose core.disposalCrash)
  | _ => none

/-- Other calls say nothing of the device context. -/
theorem Event.deviceCall?_eq_none (core : CoreScript κ) {e : Event}
    (other : e.isDeviceCall = false) : e.deviceCall? core = none := by
  cases e with
  | createDevice | disposeDevice | load => cases other
  | _ => rfl

/-- Nothing is lost between the calls as they are noted and the calls with their replies. -/
theorem DeviceCall.map_event (core : CoreScript κ) (events : List Event) :
    (events.filterMap (Event.deviceCall? core)).map event = events.filter Event.isDeviceCall := by
  -- only the three calls on the device context are kept, each with its reply
  induction events with
  | nil => rfl
  | cons e events ih =>
    rw [List.filterMap_cons, List.filter_cons]
    cases e with
    | createDevice | disposeDevice | load => exact congrArg (List.cons _) ih
    | _ => exact ih

/-- The options of the device context that a call asks for. -/
def HostCall.deviceOptions? (config : HostConfig) : HostCall → Option DeviceOptions
  | .initializeDevice options => some options
  | .initializeDeviceDefault => some config.device
  | _ => none

/-! ## The operations on the device context -/

namespace World

variable (w : World κ)

/-- A call that concerns the device context: it starts with the context that the session knows and
makes the calls `calls`, which are all in place, and all there for a reason. The session knows the
context after them. -/
structure TracksDevice (call : HostCall) (answer : Answer) (calls : List DeviceCall)
    (live : Option CoreContext) (v : World κ) : Prop where
  known : DisposesWell calls → v.device = .ofContext (calls.foldl DeviceCall.next live)
  orderly : Orderly live calls
  /-- A context is created only if it is asked for and there is a renderer that is not used up. -/
  created : ∀ options context reply, .create options context reply ∈ calls →
    call.deviceOptions? w.config = some options ∧
      (w.graphics.phase = .rendererReady ∨ w.graphics.phase = .running)
  /-- A context is disposed of only to make room for another one, or after a failed load. If the
  core crashes over that, the other one is not created, and the crash is all that the host hears
  of. -/
  disposed : ∀ crash, .dispose crash ∈ calls →
    (∃ options, call.deviceOptions? w.config = some options ∧
      ∃ creation, calls = .dispose crash :: creation ∧
        (crash = none → ∃ context reply, creation = [.create options context reply])) ∨
    ∃ path e, call = .load path ∧ answer = .failed (crash.elim (.error (.device e)) .crash) ∧
      ∀ a reply, .load a reply ∈ calls → ∃ chain, reply = .failure chain

variable {w} {v : World κ} {live : Option CoreContext}

/-- No calls, and the context stays. -/
theorem TracksDevice.idle {call : HostCall} {answer : Answer} (known : v.device = .ofContext live) :
    w.TracksDevice call answer [] live v :=
  ⟨fun _ => known, trivial, fun _ _ _ mem => absurd mem List.not_mem_nil,
    fun _ mem => absurd mem List.not_mem_nil⟩

/-- The settings of a context are there while there is a renderer that is not used up. -/
theorem ready_of_deviceContext? {context : DeviceContext}
    (ready : w.deviceContext? = some context) :
    w.graphics.phase = .rendererReady ∨ w.graphics.phase = .running := by
  simp only [deviceContext?] at ready
  split at ready
  · split at ready
    · assumption
    · cases ready
  · cases ready

variable (w v) in
/-- The calls on the device context that are noted behind those of a session. -/
def deviceCalls : List DeviceCall :=
  (v.events.drop w.events.length).filterMap (Event.deviceCall? w.core)

/-- They are those among the calls that are noted last. -/
theorem deviceCalls_eq {calls : List Event} (noted : v.events = w.events ++ calls) :
    w.deviceCalls v = calls.filterMap (Event.deviceCall? w.core) := by
  rw [deviceCalls, noted, List.drop_left]

/-- What the session believes in is there. -/
theorem live_of_known (known : w.device = .ofContext live) (believes : w.device.options.isSome) :
    ∃ context, live = some context := by
  cases live with
  | none =>
    rw [known] at believes
    cases believes
  | some context => exact ⟨context, rfl⟩

/-- Once there is room, the session believes in nothing. -/
theorem clearedDevice_eq (known : w.device = .ofContext live) : w.clearedDevice = {} := by
  rw [clearedDevice]
  split
  · rfl
  · rename_i missing
    cases live with
    | none => exact known
    | some context =>
      rw [known] at missing
      exact absurd rfl missing

/-- Room is made by a disposal, if there is something to dispose of. -/
theorem replacement_calls (known : w.device = .ofContext live)
    (disposes : w.device.options.isSome = true → w.core.disposalCrash = none) :
    w.replacement.filterMap (Event.deviceCall? w.core) =
      live.toList.map fun _ => .dispose none := by
  cases live with
  | none =>
    rw [replacement, known]
    rfl
  | some context =>
    have stands : w.core.disposalCrash = none := disposes (by rw [known]; rfl)
    rw [replacement, known]
    exact congrArg (fun crash => [DeviceCall.dispose crash]) stands

/-- The core is asked for a new context when there is none, and what is there then is up to its
reply alone. -/
theorem TracksDevice.of_creation (known : w.device = .ofContext live) {options : DeviceOptions}
    {call : HostCall} (asks : call.deviceOptions? w.config = some options) {answer : Answer}
    {context : DeviceContext} (ready : w.deviceContext? = some context)
    (disposes : w.device.options.isSome = true → w.core.disposalCrash = none)
    (events : v.events = w.events ++ (w.replacement ++ [.createDevice options context]))
    (device : v.device =
      .ofContext (DeviceCall.next none (.create options context w.core.deviceReply))) :
    w.TracksDevice call answer (w.deviceCalls v) live v := by
  have calls : w.deviceCalls v = (live.toList.map fun _ => .dispose none) ++
      [.create options context w.core.deviceReply] := by
    rw [deviceCalls_eq events, List.filterMap_append, replacement_calls known disposes]
    rfl
  have cleared :
      (live.toList.map fun _ => DeviceCall.dispose none).foldl DeviceCall.next live = none := by
    cases live <;> rfl
  rw [calls]
  refine ⟨fun _ => ?_, ?_, ?_, ?_⟩
  · rw [List.foldl_append, cleared]
    exact device
  · refine DeviceCall.orderly_append ?_ ?_
    · cases live with
      | none => trivial
      | some context => exact ⟨rfl, trivial⟩
    · rw [cleared]
      exact ⟨rfl, trivial⟩
  · intro options' context' reply mem
    obtain mem | mem := List.mem_append.mp mem
    · obtain ⟨_, _, is⟩ := List.mem_map.mp mem
      cases is
    · cases List.mem_singleton.mp mem
      exact ⟨asks, ready_of_deviceContext? ready⟩
  · -- nothing is disposed of unless something was live
    intro crash mem
    refine .inl ⟨options, asks, ?_⟩
    cases live with
    | none => cases List.mem_singleton.mp mem
    | some old =>
      obtain is | mem := List.mem_cons.mp mem
      · cases is
        exact ⟨_, rfl, fun _ => ⟨context, w.core.deviceReply, rfl⟩⟩
      · cases List.mem_singleton.mp mem

/-- The core crashes over the disposal before a creation. What it has then is not known. -/
theorem TracksDevice.of_unreplaced {options : DeviceOptions} {call : HostCall}
    (asks : call.deviceOptions? w.config = some options) {answer : Answer} {context : CoreContext}
    {crash : Crash} : w.TracksDevice call answer [.dispose (some crash)] (some context) v := by
  refine ⟨fun well => ?_, ⟨rfl, trivial⟩, fun _ _ _ mem => ?_, fun lost mem => ?_⟩
  · cases well _ (List.mem_singleton_self _)
  · cases List.mem_singleton.mp mem
  · cases List.mem_singleton.mp mem
    exact .inl ⟨options, asks, [], rfl, nofun⟩

/-- The creation of a device context, in all the ways that it can go. -/
theorem initializeDevice_tracks (known : w.device = .ofContext live) {options : DeviceOptions}
    {call : HostCall} (asks : call.deviceOptions? w.config = some options) (answer : Answer) :
    w.TracksDevice call answer (w.deviceCalls (w.initializeDevice options).1) live
      (w.initializeDevice options).1 := by
  -- one case for each way that a creation can go
  cases w.initializeDevice_effect options with
  | refused unready same failed =>
    have none : w.deviceCalls (w.initializeDevice options).1 = [] := by
      rw [same]
      exact deviceCalls_eq ((w.events_log _).trans (List.append_nil _).symm)
    rw [none, same]
    exact .idle known
  | undisposed c ready believes crashes touches failed =>
    obtain ⟨context, rfl⟩ := live_of_known known believes
    have calls : w.deviceCalls (w.initializeDevice options).1 = [.dispose (some c)] := by
      rw [deviceCalls_eq touches.events, ← crashes]
      rfl
    rw [calls]
    exact .of_unreplaced asks
  | uncreated context ready disposes reply touches failed =>
    refine .of_creation known asks ready disposes touches.events ?_
    rw [touches.device_eq, clearedDevice_eq known]
    cases replied : w.core.deviceReply with
    | success => exact absurd replied reply
    | failure | crash => rfl
  | created context ready disposes reply touches succeeded =>
    refine .of_creation known asks ready disposes touches.events ?_
    rw [touches.device_eq, clearedDevice_eq known, reply]
    rfl

/-- The result of an operation that has failed in words. -/
theorem answering_error {α : Type} {present : α → Answer} {outcome : World κ × Except Failure α}
    {f : Failure} (failed : outcome.2 = .error f) : (answering present outcome).2 = .failed f := by
  obtain ⟨v, _ | _⟩ := outcome
  · exact congrArg Answer.failed (Except.error.inj failed)
  · cases failed

/-- A load that is given up ends the context, unless the core crashes over the disposal: what it has
then is not known. -/
theorem TracksDevice.of_abandonment (asked : Option Application)
    (fails : ∀ a, asked = some a → ∃ chain, w.core.loadReply = .failure chain) (e : DeviceError)
    {path : Path} {answer : Answer}
    (failed : answer = .failed (w.core.disposalCrash.elim (.error (.device e)) .crash))
    (events : v.events = w.events ++ (asked.toList.map .load ++ [.disposeDevice]))
    (device : w.core.disposalCrash = none → v.device = {}) {context : CoreContext} :
    w.TracksDevice (.load path) answer (w.deviceCalls v) (some context) v := by
  have calls : w.deviceCalls v =
      DeviceCall.abandonment asked w.core.loadReply w.core.disposalCrash := by
    rw [deviceCalls_eq events]
    cases asked <;> rfl
  rw [calls]
  refine ⟨fun well => ?_, DeviceCall.orderly_abandonment fails context _, ?_, ?_⟩
  · -- the disposal is one of the calls that go well here
    have stands := well _ (List.mem_append_right _ (List.mem_singleton_self _))
    cases crashes : w.core.disposalCrash with
    | none =>
      rw [device crashes, DeviceCall.abandonment, List.foldl_append]
      rfl
    | some c =>
      rw [crashes] at stands
      cases stands
  · intro options new reply mem
    obtain ⟨_, _, is⟩ | is := DeviceCall.mem_abandonment mem
    · cases is
    · cases is
  · intro crash mem
    obtain rfl : crash = w.core.disposalCrash := by
      obtain ⟨_, _, is⟩ | is := DeviceCall.mem_abandonment mem
      · cases is
      · exact DeviceCall.dispose.inj is
    refine .inr ⟨path, e, rfl, failed, fun a reply mem => ?_⟩
    obtain ⟨b, asks, is⟩ | is := DeviceCall.mem_abandonment mem
    · obtain ⟨-, rfl⟩ := DeviceCall.load.inj is
      exact fails b asks
    · cases is

/-- A load that ends no context. -/
theorem TracksDevice.of_loaded {path : Path} {answer : Answer} {a : Application}
    {reply : CoreReply} {context : CoreContext}
    (known : v.device = .ofContext (DeviceCall.next (some context) (.load a reply))) :
    w.TracksDevice (.load path) answer [.load a reply] (some context) v := by
  refine ⟨fun _ => known, ⟨rfl, trivial⟩, fun _ _ _ mem => ?_, fun _ mem => ?_⟩
  · cases List.mem_singleton.mp mem
  · cases List.mem_singleton.mp mem

/-- The load of an application, in all the ways that it can go. -/
theorem load_tracks (known : w.device = .ofContext live) (path : Path) :
    w.TracksDevice (.load path) (answering .application (w.load path)).2
      (w.deviceCalls (w.load path).1) live (w.load path).1 := by
  -- one case for each way that a load can go
  cases w.load_effect path with
  | refused missing same failed =>
    have calls : w.deviceCalls w = [] := deviceCalls_eq (List.append_nil _).symm
    rw [same, calls]
    exact .idle known
  | undetected e believes detected disposes touches failed =>
    obtain ⟨context, rfl⟩ := live_of_known known believes
    refine .of_abandonment none nofun e ?_ touches.events fun _ => touches.device_eq
    rw [disposes]
    exact answering_error failed
  | failed a chain believes reply disposes touches failed =>
    obtain ⟨context, rfl⟩ := live_of_known known believes
    refine .of_abandonment (some a) (fun _ _ => ⟨chain, reply⟩) (.core chain) ?_ touches.events
      fun _ => touches.device_eq
    rw [disposes]
    exact answering_error failed
  | undisposed asked c believes fails crashes touches failed =>
    obtain ⟨context, rfl⟩ := live_of_known known believes
    -- the crash is all that the host hears of, whatever the load has failed with
    refine .of_abandonment asked fails .notInitialized ?_ touches.events fun disposes => ?_
    · rw [crashes]
      exact answering_error failed
    · cases crashes.symm.trans disposes
  | crashed a c believes reply touches failed =>
    -- the context stays, with the application that it had
    obtain ⟨context, rfl⟩ := live_of_known known believes
    have calls : w.deviceCalls (w.load path).1 = [.load a (.crash c)] := by
      rw [deviceCalls_eq touches.events, ← reply]
      rfl
    rw [calls]
    exact .of_loaded (touches.device_eq.trans known)
  | loaded a detected believes reply touches succeeded =>
    obtain ⟨context, rfl⟩ := live_of_known known believes
    have calls : w.deviceCalls (w.load path).1 = [.load a .success] := by
      rw [deviceCalls_eq touches.events, ← reply]
      rfl
    rw [calls]
    refine .of_loaded ?_
    rw [touches.device_eq, known]
    rfl

/-- A call that has nothing to do with the device context makes no call on it. -/
theorem Effect.tracks {call : HostCall} {answer : Answer} (effect : w.Effect call v answer)
    (other : call.usesDevice = false) (known : w.device = .ofContext live) :
    w.TracksDevice call answer (w.deviceCalls v) live v := by
  obtain ⟨calls, events, out⟩ := effect.events
  have none : calls.filterMap (Event.deviceCall? w.core) = [] := by
    -- what reaches the device context comes from a call that uses it
    refine List.filterMap_eq_nil_iff.mpr fun e mem => Event.deviceCall?_eq_none w.core ?_
    refine Bool.eq_false_iff.mpr fun reaches => ?_
    rw [((out e mem).device reaches).1] at other
    cases other
  rw [deviceCalls_eq events, none]
  exact .idle ((effect.device_eq other).trans known)

/-- Each call of the host keeps the calls to the device context in order. -/
theorem perform_tracks (known : w.device = .ofContext live) (call : HostCall) :
    w.TracksDevice call (w.perform refuseLoop call).2 (w.deviceCalls (w.perform refuseLoop call).1)
      live (w.perform refuseLoop call).1 := by
  by_cases uses : call.usesDevice = true
  · cases call with
    | initializeDevice options =>
      have first : (w.perform refuseLoop (.initializeDevice options)).1 =
          (w.initializeDevice options).1 := succeeding_fst _
      rw [first]
      exact initializeDevice_tracks known rfl _
    | initializeDeviceDefault =>
      have first : (w.perform refuseLoop .initializeDeviceDefault).1 =
          (w.initializeDevice w.config.device).1 := succeeding_fst _
      rw [first]
      exact initializeDevice_tracks known rfl _
    | load path =>
      have first : (w.perform refuseLoop (.load path)).1 = (w.load path).1 := answering_fst _ _
      rw [first]
      exact load_tracks known path
    | _ => cases uses
  · rw [Bool.not_eq_true] at uses
    exact (w.perform_refuseLoop_effect call).tracks uses known

end World

/-! ## Sessions -/

/-- The calls on the device context that something makes. -/
def Happening.deviceCalls : Happening → List DeviceCall
  | .made w call => w.deviceCalls (SessionCall.perform w call).1
  | _ => []

/-- The calls on the device context, from the first one on. -/
def History.deviceCalls (h : History) : List DeviceCall := h.flatMap Happening.deviceCalls

/-- The device context that is live in the core. -/
def History.deviceContext (h : History) : Option CoreContext :=
  h.deviceCalls.foldl DeviceCall.next none

/-- The calls of one more happening are behind all others. -/
theorem History.deviceCalls_append (h : History) (now : Happening) :
    History.deviceCalls (h ++ [now]) = h.deviceCalls ++ now.deviceCalls := by
  rw [History.deviceCalls, List.flatMap_append, List.flatMap_singleton]
  rfl

namespace SessionCall

variable {w v : World SessionCall} {h : History}

/-- What the calls to the device context are for each thing that happens: only calls of the host
make any, and such a call finds the session as it should be, unless a disposal was lost before. -/
def KeepsDeviceOrder (before : History) : Happening → Prop
  | .made w (.host name call) => DisposesWell before.deviceCalls →
    w.device = .ofContext before.deviceContext ∧
      w.TracksDevice call (perform w (.host name call)).2
        (Happening.deviceCalls (.made w (.host name call))) before.deviceContext
        (perform w (.host name call)).1
  | now => now.deviceCalls = []

/-- A session knows the device context that there is. -/
structure KnowsDevice (h : History) (w : World SessionCall) : Prop where
  known : w.device = .ofContext h.deviceContext
  orderly : Orderly none h.deviceCalls

/-- What makes no call to the device context leaves it as it is known. -/
theorem KnowsDevice.keep (knows : KnowsDevice h w) {now : Happening} (quiet : now.deviceCalls = [])
    (same : v.device = w.device) : KnowsDevice (h ++ [now]) v := by
  have calls : History.deviceCalls (h ++ [now]) = h.deviceCalls := by
    rw [h.deviceCalls_append, quiet, List.append_nil]
  refine ⟨?_, ?_⟩
  · rw [same, knows.known, History.deviceContext, History.deviceContext, calls]
  · rw [calls]
    exact knows.orderly

/-- After a call that keeps track of the device context, the context is known. -/
theorem KnowsDevice.track (knows : KnowsDevice h w) {call : HostCall} {answer : Answer}
    {now : Happening} (tracks : w.TracksDevice call answer now.deviceCalls h.deviceContext v)
    (well : DisposesWell now.deviceCalls) : KnowsDevice (h ++ [now]) v := by
  refine ⟨?_, ?_⟩
  · rw [History.deviceContext, h.deviceCalls_append, List.foldl_append]
    exact tracks.known well
  · rw [h.deviceCalls_append]
    exact DeviceCall.orderly_append knows.orderly tracks.orderly

/-- What holds of a session as long as no disposal was lost. -/
def KnowsDeviceIfWell (h : History) (w : World SessionCall) : Prop :=
  DisposesWell h.deviceCalls → KnowsDevice h w

/-- Each thing that happens keeps the calls to the device context in order. -/
theorem device_step (knows : KnowsDeviceIfWell h w) {now : Happening} (step : Step w now v) :
    KeepsDeviceOrder h now ∧ KnowsDeviceIfWell (h ++ [now]) v := by
  -- a lost disposal stays lost
  have well_before (well : DisposesWell (History.deviceCalls (h ++ [now]))) :
      DisposesWell h.deviceCalls ∧ DisposesWell now.deviceCalls := by
    rw [h.deviceCalls_append] at well
    exact List.forall_mem_append.mp well
  have keep (quiet : now.deviceCalls = []) (same : v.device = w.device) :
      KnowsDeviceIfWell (h ++ [now]) v :=
    fun well => (knows (well_before well).1).keep quiet same
  cases step with
  | @made _ call single =>
    cases call with
    | host name call =>
      -- no loop is entered, so this is one operation of the session
      have tracks (well : DisposesWell h.deviceCalls) :
          w.TracksDevice call (perform w (.host name call)).2
            (w.deviceCalls (perform w (.host name call)).1) h.deviceContext
            (perform w (.host name call)).1 := by
        have single : perform w (.host name call) = w.perform World.refuseLoop call := single
        rw [single]
        exact World.perform_tracks (knows well).known call
      refine ⟨fun well => ⟨(knows well).known, tracks well⟩, fun well => ?_⟩
      obtain ⟨before, now⟩ := well_before well
      exact (knows before).track (tracks before) now
    | script change =>
      have quiet : Happening.deviceCalls (.made w (.script change)) = [] :=
        World.deviceCalls_eq (List.append_nil _).symm
      exact ⟨quiet, keep quiet rfl⟩
    | unknown name e =>
      have quiet : Happening.deviceCalls (.made w (.unknown name e)) = [] :=
        World.deviceCalls_eq (List.append_nil _).symm
      exact ⟨quiet, keep quiet rfl⟩
  | failed r f => cases f <;> exact ⟨rfl, keep rfl rfl⟩
  | entered | started | told | finished | stopped | broken => exact ⟨rfl, keep rfl rfl⟩

/-- A new session has no device context, and knows of none. -/
theorem knowsDevice_fresh (fresh : w.Fresh) : KnowsDevice [] w := ⟨fresh.device, trivial⟩

/-- What is noted of the device context with one thing that happens. -/
theorem Step.deviceEvents {now : Happening} (step : Step w now v) :
    now.events.filter Event.isDeviceCall = now.deviceCalls.map DeviceCall.event := by
  cases step with
  | made single => exact (DeviceCall.map_event w.core _).symm
  | told other => exact List.filter_cons_of_neg (Bool.not_eq_true _ ▸ other)
  | entered | started | finished | failed | stopped | broken => rfl

/-- The calls to the device context that a session has noted are those of its history. -/
theorem Trace.deviceEvents (trace : Trace w h v) :
    v.events.filter Event.isDeviceCall =
      w.events.filter Event.isDeviceCall ++ h.deviceCalls.map DeviceCall.event := by
  rw [trace.events, List.filter_append]
  refine congrArg _ ?_
  induction trace with
  | nil => rfl
  | cons step rest ih =>
    rw [List.flatMap_cons, List.filter_append, ih, step.deviceEvents]
    exact List.map_append.symm

/-- The device contexts of a session from `w` to `v`. -/
structure DeviceDiscipline (w : World SessionCall) (h : History) (v : World SessionCall) :
    Prop where
  /-- At any time the session knows the context that there is, and a call of the host makes and ends
  contexts only where it may. -/
  always : h.Always KeepsDeviceOrder
  known : DisposesWell h.deviceCalls → v.device = .ofContext h.deviceContext
  /-- Each call to the core is in place after all calls before it. -/
  orderly : DisposesWell h.deviceCalls → Orderly none h.deviceCalls
  /-- Each context is disposed of once, but for the one that is still live. -/
  counted : DisposesWell h.deviceCalls → h.deviceCalls.countP DeviceCall.isCreation =
    h.deviceCalls.countP DeviceCall.isDisposal + h.deviceContext.toList.length
  /-- There are no other calls to the device context. -/
  noted : v.events.filter Event.isDeviceCall =
    w.events.filter Event.isDeviceCall ++ h.deviceCalls.map DeviceCall.event

/-- A session creates a device context only while there is none, uses it only while there is one,
disposes of each one once and knows at any time which one there is. -/
theorem device_discipline {s : Surroundings SessionCall} {config : HostConfig}
    (opened : World.ofConfig s config = .ok w) (calls : List SessionCall) :
    DeviceDiscipline w (history w calls) (after w calls) := by
  have trace := history_trace w calls
  have keeps (h : History) (w : World SessionCall) (now : Happening) (v : World SessionCall)
      (knows : KnowsDeviceIfWell h w) (step : Step w now v) :
      KeepsDeviceOrder h now ∧ KnowsDeviceIfWell (h ++ [now]) v := device_step knows step
  obtain ⟨always, knows⟩ :=
    trace.always keeps fun _ => knowsDevice_fresh (World.fresh_of_ofConfig opened)
  refine ⟨always, fun well => (knows well).known, fun well => (knows well).orderly, fun well => ?_,
    trace.deviceEvents⟩
  have counted := DeviceCall.orderly_count (knows well).orderly
  rw [Option.toList_none, List.length_nil, Nat.zero_add] at counted
  exact counted

/-- Three contexts: a load of nothing ends the first one, the third one replaces the second one. -/
theorem device_discipline_replaced :
    ∃ w : World SessionCall, World.ofConfig {} {} = .ok w ∧ ∃ calls,
      (history w calls).deviceCalls.countP DeviceCall.isCreation = 3 ∧
        DisposesWell (history w calls).deviceCalls ∧
        (after w calls).device.options.isSome ∧
        DeviceDiscipline w (history w calls) (after w calls) := by
  let calls : List SessionCall :=
    [.host "configure" (.configureGraphics {}),
      .host "renderer" (.initializeRenderer .openGl { glGetProcAddress := true }),
      .host "device" .initializeDeviceDefault, .host "load" (.load "nothing.nsp"),
      .host "device" .initializeDeviceDefault, .host "device" .initializeDeviceDefault]
  let w : World SessionCall := { config := {}, router := {} }
  have opened : World.ofConfig {} {} = .ok w := rfl
  have well : DisposesWell (history w calls).deviceCalls := by
    rw [DisposesWell]
    decide
  exact ⟨w, opened, calls, by decide, well, by decide, device_discipline opened calls⟩

end SessionCall

end EmuHost
