import EmuHost.Proofs.Bootstrap
import EmuHost.Proofs.CallEffects
import EmuHost.Proofs.EntryArguments
import EmuHost.Proofs.LoopInvariant

/-!
# Loads that fail

A load that fails takes the device context with it: the core is asked to dispose of it, and nothing
can be loaded until the host has initialized another one. This goes for paths without an
application, for directories that cannot be listed and for errors of the core, but not for a crash
in the core. A crash is caught where nobody knows the device, so the host is told of a failure and
the context stays.

## Key results

- `EntryFunction.failed_load`: what a failed load leaves, at once and until the next context
- `Embedding.after_lacks`: a process without a device context, through any calls
- `EntryFunction.failed_load_of_crash`: a failed load that disposes of nothing
-/

namespace EmuHost

/-! ## Without a device context -/

/-- Whether a call is for a new device context. -/
def HostCall.makesDevice : HostCall → Bool
  | .initializeDevice _ | .initializeDeviceDefault => true
  | _ => false

/-- How a new device context is noted if it is made in the middle of a frame. -/
def Event.deviceInitialized : Event := .answered "device_initialize" (.flag true)

/-- Whether a session has no device context, or the host has been told of a new one. What it has
been told is noted behind `old`, and `last` is still to be noted. -/
def World.LacksDevice {κ : Type} (old last : List Event) (w : World κ) : Prop :=
  ∃ calls, w.events = old ++ calls ∧
    (w.device.options = none ∨ Event.deviceInitialized ∈ calls ++ last)

namespace World.LacksDevice

variable {κ : Type} {old last : List Event} {w v : World κ}

/-- A session without a device context lacks one from the start of its account. -/
theorem start (missing : w.device.options = none) : w.LacksDevice w.events [] :=
  ⟨[], (List.append_nil _).symm, .inl missing⟩

/-- More may be said last, as long as it is not that there is a device. -/
theorem weaken (lacks : w.LacksDevice old []) : w.LacksDevice old last := by
  obtain ⟨calls, events, either⟩ := lacks
  rw [List.append_nil] at either
  exact ⟨calls, events, either.imp_right (List.mem_append_left _)⟩

/-- Whatever is noted, no device context comes of that. -/
theorem note {e : Event} (lacks : w.LacksDevice old [e]) : (w.record e).LacksDevice old [] := by
  obtain ⟨calls, events, either⟩ := lacks
  refine ⟨calls ++ [e], ?_, ?_⟩
  · rw [World.events_record, events, List.append_assoc]
  · rw [List.append_nil]
    exact either

/-- Lines in the log change nothing of it. -/
theorem log (lacks : w.LacksDevice old last) (lines : List LogLine) :
    (w.log lines).LacksDevice old last := by
  obtain ⟨calls, events, either⟩ := lacks
  exact ⟨calls, (w.events_log lines).trans events, either⟩

/-- The end of the loop neither. -/
theorem leaveLoop (lacks : w.LacksDevice old []) : w.leaveLoop.LacksDevice old [] :=
  World.LacksDevice.note (w := { w with graphics.phase := .stopped }) lacks.weaken

/-- Calls that are noted behind the others, if they make no device context. -/
theorem extend (lacks : w.LacksDevice old []) {calls : List Event}
    (events : v.events = w.events ++ calls)
    (missing : w.device.options = none → v.device.options = none) : v.LacksDevice old [] := by
  obtain ⟨before, noted, either⟩ := lacks
  refine ⟨before ++ calls, ?_, ?_⟩
  · rw [events, noted, List.append_assoc]
  · rw [List.append_nil] at either ⊢
    exact either.imp missing (List.mem_append_left _)

end World.LacksDevice

section Calls

variable {κ : Type} {old : List Event} {w : World κ} {loop : World.Loop κ}

/-- Where there was no device context there is one only if the creation says so. -/
theorem World.initializeDevice_of_missing (missing : w.device.options = none)
    (options : DeviceOptions) :
    (w.initializeDevice options).1.device.options = none ∨
      (w.initializeDevice options).2 = .ok () := by
  have cleared : w.clearedDevice.options = none := by
    rw [World.clearedDevice, missing]
    exact missing
  cases w.initializeDevice_effect options with
  | refused _ same => exact .inl (by rw [same]; exact missing)
  | undisposed _ _ live =>
    rw [missing] at live
    cases live
  | uncreated _ _ _ _ touches => exact .inl (by rw [touches.device_eq]; exact cleared)
  | created _ _ _ _ _ succeeded => exact .inr succeeded

/-- The way to run a loop matters to the call of the loop only. -/
theorem World.perform_of_ne_runLoop {call : HostCall} (other : call ≠ .runLoop) :
    w.perform loop call = w.perform World.refuseLoop call := by
  cases call with
  | runLoop => exact absurd rfl other
  | _ => rfl

/-- Only the calls for a device context can make one. -/
theorem World.LacksDevice.perform (lacks : w.LacksDevice old [])
    (loops : (loop w).1.LacksDevice old []) {call : HostCall}
    (other : call.makesDevice = false) :
    (w.perform loop call).1.LacksDevice old [] := by
  by_cases looped : call = .runLoop
  -- the loop runs other calls, so what is lacked after it is a hypothesis
  · rw [looped, World.perform, World.answering_fst]
    exact loops
  · rw [World.perform_of_ne_runLoop looped]
    have effect := w.perform_refuseLoop_effect call
    obtain ⟨calls, events, -⟩ := effect.events
    refine lacks.extend events fun missing => ?_
    by_cases uses : call.usesDevice = true
    · -- that leaves the load, which is refused
      cases call with
      | load path =>
        rw [World.perform, World.answering_fst, World.load, missing]
        exact missing
      | initializeDevice | initializeDeviceDefault => cases other
      | _ => cases uses
    · rw [effect.device_eq (Bool.not_eq_true _ ▸ uses)]
      exact missing

end Calls

/-! ## Entry functions -/

section Entries

variable {old : List Event}

/-- The host is told of a device context that it has initialized. -/
theorem EntryFunction.initializeDevice_tells {κ : Type} {w : World κ} (loop : World.Loop κ)
    (missing : w.device.options = none) (a : DeviceArguments) (o : DeviceOptions) :
    (w.perform loop (.initializeDevice o)).1.device.options = none ∨
      (EntryFunction.initializeDevice a).present (w.perform loop (.initializeDevice o)).2 =
        .flag true := by
  have either := w.initializeDevice_of_missing missing o
  rw [World.perform]
  generalize w.initializeDevice o = outcome at either ⊢
  obtain ⟨u, result⟩ := outcome
  rw [World.succeeding_fst]
  refine either.imp_right ?_
  rintro ⟨⟩
  rfl

/-- The one entry function that can make a device context tells the host. -/
theorem EntryFunction.perform_lacks {κ : Type} {w : World κ} {loop : World.Loop κ}
    (f : EntryFunction) (lacks : w.LacksDevice old []) (loops : (loop w).1.LacksDevice old []) :
    (f.perform loop w).1.LacksDevice old [.answered f.name (f.perform loop w).2] := by
  rw [perform]
  cases converted : f.convert w.config with
  | refused line => exact lacks.weaken.log _
  | call c =>
    have asks := convert_iff.mp converted
    by_cases other : c.makesDevice = false
    · exact (lacks.perform loops other).weaken.log _
    · cases asks with
      | @initializeDevice a o reads =>
        obtain ⟨calls, events, -⟩ := (w.perform_refuseLoop_effect (.initializeDevice o)).events
        obtain ⟨before, noted, either⟩ := lacks
        have since :
            (w.perform loop (.initializeDevice o)).1.events = old ++ (before ++ calls) := by
          rw [← List.append_assoc, ← noted, ← events]
          rfl
        refine World.LacksDevice.log ⟨before ++ calls, since, ?_⟩ _
        rw [List.append_nil] at either
        cases either with
        | inl missing =>
          -- a new context comes with the answer that tells of it
          refine (initializeDevice_tells loop missing a o).imp_right fun told => ?_
          refine List.mem_append_right _ (List.mem_singleton.mpr ?_)
          rw [Event.deviceInitialized, ← told]
          rfl
        | inr known =>
          exact .inr (List.mem_append_left _ (List.mem_append_left _ known))
      | _ => exact absurd rfl other

/-- No call makes a device context unless the host is told. -/
theorem EmbeddingCall.performWith_lacks {v : World EmbeddingCall}
    {loop : World.Loop EmbeddingCall} (call : EmbeddingCall) (lacks : v.LacksDevice old [])
    (loops : (loop v).1.LacksDevice old []) :
    (call.performWith loop v).1.LacksDevice old
      [.answered call.name (call.performWith loop v).2] := by
  cases call with
  | entry f => exact f.perform_lacks lacks loops
  | boot path => exact lacks.weaken.log _
  | registerCore => exact ((lacks.log _).weaken.note (e := .coreDropped)).weaken
  | defaultBasePath | startLog | state => exact lacks.weaken
  | script change => exact lacks.weaken

/-- A loop makes no device context unless the host is told in the middle of a frame. -/
theorem EmbeddingCall.lacks_invariant (old : List Event) :
    LoopInvariant duringFrame (World.LacksDevice old []) where
  record _ _ lacks := lacks.weaken.note
  log _ lines lacks := lacks.log lines
  begin _ lacks := lacks
  count _ _ _ lacks := lacks
  countError _ lacks := lacks
  callDuringFrame v call lacks := by
    have refused : (World.refuseLoop v).1.LacksDevice old [] :=
      lacks.extend ((v.events_onGraphics _).trans (List.append_nil _).symm) id
    exact (performWith_lacks call lacks refused).note
  stop _ lacks := lacks

/-- No call in a frame of the loop makes a device context without telling. -/
theorem EmbeddingCall.runLoop_lacks {v : World EmbeddingCall} (lacks : v.LacksDevice old []) :
    (v.runLoop duringFrame).1.LacksDevice old [] := by
  obtain ⟨renderer, config, ready, held, limited⟩ | ⟨refused, -⟩ := v.runLoop_cases duringFrame
  · have entered : (v.enterLoop renderer).LacksDevice old [] :=
      World.LacksDevice.log (w := { v with graphics := _ }) lacks _
    -- carried through the frames by the invariant of the loop
    have run := World.runRenderer_rendererRun duringFrame config renderer (v.enterLoop renderer)
    have last := ((lacks_invariant old).rendererRun run entered).2
    simp only [World.runLoop, ready, held, limited]
    exact last.leaveLoop
  · rw [refused]
    exact lacks.extend ((v.events_onGraphics _).trans (List.append_nil _).symm) id

end Entries

/-! ## Processes -/

namespace Embedding

/-- What a process notes with calls, with the answers to the calls between loops noted like those
to calls in the middle of a frame. -/
def account (p : Embedding) : List EmbeddingCall → List Event
  | [] => []
  | call :: calls =>
    let outcome := p.perform call
    outcome.1.journal.events.drop p.journal.events.length ++
      .answered call.name outcome.2 :: outcome.1.account calls

/-- A process that is booted stays booted. -/
theorem after_booted (v : World EmbeddingCall) (calls : List EmbeddingCall) :
    ∃ u, (booted v).after calls = .booted u := by
  induction calls generalizing v with
  | nil => exact ⟨v, rfl⟩
  | cons call calls ih => exact ih _

/-- A process without a device context has none until the host is told of one. -/
theorem after_lacks {v u : World EmbeddingCall} (missing : v.device.options = none)
    (calls : List EmbeddingCall) (came : (booted v).after calls = .booted u)
    (untold : Event.deviceInitialized ∉ (booted v).account calls) : u.device.options = none := by
  -- on the calls: each one is accounted for before the rest
  induction calls generalizing v with
  | nil =>
    cases came
    exact missing
  | cons call calls ih =>
    have lacks := World.LacksDevice.start missing
    have now := call.performWith_lacks lacks (EmbeddingCall.runLoop_lacks lacks)
    obtain ⟨more, events, either⟩ := now
    rw [account, List.mem_append, List.mem_cons, not_or, not_or] at untold
    obtain ⟨unnoted, unanswered, later⟩ := untold
    refine ih ?_ came later
    refine either.resolve_right fun told => ?_
    rw [List.mem_append, List.mem_singleton] at told
    -- it would have been told in the middle of a frame, or in answer to this call
    obtain noted | answered := told
    · refine unnoted ?_
      have fresh : ((booted v).perform call).1.journal.events = v.events ++ more := events
      have start : (booted v).journal.events = v.events := rfl
      rw [fresh, start, List.drop_left]
      exact noted
    · exact unanswered answered

end Embedding

/-! ## Failed loads -/

/-- What is left of a device context whose load has failed. -/
structure World.Discards (v u : World EmbeddingCall) : Prop where
  /-- It is disposed of, once and after everything else. -/
  disposed : ∃ asked, u.events = v.events ++ (asked ++ [.disposeDevice]) ∧ .disposeDevice ∉ asked
  /-- There is no context, and no application in it. -/
  device : u.device = {}
  /-- No load comes through until the host is told that it has initialized another context. -/
  refuses : ∀ calls, Event.deviceInitialized ∉ (Embedding.booted u).account calls →
    ∃ x, (Embedding.booted u).after calls = .booted x ∧
      ∀ (path : Option HostString) (loop : World.Loop EmbeddingCall),
        ∃ line, (EntryFunction.load path).perform loop x = (x.log [line], .flag false)

namespace EntryFunction

variable {κ : Type} {w : World κ}

/-- The host is shown whether the load went well. -/
theorem perform_load {path : HostString} {text : String} (reads : path.text? = some text)
    (loop : World.Loop κ) (w : World κ) :
    ∃ lines, (load (some path)).perform loop w =
      ((w.load text).1.log lines, .flag (w.load text).2.isOk) := by
  rw [perform, convert_iff.mpr (.load reads)]
  dsimp only [World.perform]
  generalize w.load text = outcome
  obtain ⟨u, e | a⟩ := outcome
  · exact ⟨_, rfl⟩
  · exact ⟨_, rfl⟩

/-- Without a device context nothing is touched by a load. -/
theorem load_refused (missing : w.device.options = none) (path : Option HostString)
    (loop : World.Loop κ) : ∃ line, (load path).perform loop w = (w.log [line], .flag false) := by
  cases text : path.bind (·.text?) with
  | none =>
    simp only [perform, convert, text]
    exact ⟨_, rfl⟩
  | some s =>
    have refused : w.load s = (w, .error (.error (.device .notInitialized))) := by
      rw [World.load, missing]
      rfl
    simp only [perform, convert, text, World.perform, refused]
    exact ⟨_, rfl⟩

end EntryFunction

/-- A load succeeds only if the core has loaded what was found. -/
theorem World.load_fails {κ : Type} {w : World κ} {path : Path}
    (unsuccessful : w.core.loadReply ≠ .success ∨
      ∃ e, Application.detect w.files path = .error e) : (w.load path).2.isOk = false := by
  cases w.load_effect path with
  | refused _ _ failed => rw [failed]; rfl
  | undetected _ _ _ _ _ failed => rw [failed]; rfl
  | failed _ _ _ _ _ _ failed => rw [failed]; rfl
  | undisposed _ _ _ _ _ _ failed => rw [failed]; rfl
  | crashed _ _ _ _ _ failed => rw [failed]; rfl
  | loaded a detected _ reply =>
    obtain replied | ⟨e, undetected⟩ := unsuccessful
    · exact absurd reply replied
    · cases detected.symm.trans undetected

/-- A load that ends with the disposal leaves nothing, and nothing can be loaded after it. -/
theorem World.Discards.of_disposed {v u : World EmbeddingCall} (asked : List Event)
    (events : u.events = v.events ++ (asked ++ [.disposeDevice])) (once : .disposeDevice ∉ asked)
    (device : u.device = {}) : v.Discards u where
  disposed := ⟨asked, events, once⟩
  device := device
  refuses calls untold := by
    obtain ⟨x, came⟩ := Embedding.after_booted u calls
    have missing : u.device.options = none := by rw [device]
    have still := Embedding.after_lacks missing calls came untold
    exact ⟨x, came, EntryFunction.load_refused still⟩

/-! ### A game to load -/

/-- A working directory with a game in it, and with a cart that nobody may look into. -/
def gameFiles : FileTree where
  root := .directory [("game.nsp", .file "x".toUTF8), ("cart", .directory [])]
  unlisted := [(["cart"], .accessDenied)]

/-- All that the host does before it loads a game from a core that replies in a given way. -/
def preparations (reply : CoreReply) : List EmbeddingCall :=
  [.registerCore, .boot none, .entry (.configureGraphics {}),
    .entry (.initializeRenderer 1 { glGetProcAddress := true }),
    .entry (.initializeDevice
      { hostMapped := true, useNce := false, systemLanguage := 1, region := 1
        enableVsync := true, dockedMode := true, enablePtc := true, enableInternetAccess := false
        timeZone := none, ignoreMissingServices := false }),
    .script { loadReply := some reply }]

/-- A process in that directory. -/
def playful : Embedding := .waiting { files := gameFiles, home := some "/home" } false

/-- The host has a device context then. -/
theorem playful_prepared (reply : CoreReply) :
    ∃ v, playful.after (preparations reply) = .booted v ∧ v.device.options.isSome ∧
      v.files = gameFiles ∧ v.core.loadReply = reply ∧ v.core.disposalCrash = none :=
  ⟨_, rfl, rfl, rfl, rfl, rfl⟩

/-- The game, as the host passes its path. -/
def game : HostString := ⟨"game.nsp".toUTF8⟩

/-- The cart, as the host passes its path. -/
def cart : HostString := ⟨"cart".toUTF8⟩

/-- The path of the game is text. -/
theorem game_text : game.text? = some "game.nsp" := HostString.text?_utf8 _

/-- So is the path of the cart. -/
theorem cart_text : cart.text? = some "cart" := HostString.text?_utf8 _

/-- The game is told by its extension. -/
theorem game_detected : Application.detect gameFiles "game.nsp" = .ok (.nsp "game.nsp") := by rfl

/-- The entries of the cart are asked for in vain. -/
theorem cart_undetected : Application.detect gameFiles "cart" =
    .error (.core ["Permission denied (os error 13)"]) := by rfl

/-! ### Failed loads -/

/-- A load that fails discards the device context, unless the core crashes. If it crashes while it
loads, nothing is disposed of; if it crashes over the disposal, nobody is told of that. Either way
the session keeps the context as it was, though the host is told of a failure just the same. -/
theorem EntryFunction.failed_load {v : World EmbeddingCall} (live : v.device.options.isSome)
    {path : HostString} {text : String} (reads : path.text? = some text)
    (loop : World.Loop EmbeddingCall)
    (failed : ((load (some path)).perform loop v).2 = .flag false) :
    let u := ((load (some path)).perform loop v).1
    v.Discards u ∨
      (∃ a c, v.core.loadReply = .crash c ∧ u.events = v.events ++ [.load a] ∧
        u.device = v.device) ∨
      ∃ c asked, v.core.disposalCrash = some c ∧
        u.events = v.events ++ (asked ++ [.disposeDevice]) ∧ .disposeDevice ∉ asked ∧
        u.device = v.device := by
  obtain ⟨lines, performed⟩ := perform_load reads loop v
  rw [performed] at failed ⊢
  have unlogged := (v.load text).1.events_log lines
  have loads (a : Application) : Event.disposeDevice ∉ [Event.load a] := by
    rw [List.mem_singleton]
    rintro ⟨⟩
  -- one case for each way of a load: those that discard, and the two crashes that do not
  cases v.load_effect text with
  | refused missing =>
    rw [missing] at live
    cases live
  | undetected e _ _ _ touches =>
    have events := unlogged.trans touches.events
    exact .inl (.of_disposed [] events List.not_mem_nil touches.device_eq)
  | failed a _ _ _ _ touches =>
    have events := unlogged.trans touches.events
    exact .inl (.of_disposed [.load a] events (loads a) touches.device_eq)
  | undisposed asked c _ _ crashes touches =>
    have once : Event.disposeDevice ∉ asked.toList.map Event.load := by
      cases asked with
      | none => exact List.not_mem_nil
      | some a => exact loads a
    have events := unlogged.trans touches.events
    exact .inr (.inr ⟨c, _, crashes, events, once, touches.device_eq⟩)
  | crashed a c _ reply touches =>
    exact .inr (.inl ⟨a, c, reply, unlogged.trans touches.events, touches.device_eq⟩)
  | loaded _ _ _ _ _ succeeded =>
    rw [succeeded] at failed
    cases failed

/-- After the preparations the host loads from a path in vain, and loses its device context. -/
def LosesDevice (reply : CoreReply) (path : HostString) : Prop :=
  ∃ v, playful.after (preparations reply) = .booted v ∧ v.device.options.isSome ∧
    let outcome :=
      (EntryFunction.load (some path)).perform (World.runLoop EmbeddingCall.duringFrame) v
    outcome.2 = .flag false ∧ v.Discards outcome.1

/-- The core fails to load the game, and it never hears of the cart, which cannot be listed. -/
theorem EntryFunction.failed_load_discarding :
    LosesDevice (.failure ["corrupt"]) game ∧ LosesDevice .success cart := by
  have loses {reply : CoreReply} {path : HostString} {text : String}
      (reads : path.text? = some text) (stands : ∀ c, reply ≠ .crash c)
      (unsuccessful : reply ≠ .success ∨ ∃ e, Application.detect gameFiles text = .error e) :
      LosesDevice reply path := by
    obtain ⟨v, prepared, live, files, replied, disposes⟩ := playful_prepared reply
    rw [← replied, ← files] at unsuccessful
    obtain ⟨lines, performed⟩ := perform_load reads (World.runLoop EmbeddingCall.duringFrame) v
    rw [World.load_fails unsuccessful] at performed
    have failed := congrArg Prod.snd performed
    refine ⟨v, prepared, live, failed, ?_⟩
    -- neither of the two crashes is in the script
    obtain discards | ⟨a, c, crash, -⟩ | ⟨c, asked, crash, -⟩ := failed_load live reads _ failed
    · exact discards
    · exact absurd (replied.symm.trans crash) (stands c)
    · cases disposes.symm.trans crash
  refine ⟨loses game_text ?_ (.inl ?_), loses cart_text ?_ (.inr ⟨_, cart_undetected⟩)⟩
  · rintro c ⟨⟩
  · rintro ⟨⟩
  · rintro c ⟨⟩

/-- A load in which the core crashes: the host is told that it has failed, but the device context
stays. -/
theorem EntryFunction.failed_load_of_crash :
    ∃ v, playful.after (preparations (.crash ⟨some "boom"⟩)) = .booted v ∧
      v.device.options.isSome ∧
      let outcome := (load (some game)).perform (World.runLoop EmbeddingCall.duringFrame) v
      outcome.2 = .flag false ∧ outcome.1.device = v.device ∧ ¬v.Discards outcome.1 := by
  obtain ⟨v, prepared, live, files, reply, -⟩ := playful_prepared (.crash ⟨some "boom"⟩)
  have crashed : v.load "game.nsp" =
      (v.record (.load (.nsp "game.nsp")), .error (.crash ⟨some "boom"⟩)) := by
    have replied : (v.record (.load (.nsp "game.nsp"))).core.loadReply = _ := reply
    rw [World.load, Option.isNone_eq_false_iff.mpr live, files, game_detected]
    simp only [replied]
    rfl
  obtain ⟨lines, performed⟩ := perform_load game_text (World.runLoop EmbeddingCall.duringFrame) v
  rw [crashed] at performed
  -- the context that is there before is there after, so it was not discarded
  have kept := congrArg (fun outcome => outcome.1.device) performed
  refine ⟨v, prepared, live, congrArg Prod.snd performed, kept, fun discards => ?_⟩
  have gone := discards.device
  rw [performed] at gone
  have none : v.device = {} := gone
  rw [none] at live
  cases live

end EmuHost
