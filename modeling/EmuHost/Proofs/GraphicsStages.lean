import EmuHost.Proofs.NestedCalls
import Mathlib.Data.List.Chain

/-!
# Stages of the graphics

Which parts of the graphics are there depends on their phase alone, and the phase moves forward
through the stages or back to the first one. This holds in all states of a session that a host can
see, those in the middle of a frame included.

## Key results

- `Graphics.Staged`: the invariant that ties configurations, renderer and information to the phase
- `World.Effect.staged`, `World.Effect.moves`: what one call makes of it
- `SessionCall.staged_invariant`: the invariant in the middle of a loop
- `SessionCall.Reached.stages`: the invariant and the order of phases in every state of a session
-/

namespace EmuHost

variable {κ : Type}

/-! ## The order of phases -/

/-- The stage after another. -/
def Phase.next? : Phase → Option Phase
  | .uninitialized => some .configured
  | .configured => some .rendererReady
  | .rendererReady => some .running
  | .running => some .stopped
  | .stopped => none

/-- The moves of the phase: one stage forward, or back to the start by a teardown, if it is one and
no loop runs. -/
inductive Phase.Move (tearsDown : Prop) : Phase → Phase → Prop where
  | stay (p : Phase) : Move tearsDown p p
  | forward {p q : Phase} (next : p.next? = some q) : Move tearsDown p q
  | back {p : Phase} (torn : tearsDown) (idle : p ≠ .running) : Move tearsDown p .uninitialized

/-- What may happen with one right may happen with a stronger one. -/
theorem Phase.Move.imp {a b : Prop} (weaker : a → b) {p q : Phase} (move : Phase.Move a p q) :
    Phase.Move b p q := by
  cases move with
  | stay => exact .stay p
  | forward next => exact .forward next
  | back torn idle => exact .back (weaker torn) idle

/-! ## What there is in a phase -/

/-- Which parts of the graphics are there. -/
structure GraphicsParts where
  requested : Bool
  effective : Bool
  info : Bool
  renderer : Bool
  deriving DecidableEq, Repr

/-- The parts that belong to a phase. While the loop runs it has the renderer, and then it is used
up. -/
def Phase.parts : Phase → GraphicsParts
  | .uninitialized => ⟨false, false, false, false⟩
  | .configured => ⟨true, false, false, false⟩
  | .rendererReady => ⟨true, true, true, true⟩
  | .running | .stopped => ⟨true, true, true, false⟩

namespace Graphics

/-- The parts that are there. -/
def parts (g : Graphics κ) : GraphicsParts where
  requested := g.requested.isSome
  effective := g.effective.isSome
  info := g.info.isSome
  renderer := g.renderer.isSome

/-- Graphics in order: the parts are those of the phase, the configuration was accepted, and what is
effective differs from it in the anisotropy only. -/
structure Staged (g : Graphics κ) : Prop where
  parts : g.parts = g.phase.parts
  accepted : ∀ c, g.requested = some c → c.check = .ok ()
  limited : ∀ e, g.effective = some e →
    ∃ c, g.requested = some c ∧ e = { c with maxAnisotropy := e.maxAnisotropy }

/-- New graphics hold nothing, as their phase has it. -/
theorem staged_fresh : Staged ({} : Graphics κ) :=
  ⟨rfl, fun _ held => absurd held nofun, fun _ held => absurd held nofun⟩

/-- A ceiling changes nothing but the anisotropy. -/
theorem clamp_eq (c : GraphicsConfig) (ceiling : Binary32) :
    clamp c ceiling = { c with maxAnisotropy := (clamp c ceiling).maxAnisotropy } := by
  rw [clamp]
  split <;> rfl

variable {g h : Graphics κ}

theorem Staged.meanwhile (staged : g.Staged) (meanwhile : g.Meanwhile h) : h.Staged where
  parts := by
    rw [Graphics.parts, meanwhile.requested, meanwhile.effective, meanwhile.info,
      meanwhile.renderer, meanwhile.phase]
    exact staged.parts
  accepted := by rw [meanwhile.requested]; exact staged.accepted
  limited := by rw [meanwhile.requested, meanwhile.effective]; exact staged.limited

end Graphics

namespace World

variable {w v : World κ} {call : HostCall} {answer : Answer}

/-- Each way of a call leaves the graphics in order. A renderer that crashes before it is taken over
leaves them as they were. -/
theorem Effect.staged (effect : w.Effect call v answer) (staged : w.graphics.Staged) :
    v.graphics.Staged := by
  cases effect with
  | looked | refused | input | uncreated | dropped | reloaded | updated | unserved => exact staged
  | device uses touches =>
    rw [touches.same]
    exact staged
  | sized | vsynced | installed | stopRequested =>
    exact ⟨staged.parts, staged.accepted, staged.limited⟩
  | @configured _ c asked blank valid =>
    -- nothing was there before, so the configuration is all there is
    have parts := staged.parts
    rw [blank, Graphics.parts, Phase.parts, GraphicsParts.mk.injEq] at parts
    obtain ⟨-, effective, info, renderer⟩ := parts
    refine ⟨?_, ?_, ?_⟩
    · simp only [log_graphics, Graphics.parts, effective, info, renderer]; rfl
    · rintro _ ⟨⟩; exact valid
    · intro e here
      rw [show w.graphics.effective = some e from here] at effective
      exact absurd effective nofun
  | @created _ _ _ _ _ c requested =>
    refine ⟨?_, staged.accepted, ?_⟩
    · simp only [log_graphics, Graphics.parts, Graphics.adopt, requested]; rfl
    · rintro _ ⟨⟩
      -- the renderer's ceiling touches the anisotropy only
      exact ⟨c, requested, Graphics.clamp_eq c _⟩
  | tornDown => exact ⟨rfl, fun _ held => absurd held nofun, fun _ held => absurd held nofun⟩

/-- Each way of a call moves the phase one stage on, back to the start, or not at all. -/
theorem Effect.moves (effect : w.Effect call v answer) :
    Phase.Move (call = .tearDown) w.graphics.phase v.graphics.phase := by
  cases effect with
  | looked | refused | input | uncreated | dropped | reloaded | updated | unserved => exact .stay _
  | sized | vsynced | installed | stopRequested => exact .stay _
  | device uses touches =>
    rw [touches.same]
    exact .stay _
  | configured asked blank => exact .forward (by rw [blank]; rfl)
  | created asks configured => exact .forward (by rw [configured]; rfl)
  | tornDown idle => exact .back rfl idle

end World

/-! ## Around a loop -/

namespace World

variable {w : World κ}

/-- The loop takes the renderer out as it is entered. -/
theorem enterLoop_staged (ready : w.graphics.phase = .rendererReady) (staged : w.graphics.Staged)
    (renderer : Renderer κ) : (w.enterLoop renderer).graphics.Staged := by
  have parts := staged.parts
  rw [ready, Graphics.parts, Phase.parts, GraphicsParts.mk.injEq] at parts
  obtain ⟨requested, effective, info, -⟩ := parts
  refine ⟨?_, staged.accepted, staged.limited⟩
  simp only [enterLoop, log_graphics, Graphics.parts, requested, effective, info]
  rfl

/-- Leaving a loop keeps what there was in it. -/
theorem leaveLoop_staged (running : w.graphics.phase = .running) (staged : w.graphics.Staged) :
    w.leaveLoop.graphics.Staged := by
  refine ⟨?_, staged.accepted, staged.limited⟩
  have parts := staged.parts
  rw [running] at parts
  exact parts

end World

namespace SessionCall

variable {w : World SessionCall}

/-- In the middle of a loop the graphics stay in order, and the loop stays what is running. -/
theorem staged_invariant :
    LoopInvariant reentrant fun w => w.graphics.phase = .running ∧ w.graphics.Staged where
  record _ _ h := h
  log _ _ h := h
  begin _ h := ⟨h.1, h.2.parts, h.2.accepted, h.2.limited⟩
  count _ _ _ h := ⟨h.1, h.2.parts, h.2.accepted, h.2.limited⟩
  countError _ h := ⟨h.1, h.2.parts, h.2.accepted, h.2.limited⟩
  callDuringFrame w call h :=
    have meanwhile := (reentrant_discreet w call h.1).graphics
    ⟨meanwhile.phase.trans h.1, h.2.meanwhile meanwhile⟩
  stop _ h := ⟨h.1, h.2.parts, h.2.accepted, h.2.limited⟩

/-- A loop leaves the graphics in order, whatever is called from its frames. -/
theorem runLoop_staged (staged : w.graphics.Staged) :
    (w.runLoop reentrant).1.graphics.Staged := by
  obtain ⟨renderer, config, ready, held, limited⟩ | ⟨refused, -⟩ := World.runLoop_cases reentrant w
  · have run := World.runRenderer_rendererRun reentrant config renderer (w.enterLoop renderer)
    have entered := World.enterLoop_staged ready staged renderer
    -- an invariant of the frames, so it holds after the last one
    obtain ⟨running, last⟩ := (staged_invariant.rendererRun run ⟨rfl, entered⟩).2
    simp only [World.runLoop, ready, held, limited]
    exact World.leaveLoop_staged running last
  · rw [refused]
    exact staged

/-- So does every call. -/
theorem perform_staged (staged : w.graphics.Staged) (call : SessionCall) :
    (perform w call).1.graphics.Staged := by
  cases call with
  | host name call =>
    by_cases loops : call = .runLoop
    · simp only [loops, perform, performWith, World.perform, World.answering_fst,
        ← runLoop_reentrant]
      exact runLoop_staged staged
    · exact (w.perform_effect fun looping => absurd looping loops).staged staged
  | script change => exact staged
  | unknown name e => exact staged

/-! ## Every state of a session -/

/-- Whether a call tears the graphics down. -/
def TearsDown (call : SessionCall) : Prop := ∃ name, call = .host name .tearDown

/-- The states that a session goes through during a call. Only a loop hands over control. -/
def statesDuring (w : World SessionCall) : SessionCall → List (World SessionCall)
  | .host _ .runLoop => w.loopStates reentrant
  | _ => []

/-- The phases that a session goes through with a call, from before it to after it. -/
def phasesWith (w : World SessionCall) (call : SessionCall) : List Phase :=
  (w :: statesDuring w call ++ [(perform w call).1]).map (·.graphics.phase)

/-- The states of a session: as it is opened, between calls, and in the middle of a loop, where the
host may make any calls again. -/
inductive Reached : World SessionCall → Prop where
  | opened {s : Surroundings SessionCall} {config : HostConfig} {w : World SessionCall}
      (valid : World.ofConfig s config = .ok w) : Reached w
  | performed {w : World SessionCall} (before : Reached w) (call : SessionCall) :
      Reached (perform w call).1
  | during {w v : World SessionCall} (before : Reached w) (call : SessionCall)
      (inside : v ∈ statesDuring w call) : Reached v

/-- Within a call there is a running loop, or no state at all. -/
theorem statesDuring_running (call : SessionCall) (staged : w.graphics.Staged) :
    ∀ v ∈ statesDuring w call, v.graphics.phase = .running ∧ v.graphics.Staged := by
  intro v inside
  simp only [statesDuring] at inside
  split at inside
  · obtain ⟨_, _, ready, _⟩ | ⟨-, none⟩ := World.runLoop_cases reentrant w
    · exact staged_invariant.loopStates
        (fun renderer _ => ⟨rfl, World.enterLoop_staged ready staged renderer⟩) v inside
    · rw [none] at inside
      exact absurd inside List.not_mem_nil
  · exact absurd inside List.not_mem_nil

/-- In every state that a session gets to, the graphics are in order. -/
theorem staged_of_reached (reached : Reached w) : w.graphics.Staged := by
  -- on the way to the state, and in a frame by what the loop keeps
  induction reached with
  | opened valid =>
    simp only [World.ofConfig] at valid
    split at valid
    · cases valid
    · cases valid
      exact Graphics.staged_fresh
  | performed _ call ih => exact perform_staged ih call
  | during _ call inside ih => exact (statesDuring_running call ih _ inside).2

/-- States of a loop in a row make a chain, and the one after them follows. -/
theorem isChain_running {R : Phase → Phase → Prop} (stay : R .running .running)
    (leave : R .running .stopped) (l : List Phase) (running : ∀ p ∈ l, p = .running) :
    List.IsChain R (.running :: (l ++ [.stopped])) := by
  induction l with
  | nil => exact List.isChain_cons_cons.mpr ⟨leave, .singleton _⟩
  | cons p l ih =>
    obtain ⟨rfl, rest⟩ := List.forall_mem_cons.mp running
    exact List.isChain_cons_cons.mpr ⟨stay, ih rest⟩

/-- A loop goes from a renderer that is ready through running to stopped. -/
theorem phasesWith_runLoop (name : String) (staged : w.graphics.Staged) :
    List.IsChain (Phase.Move False) (phasesWith w (.host name .runLoop)) := by
  have running := statesDuring_running (.host name .runLoop) staged
  have after : (perform w (.host name .runLoop)).1 = (w.runLoop reentrant).1 := by
    rw [runLoop_reentrant]
    exact World.answering_fst ..
  rw [phasesWith, after]
  obtain ⟨renderer, config, ready, held, limited⟩ | ⟨refused, none⟩ :=
    World.runLoop_cases reentrant w
  · -- between the state before and the one after, the loop runs
    simp only [statesDuring, World.loopStates, World.runLoop, ready, held, limited,
      List.map_append, List.map_cons] at running ⊢
    refine List.isChain_cons_cons.mpr ⟨.forward rfl, ?_⟩
    refine isChain_running (.stay _) (.forward rfl) _ fun p among => ?_
    obtain ⟨v, inside, rfl⟩ := List.mem_map.mp among
    exact (running v (List.mem_cons_of_mem _ inside)).1
  · rw [statesDuring, none, refused]
    exact List.isChain_cons_cons.mpr ⟨.stay _, .singleton _⟩

/-- In every state of a session the graphics are in order, and whatever is called next, the phase
moves forward stage by stage, or back with a teardown while no loop runs. -/
theorem Reached.stages (reached : Reached w) :
    w.graphics.Staged ∧
      ∀ call, List.IsChain (Phase.Move (TearsDown call)) (phasesWith w call) := by
  have staged := staged_of_reached reached
  refine ⟨staged, fun call => ?_⟩
  -- a call without states of its own goes straight from the one before to the one after
  have moved (move : Phase.Move (TearsDown call) w.graphics.phase
      (perform w call).1.graphics.phase) (none : statesDuring w call = []) :
      List.IsChain (Phase.Move (TearsDown call)) (phasesWith w call) := by
    rw [phasesWith, none]
    exact List.isChain_cons_cons.mpr ⟨move, .singleton _⟩
  cases call with
  | host name call =>
    by_cases loops : call = .runLoop
    · rw [loops]
      exact (phasesWith_runLoop name staged).imp fun p q move => move.imp False.elim
    · have move : Phase.Move (call = .tearDown) w.graphics.phase
          (w.perform (World.runLoop duringFrame) call).1.graphics.phase :=
        (w.perform_effect fun looping => absurd looping loops).moves
      refine moved (move.imp fun torn => ⟨name, congrArg (host name) torn⟩) ?_
      simp only [statesDuring]
      split
      · rename_i looping
        cases looping
        exact absurd rfl loops
      · rfl
  | script change => exact moved (.stay _) rfl
  | unknown name e => exact moved (.stay _) rfl

/-- The session after its core was asked for a renderer. -/
def asked (w : World SessionCall) : World SessionCall :=
  (perform w (.host "renderer" (.initializeRenderer .openGl { glGetProcAddress := true }))).1

/-- A renderer that stands the question for its ceiling. In its first frame the host sets a size;
the renderer crashes over this size in its second one, and there the host tries to tear down. -/
def mending : SessionCall :=
  .script
    { ceilingCrash := some none
      frames := some
        [{ calls := [.host "size" (.setSize 640 480)], submitted := .idle },
          { resizeCalls := [.host "teardown" .tearDown], resizeCrash := some ⟨none⟩ }] }

/-- The session once it is configured and its core was asked for a renderer. -/
def broken (w : World SessionCall) : World SessionCall :=
  asked (perform w (.host "configure" (.configureGraphics {}))).1

/-- The session with a renderer, after another one has crashed before it. -/
def mended (w : World SessionCall) : World SessionCall := asked (perform (broken w) mending).1

/-- A renderer that crashes over the first question leaves the session configured. The next one is
run, and after the host has set the size in the middle of its first frame the graphics are in order
as well. The crash over this size ends the loop. -/
theorem Reached.stages_mended :
    ∃ w : World SessionCall, World.ofConfig { core.ceilingCrash := some ⟨none⟩ } {} = .ok w ∧
      (broken w).graphics.phase = .configured ∧ Reached (mended w) ∧
      (∃ v ∈ statesDuring (mended w) (.host "loop" .runLoop),
        v.graphics.surface.staged.width = 640 ∧ v.graphics.Staged) ∧
      (perform (mended w) (.host "loop" .runLoop)).2 = .failed (.crash ⟨none⟩) ∧
      phasesWith (mended w) (.host "loop" .runLoop) =
        .rendererReady :: List.replicate 10 .running ++ [.stopped] ∧
      List.IsChain (Phase.Move (TearsDown (.host "loop" .runLoop)))
        (phasesWith (mended w) (.host "loop" .runLoop)) := by
  obtain ⟨w, is, opened⟩ : ∃ w : World SessionCall,
      w = { config := {}, router := {}, core.ceilingCrash := some ⟨none⟩ } ∧
        World.ofConfig { core.ceilingCrash := some ⟨none⟩ } {} = .ok w := ⟨_, rfl, rfl⟩
  have ready : Reached (mended w) :=
    ((((Reached.opened opened).performed _).performed _).performed mending).performed _
  -- the session behind the call of the host in the first frame
  have among : 5 < (statesDuring (mended w) (.host "loop" .runLoop)).length := by
    subst is
    decide
  have inside := List.getElem_mem among
  have between : Reached _ := ready.during _ inside
  refine ⟨w, opened, ?_, ready, ⟨_, inside, ?_, between.stages.1⟩, ?_, ?_, ready.stages.2 _⟩
  all_goals
    subst is
    rfl

end SessionCall

end EmuHost
