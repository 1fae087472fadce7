import EmuHost.Proofs.BinaryOrder
import EmuHost.Proofs.CallEffects
import EmuHost.Proofs.GraphicsStages

/-!
# The anisotropy that frames are rendered with

A renderer names the highest anisotropy that it can do, and a session that asks for more gets that.
The limit is a number that foreign code chooses, and the anisotropy of a configuration has a value
outside its range, the one that leaves the choice to the core. This file says what comes out of the
two: the limited configuration is one that could have been accepted itself exactly when the limit
does not cut into what was asked for, or lies in the range of explicit levels.

## Key results

- `GraphicsConfig.check_ok_iff`: the numeric ranges that a session accepts
- `Graphics.clamp_keepsContract_iff`: for which limits the limited configuration is in order
- `SessionCall.Reached.renderer_limits`: what a session renders with once there is a renderer
-/

namespace EmuHost

/-! ## Comparing with constants -/

open Binary (lt_iff le_iff eq_iff)

/-- The value that leaves the choice to the core stands at minus one, in front of all levels. -/
theorem place_anisotropyAuto : anisotropyAuto.place? = some (-1065353216) := by decide +kernel

/-- The lowest explicit level stands at one. -/
theorem place_minAnisotropy : minAnisotropy.place? = some 1065353216 := by decide +kernel

/-- And the highest one at sixteen. -/
theorem place_maxAnisotropy : maxAnisotropy.place? = some 1098907648 := by decide +kernel

/-- No other value has the place of the value that leaves the choice to the core. -/
theorem eq_anisotropyAuto_iff (x : Binary32) :
    x = anisotropyAuto ↔ x.place? = some (-1065353216) := by
  constructor
  · rintro rfl
    exact place_anisotropyAuto
  · intro placed
    have auto : anisotropyAuto = .finite true ⟨1065353216, by decide⟩ := by decide +kernel
    have infinity : Format.single.infinityOrdinal = 2139095040 := by decide
    -- the place tells sign and magnitude apart, so only the finite value at that place is left
    rcases x with _ | negative | ⟨negative, n, bound⟩
    · cases placed
    · cases negative <;> simp [Binary.place?, Binary.place?.signed, infinity] at placed
    · cases negative <;> simp [Binary.place?, Binary.place?.signed] at placed
      obtain rfl : n = 1065353216 := by omega
      exact auto.symm

/-! ## Configurations under a limit -/

/-- A session accepts a positive finite scale, and either no explicit anisotropy or one from 1 to
16. -/
theorem GraphicsConfig.check_ok_iff (c : GraphicsConfig) :
    c.check = .ok () ↔ (c.resScale.isFinite = true ∧ c.resScale.le (.ofInt 0) = false) ∧
      (c.maxAnisotropy = anisotropyAuto ∨
        minAnisotropy.le c.maxAnisotropy = true ∧ c.maxAnisotropy.le maxAnisotropy = true) := by
  have auto : c.maxAnisotropy.eq anisotropyAuto = true ↔ c.maxAnisotropy = anisotropyAuto := by
    -- the check compares floats, and for this one constant comparing is being equal
    rw [eq_iff, eq_anisotropyAuto_iff, place_anisotropyAuto]
    simp
  rw [← auto, check]
  cases c.resScale.isFinite <;> cases c.resScale.le (.ofInt 0) <;>
    cases c.maxAnisotropy.eq anisotropyAuto <;> cases minAnisotropy.le c.maxAnisotropy <;>
    cases c.maxAnisotropy.le maxAnisotropy <;> simp

/-- What a host may expect of the configuration that its own one is turned into: it could have been
accepted itself, it leaves the choice of the anisotropy to the core if and only if the host has, and
it does not go beyond an explicit level. -/
structure GraphicsConfig.KeepsContract (requested effective : GraphicsConfig) : Prop where
  accepted : effective.check = .ok ()
  auto : effective.maxAnisotropy = anisotropyAuto ↔ requested.maxAnisotropy = anisotropyAuto
  bounded : requested.maxAnisotropy ≠ anisotropyAuto →
    effective.maxAnisotropy.le requested.maxAnisotropy = true

namespace Graphics

variable {c : GraphicsConfig} {ceiling : Binary32}

/-- The anisotropy of an accepted configuration is on the line of numbers. -/
theorem place_of_accepted (valid : c.check = .ok ()) :
    ∃ a, c.maxAnisotropy.place? = some a ∧
      (a = -1065353216 ∨ 1065353216 ≤ a ∧ a ≤ 1098907648) := by
  obtain ⟨-, auto | ⟨low, high⟩⟩ := c.check_ok_iff.mp valid
  · exact ⟨_, (eq_anisotropyAuto_iff _).mp auto, .inl rfl⟩
  · simp only [le_iff, place_minAnisotropy, place_maxAnisotropy, Option.some.injEq] at low high
    obtain ⟨_, a, rfl, placed, low⟩ := low
    obtain ⟨_, _, same, rfl, high⟩ := high
    rw [placed, Option.some.injEq] at same
    exact ⟨a, placed, .inr ⟨low, by omega⟩⟩

/-- A limit never raises the anisotropy. -/
theorem clamp_le (valid : c.check = .ok ()) (ceiling : Binary32) :
    (clamp c ceiling).maxAnisotropy.le c.maxAnisotropy = true := by
  rw [clamp]
  split
  · rename_i cut
    obtain ⟨a, b, limit, placed, less⟩ := lt_iff.mp cut
    exact le_iff.mpr ⟨a, b, limit, placed, by omega⟩
  -- comparing it with itself is only sound because an accepted anisotropy is a number
  · obtain ⟨a, placed, -⟩ := place_of_accepted valid
    exact le_iff.mpr ⟨a, a, placed, placed, by omega⟩

/-- Under a limit that cuts, the configuration is in order only if the limit is an explicit level
itself: a limit of minus one would read as a choice left to the core, and any other one below 1 is
no level. A choice that is left to the core is cut by such limits only. -/
theorem clamp_keepsContract_iff (valid : c.check = .ok ()) (ceiling : Binary32) :
    c.KeepsContract (clamp c ceiling) ↔
      (ceiling.lt c.maxAnisotropy = true → minAnisotropy.le ceiling = true) := by
  obtain ⟨a, placed, range⟩ := place_of_accepted valid
  have bounded := clamp_le valid ceiling
  by_cases cut : ceiling.lt c.maxAnisotropy = true
  · have limited : clamp c ceiling = { c with maxAnisotropy := ceiling } := by
      rw [clamp, if_pos cut]
    obtain ⟨b, _, limit, same, less⟩ := lt_iff.mp cut
    obtain rfl := Option.some.inj (placed.symm.trans same)
    constructor
    · rintro ⟨accepted, auto, -⟩ -
      rw [limited, GraphicsConfig.check_ok_iff] at accepted
      rw [limited] at auto
      -- a limit that reads as the choice of the core is not what the host has asked for
      obtain isAuto | ⟨low, -⟩ := accepted.2
      · have asked := (eq_anisotropyAuto_iff _).mp (auto.mp isAuto)
        rw [placed, Option.some.injEq] at asked
        have here := (eq_anisotropyAuto_iff _).mp isAuto
        rw [limit, Option.some.injEq] at here
        omega
      · exact low
    -- an explicit limit that cuts stands between the lowest level and what was asked for
    · intro explicit
      have low := explicit cut
      obtain ⟨_, _, first, second, above⟩ := le_iff.mp low
      rw [place_minAnisotropy, Option.some.injEq] at first
      rw [limit, Option.some.injEq] at second
      refine ⟨?_, ?_, fun _ => bounded⟩
      · rw [limited, GraphicsConfig.check_ok_iff]
        refine ⟨(c.check_ok_iff.mp valid).1, .inr ⟨low, le_iff.mpr ?_⟩⟩
        exact ⟨b, _, limit, place_maxAnisotropy, by omega⟩
      · rw [limited, eq_anisotropyAuto_iff, eq_anisotropyAuto_iff, limit, placed]
        simp only [Option.some.injEq]
        omega
  · have same : clamp c ceiling = c := by rw [clamp, if_neg cut]
    rw [same] at bounded ⊢
    -- nothing is cut, so the configuration is the one that was asked for
    exact ⟨fun _ is => absurd is cut, fun _ => ⟨valid, Iff.rfl, fun _ => bounded⟩⟩

end Graphics

/-! ## Renderers that a session takes over -/

/-- A renderer that was made is the one that the graphics go on with. -/
theorem World.Effect.takesOver {κ : Type} {w v : World κ} {call : HostCall} {info : RendererInfo}
    (effect : w.Effect call v (.renderer info))
    (asks : call.makesRenderer (.renderer info) = true) :
    ∃ c, w.graphics.requested = some c ∧ v.graphics.requested = some c ∧
      v.graphics.effective = some (Graphics.clamp c info.maxAnisotropy) := by
  generalize answered : Answer.renderer info = answer at effect
  cases effect with
  | created _ _ requested =>
    cases answered
    exact ⟨_, requested, requested, rfl⟩
  | looked looks =>
    -- to look at a renderer is not to make one
    cases call with
    | initializeRenderer | initializeRendererWith => cases looks
    | _ => cases asks
  | input call => cases asks
  | device uses =>
    cases call with
    | initializeRenderer | initializeRendererWith => cases uses
    | _ => cases asks
  | _ => cases answered

namespace SessionCall

variable {w : World SessionCall}

/-- Once a session is answered that there is a renderer, it renders with what it has accepted before
under the renderer's limit. This never goes beyond what the host has asked for, and keeps to the
contract with the host exactly if the limit does not cut or is an explicit level. -/
theorem Reached.renderer_limits (reached : Reached w) {name : String} {call : HostCall}
    {info : RendererInfo} (asks : call.makesRenderer (.renderer info) = true)
    (made : (perform w (.host name call)).2 = .renderer info) :
    ∃ c e, w.graphics.requested = some c ∧ c.check = .ok () ∧
      (perform w (.host name call)).1.graphics.requested = some c ∧
      (perform w (.host name call)).1.graphics.effective = some e ∧
      e = { c with maxAnisotropy :=
        if info.maxAnisotropy.lt c.maxAnisotropy then info.maxAnisotropy else c.maxAnisotropy } ∧
      e.maxAnisotropy.le c.maxAnisotropy = true ∧
      (c.KeepsContract e ↔
        (info.maxAnisotropy.lt c.maxAnisotropy = true →
          minAnisotropy.le info.maxAnisotropy = true)) := by
  -- the loop is the only call whose effect needs more than one look
  have loopless : call ≠ .runLoop := by
    rintro rfl
    cases asks
  have effect : w.Effect call (perform w (.host name call)).1 (perform w (.host name call)).2 :=
    w.perform_effect fun loops => absurd loops loopless
  rw [made] at effect
  obtain ⟨c, requested, kept, effective⟩ := effect.takesOver asks
  have valid := (staged_of_reached reached).accepted c requested
  refine ⟨c, _, requested, valid, kept, effective, ?_, Graphics.clamp_le valid _,
    Graphics.clamp_keepsContract_iff valid _⟩
  rw [Graphics.clamp]
  split <;> rfl

/-- A core whose renderers have a limit. -/
def limitedTo (ceiling : Binary32) : Surroundings SessionCall where
  core := { anisotropyCeiling := ceiling }

/-- The host asks for an anisotropy. -/
def asksFor (anisotropy : Binary32) : SessionCall :=
  .host "graphics_initialize" (.configureGraphics { maxAnisotropy := anisotropy })

/-- The host asks for a renderer that needs one procedure only. -/
def asksForOpenGl : HostCall := .initializeRenderer .openGl { glGetProcAddress := true }

/-- Sixteen is cut to eight, which is an explicit level, so all is in order. -/
theorem Reached.renderer_limits_halved :
    ∃ w, World.ofConfig (limitedTo (.ofInt 8)) {} = .ok w ∧
      let v := (perform w (asksFor (.ofInt 16))).1
      let outcome := perform v (.host "renderer" asksForOpenGl)
      Reached v ∧ asksForOpenGl.makesRenderer (.renderer ⟨.openGl, false, .ofInt 8⟩) = true ∧
        outcome.2 = .renderer ⟨.openGl, false, .ofInt 8⟩ ∧
        ∃ c e, outcome.1.graphics.requested = some c ∧ outcome.1.graphics.effective = some e ∧
          c.maxAnisotropy = .ofInt 16 ∧ e.maxAnisotropy = .ofInt 8 ∧ c.KeepsContract e := by
  let w : World SessionCall :=
    { toSurroundings := limitedTo (.ofInt 8), config := {}, router := {} }
  have opened : World.ofConfig (limitedTo (.ofInt 8)) {} = .ok w := rfl
  refine ⟨w, opened, ?_⟩
  intro v outcome
  have reached : Reached v := .performed (.opened opened) _
  have asks : asksForOpenGl.makesRenderer (.renderer ⟨.openGl, false, .ofInt 8⟩) = true := rfl
  have made : outcome.2 = .renderer ⟨.openGl, false, .ofInt 8⟩ := by decide +kernel
  obtain ⟨c, e, requested, -, kept, effective, limited, -, keeps⟩ :=
    reached.renderer_limits asks made
  have accepted : v.graphics.requested = some { maxAnisotropy := .ofInt 16 } := by decide +kernel
  obtain rfl := Option.some.inj (requested.symm.trans accepted)
  refine ⟨reached, asks, made, _, e, kept, effective, rfl, ?_, keeps.mpr fun _ => by decide +kernel⟩
  rw [limited]
  decide +kernel

/-- A renderer that can do no anisotropy at all takes the lowest explicit level down to zero, which
is no level. -/
theorem Reached.contract_broken_by_zero_limit :
    ∃ w, World.ofConfig (limitedTo (.ofInt 0)) {} = .ok w ∧
      let v := (perform w (asksFor (.ofInt 1))).1
      let outcome := perform v (.host "renderer" asksForOpenGl)
      Reached v ∧ asksForOpenGl.makesRenderer (.renderer ⟨.openGl, false, .ofInt 0⟩) = true ∧
        outcome.2 = .renderer ⟨.openGl, false, .ofInt 0⟩ ∧
        ∃ c e, outcome.1.graphics.requested = some c ∧ outcome.1.graphics.effective = some e ∧
          c.check = .ok () ∧ e.check = .error (.anisotropy (.ofInt 0)) ∧ ¬c.KeepsContract e := by
  let w : World SessionCall :=
    { toSurroundings := limitedTo (.ofInt 0), config := {}, router := {} }
  have opened : World.ofConfig (limitedTo (.ofInt 0)) {} = .ok w := rfl
  refine ⟨w, opened, ?_⟩
  intro v outcome
  let c : GraphicsConfig := { maxAnisotropy := .ofInt 1 }
  let e : GraphicsConfig := { maxAnisotropy := .ofInt 0 }
  have refused : e.check = .error (.anisotropy (.ofInt 0)) := by decide +kernel
  refine ⟨.performed (.opened opened) _, rfl, by decide +kernel, c, e, by decide +kernel,
    by decide +kernel, by decide +kernel, refused, ?_⟩
  intro keeps
  cases refused.symm.trans keeps.accepted

end SessionCall

end EmuHost
