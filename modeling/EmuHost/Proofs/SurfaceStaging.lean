import EmuHost.Graphics.Surface

/-!
# Surface staging keeps the renderer in step

A renderer is told a size or a vsync only at the start of a frame, and only where it differs from
what the renderer was told before. This file relates a `Surface` to the whole history of calls made
to it: what the host asked for last, and what the current renderer has been told since it was
created (`Receiver`). Histories are lists with the latest call first.

## Key results

- `Surface.Tracks`: the invariant that ties a surface to its history, kept by every call
- `Surface.nextFrame_in_step`: each frame starts with exactly the pushes that bring the renderer in
  step with the host, and its geometry is what the renderer then knows
-/

namespace EmuHost

/-- The size of a geometry. -/
def Geometry.size (g : Geometry) : Nat × Nat := (g.width, g.height)

/-- A size has an area if neither side is zero. -/
theorem Geometry.hasArea_iff (g : Geometry) : g.hasArea = true ↔ 0 < g.size.1 ∧ 0 < g.size.2 := by
  simp only [hasArea, size, Bool.and_eq_true, bne_iff_ne]
  omega

/-- Sizes are compared side by side. -/
theorem Geometry.sameSize_iff (g h : Geometry) : g.sameSize h = true ↔ g.size = h.size := by
  simp [sameSize, size]

/-- The area depends on the size only. -/
theorem Geometry.hasArea_congr {g h : Geometry} (same : g.size = h.size) :
    g.hasArea = h.hasArea := by
  rw [Bool.eq_iff_iff, hasArea_iff, hasArea_iff, same]

/-- A call to a surface. -/
inductive SurfaceCall where
  | setSize (width height : Nat)
  | setVsync (enabled : Bool)
  | setCallback (callback : Option SwapCallback)
  | invalidate
  | reset
  | beginFrame
  deriving DecidableEq, Repr

/-- The calls made to a surface, the latest first. -/
abbrev SurfaceHistory := List SurfaceCall

namespace Surface

/-- The surface after a call. -/
def perform (s : Surface) : SurfaceCall → Surface
  | .setSize width height => s.setSize width height
  | .setVsync enabled => s.setVsync enabled
  | .setCallback callback => s.setCallback callback
  | .invalidate => s.invalidate
  | .reset => s.reset
  | .beginFrame => s.beginFrame.1

/-- The surface after a history. -/
def after : SurfaceHistory → Surface
  | [] => {}
  | call :: earlier => (after earlier).perform call

/-- What a frame would start with after a history. -/
def nextFrame (history : SurfaceHistory) : FrameStart := (after history).beginFrame.2

end Surface

/-! ## What the host asked for -/

namespace SurfaceHistory

/-- The size that the host asked for last; a reset forgets it. -/
def stagedSize : SurfaceHistory → Nat × Nat
  | [] | .reset :: _ => (0, 0)
  | .setSize width height :: _ => (width, height)
  | _ :: earlier => stagedSize earlier

/-- The vsync that the host asked for last; a reset turns it on again. -/
def stagedVsync : SurfaceHistory → Bool
  | [] | .reset :: _ => true
  | .setVsync enabled :: _ => enabled
  | _ :: earlier => stagedVsync earlier

/-- The callback that the host installed last. It outlives a reset. -/
def installedCallback : SurfaceHistory → Option SwapCallback
  | [] => none
  | .setCallback callback :: _ => callback
  | _ :: earlier => installedCallback earlier

/-- The size that was staged when the first frame of the current renderer began. -/
def openingSize : SurfaceHistory → Option (Nat × Nat)
  | [] | .invalidate :: _ | .reset :: _ => none
  | .beginFrame :: earlier => openingSize earlier <|> some (stagedSize earlier)
  | _ :: earlier => openingSize earlier

end SurfaceHistory

/-! ## What the renderer was told -/

/-- What the current renderer has been told. -/
structure Receiver where
  size : Option (Nat × Nat) := none
  vsync : Option Bool := none
  deriving DecidableEq, Repr

/-- The receiver after the pushes that a frame starts with. -/
def Receiver.hear (r : Receiver) (start : FrameStart) : Receiver where
  size := if start.resized then some start.geometry.size else r.size
  vsync := if start.vsyncChanged then some start.geometry.vsync else r.vsync

/-- What the renderer has been told in the course of a history. A new renderer, and the one after a
reset, was told nothing. -/
def SurfaceHistory.receiver : SurfaceHistory → Receiver
  | [] | .invalidate :: _ | .reset :: _ => {}
  | .beginFrame :: earlier => (receiver earlier).hear (Surface.nextFrame earlier)
  | _ :: earlier => receiver earlier

namespace Surface

/-- How a surface reflects its history. The applied geometry is what the renderer knows, save that
its size is only a stand-in while the renderer was told none. -/
structure Tracks (s : Surface) (history : SurfaceHistory) : Prop where
  size : s.staged.size = history.stagedSize
  vsync : s.staged.vsync = history.stagedVsync
  callback : s.callback = history.installedCallback
  untold : s.applied = none → history.receiver = {} ∧ history.openingSize = none
  told : ∀ a, s.applied = some a → history.receiver.vsync = some a.vsync ∧
    (history.receiver.size = some a.size ∧ history.openingSize.isSome ∨
      history.receiver.size = none ∧ a.hasArea = false ∧ history.openingSize = some a.size)

namespace Tracks

variable {s : Surface} {history : SurfaceHistory}

/-- A size is pushed exactly if it can be drawn on and the renderer was not told it already. -/
theorem needsResize_iff (h : s.Tracks history) :
    s.needsResize = true ↔
      s.staged.hasArea = true ∧ history.receiver.size ≠ some s.staged.size := by
  simp only [needsResize, Bool.and_eq_true, Option.all_eq_true, Bool.not_eq_true']
  refine and_congr_right fun area => ?_
  cases applied : s.applied with
  | none => simp [(h.untold applied).1]
  | some a =>
    have same := a.sameSize_iff s.staged
    rcases (h.told a applied).2 with ⟨told, _⟩ | ⟨told, flat, _⟩
    · simp [told, ← same]
    · -- The stand-in has no area, so it differs from a staged size that has one.
      have differ : a.sameSize s.staged = false := by
        rw [Bool.eq_false_iff, Ne, same]
        intro e
        rw [Bool.eq_false_iff, Ne, a.hasArea_iff, e, ← s.staged.hasArea_iff] at flat
        exact flat area
      simp [told, differ]

/-- A vsync is pushed exactly if the renderer was not told it already. -/
theorem needsVsync_iff (h : s.Tracks history) :
    s.needsVsync = true ↔ history.receiver.vsync ≠ some s.staged.vsync := by
  -- before the first frame the renderer knows nothing, afterwards what is in force
  cases applied : s.applied with
  | none => simp [needsVsync, applied, (h.untold applied).1]
  | some a => simp [needsVsync, applied, (h.told a applied).1]

end Tracks

/-! ## The start of a frame -/

/-- A frame has the vsync that was asked for last. -/
theorem frameGeometry_vsync (s : Surface) : s.frameGeometry.vsync = s.staged.vsync := rfl

/-- A frame has the size that is pushed with it, or the one that is in force. -/
theorem frameGeometry_size (s : Surface) :
    s.frameGeometry.size =
      if s.needsResize then s.staged.size else (s.applied.getD s.staged).size := by
  simp only [frameGeometry]
  -- the size that is put in force is the one that the frame has
  split <;> rfl

section

variable {history : SurfaceHistory}

/-- After the start of a frame the renderer knows the staged vsync. -/
theorem Tracks.receiver_vsync (h : (after history).Tracks history) :
    (SurfaceHistory.receiver (.beginFrame :: history)).vsync = some history.stagedVsync := by
  show (if (after history).needsVsync then some (after history).staged.vsync
    else history.receiver.vsync) = _
  split
  · rw [h.vsync]
  · rename_i known
    rw [h.needsVsync_iff, Decidable.not_not] at known
    rw [known, h.vsync]

/-- A frame with a size that can be drawn on has that size, and the renderer knows it. -/
theorem Tracks.frame_of_area (h : (after history).Tracks history)
    (area : (after history).staged.hasArea = true) :
    (after history).frameGeometry.size = history.stagedSize ∧
      (SurfaceHistory.receiver (.beginFrame :: history)).size = some history.stagedSize := by
  have receiver : (SurfaceHistory.receiver (.beginFrame :: history)).size =
      if (after history).needsResize then some (after history).frameGeometry.size
      else history.receiver.size := rfl
  rw [receiver, frameGeometry_size, ← h.size]
  -- a size is pushed, or the renderer has it from an earlier frame
  by_cases needs : (after history).needsResize = true
  · simp [needs]
  · have known : history.receiver.size = some (after history).staged.size := by
      rw [h.needsResize_iff, not_and, Decidable.not_not] at needs
      exact needs area
    cases applied : (after history).applied with
    | none => simp [(h.untold applied).1] at known
    | some a =>
      rcases (h.told a applied).2 with ⟨told, _⟩ | ⟨told, _, _⟩
      · have same : a.size = (after history).staged.size := Option.some.inj (told ▸ known)
        simp [needs, known, same]
      · rw [told] at known
        -- the renderer would have been told a size that has no area
        exact nomatch known

/-- A frame without such a size tells the renderer none. It has the size that the renderer knows,
or else the one that was staged when the renderer's first frame began. -/
theorem Tracks.frame_of_flat (h : (after history).Tracks history)
    (flat : (after history).staged.hasArea = false) :
    (SurfaceHistory.receiver (.beginFrame :: history)).size = history.receiver.size ∧
      some (after history).frameGeometry.size =
        (history.receiver.size <|> SurfaceHistory.openingSize (.beginFrame :: history)) := by
  have needs : (after history).needsResize = false := by simp [needsResize, flat]
  have receiver : (SurfaceHistory.receiver (.beginFrame :: history)).size =
      if (after history).needsResize then some (after history).frameGeometry.size
      else history.receiver.size := rfl
  refine ⟨by simp [receiver, needs], ?_⟩
  rw [frameGeometry_size]
  simp only [needs, Bool.false_eq_true, if_false, SurfaceHistory.openingSize]
  -- a size is in force once a frame has started, told to the renderer or standing in
  cases applied : (after history).applied with
  | none =>
    obtain ⟨untold, unopened⟩ := h.untold applied
    simp [untold, unopened, h.size]
  | some a =>
    rcases (h.told a applied).2 with ⟨told, _⟩ | ⟨told, _, opening⟩
    · simp [told]
    · simp [told, opening]

/-- As long as the renderer was told no size, frames without a size that can be drawn on have none
that can. -/
theorem Tracks.frame_hasArea (h : (after history).Tracks history)
    (flat : (after history).staged.hasArea = false) (untold : history.receiver.size = none) :
    (after history).frameGeometry.hasArea = false := by
  have needs : (after history).needsResize = false := by simp [needsResize, flat]
  have size := frameGeometry_size (after history)
  rw [needs, if_neg Bool.false_ne_true] at size
  rw [Geometry.hasArea_congr size]
  cases applied : (after history).applied with
  | none => exact flat
  | some a =>
    rcases (h.told a applied).2 with ⟨told, _⟩ | ⟨_, standIn, _⟩
    · rw [untold] at told
      exact nomatch told
    · exact standIn

/-- The start of a frame keeps the invariant. -/
theorem Tracks.beginFrame (h : (after history).Tracks history) :
    (after (.beginFrame :: history)).Tracks (.beginFrame :: history) where
  size := h.size
  vsync := h.vsync
  callback := h.callback
  untold none := nomatch none
  told a applied := by
    -- a frame puts its geometry in force, so that is what to look at
    obtain rfl : (after history).frameGeometry = a := Option.some.inj applied
    refine ⟨by rw [h.receiver_vsync, frameGeometry_vsync, h.vsync], ?_⟩
    have opened : (SurfaceHistory.openingSize (.beginFrame :: history)).isSome := by
      simp [SurfaceHistory.openingSize]
    cases area : (after history).staged.hasArea with
    | true =>
      obtain ⟨frame, known⟩ := h.frame_of_area area
      exact .inl ⟨by rw [known, frame], opened⟩
    | false =>
      obtain ⟨kept, frame⟩ := h.frame_of_flat area
      cases told : history.receiver.size with
      | some size =>
        rw [told] at frame
        exact .inl ⟨by rw [kept, told, frame]; rfl, opened⟩
      | none =>
        rw [told] at frame
        exact .inr ⟨by rw [kept, told], h.frame_hasArea area told, frame.symm⟩

end

/-! ## Whole histories -/

/-- Every call keeps the invariant. -/
theorem Tracks.perform {history : SurfaceHistory} (h : (after history).Tracks history)
    (call : SurfaceCall) : (after (call :: history)).Tracks (call :: history) := by
  cases call with
  -- staging touches neither what is in force nor what the renderer was told
  | setSize width height => exact ⟨rfl, h.vsync, h.callback, h.untold, h.told⟩
  | setVsync enabled => exact ⟨h.size, rfl, h.callback, h.untold, h.told⟩
  | setCallback callback => exact ⟨h.size, h.vsync, rfl, h.untold, h.told⟩
  | invalidate =>
    exact ⟨h.size, h.vsync, h.callback, fun _ => ⟨rfl, rfl⟩, fun _ told => nomatch told⟩
  | reset => exact ⟨rfl, rfl, h.callback, fun _ => ⟨rfl, rfl⟩, fun _ told => nomatch told⟩
  | beginFrame => exact h.beginFrame

/-- Every surface reflects its history. -/
theorem after_tracks (history : SurfaceHistory) : (after history).Tracks history := by
  induction history with
  -- on the history, the last call first
  | nil => exact ⟨rfl, rfl, rfl, fun _ => ⟨rfl, rfl⟩, fun _ told => nomatch told⟩
  | cons call earlier ih => exact ih.perform call

/-- Each frame starts in step. Its vsync is the one that the host asked for last, and so is its size
if both dimensions are positive; the renderer then knows both. Otherwise the size is the one that
the renderer knows, or else the one staged when its first frame began. A size is pushed exactly if
it is positive and news to the renderer, a vsync exactly if it is news. -/
theorem nextFrame_in_step (history : SurfaceHistory) :
    let start := nextFrame history
    let staged := history.stagedSize
    let positive := 0 < staged.1 ∧ 0 < staged.2
    let before := history.receiver
    let afterwards := SurfaceHistory.receiver (.beginFrame :: history)
    start.geometry.vsync = history.stagedVsync ∧
      afterwards.vsync = some history.stagedVsync ∧
      (positive → start.geometry.size = staged ∧ afterwards.size = some staged) ∧
      (¬positive → afterwards.size = before.size ∧
        some start.geometry.size =
          (before.size <|> SurfaceHistory.openingSize (.beginFrame :: history))) ∧
      (start.resized = true ↔ positive ∧ before.size ≠ some staged) ∧
      (start.vsyncChanged = true ↔ before.vsync ≠ some history.stagedVsync) ∧
      (start.resized = true → 0 < start.geometry.width ∧ 0 < start.geometry.height ∧
        before.size ≠ some start.geometry.size) ∧
      (start.vsyncChanged = true → before.vsync ≠ some start.geometry.vsync) ∧
      start.callback = history.installedCallback := by
  intro start staged positive before afterwards
  -- the history up to here says all of the surface
  have h := after_tracks history
  have area : (after history).staged.hasArea = true ↔ positive := by
    rw [Geometry.hasArea_iff, h.size]
  have resized : start.resized = true ↔ positive ∧ before.size ≠ some staged := by
    rw [← area, show staged = (after history).staged.size from h.size.symm]
    exact h.needsResize_iff
  have vsyncChanged : start.vsyncChanged = true ↔ before.vsync ≠ some history.stagedVsync := by
    rw [← h.vsync]
    exact h.needsVsync_iff
  have frame (drawable : positive) : start.geometry.size = staged ∧ afterwards.size = some staged :=
    h.frame_of_area (area.mpr drawable)
  refine ⟨h.vsync, h.receiver_vsync, frame, ?_, resized, vsyncChanged, ?_, ?_, h.callback⟩
  · intro flat
    exact h.frame_of_flat (by rw [Bool.eq_false_iff, Ne, area]; exact flat)
  -- a size that is pushed is the staged one
  · intro pushed
    obtain ⟨drawable, news⟩ := resized.mp pushed
    have size := (frame drawable).1
    have width : start.geometry.width = staged.1 := congrArg Prod.fst size
    have height : start.geometry.height = staged.2 := congrArg Prod.snd size
    exact ⟨width ▸ drawable.1, height ▸ drawable.2, size ▸ news⟩
  · intro pushed
    rw [show start.geometry.vsync = history.stagedVsync from h.vsync]
    exact vsyncChanged.mp pushed

end Surface

end EmuHost
