import EmuHost.Graphics.Statistics
import Mathlib.Algebra.BigOperators.Intervals
import Mathlib.Algebra.BigOperators.Ring.Finset
import Mathlib.Algebra.Order.Field.Rat
import Mathlib.Data.Finset.Max
import Mathlib.Data.List.GetD
import Mathlib.Tactic.FieldSimp
import Mathlib.Tactic.Linarith
import Mathlib.Tactic.Positivity
import Mathlib.Tactic.Ring

/-!
# Smoothed timings

Read exactly, the smoothed times of a loop are weighted means of what its frames took: the last
frame counts for a tenth, each frame before it for nine tenths of the frame after it, and the first
frame for all that is left. The frames that are given up do not count.

A weighted mean grows with its samples, and it keeps a sample that never changes. This bounds the
reported figures: the smoothed frame time lies between the shortest and the longest frame, and the
core never takes more than all of it.

## Key results

- `weightedMean_concat`: smoothing turns the mean of some samples into the mean of one more
- `weightedMean_le`, `weightedMean_const`: what bounds a mean
- `Statistics.Smooths.record`: the smoothed times stay in line with the frames
- `Statistics.smoothed_timings`: the smoothed times and the figures of any loop
-/

namespace EmuHost

/-- The span in seconds, read exactly. -/
def Duration.exact (d : Duration) : ℚ := d.toSeconds

/-- A duration in seconds. -/
theorem Duration.exact_eq (d : Duration) : d.exact = d.seconds + d.nanoseconds / 1000000000 := rfl

/-- Durations are not negative. -/
theorem Duration.exact_nonneg (d : Duration) : 0 ≤ d.exact := by
  rw [exact_eq]
  positivity

/-! ## Weighted means -/

/-- The mean of the samples `d 1`, …, `d n` in which each of the later ones counts for a tenth when
it comes and loses a tenth of its weight to every sample after it. -/
def weightedMean (samples : List ℚ) : ℚ :=
  let n := samples.length
  let d (i : Nat) : ℚ := samples.getD (i - 1) 0
  (9 / 10) ^ (n - 1) * d 1 + ∑ i ∈ Finset.Icc 2 n, 1 / 10 * (9 / 10) ^ (n - i) * d i

/-- Without samples the mean is zero. -/
theorem weightedMean_nil : weightedMean [] = 0 := by
  simp [weightedMean]

/-- The first sample is the mean itself. -/
theorem weightedMean_singleton (sample : ℚ) : weightedMean [sample] = sample := by
  simp [weightedMean]

/-- Smoothing gives one more sample a tenth of the weight. -/
theorem weightedMean_concat {samples : List ℚ} (started : samples ≠ []) (sample : ℚ) :
    weightedMean (samples ++ [sample]) = Statistics.smooth (weightedMean samples) sample := by
  have positive : 0 < samples.length := List.length_pos_iff.mpr started
  obtain ⟨n, count⟩ : ∃ n, samples.length = n + 1 := ⟨samples.length - 1, by omega⟩
  -- the samples so far keep their places
  have kept (i : Nat) (old : i ≤ n) : (samples ++ [sample]).getD i 0 = samples.getD i 0 :=
    List.getD_append samples [sample] 0 i (by omega)
  have last : (samples ++ [sample]).getD (n + 1) 0 = sample := by
    rw [List.getD_append_right _ _ _ _ (by omega), count, Nat.sub_self]
    rfl
  -- they lose a tenth of their weight
  have later : ∑ i ∈ Finset.Icc 2 (n + 1),
        (1 / 10 * (9 / 10) ^ (n + 1 + 1 - i) * (samples ++ [sample]).getD (i - 1) 0 : ℚ) =
      (9 / 10) * ∑ i ∈ Finset.Icc 2 (n + 1), 1 / 10 * (9 / 10) ^ (n + 1 - i) *
        samples.getD (i - 1) 0 := by
    rw [Finset.mul_sum]
    refine Finset.sum_congr rfl fun i inside => ?_
    obtain ⟨-, old⟩ := Finset.mem_Icc.mp inside
    rw [kept (i - 1) (by omega), Nat.succ_sub old, pow_succ]
    ring
  show _ = weightedMean samples + (sample - weightedMean samples) * (1 / 10)
  simp only [weightedMean, List.length_append, List.length_singleton, count]
  rw [Finset.sum_Icc_succ_top (by omega), later, kept (1 - 1) (by omega)]
  simp only [Nat.add_sub_cancel, Nat.sub_self, pow_zero, pow_succ, last]
  ring

/-- The step of a loop that counts its samples: the first one is taken as it is. -/
theorem weightedMean_step {samples : List ℚ} {count : Nat} (counted : count = samples.length)
    (sample : ℚ) :
    weightedMean (samples ++ [sample]) =
      if count = 0 then sample else Statistics.smooth (weightedMean samples) sample := by
  subst counted
  -- a sample is the first one if there is none before it
  split
  · rename_i first
    rw [List.length_eq_zero_iff.mp first]
    exact weightedMean_singleton sample
  · rename_i later
    exact weightedMean_concat (List.length_pos_iff.mp (Nat.pos_of_ne_zero later)) sample

/-- Smoothing keeps the order. -/
theorem smooth_le {average average' sample sample' : ℚ} (before : average ≤ average')
    (now : sample ≤ sample') :
    Statistics.smooth average sample ≤ Statistics.smooth average' sample' := by
  show average + (sample - average) * (1 / 10) ≤ average' + (sample' - average') * (1 / 10)
  linarith

section

variable {α : Type} {frames : List α} {f g : α → ℚ}

/-- A mean of more is more. -/
theorem weightedMean_le (order : ∀ t ∈ frames, f t ≤ g t) :
    weightedMean (frames.map f) ≤ weightedMean (frames.map g) := by
  -- from the last sample on, like all inductions on a mean
  induction frames using List.reverseRecOn with
  | nil => exact le_refl _
  | append_singleton frames t ih =>
    have now : f t ≤ g t := order t (by simp)
    have before := ih fun u inside => order u (List.mem_append_left _ inside)
    rcases frames.eq_nil_or_concat with rfl | ⟨_, _, rfl⟩
    · simpa [weightedMean_singleton] using now
    · rw [List.map_append, List.map_append, List.map_singleton, List.map_singleton,
        weightedMean_concat (by simp), weightedMean_concat (by simp)]
      exact smooth_le before now

/-- The mean of a sample that never changes is this sample. -/
theorem weightedMean_const (started : frames ≠ []) (sample : ℚ) :
    weightedMean (frames.map fun _ => sample) = sample := by
  induction frames using List.reverseRecOn with
  | nil => exact absurd rfl started
  | append_singleton frames t ih =>
    rcases frames.eq_nil_or_concat with rfl | ⟨_, _, rfl⟩
    · exact weightedMean_singleton sample
    · rw [List.map_append, List.map_singleton, weightedMean_concat (by simp), ih (by simp)]
      show sample + (sample - sample) * (1 / 10) = sample
      ring

/-- A mean of samples that are nothing is nothing. -/
theorem weightedMean_eq_zero (idle : ∀ t ∈ frames, f t = 0) : weightedMean (frames.map f) = 0 := by
  rcases frames.eq_nil_or_concat with rfl | ⟨_, _, rfl⟩
  · exact weightedMean_nil
  · rw [List.map_congr_left idle]
    -- all samples are the same then, or there are none
    exact weightedMean_const (by simp) 0

/-- A mean of what is not negative is not negative. -/
theorem weightedMean_nonneg (nonneg : ∀ t ∈ frames, 0 ≤ f t) : 0 ≤ weightedMean (frames.map f) := by
  have nothing : weightedMean (frames.map fun _ => 0) = 0 := weightedMean_eq_zero fun _ _ => rfl
  rw [← nothing]
  exact weightedMean_le nonneg

/-- One sample is enough to keep a mean from vanishing. -/
theorem weightedMean_pos (nonneg : ∀ t ∈ frames, 0 ≤ f t) (some : ∃ t ∈ frames, 0 < f t) :
    0 < weightedMean (frames.map f) := by
  -- on the samples from the last one on, as that is how they are smoothed
  induction frames using List.reverseRecOn with
  | nil => simp at some
  | append_singleton frames t ih =>
    have now : 0 ≤ f t := nonneg t (by simp)
    have old : ∀ u ∈ frames, 0 ≤ f u := fun u inside => nonneg u (List.mem_append_left _ inside)
    rcases frames.eq_nil_or_concat with rfl | ⟨front, u, whole⟩
    · simpa [weightedMean_singleton] using some
    · have started : frames.map f ≠ [] := by simp [whole]
      have before : 0 ≤ weightedMean (frames.map f) := weightedMean_nonneg old
      rw [List.map_append, List.map_singleton, weightedMean_concat started]
      show 0 < weightedMean (frames.map f) + (f t - weightedMean (frames.map f)) * (1 / 10)
      obtain ⟨v, inside, positive⟩ := some
      rcases List.mem_append.mp inside with inside | inside
      · have := ih old ⟨v, inside, positive⟩
        linarith
      · rw [List.mem_singleton] at inside
        subst inside
        linarith

end

/-! ## Loops -/

/-- What a loop tells its statistics. -/
inductive LoopReport where
  | frame (timing : FrameTiming) (wasPresented : Bool)
  | error

namespace LoopReport

/-- What a frame took, if it was not given up. -/
def timing? : LoopReport → Option FrameTiming
  | frame timing _ => some timing
  | error => none

end LoopReport

namespace Statistics

section

variable {α : Type} [Scalar α]

/-- The statistics after a report. -/
def record (s : Statistics α) : LoopReport → Statistics α
  | .frame timing wasPresented => s.recordFrame timing wasPresented
  | .error => s.recordError

/-- The statistics of a loop by its reports. -/
def ofReports (reports : List LoopReport) : Statistics α := reports.foldl record empty

/-- Reports are recorded one after the other. -/
theorem ofReports_concat (reports : List LoopReport) (r : LoopReport) :
    (ofReports (reports ++ [r]) : Statistics α) = (ofReports reports).record r := by
  simp only [ofReports, List.foldl_append, List.foldl_cons, List.foldl_nil]

end

/-- The smoothed times are the means of what the frames took. -/
structure Smooths (s : Statistics ℚ) (frames : List FrameTiming) : Prop where
  submitted : s.submitted = frames.length
  frameTime : s.frameTime = weightedMean (frames.map (·.frame.exact))
  submissionTime : s.submissionTime = weightedMean (frames.map (·.submission.exact))

namespace Smooths

variable {s : Statistics ℚ} {frames : List FrameTiming}

/-- A new loop has smoothed nothing. -/
theorem empty : Smooths Statistics.empty [] :=
  ⟨rfl, weightedMean_nil.symm, weightedMean_nil.symm⟩

/-- The first frame is told by the counter, which errors do not touch. -/
theorem record (h : s.Smooths frames) (r : LoopReport) :
    (s.record r).Smooths (frames ++ r.timing?.toList) := by
  cases r with
  | error =>
    rw [LoopReport.timing?, Option.toList_none, List.append_nil]
    exact ⟨h.submitted, h.frameTime, h.submissionTime⟩
  | frame timing wasPresented =>
    rw [LoopReport.timing?, Option.toList_some]
    refine ⟨?_, ?_, ?_⟩
    · rw [List.length_append, List.length_singleton, ← h.submitted]
      rfl
    · rw [List.map_append, List.map_singleton,
        weightedMean_step (h.submitted.trans (List.length_map _).symm), ← h.frameTime]
      rfl
    · rw [List.map_append, List.map_singleton,
        weightedMean_step (h.submitted.trans (List.length_map _).symm), ← h.submissionTime]
      rfl

/-- A loop smooths the timings of its frames. -/
theorem ofReports (reports : List LoopReport) :
    (Statistics.ofReports reports).Smooths (reports.filterMap LoopReport.timing?) := by
  -- on the reports, the last one first
  induction reports using List.reverseRecOn with
  | nil => exact .empty
  | append_singleton reports r ih =>
    have frames : (reports ++ [r]).filterMap LoopReport.timing? =
        reports.filterMap LoopReport.timing? ++ r.timing?.toList := by
      cases r <;> simp [LoopReport.timing?]
    rw [ofReports_concat, frames]
    exact ih.record r

end Smooths

/-! ## Figures -/

/-- A loop is timed once it took time. -/
theorem isTimed_iff (s : Statistics ℚ) : s.isTimed = true ↔ 0 < s.frameTime := by
  rw [isTimed]
  exact decide_eq_true_iff

/-- The share of the submissions in percent. -/
theorem share_eq (s : Statistics ℚ) : s.share = s.submissionTime / s.frameTime * 100 := rfl

/-- The figures of a loop in which time passed; the cap has nothing to cut. -/
theorem figures_of_timed {s : Statistics ℚ} (timed : 0 < s.frameTime)
    (within : s.submissionTime ≤ s.frameTime) :
    s.share ≤ 100 ∧ s.figures = ⟨s.share, 1 / s.frameTime, s.frameTime * 1000⟩ := by
  have ticks := s.isTimed_iff.mpr timed
  have small : s.share ≤ 100 := by
    have part : s.submissionTime / s.frameTime ≤ 1 := (div_le_one timed).mpr within
    rw [share_eq]
    linarith
  have uncut : s.fifoPercent = s.share := by
    -- the share is a hundred at most, so the cap can only cut what is there
    unfold fifoPercent
    rw [if_pos ticks]
    split
    · rfl
    · rename_i full
      have full : ¬s.share < 100 := of_decide_eq_false (Bool.not_eq_true _ ▸ full)
      exact le_antisymm (not_lt.mp full) small
  refine ⟨small, ?_⟩
  rw [figures, uncut, framesPerSecond, if_pos ticks]
  rfl

/-- The figures of a loop in which no time passed. -/
theorem figures_of_idle {s : Statistics ℚ} (idle : s.frameTime = 0) : s.figures = ⟨0, 0, 0⟩ := by
  have still : ¬s.isTimed = true := by
    rw [isTimed_iff, idle]
    exact lt_irrefl 0
  rw [figures, fifoPercent, framesPerSecond, if_neg still, if_neg still, idle]
  show (⟨0, 0, 0 * 1000⟩ : GameFigures ℚ) = ⟨0, 0, 0⟩
  rw [zero_mul]

/-- What a loop reports about the frames that it has run. -/
structure ReportsTimings (s : Statistics ℚ) (frames : List FrameTiming) : Prop where
  frameTime : s.frameTime = weightedMean (frames.map (·.frame.exact))
  submissionTime : s.submissionTime = weightedMean (frames.map (·.submission.exact))
  /-- The smoothed frame time lies between the shortest frame and the longest one. -/
  between : frames ≠ [] → ∃ shortest ∈ frames, ∃ longest ∈ frames,
    (∀ t ∈ frames, shortest.frame.exact ≤ t.frame.exact ∧ t.frame.exact ≤ longest.frame.exact) ∧
      shortest.frame.exact ≤ s.frameTime ∧ s.frameTime ≤ longest.frame.exact
  submission_le : s.submissionTime ≤ s.frameTime
  fifo : 0 ≤ s.figures.fifo ∧ s.figures.fifo ≤ 100
  /-- The cap does not change the share of the core. -/
  uncut : 0 < s.frameTime → s.figures.fifo = s.submissionTime / s.frameTime * 100
  rate : (∃ t ∈ frames, t.frame.exact ≠ 0) →
    s.figures.framesPerSecond * s.figures.milliseconds = 1000
  idle : (∀ t ∈ frames, t.frame.exact = 0) → s.figures = ⟨0, 0, 0⟩

/-- A list that is not empty has an element with the least value and one with the greatest. -/
theorem exists_extremes {α : Type} [DecidableEq α] {l : List α} (f : α → ℚ) (nonempty : l ≠ []) :
    ∃ least ∈ l, ∃ greatest ∈ l, ∀ a ∈ l, f least ≤ f a ∧ f a ≤ f greatest := by
  obtain ⟨least, first, below⟩ := l.toFinset.exists_min_image f (by simpa using nonempty)
  obtain ⟨greatest, last, above⟩ := l.toFinset.exists_max_image f (by simpa using nonempty)
  simp only [List.mem_toFinset] at first last below above
  exact ⟨least, first, greatest, last, fun a inside => ⟨below a inside, above a inside⟩⟩

/-- What is smoothed gives the figures that are reported. -/
theorem Smooths.reportsTimings {s : Statistics ℚ} {frames : List FrameTiming} (h : s.Smooths frames)
    (ordered : ∀ t ∈ frames, t.submission.exact ≤ t.frame.exact) : s.ReportsTimings frames := by
  have within : s.submissionTime ≤ s.frameTime := by
    rw [h.frameTime, h.submissionTime]
    -- no sum of parts is more than the sum of the wholes
    exact weightedMean_le ordered
  have nonneg : 0 ≤ s.submissionTime := by
    rw [h.submissionTime]
    exact weightedMean_nonneg fun t _ => t.submission.exact_nonneg
  refine ⟨h.frameTime, h.submissionTime, ?between, within, ?fifo, ?uncut, ?rate, ?idle⟩
  case between =>
    intro started
    obtain ⟨shortest, first, longest, last, all⟩ := exists_extremes (·.frame.exact) started
    refine ⟨shortest, first, longest, last, all, ?_, ?_⟩
    -- the mean lies between those of the extremes, which are constant
    · rw [h.frameTime, ← weightedMean_const started shortest.frame.exact]
      exact weightedMean_le fun t inside => (all t inside).1
    · rw [h.frameTime, ← weightedMean_const started longest.frame.exact]
      exact weightedMean_le fun t inside => (all t inside).2
  case fifo =>
    rcases (nonneg.trans within).eq_or_lt' with idle | timed
    · rw [figures_of_idle idle]
      exact ⟨le_refl 0, by norm_num⟩
    · obtain ⟨small, figures⟩ := figures_of_timed timed within
      rw [figures]
      have share : 0 ≤ s.submissionTime / s.frameTime * 100 :=
        mul_nonneg (div_nonneg nonneg timed.le) (by norm_num)
      exact ⟨share, small⟩
  case uncut =>
    intro timed
    rw [(figures_of_timed timed within).2, share_eq]
  case rate =>
    rintro ⟨t, inside, nonzero⟩
    have timed : 0 < s.frameTime := by
      rw [h.frameTime]
      exact weightedMean_pos (fun t _ => t.frame.exact_nonneg)
        ⟨t, inside, t.frame.exact_nonneg.lt_of_ne' nonzero⟩
    rw [(figures_of_timed timed within).2]
    field_simp
  case idle =>
    intro zero
    apply figures_of_idle
    rw [h.frameTime]
    exact weightedMean_eq_zero zero

/-- The figures are made of the smoothed times alone. -/
theorem figures_congr {s t : Statistics ℚ} (frameTime : s.frameTime = t.frameTime)
    (submissionTime : s.submissionTime = t.submissionTime) : s.figures = t.figures := by
  obtain ⟨_, _, _, _, _⟩ := s
  obtain ⟨_, _, _, _, _⟩ := t
  obtain rfl : _ = _ := frameTime
  obtain rfl : _ = _ := submissionTime
  rfl

/-- Read exactly, the times and figures of a loop are those of its frames, where no frame takes less
than the core's part in it. Nothing else that the loop reports has an influence on them. -/
theorem smoothed_timings (reports : List LoopReport)
    (ordered : ∀ t ∈ reports.filterMap LoopReport.timing?, t.submission.exact ≤ t.frame.exact) :
    (ofReports reports).ReportsTimings (reports.filterMap LoopReport.timing?) ∧
      ∀ others, others.filterMap LoopReport.timing? = reports.filterMap LoopReport.timing? →
        (ofReports others).frameTime = (ofReports reports : Statistics ℚ).frameTime ∧
          (ofReports others).submissionTime = (ofReports reports : Statistics ℚ).submissionTime ∧
          (ofReports others).figures = (ofReports reports : Statistics ℚ).figures := by
  have smooths := Smooths.ofReports reports
  refine ⟨smooths.reportsTimings ordered, fun others same => ?_⟩
  have alike := Smooths.ofReports others
  rw [same] at alike
  have frameTime := alike.frameTime.trans smooths.frameTime.symm
  have submissionTime := alike.submissionTime.trans smooths.submissionTime.symm
  exact ⟨frameTime, submissionTime, figures_congr frameTime submissionTime⟩

/-- Two frames of 20 and 40 milliseconds with errors before and between them, the second of them
spent in the core altogether. -/
def unevenReports : List LoopReport :=
  [.error, .frame ⟨⟨0, 20000000⟩, ⟨0, 5000000⟩⟩ true, .error,
    .frame ⟨⟨0, 40000000⟩, ⟨0, 40000000⟩⟩ false]

/-- The second frame moves the smoothed time from 20 to 22 milliseconds. -/
theorem smoothed_timings_uneven :
    (∀ t ∈ unevenReports.filterMap LoopReport.timing?, t.submission.exact ≤ t.frame.exact) ∧
      (ofReports unevenReports : Statistics ℚ).frameTime = 22 / 1000 ∧
      (ofReports unevenReports : Statistics ℚ).figures.framesPerSecond *
        (ofReports unevenReports : Statistics ℚ).figures.milliseconds = 1000 := by
  have ordered : ∀ t ∈ unevenReports.filterMap LoopReport.timing?,
      t.submission.exact ≤ t.frame.exact := by
    decide +kernel
  obtain ⟨timings, -⟩ := smoothed_timings unevenReports ordered
  refine ⟨ordered, ?_, timings.rate ⟨⟨⟨0, 20000000⟩, ⟨0, 5000000⟩⟩, ?_, ?_⟩⟩
  · decide +kernel
  · decide
  · decide +kernel

end Statistics

end EmuHost
