import Multirotor.Pilot.Pid
import Multirotor.Proofs.Scalar.Exact

/-!
# Feedback loops without rounding

What an update does to the memory of a loop, term by term.  Every term is linear in the errors
except for the bound on the integral, which takes effect in the updates that `Pid.Clamps` names;
those that are saturated may leave the integral where it is, too.  The slope passes a filter, which
goes some part of the way to what it is given, up to the whole (`smoothing_mem`).
-/

namespace Multirotor

open Scalar

theorem smoothing_mem {dt : ℝ} (hdt : 0 < dt) (cutoffHz : ℝ) :
    0 < smoothing dt cutoffHz ∧ smoothing dt cutoffHz ≤ 1 := by
  unfold smoothing
  split_ifs with hnone
  · exact ⟨one_pos, le_rfl⟩
  · have hcutoff : 0 < cutoffHz := not_le.1 fun h => hnone (.inl h)
    have hrc : 0 < 1 / (2 * Real.pi * cutoffHz) := by positivity
    have hpart : 0 < dt / (dt + 1 / (2 * Real.pi * cutoffHz)) := by positivity
    simp only [two_real, pi_real, larger_real, smaller_real]
    exact ⟨lt_max_of_lt_left (lt_min hpart one_pos), max_le (min_le_right _ _) zero_le_one⟩

namespace Pid

/-- Two loops with the same gains that have run equally often. -/
structure Alike (p q : Pid ℝ) : Prop where
  gains : p.gains = q.gains
  dt : p.dt = q.dt
  isFresh : p.isFresh = q.isFresh

/-- The bound on the integral takes effect in an update. -/
def Clamps (p : Pid ℝ) (target measurement : ℝ) : Prop :=
  p.gains.integral ≠ 0 ∧ 0 < p.dt ∧
    p.gains.integralMax < |p.integrator + (target - measurement) * p.gains.integral * p.dt|

/-- The filtered slope after an error. -/
noncomputable def nextSlope (p : Pid ℝ) (error : ℝ) : ℝ :=
  if p.isFresh then 0
  else if 0 < p.dt then
    p.slope + smoothing p.dt p.gains.filterHz * ((error - p.error) / p.dt - p.slope)
  else p.slope

/-- The integral term after an error, without its bound. -/
noncomputable def nextUnbounded (p : Pid ℝ) (error : ℝ) : ℝ :=
  if p.gains.integral != 0 ∧ 0 < p.dt then p.integrator + error * p.gains.integral * p.dt else 0

/-- The sum of the terms that a loop remembers. -/
def output (p : Pid ℝ) : ℝ :=
  p.error * p.gains.proportional + p.integrator + p.slope * p.gains.derivative

variable {p : Pid ℝ}

/-! ## The bound on the integral -/

theorem abs_min_max_neg (x : ℝ) {most : ℝ} (h : 0 ≤ most) :
    |min (max x (-most)) most| = min |x| most := by
  rcases le_total x (-most) with hlow | hlow
  · have habs : most ≤ |x| := (le_neg_of_le_neg hlow).trans (neg_le_abs x)
    rw [max_eq_right hlow, min_eq_left (neg_le_self h), abs_neg, abs_of_nonneg h, min_eq_right habs]
  · rw [max_eq_left hlow]
    rcases le_total x most with hhigh | hhigh
    · rw [min_eq_left hhigh, min_eq_left (abs_le.2 ⟨hlow, hhigh⟩)]
    · rw [min_eq_right hhigh, abs_of_nonneg h, min_eq_right (hhigh.trans (le_abs_self x))]

theorem abs_nextIntegrator_le (h : |p.integrator| ≤ p.gains.integralMax) (saturated : Bool) :
    |p.nextIntegrator saturated| ≤ p.gains.integralMax := by
  have hmax : 0 ≤ p.gains.integralMax := (abs_nonneg _).trans h
  unfold nextIntegrator
  split_ifs with hactive hmay
  · dsimp only
    rw [larger_real, smaller_real, abs_min_max_neg _ hmax]
    exact min_le_right _ _
  · exact h
  · rw [abs_zero]
    exact hmax

/-! ## Updates -/

variable (target measurement : ℝ) (saturated : Bool)

theorem error_update : (p.update target measurement saturated).2.error = target - measurement := rfl

theorem slope_update :
    (p.update target measurement saturated).2.slope = p.nextSlope (target - measurement) := rfl

theorem integrator_update {target measurement : ℝ} (h : ¬ p.Clamps target measurement) :
    (p.update target measurement false).2.integrator = p.nextUnbounded (target - measurement) := by
  change (if (p.gains.integral != 0) = true ∧ 0 < p.dt then _ else _) = _
  unfold nextUnbounded
  by_cases hactive : (p.gains.integral != 0) = true ∧ 0 < p.dt
  · have hle := abs_le.1 (not_lt.1 fun hlt => h ⟨bne_iff_ne.1 hactive.1, hactive.2, hlt⟩)
    have hfree : (p.observe (target - measurement)).mayIntegrate false := .inl rfl
    rw [if_pos hactive, if_pos hactive, if_pos hfree]
    dsimp only
    rw [larger_real, smaller_real]
    exact (min_eq_left (max_le hle.2 (hle.1.trans hle.2))).trans (max_eq_left hle.1)
  · rw [if_neg hactive, if_neg hactive]

theorem update_fst : (p.update target measurement saturated).1 =
    (p.update target measurement saturated).2.output := rfl

/-- An update is the same for loops that are alike, but for what they remember. -/
theorem Alike.update {q : Pid ℝ} (h : p.Alike q) (target' measurement' : ℝ) :
    (p.update target measurement false).2.Alike (q.update target' measurement' false).2 :=
  ⟨h.gains, h.dt, rfl⟩

end Pid

end Multirotor
