import Multirotor.Proofs.Pilot.History
import Multirotor.Proofs.Pilot.Loop

/-!
# Bounds on the terms of a loop

The integral of a loop is held within its bound.  The slope of the error passes a filter that starts
at zero with the first error since a reset and goes some part of the way to what it is given in each
update, so it never gets steeper than the steepest of the slopes between two successive errors
(`Pid.Traces`).  The output is the sum of the terms, and so it keeps close to the proportional one
(`Pid.terms_bounded`).
-/

namespace Multirotor

open Scalar

/-! ## Errors -/

/-- How steep the way is from each error to the next, `dt` later. -/
noncomputable def steepnesses (dt : ℝ) : List ℝ → List ℝ
  | before :: error :: errors => |error - before| / dt :: steepnesses dt (error :: errors)
  | _ => []

/-- The steepest way between two successive errors, level if there are none. -/
noncomputable def steepest (dt : ℝ) (errors : List ℝ) : ℝ := (steepnesses dt errors).foldl max 0

namespace PidOperation

/-- The errors since the last reset, after one more operation. -/
def addTo (errors : List ℝ) : PidOperation ℝ → List ℝ
  | .update target measurement _ => errors ++ [target - measurement]
  | .integrate _ => errors
  | .reset => []

/-- The errors of the updates since the last reset, in order. -/
def errors (ops : List (PidOperation ℝ)) : List ℝ := ops.foldl addTo []

theorem errors_concat (ops : List (PidOperation ℝ)) (op : PidOperation ℝ) :
    errors (ops ++ [op]) = op.addTo (errors ops) :=
  List.foldl_concat ..

end PidOperation

theorem steepnesses_concat (dt : ℝ) (errors : List ℝ) (before error : ℝ) :
    steepnesses dt (errors ++ [before, error]) =
      steepnesses dt (errors ++ [before]) ++ [|error - before| / dt] := by
  induction errors with
  | nil => rfl
  | cons first errors ih =>
    cases errors with
    | nil => rfl
    | cons second errors => exact congrArg (|second - first| / dt :: ·) ih

theorem steepest_concat (dt : ℝ) (errors : List ℝ) (before error : ℝ) :
    steepest dt (errors ++ [before] ++ [error]) =
      max (steepest dt (errors ++ [before])) (|error - before| / dt) := by
  rw [steepest, List.append_assoc]
  change (steepnesses dt (errors ++ [before, error])).foldl max 0 = _
  rw [steepnesses_concat, List.foldl_concat]
  rfl

/-! ## What a loop remembers -/

/-- A filter that goes some part of the way stays within what it held and what it is given. -/
theorem abs_filter_le {part held given : ℝ} (hpart : 0 < part ∧ part ≤ 1) :
    |held + part * (given - held)| ≤ max |held| |given| := by
  calc |held + part * (given - held)| = |(1 - part) * held + part * given| := by ring_nf
    _ ≤ |(1 - part) * held| + |part * given| := abs_add_le _ _
    _ = (1 - part) * |held| + part * |given| := by
        rw [abs_mul, abs_mul, abs_of_nonneg (sub_nonneg.2 hpart.2), abs_of_pos hpart.1]
    _ ≤ (1 - part) * max |held| |given| + part * max |held| |given| :=
        add_le_add (mul_le_mul_of_nonneg_left (le_max_left _ _) (sub_nonneg.2 hpart.2))
          (mul_le_mul_of_nonneg_left (le_max_right _ _) hpart.1.le)
    _ = max |held| |given| := by ring

namespace Pid

/-- The loop has seen these errors since it was started or reset. -/
structure Traces (p : Pid ℝ) (errors : List ℝ) : Prop where
  isFresh_iff : p.isFresh = true ↔ errors = []
  last : ∀ error ∈ errors.getLast?, p.error = error
  abs_slope_le : |p.slope| ≤ steepest p.dt errors
  abs_integrator_le : |p.integrator| ≤ p.gains.integralMax

theorem traces_start {gains : PidGains ℝ} (hmax : 0 ≤ gains.integralMax) (dt : ℝ) :
    (start gains dt).Traces [] where
  isFresh_iff := iff_of_true rfl rfl
  last _ h := by cases h
  abs_slope_le := by
    rw [start, abs_zero]
    exact le_rfl
  abs_integrator_le := by
    rw [start, abs_zero]
    exact hmax

variable {p : Pid ℝ} {errors : List ℝ}

theorem Traces.nextSlope_first (h : p.Traces []) (error : ℝ) : p.nextSlope error = 0 :=
  if_pos (h.isFresh_iff.2 rfl)

theorem Traces.abs_nextSlope_le (h : p.Traces errors) (hdt : 0 < p.dt) (error : ℝ) :
    |p.nextSlope error| ≤ steepest p.dt (errors ++ [error]) := by
  obtain rfl | ⟨errors, before, rfl⟩ := errors.eq_nil_or_concat'
  · rw [h.nextSlope_first, abs_zero]
    exact le_rfl
  · have hbefore : p.error = before := h.last before (by rw [List.getLast?_concat]; rfl)
    have hfresh : ¬ p.isFresh = true := fun hfresh =>
      List.append_ne_nil_of_right_ne_nil _ (List.cons_ne_nil _ _) (h.isFresh_iff.1 hfresh)
    rw [nextSlope, if_neg hfresh, if_pos hdt, hbefore, steepest_concat]
    calc |p.slope + smoothing p.dt p.gains.filterHz * ((error - before) / p.dt - p.slope)|
        ≤ max |p.slope| |(error - before) / p.dt| := abs_filter_le (smoothing_mem hdt _)
      _ = max |p.slope| (|error - before| / p.dt) := by rw [abs_div, abs_of_pos hdt]
      _ ≤ _ := max_le_max_right _ h.abs_slope_le

theorem Traces.observe (h : p.Traces errors) (hdt : 0 < p.dt) (error : ℝ) :
    (p.observe error).Traces (errors ++ [error]) where
  isFresh_iff := iff_of_false Bool.false_ne_true
    (List.append_ne_nil_of_right_ne_nil _ (List.cons_ne_nil _ _))
  last last hlast := by
    rw [List.getLast?_concat] at hlast
    exact Option.some.inj hlast
  abs_slope_le := h.abs_nextSlope_le hdt error
  abs_integrator_le := h.abs_integrator_le

theorem Traces.integrate (h : p.Traces errors) (saturated : Bool) :
    (p.integrate saturated).Traces errors where
  isFresh_iff := h.isFresh_iff
  last := h.last
  abs_slope_le := h.abs_slope_le
  abs_integrator_le := abs_nextIntegrator_le h.abs_integrator_le saturated

theorem Traces.update (h : p.Traces errors) (hdt : 0 < p.dt) (target measurement : ℝ)
    (saturated : Bool) :
    (p.update target measurement saturated).2.Traces (errors ++ [target - measurement]) := by
  have hnext := (h.observe hdt (target - measurement)).integrate saturated
  exact ⟨hnext.isFresh_iff, hnext.last, hnext.abs_slope_le, hnext.abs_integrator_le⟩

theorem Traces.perform (h : p.Traces errors) (hdt : 0 < p.dt) (op : PidOperation ℝ) :
    (p.perform op).Traces (op.addTo errors) := by
  cases op with
  | update target measurement saturated => exact h.update hdt target measurement saturated
  | integrate saturated => exact h.integrate saturated
  | reset => exact traces_start ((abs_nonneg _).trans h.abs_integrator_le) p.dt

theorem traces_after {gains : PidGains ℝ} {dt : ℝ} (hmax : 0 ≤ gains.integralMax) (hdt : 0 < dt)
    (ops : List (PidOperation ℝ)) :
    ((start gains dt).after ops).Traces (PidOperation.errors ops) := by
  induction ops using List.reverseRecOn with
  | nil => exact traces_start hmax dt
  | append_singleton ops op ih =>
    rw [after_concat, PidOperation.errors_concat]
    refine ih.perform ?_ op
    rw [((start gains dt).settings_after ops).2]
    exact hdt

/-- In any history the integral is within its bound and the filtered slope at most as steep as the
steepest way between two errors since the last reset.  The output of an update is the sum of the
terms, without a derivative for the first error, and so it is off the proportional term by no more
than these bounds. -/
theorem terms_bounded {gains : PidGains ℝ} {dt : ℝ} (hmax : 0 ≤ gains.integralMax) (hdt : 0 < dt)
    (ops : List (PidOperation ℝ)) :
    let p := (start gains dt).after ops
    |p.integrator| ≤ gains.integralMax ∧ |p.slope| ≤ steepest dt (PidOperation.errors ops) ∧
      ∀ target measurement saturated,
        let error := target - measurement
        let output := (p.update target measurement saturated).1
        let next := (p.update target measurement saturated).2
        (PidOperation.errors ops = [] → next.slope = 0 ∧ next.terms.derivative = 0) ∧
        output = gains.proportional * error + next.integrator + gains.derivative * next.slope ∧
        |output - gains.proportional * error| ≤ gains.integralMax +
          |gains.derivative| * steepest dt (PidOperation.errors ops ++ [error]) := by
  intro p
  obtain ⟨hgains, hlength⟩ := (start gains dt).settings_after ops
  change p.gains = gains at hgains
  change p.dt = dt at hlength
  have htraces : p.Traces (PidOperation.errors ops) := traces_after hmax hdt ops
  refine ⟨hgains ▸ htraces.abs_integrator_le, hlength ▸ htraces.abs_slope_le, ?_⟩
  intro target measurement saturated error output next
  have hnext : next.Traces (PidOperation.errors ops ++ [error]) :=
    htraces.update (hlength ▸ hdt) target measurement saturated
  have hintegrator : |next.integrator| ≤ gains.integralMax := by
    rw [← hgains]
    exact hnext.abs_integrator_le
  have hslope : |next.slope| ≤ steepest dt (PidOperation.errors ops ++ [error]) := by
    rw [← hlength]
    exact hnext.abs_slope_le
  have houtput : output =
      gains.proportional * error + next.integrator + gains.derivative * next.slope := by
    rw [← hgains, mul_comm _ error, mul_comm _ next.slope]
    rfl
  refine ⟨fun hfirst => ?_, houtput, ?_⟩
  · have hzero : next.slope = 0 := by
      rw [hfirst] at htraces
      exact htraces.nextSlope_first error
    exact ⟨hzero, (congrArg (· * p.gains.derivative) hzero).trans (zero_mul _)⟩
  · calc |output - gains.proportional * error|
        = |next.integrator + gains.derivative * next.slope| := by rw [houtput]; ring_nf
      _ ≤ |next.integrator| + |gains.derivative * next.slope| := abs_add_le _ _
      _ = |next.integrator| + |gains.derivative| * |next.slope| := by rw [abs_mul]
      _ ≤ _ := add_le_add hintegrator (mul_le_mul_of_nonneg_left hslope (abs_nonneg _))

/-- A filtered loop that has seen an error before a reset and another one since.  The errors then
fall by three in a tenth of a second. -/
theorem terms_bounded_reset :
    let gains : PidGains ℝ :=
      { proportional := 1, integral := 1, derivative := 2, integralMax := 10, filterHz := 5 }
    let p := (start gains (1 / 10)).after [.update 100 0 false, .reset, .update 3 0 true]
    0 ≤ gains.integralMax ∧ (0 : ℝ) < 1 / 10 ∧ |p.integrator| ≤ 10 ∧
      |(p.update 0 0 false).1| ≤ 70 := by
  intro gains p
  have hmax : 0 ≤ gains.integralMax := by norm_num [gains]
  have hdt : (0 : ℝ) < 1 / 10 := by norm_num
  obtain ⟨hintegrator, -, hupdate⟩ :=
    terms_bounded hmax hdt [.update 100 0 false, .reset, .update 3 0 true]
  obtain ⟨-, -, hnear⟩ := hupdate 0 0 false
  refine ⟨hmax, hdt, hintegrator, ?_⟩
  norm_num [gains, PidOperation.errors, PidOperation.addTo, steepest, steepnesses] at hnear
  exact hnear

end Pid

end Multirotor
