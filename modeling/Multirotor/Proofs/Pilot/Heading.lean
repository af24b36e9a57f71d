import Multirotor.Pilot.Cascade
import Multirotor.Proofs.Scalar.Limit
import Multirotor.Proofs.Space.Angle

/-!
# The short way round

Two angles that differ by full turns are one heading.  Of the errors that lead from a heading to
another one, exactly one is within half a turn (`ShortWay`), with the half turn itself counted as
positive, and the yaw rate is in proportion to it up to its limit (`turns_short_way`).
-/

namespace Multirotor

open Scalar Limit

/-- The error leads from `yaw` to the heading `target` within half a turn. -/
structure ShortWay (target yaw error : ℝ) : Prop where
  mem : error ∈ Set.Ioc (-Real.pi) Real.pi
  congr : ∃ n : ℤ, target - yaw - error = 2 * Real.pi * n

/-! ## The error -/

theorem shortWay_iff {target yaw error : ℝ} :
    ShortWay target yaw error ↔ error = wrapAngle (target - yaw) := by
  constructor
  · rintro ⟨hmem, hcongr⟩
    rw [wrapAngle_congr (Real.Angle.angle_eq_iff_two_pi_dvd_sub.2 hcongr),
      wrapAngle_of_mem hmem.1 hmem.2]
  · rintro rfl
    exact ⟨wrapAngle_mem _, Real.Angle.angle_eq_iff_two_pi_dvd_sub.1 (coe_wrapAngle _).symm⟩

theorem wrapAngle_eq_zero_iff (x : ℝ) : wrapAngle x = 0 ↔ ∃ n : ℤ, x = 2 * Real.pi * n := by
  have hturns : (x : Real.Angle) = (0 : ℝ) ↔ ∃ n : ℤ, x = 2 * Real.pi * n := by
    rw [Real.Angle.angle_eq_iff_two_pi_dvd_sub, sub_zero]
  rw [← hturns]
  constructor
  · intro h
    rw [← coe_wrapAngle x, h]
  · intro h
    rw [wrapAngle_congr h, wrapAngle_of_mem (neg_lt_zero.2 Real.pi_pos) Real.pi_pos.le]

theorem wrapAngle_add_turns (x y : ℝ) (k m : ℤ) :
    wrapAngle (x + 2 * Real.pi * k - (y + 2 * Real.pi * m)) = wrapAngle (x - y) := by
  refine wrapAngle_congr (Real.Angle.angle_eq_iff_two_pi_dvd_sub.2 ⟨k - m, ?_⟩)
  push_cast
  ring

/-! ## The yaw rate -/

/-- The body turns the short way round, whatever full turns the two angles carry: at a rate in
proportion to the only error within half a turn, up to the greatest rate to either side, and not at
all when it has the heading. -/
theorem turns_short_way {gain maxYawRate : ℝ} (hgain : 0 ≤ gain) (hmax : 0 ≤ maxYawRate)
    (target yaw : ℝ) :
    (∀ k m : ℤ, yawRateFor gain maxYawRate (target + 2 * Real.pi * k) (yaw + 2 * Real.pi * m) =
      yawRateFor gain maxYawRate target yaw) ∧
    let rate := yawRateFor gain maxYawRate target yaw
    rate ∈ Set.Icc (-maxYawRate) maxYawRate ∧
    (∃! error, ShortWay target yaw error) ∧
    (∀ error, ShortWay target yaw error →
      rate = max (-maxYawRate) (min (gain * error) maxYawRate) ∧ 0 ≤ rate * error) ∧
    (0 < gain → 0 < maxYawRate → (rate = 0 ↔ ∃ n : ℤ, target - yaw = 2 * Real.pi * n)) := by
  have hlimits : -maxYawRate ≤ maxYawRate := neg_le_self hmax
  have hrate : yawRateFor gain maxYawRate target yaw = gain * wrapAngle (target - yaw) *
      part maxYawRate |gain * wrapAngle (target - yaw)| := clamp_eq_part hmax _
  refine ⟨fun k m => ?_, clamp_mem _ hlimits, ?_, ?_, fun hgain hmax => ?_⟩
  · rw [yawRateFor, wrapAngle_add_turns]
    rfl
  · exact ⟨_, shortWay_iff.2 rfl, fun error h => shortWay_iff.1 h⟩
  · intro error h
    obtain rfl := shortWay_iff.1 h
    refine ⟨clamp_eq_max_min _ hlimits, ?_⟩
    have hpart := (part_mem hmax |gain * wrapAngle (target - yaw)|).1
    calc 0 ≤ gain * part maxYawRate |gain * wrapAngle (target - yaw)| *
          (wrapAngle (target - yaw) * wrapAngle (target - yaw)) :=
        mul_nonneg (mul_nonneg hgain hpart) (mul_self_nonneg _)
      _ = yawRateFor gain maxYawRate target yaw * wrapAngle (target - yaw) := by rw [hrate]; ring
  · rw [hrate, mul_eq_zero_iff_right (part_pos hmax _).ne', mul_eq_zero_iff_left hgain.ne',
      wrapAngle_eq_zero_iff]

/-- From just short of south on one side, three turns up, to just short of it on the other; and from
north to south, which is half a turn to the right. -/
theorem turns_short_way_seam :
    yawRateFor 2 1.5 (-Real.pi + 0.1) (Real.pi - 0.1 + 2 * Real.pi * 3) = 0.4 ∧
      yawRateFor 0.25 1.5 (-Real.pi) 0 = 0.25 * Real.pi ∧
      yawRateFor 2 1.5 (-Real.pi) (Real.pi - 2 * Real.pi * 2) = 0 := by
  have hpi := Real.two_le_pi
  have hpi' := Real.pi_le_four
  have hgain : (0 : ℝ) ≤ 2 := by norm_num
  have hmax : (0 : ℝ) ≤ 1.5 := by norm_num
  refine ⟨?_, ?_, ?_⟩
  · obtain ⟨-, -, -, herror, -⟩ := turns_short_way hgain hmax (-Real.pi + 0.1)
      (Real.pi - 0.1 + 2 * Real.pi * 3)
    have hshort : ShortWay (-Real.pi + 0.1) (Real.pi - 0.1 + 2 * Real.pi * 3) 0.2 :=
      ⟨⟨by linarith, by linarith⟩, -4, by push_cast; ring⟩
    rw [(herror 0.2 hshort).1]
    norm_num
  · obtain ⟨-, -, -, herror, -⟩ := turns_short_way (by norm_num : (0 : ℝ) ≤ 0.25) hmax (-Real.pi) 0
    have hshort : ShortWay (-Real.pi) 0 Real.pi :=
      ⟨⟨by linarith, le_refl _⟩, -1, by push_cast; ring⟩
    rw [(herror _ hshort).1, min_eq_left (by linarith), max_eq_right (by linarith)]
  · obtain ⟨-, -, -, -, hzero⟩ := turns_short_way hgain hmax (-Real.pi)
      (Real.pi - 2 * Real.pi * 2)
    exact (hzero (by norm_num) (by norm_num)).2 ⟨1, by push_cast; ring⟩

end Multirotor
