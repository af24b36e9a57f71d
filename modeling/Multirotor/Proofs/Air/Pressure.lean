import Multirotor.Air
import Multirotor.Proofs.Scalar.Exact

/-!
# Pressure and altitude

The pressure is the one at sea level times the share that is left at an altitude
(`Atmosphere.share`).  As long as the air at sea level is warmer than absolute zero the share never
grows with the altitude, from the whole at sea level down to nothing.
-/

namespace Multirotor.Atmosphere

/-- The share of the pressure at sea level that is left at an altitude. -/
noncomputable def share (altitude celsius : ℝ) : ℝ :=
  max (1 - lapseRate * altitude / (celsius + 273.15)) 0 ^ (exponent : ℝ)

theorem pressure_eq (seaLevel altitude celsius : ℝ) :
    pressure seaLevel altitude celsius = seaLevel * share altitude celsius := by
  rw [share, ← Scalar.larger_real]
  rfl

/-- Whatever the unit of the pressure at sea level is, it is that of the pressure. -/
theorem pressure_mul (unit seaLevel altitude celsius : ℝ) :
    pressure (unit * seaLevel) altitude celsius = unit * pressure seaLevel altitude celsius := by
  rw [pressure_eq, pressure_eq, mul_assoc]

theorem lapseRate_pos : (0 : ℝ) < lapseRate := by
  norm_num [lapseRate]

theorem exponent_pos : (0 : ℝ) < exponent := by
  norm_num [exponent]

theorem share_nonneg (altitude celsius : ℝ) : 0 ≤ share altitude celsius :=
  Real.rpow_nonneg (le_max_right _ _) _

section Warm

variable {celsius : ℝ} (hwarm : -273.15 < celsius)

include hwarm

theorem kelvin_pos : 0 < celsius + 273.15 := by linarith

theorem share_antitone : Antitone (share · celsius) := by
  intro low high h
  refine Real.rpow_le_rpow (le_max_right _ _) (max_le_max_right 0 ?_) exponent_pos.le
  have hkelvin := kelvin_pos hwarm
  have hlapse := lapseRate_pos.le
  gcongr

theorem share_le_one {altitude : ℝ} (h : 0 ≤ altitude) : share altitude celsius ≤ 1 := by
  refine Real.rpow_le_one (le_max_right _ _) (max_le ?_ zero_le_one) exponent_pos.le
  exact sub_le_self _ (div_nonneg (mul_nonneg lapseRate_pos.le h) (kelvin_pos hwarm).le)

variable {seaLevel : ℝ} (hsea : 0 ≤ seaLevel)

include hsea

theorem pressure_antitone : Antitone (pressure seaLevel · celsius) := by
  intro low high h
  dsimp only
  rw [pressure_eq, pressure_eq]
  exact mul_le_mul_of_nonneg_left (share_antitone hwarm h) hsea

theorem pressure_le {altitude : ℝ} (h : 0 ≤ altitude) :
    pressure seaLevel altitude celsius ≤ seaLevel := by
  rw [pressure_eq]
  exact mul_le_of_le_one_right hsea (share_le_one hwarm h)

omit hwarm

theorem pressure_nonneg (altitude celsius : ℝ) : 0 ≤ pressure seaLevel altitude celsius := by
  rw [pressure_eq]
  exact mul_nonneg hsea (share_nonneg altitude celsius)

end Warm

end Multirotor.Atmosphere
