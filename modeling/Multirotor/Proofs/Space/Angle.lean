import Mathlib.Analysis.SpecialFunctions.Trigonometric.Angle
import Multirotor.Proofs.Scalar.Exact
import Multirotor.Space.Euler

/-!
# Angles up to full turns

The representative of an angle in half a turn to either side differs from it by full turns, and an
angle that is in that range already is its own.
-/

namespace Multirotor

open Scalar

/-! ## Angles within half a turn -/

theorem modulo_of_mem {x y : ℝ} (hx : 0 ≤ x) (hxy : x < y) : modulo x y = x := by
  have hy : 0 < y := hx.trans_lt hxy
  have hfloor : ⌊x / y⌋ = 0 := Int.floor_eq_zero_iff.2 ⟨div_nonneg hx hy.le, (div_lt_one hy).2 hxy⟩
  have hmod : fmod x y = x := by
    change (if 0 ≤ x / y then _ else _) = x
    rw [if_pos (div_nonneg hx hy.le), hfloor, Int.cast_zero, mul_zero, sub_zero]
  rw [modulo, hmod, if_neg (not_lt.2 hx)]

theorem modulo_self {y : ℝ} (hy : 0 < y) : modulo y y = 0 := by
  have hmod : fmod y y = 0 := by
    change (if 0 ≤ y / y then y - y * ⌊y / y⌋ else _) = 0
    rw [div_self hy.ne', if_pos zero_le_one, Int.floor_one, Int.cast_one, mul_one, sub_self]
  rw [modulo, hmod, if_neg (lt_irrefl 0)]

theorem wrapAngle_of_mem {x : ℝ} (hl : -Real.pi < x) (hu : x ≤ Real.pi) : wrapAngle x = x := by
  rcases hu.eq_or_lt with rfl | hu
  · simp [wrapAngle, ← two_mul, modulo_self Real.two_pi_pos]
  · rw [wrapAngle, two_real, pi_real, modulo_of_mem (by linarith) (by linarith),
      add_sub_cancel_right]
    simp [hl.ne']

/-! ## Any angle -/

theorem exists_fmod_eq (x y : ℝ) : ∃ k : ℤ, fmod x y = x - y * k := by
  change ∃ k : ℤ, (if 0 ≤ x / y then x - y * ⌊x / y⌋ else x - y * ⌈x / y⌉) = x - y * k
  split_ifs
  · exact ⟨_, rfl⟩
  · exact ⟨_, rfl⟩

theorem exists_modulo_eq (x : ℝ) {y : ℝ} (hy : 0 < y) : ∃ k : ℤ, modulo x y = x - y * k := by
  obtain ⟨k, hk⟩ := exists_fmod_eq x y
  unfold modulo
  dsimp only
  split_ifs
  · refine ⟨k - 1, ?_⟩
    rw [hk, abs_real, abs_of_pos hy]
    push_cast
    ring
  · exact ⟨k, hk⟩

/-- An angle and its representative differ by full turns. -/
theorem coe_wrapAngle (x : ℝ) : ((wrapAngle x : ℝ) : Real.Angle) = x := by
  obtain ⟨k, hk⟩ := exists_modulo_eq (x + Real.pi) Real.two_pi_pos
  rw [Real.Angle.angle_eq_iff_two_pi_dvd_sub]
  unfold wrapAngle
  dsimp only
  rw [two_real, pi_real, hk]
  split_ifs with h
  · refine ⟨1 - k, ?_⟩
    have h := eq_of_beq h
    push_cast
    linarith
  · refine ⟨-k, ?_⟩
    push_cast
    ring

theorem modulo_mem (x : ℝ) {y : ℝ} (hy : 0 < y) : 0 ≤ modulo x y ∧ modulo x y < y := by
  have hdiv : x / y * y = x := div_mul_cancel₀ x hy.ne'
  by_cases hx : 0 ≤ x / y
  · have hmod : fmod x y = x - y * ⌊x / y⌋ := if_pos hx
    have hlow := mul_le_mul_of_nonneg_right (Int.floor_le (x / y)) hy.le
    have hhigh := mul_lt_mul_of_pos_right (Int.lt_floor_add_one (x / y)) hy
    rw [modulo, hmod, if_neg (by linarith)]
    constructor <;> linarith
  · have hmod : fmod x y = x - y * ⌈x / y⌉ := if_neg hx
    have hlow := mul_lt_mul_of_pos_right (Int.ceil_lt_add_one (x / y)) hy
    have hhigh := mul_le_mul_of_nonneg_right (Int.le_ceil (x / y)) hy.le
    unfold modulo
    dsimp only
    rw [hmod, abs_real, abs_of_pos hy]
    split_ifs with hneg <;> constructor <;> linarith

theorem wrapAngle_mem (x : ℝ) : wrapAngle x ∈ Set.Ioc (-Real.pi) Real.pi := by
  obtain ⟨hlow, hhigh⟩ := modulo_mem (x + Real.pi) Real.two_pi_pos
  unfold wrapAngle
  dsimp only
  rw [two_real, pi_real]
  split_ifs with h
  · exact ⟨by linarith [Real.pi_pos], le_refl _⟩
  · have hne : modulo (x + Real.pi) (2 * Real.pi) - Real.pi ≠ -Real.pi := by simpa using h
    exact ⟨lt_of_le_of_ne (by linarith) hne.symm, by linarith⟩

theorem wrapAngle_eq_toReal (x : ℝ) : wrapAngle x = (x : Real.Angle).toReal := by
  rw [← coe_wrapAngle x]
  exact (Real.Angle.toReal_coe_eq_self_iff_mem_Ioc.2 (wrapAngle_mem x)).symm

/-- The representative depends on the angle up to full turns only. -/
theorem wrapAngle_congr {x y : ℝ} (h : (x : Real.Angle) = y) : wrapAngle x = wrapAngle y := by
  rw [wrapAngle_eq_toReal, h, ← wrapAngle_eq_toReal]

theorem sin_wrapAngle (x : ℝ) : Real.sin (wrapAngle x) = Real.sin x :=
  congrArg Real.Angle.sin (coe_wrapAngle x)

theorem cos_wrapAngle (x : ℝ) : Real.cos (wrapAngle x) = Real.cos x :=
  congrArg Real.Angle.cos (coe_wrapAngle x)

end Multirotor
