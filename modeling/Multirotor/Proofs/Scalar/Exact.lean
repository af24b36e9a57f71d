import Mathlib.Analysis.SpecialFunctions.Complex.Arg
import Mathlib.Analysis.SpecialFunctions.Pow.Real
import Mathlib.Analysis.SpecialFunctions.Trigonometric.Inverse
import Multirotor.Scalar

/-!
# Exact arithmetic

The real numbers as a `Scalar`, so that every formula of the library can be read without rounding.
No real number is NaN and all of them are finite: `larger`, `smaller` and `clamp` are then the
maximum, the minimum and the projection onto an interval, and `sqrtOrZero` is the square root of
Mathlib, which is zero below zero.  There is one zero, and its sign counts as positive.
-/

namespace Multirotor

/-- The arithmetic of the real numbers. -/
noncomputable instance realScalar : Scalar ℝ where
  decLt := Real.decidableLT
  decLe := Real.decidableLE
  pi := Real.pi
  abs x := |x|
  signum x := if x < 0 then -1 else 1
  round x := if x < 0 then -⌊-x + 1 / 2⌋ else ⌊x + 1 / 2⌋
  toUInt64 x := .ofNat (min ⌊x⌋₊ (2 ^ 64 - 1))
  isFinite _ := true
  sqrt := Real.sqrt
  log := Real.log
  sin := Real.sin
  cos := Real.cos
  asin := Real.arcsin
  atan2 y x := Complex.arg ⟨x, y⟩
  pow := (· ^ ·)
  fmod x y := if 0 ≤ x / y then x - y * ⌊x / y⌋ else x - y * ⌈x / y⌉

-- Mathlib has no `Div ℝ` or `OfScientific ℝ` of its own.  Without these two, the instance that is
-- found for an expression about real numbers depends on the order of the imports.
noncomputable instance realDiv : Div ℝ := DivInvMonoid.toDiv

noncomputable instance realOfScientific : OfScientific ℝ := NNRatCast.toOfScientific

namespace Scalar

variable (x y : ℝ)

/-! ### The operations -/

@[simp] theorem pi_real : (Scalar.pi : ℝ) = Real.pi := rfl

@[simp] theorem abs_real : Scalar.abs x = |x| := rfl

@[simp] theorem isFinite_real : Scalar.isFinite x = true := rfl

@[simp] theorem sqrt_real : Scalar.sqrt x = √x := rfl

@[simp] theorem sin_real : Scalar.sin x = Real.sin x := rfl

@[simp] theorem cos_real : Scalar.cos x = Real.cos x := rfl

@[simp] theorem asin_real : Scalar.asin x = Real.arcsin x := rfl

@[simp] theorem atan2_real : Scalar.atan2 y x = Complex.arg ⟨x, y⟩ := rfl

/-! ### Decimal constants -/

@[simp] theorem two_real : (Scalar.toOfScientific.ofScientific 20 true 1 : ℝ) = 2 := by
  norm_num

@[simp] theorem half_real : (Scalar.toOfScientific.ofScientific 5 true 1 : ℝ) = 1 / 2 := by
  norm_num

theorem epsilon_real : (Scalar.epsilon : ℝ) = (2 ^ 52)⁻¹ := by
  norm_num [epsilon]

/-! ### The helpers -/

@[simp] theorem isNaN_real : Scalar.isNaN x = false := by
  simp [isNaN]

@[simp] theorem larger_real : Scalar.larger x y = max x y := by
  by_cases h : y ≤ x
  · rw [larger, if_pos h, max_eq_left h]
  · rw [larger, if_neg h, isNaN_real, if_neg Bool.false_ne_true, max_eq_right (le_of_not_ge h)]

@[simp] theorem smaller_real : Scalar.smaller x y = min x y := by
  by_cases h : x ≤ y
  · rw [smaller, if_pos h, min_eq_left h]
  · rw [smaller, if_neg h, isNaN_real, if_neg Bool.false_ne_true, min_eq_right (le_of_not_ge h)]

@[simp] theorem sqrtOrZero_real : Scalar.sqrtOrZero x = √x := by
  simp [sqrtOrZero]

section Clamp

variable {low high : ℝ}

theorem clamp_mem (h : low ≤ high) : Scalar.clamp x low high ∈ Set.Icc low high := by
  unfold clamp
  rw [if_neg (by simp)]
  split_ifs with hlow hhigh
  · exact ⟨le_refl _, h⟩
  · exact ⟨h, le_refl _⟩
  · exact ⟨not_lt.1 hlow, not_lt.1 hhigh⟩

theorem clamp_eq_max_min (h : low ≤ high) : Scalar.clamp x low high = max low (min x high) := by
  unfold clamp
  rw [if_neg (by simp)]
  split_ifs with hlow hhigh
  · exact (max_eq_left ((min_le_left x high).trans hlow.le)).symm
  · rw [min_eq_right hhigh.le, max_eq_right h]
  · rw [min_eq_left (not_lt.1 hhigh), max_eq_right (not_lt.1 hlow)]

/-- What is already within bounds is left alone and nothing else, also for bounds in the wrong
order. -/
theorem clamp_eq_self_iff : Scalar.clamp x low high = x ↔ low ≤ x ∧ x ≤ high := by
  unfold clamp
  rw [if_neg (by simp)]
  split_ifs with hlow hhigh
  · exact iff_of_false hlow.ne' fun h => hlow.not_ge h.1
  · exact iff_of_false hhigh.ne fun h => hhigh.not_ge h.2
  · exact iff_of_true rfl ⟨not_lt.1 hlow, not_lt.1 hhigh⟩

theorem clamp_of_mem (hl : low ≤ x) (hh : x ≤ high) : Scalar.clamp x low high = x :=
  (clamp_eq_self_iff x).2 ⟨hl, hh⟩

end Clamp

/-! ### The angle of a point of the unit circle -/

section Circle

variable {x y : ℝ} (h : x * x + y * y = 1)

include h

theorem norm_mk_eq_one : ‖(⟨x, y⟩ : ℂ)‖ = 1 := by
  rw [Complex.norm_def, Complex.normSq_mk, h, Real.sqrt_one]

theorem cos_arg : Real.cos (Complex.arg ⟨x, y⟩) = x := by
  have hnorm := norm_mk_eq_one h
  rw [Complex.cos_arg (norm_ne_zero_iff.1 (by rw [hnorm]; exact one_ne_zero)), hnorm, div_one]

theorem sin_arg : Real.sin (Complex.arg ⟨x, y⟩) = y := by
  rw [Complex.sin_arg, norm_mk_eq_one h, div_one]

end Circle

end Scalar

end Multirotor
