import Mathlib.Tactic.Linarith
import Multirotor.Proofs.Scalar.Exact

/-!
# Limits

A limit on the size of a quantity leaves a part of it between none and all: the part that brings the
size down to the limit (`part_mul`), or all of it when the size is within the limit.  What is left
keeps the sign of a number and the direction of a vector.  Holding a number between two opposite
bounds is such a limit (`clamp_eq_part`).
-/

namespace Multirotor

namespace Limit

open Scalar

/-- The part of a quantity of the given size that a limit leaves. -/
noncomputable def part (most size : ℝ) : ℝ := if most < size then most / size else 1

variable {most : ℝ}

theorem part_of_le {size : ℝ} (h : size ≤ most) : part most size = 1 := if_neg (not_lt.2 h)

theorem part_of_lt {size : ℝ} (h : most < size) : part most size = most / size := if_pos h

theorem part_mem (hmost : 0 ≤ most) (size : ℝ) : part most size ∈ Set.Icc (0 : ℝ) 1 := by
  rcases lt_or_ge most size with h | h
  · have hsize : 0 < size := hmost.trans_lt h
    rw [part_of_lt h]
    exact ⟨div_nonneg hmost hsize.le, (div_le_one hsize).2 h.le⟩
  · rw [part_of_le h]
    exact ⟨zero_le_one, le_refl _⟩

/-- A limit that leaves room leaves something. -/
theorem part_pos (hmost : 0 < most) (size : ℝ) : 0 < part most size := by
  rcases lt_or_ge most size with h | h
  · rw [part_of_lt h]
    exact div_pos hmost (hmost.trans h)
  · rw [part_of_le h]
    exact one_pos

theorem part_mul (hmost : 0 ≤ most) (size : ℝ) : part most size * size = min size most := by
  rcases lt_or_ge most size with h | h
  · rw [part_of_lt h, div_mul_cancel₀ most (hmost.trans_lt h).ne', min_eq_right h.le]
  · rw [part_of_le h, one_mul, min_eq_left h]

theorem clamp_eq_part (hmost : 0 ≤ most) (x : ℝ) :
    clamp x (-most) most = x * part most |x| := by
  rcases lt_or_ge most |x| with hx | hx
  · rw [part_of_lt hx, clamp_eq_max_min x (neg_le_self hmost)]
    rcases lt_abs.1 hx with hright | hleft
    · have hpos : 0 < x := hmost.trans_lt hright
      rw [abs_of_pos hpos, min_eq_right hright.le, max_eq_right (neg_le_self hmost),
        mul_div_cancel₀ most hpos.ne']
    · have hneg : x < 0 := neg_pos.1 (hmost.trans_lt hleft)
      rw [abs_of_neg hneg, min_eq_left (hneg.le.trans hmost), max_eq_left (by linarith), div_neg,
        mul_neg, mul_div_cancel₀ most hneg.ne]
  · rw [part_of_le hx, mul_one, clamp_of_mem x (abs_le.1 hx).1 (abs_le.1 hx).2]

theorem abs_clamp (hmost : 0 ≤ most) (x : ℝ) : |clamp x (-most) most| = min |x| most := by
  rw [clamp_eq_part hmost, abs_mul, abs_of_nonneg (part_mem hmost |x|).1, mul_comm,
    part_mul hmost]

/-- A quotient that is limited gives back a part of what was divided. -/
theorem clamp_div {g : ℝ} (hg : 0 < g) (hmost : 0 ≤ most) (x : ℝ) :
    (∃ s ∈ Set.Icc (0 : ℝ) 1, clamp (x / g) (-most) most * g = x * s) ∧
      |clamp (x / g) (-most) most| = min (|x| / g) most := by
  refine ⟨⟨part most |x / g|, part_mem hmost _, ?_⟩, ?_⟩
  · rw [clamp_eq_part hmost, mul_right_comm, div_mul_cancel₀ x hg.ne']
  · rw [abs_clamp hmost, abs_div, abs_of_pos hg]

end Limit

end Multirotor
