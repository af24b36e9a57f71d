import Multirotor.Proofs.Scalar.Whole

/-!
# Clamped doubles

What is held within bounds is within them, whatever it was: infinity goes to a bound and NaN to the
middle (`between_clamp`), which is found without overflow when the lower bound is zero.  The larger
of anything and zero is a number, too (`zero_le_larger`).
-/

namespace Multirotor

namespace Binary64

open Float.Model

/-- A number between two bounds. -/
structure Between (low high x : Float) : Prop where
  low_le : low ≤ x
  le_high : x ≤ high
  isNumber : Scalar.isNaN x = false

/-! ## Comparisons -/

theorem compare_swap (u v : UnpackedFloat) : v.compare u = (u.compare v).map Ordering.swap := by
  cases u with
  | notANumber => cases v <;> rfl
  | infinity s =>
    cases v with
    | notANumber => rfl
    | infinity t => cases s <;> cases t <;> rfl
    | _ => cases s <;> rfl
  | zero s =>
    cases v with
    | finite t n f hn => cases t <;> rfl
    | infinity t => cases t <;> rfl
    | _ => rfl
  | finite s m e hm =>
    cases v with
    | notANumber => rfl
    | infinity t => cases t <;> rfl
    | zero t => cases s <;> rfl
    | finite t n f hn =>
      have hlex : (compare f e).then (compare n m) =
          ((compare e f).then (compare m n)).swap := by
        rw [Ordering.swap_then, ← Std.OrientedCmp.eq_swap, ← Std.OrientedCmp.eq_swap]
      cases s <;> cases t
      · exact congrArg (fun o => some o.swap) hlex
      · rfl
      · rfl
      · exact congrArg some hlex

theorem exists_compare {u v : UnpackedFloat} (hu : u ≠ .notANumber) (hv : v ≠ .notANumber) :
    ∃ o, u.compare v = some o := by
  cases u with
  | notANumber => exact absurd rfl hu
  | infinity s => cases v <;> first | exact absurd rfl hv | (cases s <;> exact ⟨_, rfl⟩)
  | zero s =>
    cases v with
    | notANumber => exact absurd rfl hv
    | zero t => exact ⟨_, rfl⟩
    | infinity t => cases t <;> exact ⟨_, rfl⟩
    | finite t n f hn => cases t <;> exact ⟨_, rfl⟩
  | finite s m e hm =>
    cases v with
    | notANumber => exact absurd rfl hv
    | zero t => cases s <;> exact ⟨_, rfl⟩
    | infinity t => cases t <;> exact ⟨_, rfl⟩
    | finite t n f hn => cases s <;> cases t <;> exact ⟨_, rfl⟩

theorem isNaN_eq_false_iff {x : Float} :
    Scalar.isNaN x = false ↔ x.toModel.unpack ≠ .notANumber := by
  rw [← Bool.not_eq_true, isNaN_iff]

/-- Numbers are ordered totally. -/
theorem le_of_not_lt {x y : Float} (hx : Scalar.isNaN x = false) (hy : Scalar.isNaN y = false)
    (h : ¬ x < y) : y ≤ x := by
  obtain ⟨o, ho⟩ := exists_compare (isNaN_eq_false_iff.1 hx) (isNaN_eq_false_iff.1 hy)
  rw [lt_iff, ho] at h
  rw [le_iff, compare_swap, ho]
  cases o with
  | lt => exact absurd rfl h
  | eq => rfl
  | gt => rfl

theorem le_self {x : Float} (h : Scalar.isNaN x = false) : x ≤ x := by
  rw [le_iff, compare_self (isNaN_eq_false_iff.1 h)]
  rfl

/-- Nothing is at most NaN. -/
theorem isNaN_eq_false_of_le {x y : Float} (h : x ≤ y) : Scalar.isNaN y = false := by
  refine isNaN_eq_false_iff.2 fun hnan => ?_
  rw [le_iff, hnan] at h
  cases hu : x.toModel.unpack <;> rw [hu] at h <;> cases h

theorem isNaN_eq_false_of_isFinite {x : Float} (h : Scalar.isFinite x = true) :
    Scalar.isNaN x = false := by
  rw [← Bool.not_eq_true]
  intro hnan
  rw [not_isFinite_of_isNaN hnan] at h
  cases h

theorem Between.of_le {low high x : Float} (hx : Scalar.isNaN x = false) (hl : ¬ x < low)
    (hh : ¬ high < x) (hlow : Scalar.isNaN low = false) (hhigh : Scalar.isNaN high = false) :
    Between low high x :=
  ⟨le_of_not_lt hx hlow hl, le_of_not_lt hhigh hx hh, hx⟩

/-! ## The middle of a range -/

theorem abs_value_lt (x : Float) : |value x| < 2 ^ 1024 := by
  unfold value
  cases h : x.toModel.unpack with
  | finite s m e hm =>
    have hfits := fits_of_unpack h
    have hm' : (m : ℝ) < 2 ^ 53 := by exact_mod_cast hfits.mantissa_lt
    rw [valueOf_finite, abs_mul, abs_unit, one_mul, abs_of_pos (magnitude_pos hm e)]
    calc (m * 2 ^ e : ℝ) < 2 ^ 53 * 2 ^ e := mul_lt_mul_of_pos_right hm' (zpow_pos two_pos e)
      _ ≤ 2 ^ 53 * 2 ^ (971 : ℤ) := by
          gcongr
          · norm_num
          · exact hfits.exponent_le
      _ = 2 ^ 1024 := by
          rw [show (2 : ℝ) ^ (971 : ℤ) = 2 ^ 971 from zpow_natCast 2 971, ← pow_add]
  | _ => exact abs_zero.trans_lt (by positivity)

/-- Zero and a finite double add up to that double, up to the sign of a zero. -/
theorem zero_add_spec {x : Float} (hx : Scalar.isFinite x = true) :
    Scalar.isFinite (0 + x) = true ∧ value (0 + x) = value x := by
  have hsum := toModel_add 0 x
  have hheld := unpack_pack (held_unpack x)
  rw [unpack_zero] at hsum
  obtain ⟨s, hs, hv⟩ | ⟨s, m, e, hm, hs, -, hv⟩ := unpack_of_isFinite hx
  · rw [hs] at hsum
    obtain ⟨t, ht⟩ : ∃ t, (0 + x).toModel.unpack = .zero t := by
      cases s
      · exact isZero_of_toModel hsum
      · exact isZero_of_toModel hsum
    exact ⟨IsZero.isFinite ⟨t, ht⟩, by rw [hv, value, ht]; rfl⟩
  · rw [hs] at hheld hsum
    have hsame : (0 + x).toModel.unpack = .finite s m e hm := by rw [hsum]; exact hheld
    refine ⟨?_, by rw [value, value, hsame, hs]⟩
    change (0 + x).toModel.unpack.isFinite = true
    rw [hsame]
    rfl

variable {high : Float} (hfinite : Scalar.isFinite high = true) (hhigh : 0 ≤ high)

include hfinite hhigh

theorem between_middle : Between 0 high ((0 + high) / 2.0) := by
  obtain ⟨hsum, hvalue⟩ := zero_add_spec hfinite
  have hnonneg : 0 ≤ value high := (le_iff_value rfl hfinite).1 hhigh
  have hhalf : value (0 + high) / value 2.0 = value high / 2 := by rw [hvalue, value_two]
  have hdiv := rounds_div hsum (y := 2.0) rfl (by rw [value_two]; norm_num) (by
    rw [hhalf, abs_div, abs_two, div_lt_iff₀ two_pos, ← pow_succ]
    exact abs_value_lt high)
  rw [hhalf] at hdiv
  have hmiddle := hdiv.nearest.nonneg (by positivity)
  refine ⟨(le_iff_value rfl hdiv.isFinite).2 hmiddle,
    (le_iff_value hdiv.isFinite hfinite).2 ?_, isNaN_eq_false_of_isFinite hdiv.isFinite⟩
  obtain hzero | hpos := hmiddle.eq_or_lt
  · rwa [← hzero]
  · have := hdiv.nearest.le_two_mul hpos
    linarith

/-- Whatever is held between zero and a finite bound is a number between them. -/
theorem between_clamp (x : Float) : Between 0 high (Scalar.clamp x 0 high) := by
  have hnumber := isNaN_eq_false_of_isFinite hfinite
  unfold Scalar.clamp
  split_ifs with hnan hlow hover
  · exact between_middle hfinite hhigh
  · exact ⟨le_self rfl, hhigh, rfl⟩
  · exact ⟨hhigh, le_self hnumber, hnumber⟩
  · exact .of_le (Bool.not_eq_true _ ▸ hnan) hlow hover rfl hnumber

omit hfinite hhigh

theorem zero_le_larger (x : Float) :
    0 ≤ Scalar.larger x 0 ∧ Scalar.isNaN (Scalar.larger x 0) = false := by
  unfold Scalar.larger
  split_ifs with hle hnan
  · exact ⟨hle, isNaN_eq_false_of_le hle⟩
  · cases hnan
  · exact ⟨le_self rfl, rfl⟩

end Binary64

end Multirotor
