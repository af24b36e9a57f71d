import Mathlib.Algebra.Order.Archimedean.Real.Basic
import Multirotor.Proofs.Scalar.Rounding

/-!
# Whole doubles

Words and doubles in each other's terms.  A word of at most 53 bits is a double of the same value
(`value_toFloat`), a natural number is rounded (`rounds_natCast`), and the word of a double is the
whole part of its value, held within the range of the word (`toNat_toUInt64`).  `Binary64.round`
finds a whole number at most a half away: `round_spec`.
-/

namespace Multirotor

namespace Binary64

open Float.Model UnpackedFloat

/-! ## Some values -/

theorem value_eq {x : Float} (m : ℕ) (e : ℤ) (hm : 0 < m)
    (h : x.toModel.unpack = .finite .positive m e hm) : value x = m * 2 ^ e := by
  rw [value, h, valueOf_finite, unit, one_mul]

theorem value_half : value 0.5 = 1 / 2 :=
  (value_eq (2 ^ 52) (-53) (by decide) rfl).trans (by norm_num)

theorem value_one : value 1.0 = 1 :=
  (value_eq (2 ^ 52) (-52) (by decide) rfl).trans (by norm_num)

theorem value_two : value 2.0 = 2 :=
  (value_eq (2 ^ 52) (-51) (by decide) rfl).trans (by norm_num)

/-- From here on every double is whole. -/
theorem value_wholes : value 4503599627370496.0 = 2 ^ 52 :=
  (value_eq (2 ^ 52) 0 (by decide) rfl).trans (by norm_num)

/-! ## From words and natural numbers -/

theorem rounds_toFloat (w : UInt64) : Rounds w.toFloat w.toNat := by
  have hlt : ((w.toNat : ℕ) : ℝ) < 2 ^ 1023 := by
    have : (w.toNat : ℝ) < 2 ^ 64 := by exact_mod_cast w.toNat_lt
    exact this.trans (pow_lt_pow_right₀ one_lt_two (by norm_num))
  refine rounds_of_pack (u := .ofUInt64 .binary64 w) rfl ?_ (by rwa [Nat.abs_cast])
  have h := normalize_nearest w.toNat 0 .positive
  rwa [zpow_zero, mul_one, Int.cast_natCast] at h

theorem value_toFloat {w : UInt64} (h : w.toNat < 2 ^ 53) : value w.toFloat = w.toNat :=
  (rounds_toFloat w).nearest.eq_of_grid (n := w.toNat) (k := 0) (by simp)
    (by rw [Nat.abs_cast]; exact_mod_cast h) (by norm_num)

theorem ofScientific_whole {n : ℕ} (hn : n ≠ 0) : UnpackedFloat.ofScientific .binary64 n 0 =
    roundWithAccuracy .binary64 .positive (n <<< 53) (-53) .exact := by
  have hlow : ¬ (0 : ℤ) < -((2 ^ Format.binary64.exponentBits : ℤ) + n.log2) := by
    change ¬ (0 : ℤ) < -((2 ^ 11 : ℤ) + n.log2)
    omega
  refine (dif_neg hn).trans ?_
  refine (if_neg (by decide)).trans ?_
  refine (if_neg hlow).trans ?_
  refine (if_pos le_rfl).trans ?_
  change roundWithAccuracy .binary64 .positive (n <<< 53 * 10 ^ (0 : ℤ).toNat) (-53 + 0) .exact = _
  rw [Int.toNat_zero, pow_zero, mul_one, add_zero]

theorem rounds_natCast {n : ℕ} (hn : n < 2 ^ 64) : Rounds (n : Float) n := by
  have hlt : |(n : ℝ)| < 2 ^ 1023 := by
    rw [Nat.abs_cast]
    exact_mod_cast hn.trans (Nat.pow_lt_pow_right one_lt_two (by norm_num))
  change Rounds (Float.ofScientific n false 0) n
  unfold Float.ofScientific
  by_cases hsmall : n < 2 ^ 53
  · rw [dif_pos ⟨hsmall, by decide⟩]
    have hword : value n.toUInt64.toFloat = n := by
      have htoNat : n.toUInt64.toNat = n := by rw [UInt64.toNat_ofNat', Nat.mod_eq_of_lt hn]
      rw [value_toFloat (by rwa [htoNat]), htoNat]
    have hone : value (Float.ofBits 0x3FF0000000000000) = 1 := value_one
    have hprod : value n.toUInt64.toFloat * value (Float.ofBits 0x3FF0000000000000) = n := by
      rw [hword, hone, mul_one]
    have h := rounds_mul (rounds_toFloat n.toUInt64).isFinite
      (y := Float.ofBits 0x3FF0000000000000) rfl (by rwa [hprod])
    rwa [hprod] at h
  · have hne : n ≠ 0 := by omega
    rw [dif_neg (fun h => hsmall h.1)]
    refine rounds_of_pack (u := .ofScientific .binary64 n 0) rfl ?_ hlt
    have hbits : (-53 : ℤ) ≤ Format.binary64.targetExponent (totalExponent (n <<< 53) (-53)) := by
      rw [targetExponent_eq, totalExponent, log2_shiftLeft hne]
      omega
    have h := roundWithAccuracy_nearest .positive (.ofMantissa (n <<< 53)) hbits
    have hvalue : unit .positive * ((n <<< 53 : ℕ) * 2 ^ (-53 : ℤ)) = (n : ℝ) := by
      rw [Nat.shiftLeft_eq, unit, one_mul, Nat.cast_mul, mul_assoc]
      norm_num
    rwa [hvalue, ← ofScientific_whole hne] at h

/-! ## To words -/

theorem toNat_ofNatClamp (n : ℕ) : (UInt64.ofNatClamp n).toNat = min n (2 ^ 64 - 1) := by
  unfold UInt64.ofNatClamp
  split_ifs with h
  · exact (min_eq_left (Nat.le_sub_one_of_lt h)).symm
  · exact (min_eq_right (by have := not_lt.1 h; exact (Nat.sub_le _ 1).trans this)).symm

/-- The whole part of a mantissa at an exponent. -/
theorem roundToInt_eq (m : ℕ) (e : ℤ) :
    roundToInt .positive m e = (⌊(m * 2 ^ e : ℝ)⌋₊ : ℤ) := by
  obtain ⟨d, hd⟩ : ∃ d, d = decreaseExponent m e 0 := ⟨_, rfl⟩
  have hle : d.2 ≤ 0 := by
    rw [hd, decreaseExponent]
    omega
  obtain ⟨k, hk⟩ := Int.le.dest hle
  have hcut := (Locates.ofMantissa d.1).shiftRight k
  have hvalue : (d.1 / 2 ^ k : ℝ) = m * 2 ^ e := by
    rw [← decreaseExponent_value m e 0, ← hd, eq_neg_of_add_eq_zero_left hk, zpow_neg,
      zpow_natCast, div_eq_mul_inv]
  have hshift : (0 - d.2).toNat = k := by omega
  rw [hvalue] at hcut
  have hfloor : ⌊(m * 2 ^ e : ℝ)⌋₊ =
      (ExtendedMantissa.ofMantissaAndAccuracy d.1 .exact >>> k).mantissa :=
    (Nat.floor_eq_iff (by positivity)).2 ⟨hcut.le, hcut.lt⟩
  rw [hfloor, ← hshift, hd]
  rfl

theorem toNat_toUInt64 {x : Float} (hx : Scalar.isFinite x = true) (h : 0 ≤ value x) :
    (Scalar.toUInt64 x).toNat = min ⌊value x⌋₊ (2 ^ 64 - 1) := by
  have hword : (Scalar.toUInt64 x).toNat =
      min (x.toModel.unpack.toInt 0 (UInt64.size - 1)).toNat (2 ^ 64 - 1) := toNat_ofNatClamp _
  rw [hword]
  obtain ⟨s, hs, hv⟩ | ⟨s, m, e, hm, hs, -, hv⟩ := unpack_of_isFinite hx
  · rw [hs, hv, Nat.floor_zero]
    rfl
  · cases s with
    | negative =>
      rw [hv, unit, neg_one_mul] at h
      exact absurd (magnitude_pos hm e) (by linarith)
    | positive =>
      have htoInt : UnpackedFloat.toInt 0 (UInt64.size - 1) (.finite .positive m e hm) =
          roundToInt .positive m e := rfl
      rw [hs, hv, htoInt, roundToInt_eq, Int.toNat_natCast, unit, one_mul]

theorem toNat_toUInt64_of_infinite {x : Float} (h : x.toModel.unpack = .infinity .positive) :
    (Scalar.toUInt64 x).toNat = 2 ^ 64 - 1 := by
  change (UnpackedFloat.toUInt64 x.toModel.unpack).toNat = _
  rw [h]
  rfl

/-! ## Rounding to a whole number -/

theorem toModel_abs (x : Float) : (Scalar.abs x).toModel = Float.Model.pack x.toModel.unpack.abs :=
  rfl

theorem unpack_abs (x : Float) : (Scalar.abs x).toModel.unpack = x.toModel.unpack.abs := by
  rw [toModel_abs, unpack_pack ((held_unpack x).of_abs_eq (by cases x.toModel.unpack <;> rfl))]

theorem isFinite_abs (x : Float) : Scalar.isFinite (Scalar.abs x) = Scalar.isFinite x := by
  change (Scalar.abs x).toModel.unpack.isFinite = x.toModel.unpack.isFinite
  rw [unpack_abs]
  cases x.toModel.unpack <;> rfl

theorem value_abs (x : Float) : value (Scalar.abs x) = |value x| := by
  rw [value, value, unpack_abs]
  cases x.toModel.unpack with
  | finite s m e hm =>
    rw [valueOf_finite, abs_mul, abs_unit, one_mul, abs_of_pos (magnitude_pos hm e)]
    exact (valueOf_finite .positive m e hm).trans (one_mul _)
  | _ => exact abs_zero.symm

/-- A finite double is a multiple of a power of two. -/
theorem exists_grid {x : Float} (hx : Scalar.isFinite x = true) :
    ∃ k e : ℤ, value x = k * 2 ^ e ∧ |k| < 2 ^ 53 ∧ -1074 ≤ e := by
  obtain ⟨-, -, hv⟩ | ⟨s, m, e, hm, -, hcan, hv⟩ := unpack_of_isFinite hx
  · exact ⟨0, 0, by simp [hv], by norm_num, by norm_num⟩
  · have hlt := hcan.mantissa_lt
    refine ⟨s.apply m, e, by rw [hv, cast_apply, Int.cast_natCast, mul_assoc], ?_,
      hcan.le_exponent⟩
    cases s <;> simp only [Sign.apply, abs_neg, Nat.abs_cast] <;> omega

/-- The difference from a whole double close by is exact. -/
theorem value_sub_whole {x y : Float} (hx : Scalar.isFinite x = true)
    (hy : Scalar.isFinite y = true) {n : ℕ} (hn : value y = n) (hle : |value x - n| ≤ |value x|)
    (hnear : |value x - n| ≤ 1) :
    Scalar.isFinite (x - y) = true ∧ value (x - y) = value x - n := by
  have hsub := rounds_sub hx hy (by
    rw [hn]
    exact hnear.trans_lt (one_lt_pow₀ one_lt_two (by norm_num)))
  rw [hn] at hsub
  refine ⟨hsub.isFinite, ?_⟩
  obtain ⟨k, e, hv, hk, he⟩ := exists_grid hx
  obtain hneg | hpos := le_total e 0
  · obtain ⟨j, rfl⟩ := Int.exists_eq_neg_ofNat hneg
    have hunit : (2 : ℝ) ^ (-j : ℤ) * 2 ^ j = 1 := by
      rw [zpow_neg, zpow_natCast, inv_mul_cancel₀ (by positivity)]
    have hdiff : value x - n = ((k - n * 2 ^ j : ℤ) : ℝ) * 2 ^ (-j : ℤ) := by
      push_cast
      rw [hv, sub_mul, mul_assoc, mul_comm (2 ^ j : ℝ), hunit, mul_one]
    refine hsub.nearest.eq_of_grid hdiff ?_ he
    rw [hdiff, hv, abs_mul, abs_mul] at hle
    have hle := le_of_mul_le_mul_right hle (abs_pos.2 (zpow_pos two_pos _).ne')
    exact (by exact_mod_cast hle : |k - n * 2 ^ j| ≤ |k|).trans_lt hk
  · obtain ⟨j, rfl⟩ := Int.eq_ofNat_of_zero_le hpos
    have hdiff : value x - n = ((k * 2 ^ j - n : ℤ) : ℝ) * 2 ^ (0 : ℤ) := by
      push_cast
      rw [hv, zpow_natCast, zpow_zero, mul_one]
    refine hsub.nearest.eq_of_grid hdiff ?_ (by norm_num)
    rw [hdiff, zpow_zero, mul_one] at hnear
    exact (by exact_mod_cast hnear : |k * 2 ^ j - n| ≤ 1).trans_lt (by norm_num)

/-- From `2 ^ (52 + k)` on the doubles are spaced by `2 ^ k` or more. -/
theorem exists_grid_of_le {x : Float} (hx : Scalar.isFinite x = true) {k : ℤ}
    (h : 2 ^ (52 + k) ≤ |value x|) : ∃ j : ℤ, value x = j * 2 ^ k := by
  obtain ⟨j, e, hv, hj, -⟩ := exists_grid hx
  have hupper : |value x| < 2 ^ (53 + e) := by
    rw [hv, abs_mul, abs_of_pos (zpow_pos (two_pos (α := ℝ)) e), zpow_add₀ two_ne_zero]
    exact mul_lt_mul_of_pos_right (by exact_mod_cast hj) (zpow_pos two_pos e)
  have hke : k ≤ e := by
    have := (zpow_lt_zpow_iff_right₀ (one_lt_two (α := ℝ))).1 (h.trans_lt hupper)
    omega
  obtain ⟨d, rfl⟩ := Int.le.dest hke
  refine ⟨j * 2 ^ d, ?_⟩
  rw [hv, zpow_add₀ two_ne_zero, zpow_natCast]
  push_cast
  ring

/-- From `2 ^ 52` on every double is whole. -/
theorem exists_eq_natCast {x : Float} (hx : Scalar.isFinite x = true) (h : 2 ^ 52 ≤ value x) :
    ∃ n : ℕ, value x = n := by
  obtain ⟨j, hj⟩ := exists_grid_of_le hx (k := 0) (h.trans (le_abs_self _))
  rw [zpow_zero, mul_one] at hj
  have hnonneg : 0 ≤ j := by
    have : (0 : ℝ) ≤ j := hj ▸ (by positivity : (0 : ℝ) ≤ 2 ^ 52).trans h
    exact_mod_cast this
  exact ⟨j.toNat, by rw [hj, ← Int.cast_natCast, Int.toNat_of_nonneg hnonneg]⟩

section Round

variable {x : Float} (hx : Scalar.isFinite x = true) (h : 0 ≤ value x)

include hx h

theorem abs_lt_wholes_iff : Scalar.abs x < 4503599627370496.0 ↔ value x < 2 ^ 52 := by
  rw [lt_iff_value ((isFinite_abs x).trans hx) rfl, value_abs, abs_of_nonneg h, value_wholes]

/-- Below `2 ^ 52` the whole part is taken and one is added to it from a half on. -/
theorem round_of_lt (hlt : value x < 2 ^ 52) :
    let whole := (Scalar.toUInt64 (Scalar.abs x)).toFloat
    Scalar.round x = if 0.5 ≤ Scalar.abs x - whole then whole + 1.0 else whole := by
  have hsign : ¬ x < 0.0 := fun hneg => ((lt_iff_value hx rfl).1 hneg).not_ge h
  change Binary64.round x = _
  unfold Binary64.round
  exact (if_pos ((abs_lt_wholes_iff hx h).2 hlt)).trans (if_neg hsign)

theorem round_of_le (hle : 2 ^ 52 ≤ value x) : Scalar.round x = x := by
  change Binary64.round x = x
  unfold Binary64.round
  exact if_neg fun hlt => ((abs_lt_wholes_iff hx h).1 hlt).not_ge hle

/-- A double that is not negative is at most a half away from what it is rounded to. -/
theorem round_spec : ∃ n : ℕ, Scalar.isFinite (Scalar.round x) = true ∧
    value (Scalar.round x) = n ∧ |value x - n| ≤ 1 / 2 := by
  obtain hlt | hle := lt_or_ge (value x) (2 ^ 52)
  · have habs : Scalar.isFinite (Scalar.abs x) = true := (isFinite_abs x).trans hx
    have hvalue : value (Scalar.abs x) = value x := (value_abs x).trans (abs_of_nonneg h)
    have hfloor := Nat.floor_le h
    have hfloor' := Nat.lt_floor_add_one (value x)
    have hsmall : ⌊value x⌋₊ < 2 ^ 52 := (Nat.floor_lt h).2 (by exact_mod_cast hlt)
    have hword : (Scalar.toUInt64 (Scalar.abs x)).toNat = ⌊value x⌋₊ := by
      rw [toNat_toUInt64 habs (by rwa [hvalue]), hvalue]
      omega
    have hpart : |value x - ⌊value x⌋₊| = value x - ⌊value x⌋₊ := abs_of_nonneg (by linarith)
    rw [round_of_lt hx h hlt]
    have hfinite := (rounds_toFloat (Scalar.toUInt64 (Scalar.abs x))).isFinite
    have hwhole : value (Scalar.toUInt64 (Scalar.abs x)).toFloat = ⌊value x⌋₊ := by
      rw [value_toFloat (by omega), hword]
    generalize (Scalar.toUInt64 (Scalar.abs x)).toFloat = whole at hfinite hwhole
    obtain ⟨hfd, hvd⟩ := value_sub_whole habs hfinite hwhole
      (by rw [hvalue, hpart, abs_of_nonneg h]; linarith [Nat.cast_nonneg (α := ℝ) ⌊value x⌋₊])
      (by rw [hvalue, hpart]; linarith)
    rw [hvalue] at hvd
    have hhalf : 0.5 ≤ Scalar.abs x - whole ↔ 1 / 2 ≤ value x - ⌊value x⌋₊ := by
      rw [le_iff_value rfl hfd, hvd, value_half]
    split_ifs with hup
    · have hup := hhalf.1 hup
      have hsum : value whole + value 1.0 = ((⌊value x⌋₊ + 1 : ℕ) : ℝ) := by
        rw [hwhole, value_one, Nat.cast_add_one]
      have hadd := rounds_add hfinite (y := 1.0) rfl (by
        rw [hsum, Nat.abs_cast]
        exact_mod_cast (by omega : ⌊value x⌋₊ + 1 < 2 ^ 1023))
      refine ⟨⌊value x⌋₊ + 1, hadd.isFinite, ?_, ?_⟩
      · rw [← hsum]
        exact hadd.nearest.eq_of_grid (n := (⌊value x⌋₊ + 1 : ℕ)) (k := 0) (by simp [hsum])
          (by rw [Nat.abs_cast]; omega) (by norm_num)
      · rw [abs_le]
        push_cast
        exact ⟨by linarith, by linarith⟩
    · have hdown := not_le.1 (mt hhalf.2 hup)
      exact ⟨⌊value x⌋₊, hfinite, hwhole, hpart.trans_le hdown.le⟩
  · obtain ⟨n, hn⟩ := exists_eq_natCast hx hle
    rw [round_of_le hx h hle]
    exact ⟨n, hx, hn, by rw [hn, sub_self, abs_zero]; norm_num⟩

end Round

theorem round_of_infinite {x : Float} (h : x.toModel.unpack = .infinity .positive) :
    Scalar.round x = x := by
  have hlarge : ¬ Scalar.abs x < 4503599627370496.0 := by
    rw [lt_iff, unpack_abs, h]
    change ¬ some Ordering.gt = some .lt
    decide
  change Binary64.round x = x
  unfold Binary64.round
  exact if_neg hlarge

end Binary64

end Multirotor
