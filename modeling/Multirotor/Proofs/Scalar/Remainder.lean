import Multirotor.Proofs.Scalar.Whole

/-!
# Remainders of doubles

The remainder is computed on what is read off the bits, which is what they are unpacked to
(`Dyadic.ofFloat_eq`).  A double that is smaller than the divisor is its own remainder, exactly
(`fmod_of_lt`), since what it is made of again is rounded to itself.  The remainder that is never
negative is then the double itself, or the rounded sum of it and the divisor
(`value_modulo_of_nonneg`, `rounds_modulo_of_neg`).
-/

namespace Multirotor

namespace Binary64

open Float.Model UnpackedFloat

/-! ## Negation -/

theorem toModel_neg (x : Float) : (-x).toModel = Float.Model.pack x.toModel.unpack.neg := rfl

theorem unpack_neg (x : Float) : (-x).toModel.unpack = x.toModel.unpack.neg := by
  rw [toModel_neg, unpack_pack ((held_unpack x).of_abs_eq (by cases x.toModel.unpack <;> rfl))]

theorem isFinite_neg (x : Float) : Scalar.isFinite (-x) = Scalar.isFinite x := by
  change (-x).toModel.unpack.isFinite = x.toModel.unpack.isFinite
  rw [unpack_neg]
  cases x.toModel.unpack <;> rfl

theorem value_neg (x : Float) : value (-x) = -value x := by
  rw [value, value, unpack_neg]
  cases x.toModel.unpack with
  | finite s m e hm =>
    rw [valueOf_finite, ← unit_neg_mul]
    exact valueOf_finite (-s) m e hm
  | _ => exact neg_zero.symm

theorem Rounds.neg {z : Float} {x : ℝ} (h : Rounds z x) : Rounds (-z) (-x) := by
  refine ⟨(isFinite_neg z).trans h.isFinite, ?_⟩
  have hneg := h.nearest.unit_mul .negative
  rwa [unit, neg_one_mul, neg_one_mul, ← value_neg] at hneg

end Binary64

namespace Dyadic

open Binary64 Float.Model UnpackedFloat

/-- The real number of a binary value. -/
noncomputable def value (d : Dyadic) : ℝ :=
  (if d.negative then -1 else 1) * (d.mantissa * (2 : ℕ) ^ d.exponent)

theorem value_eq (d : Dyadic) :
    d.value = (if d.negative then -1 else 1) * (d.mantissa * 2 ^ d.exponent) := by
  rw [value, Nat.cast_ofNat]

/-! ## Bits -/

section Bits

variable (x : Float)

theorem toNat_exponentBits : ((x.toBits >>> 52) &&& 0x7ff).toNat =
    (@unpackExponent .binary64 x.toModel.toBits.toBitVec).toNat := by
  rw [UInt64.toNat_and, UInt64.toNat_shiftRight]
  exact Nat.and_two_pow_sub_one_eq_mod _ 11

theorem toNat_mantissaBits : (x.toBits &&& 0xfffffffffffff).toNat =
    (@unpackMantissa .binary64 x.toModel.toBits.toBitVec).toNat := by
  rw [UInt64.toNat_and]
  exact Nat.and_two_pow_sub_one_eq_mod _ 52

theorem signBit_eq : (x.toBits >>> 63 == 1) =
    (Sign.ofBitVec (@unpackSign .binary64 x.toModel.toBits.toBitVec) == .negative) := by
  have hbit : (x.toBits >>> 63).toNat = (@unpackSign .binary64 x.toModel.toBits.toBitVec).toNat := by
    rw [UInt64.toNat_shiftRight]
    have hlt : x.toBits.toNat >>> 63 < 2 := by
      rw [Nat.shiftRight_eq_div_pow]
      have := x.toBits.toNat_lt
      omega
    exact (Nat.mod_eq_of_lt hlt).symm
  obtain hs | hs := BitVec.eq_zero_or_eq_one (@unpackSign .binary64 x.toModel.toBits.toBitVec)
  · have hword : x.toBits >>> 63 = 0 := UInt64.toNat_inj.1 (by rw [hbit, hs]; rfl)
    rw [hs, hword]
    rfl
  · have hword : x.toBits >>> 63 = 1 := UInt64.toNat_inj.1 (by rw [hbit, hs]; rfl)
    rw [hs, hword]
    rfl

end Bits

/-- What is read off the bits of a finite double is what they are unpacked to. -/
theorem ofFloat_eq {x : Float} (hx : Scalar.isFinite x = true) :
    ∃ s m e, ofFloat x = ⟨s == .negative, m, e⟩ ∧
      ((x.toModel.unpack = .zero s ∧ m = 0 ∧ e = -1074) ∨
        ∃ hm, x.toModel.unpack = .finite s m e hm) := by
  have hx : x.toModel.unpack.isFinite = true := hx
  unfold ofFloat
  dsimp only
  rw [toNat_exponentBits, toNat_mantissaBits, signBit_eq]
  refine ⟨_, _, _, rfl, ?_⟩
  by_cases htop : @unpackExponent .binary64 x.toModel.toBits.toBitVec = -1#11
  · have hunpack : x.toModel.unpack = _ := if_pos htop
    by_cases hfraction : @unpackMantissa .binary64 x.toModel.toBits.toBitVec = 0#52
    · cases hx.symm.trans (congrArg (·.isFinite) (hunpack.trans (if_pos hfraction)))
    · cases hx.symm.trans (congrArg (·.isFinite) (hunpack.trans (if_neg hfraction)))
  have hunpack : x.toModel.unpack = _ := if_neg htop
  by_cases hbottom : @unpackExponent .binary64 x.toModel.toBits.toBitVec = 0#11
  · have hunpack := hunpack.trans (if_pos hbottom)
    rw [hbottom] at hunpack ⊢
    by_cases hzero : @unpackMantissa .binary64 x.toModel.toBits.toBitVec = 0#52
    · refine .inl ⟨hunpack.trans (dif_pos hzero), ?_, rfl⟩
      rw [hzero]
      rfl
    · exact .inr ⟨_, hunpack.trans (dif_neg hzero)⟩
  · have hpos : (@unpackExponent .binary64 x.toModel.toBits.toBitVec).toNat ≠ 0 :=
      fun h0 => hbottom (BitVec.eq_of_toNat_eq (y := 0#11) h0)
    refine .inr ⟨?_, (hunpack.trans (if_neg hbottom)).trans (finite_congr rfl ?_ ?_)⟩
    · rw [if_neg hpos]
      omega
    · rw [if_neg hpos, toNat_implicit, add_comm]
      rfl
    · rw [if_neg hpos]
      rfl

theorem value_ofFloat {x : Float} (hx : Scalar.isFinite x = true) :
    (ofFloat x).value = Binary64.value x := by
  have hsigned (s : Sign) (m : ℕ) (e : ℤ) :
      value ⟨s == .negative, m, e⟩ = unit s * (m * 2 ^ e) := by
    rw [value_eq]
    cases s <;> rfl
  obtain ⟨s, m, e, hd, ⟨hs, rfl, -⟩ | ⟨hm, hs⟩⟩ := ofFloat_eq hx
  · rw [hd, hsigned, Binary64.value, hs, valueOf_zero, Nat.cast_zero, zero_mul, mul_zero]
  · rw [hd, hsigned, Binary64.value, hs, valueOf_finite]

theorem mantissa_ofFloat_lt {x : Float} (hx : Scalar.isFinite x = true) :
    (ofFloat x).mantissa < 2 ^ 53 := by
  obtain ⟨s, m, e, hd, ⟨-, rfl, -⟩ | ⟨hm, hs⟩⟩ := ofFloat_eq hx
  · rw [hd]
    norm_num
  · rw [hd]
    exact (fits_of_unpack hs).mantissa_lt

theorem le_exponent_ofFloat {x : Float} (hx : Scalar.isFinite x = true) :
    -1074 ≤ (ofFloat x).exponent := by
  obtain ⟨s, m, e, hd, ⟨-, -, rfl⟩ | ⟨hm, hs⟩⟩ := ofFloat_eq hx
  · rw [hd]
  · rw [hd]
    exact (fits_of_unpack hs).le_exponent

/-! ## Remainders -/

theorem cast_shiftLeft (d : Dyadic) {e : ℤ} (h : e ≤ d.exponent) :
    ((d.mantissa <<< (d.exponent - e).toNat : ℕ) : ℝ) * 2 ^ e = d.mantissa * 2 ^ d.exponent := by
  rw [Nat.shiftLeft_eq, Nat.cast_mul, Nat.cast_pow, Nat.cast_two, mul_assoc, ← zpow_natCast,
    Int.toNat_of_nonneg (sub_nonneg.2 h), ← zpow_add₀ two_ne_zero, sub_add_cancel]

theorem abs_value (d : Dyadic) : |d.value| = d.mantissa * 2 ^ d.exponent := by
  have hnonneg : (0 : ℝ) ≤ d.mantissa * 2 ^ d.exponent := by positivity
  rw [value_eq]
  split_ifs
  · rw [neg_one_mul, abs_neg, abs_of_nonneg hnonneg]
  · rw [one_mul, abs_of_nonneg hnonneg]

/-- What is smaller than the divisor is its own remainder. -/
theorem value_rem_of_lt {a b : Dyadic} (h : |a.value| < |b.value|) : (a.rem b).value = a.value := by
  have ha := a.cast_shiftLeft (min_le_left a.exponent b.exponent)
  have hb := b.cast_shiftLeft (min_le_right a.exponent b.exponent)
  have hlt : a.mantissa <<< (a.exponent - min a.exponent b.exponent).toNat <
      b.mantissa <<< (b.exponent - min a.exponent b.exponent).toNat := by
    rw [abs_value, abs_value, ← ha, ← hb] at h
    exact Nat.cast_lt.1 (lt_of_mul_lt_mul_right h (zpow_pos two_pos _).le)
  rw [value_eq, value_eq, ← ha]
  unfold rem
  dsimp only
  rw [Nat.mod_eq_of_lt hlt]

/-! ## Back to a double -/

theorem ofScientific_fraction {n p : ℕ} (hn : 0 < n) (hp : 0 < p) (hp' : p ≤ 2048) :
    UnpackedFloat.ofScientific .binary64 n (-(p : ℤ)) =
      .div .binary64 (.finite .positive n 0 hn)
        (.finite .positive (10 ^ p) 0 (Nat.pow_pos (Nat.succ_pos 9))) := by
  have hhigh : ¬ -(p : ℤ) > 2 ^ Format.binary64.exponentBits := by
    change ¬ -(p : ℤ) > 2 ^ 11
    omega
  have hlow : ¬ -(p : ℤ) < -((2 ^ Format.binary64.exponentBits : ℤ) + n.log2) := by
    change ¬ -(p : ℤ) < -((2 ^ 11 : ℤ) + n.log2)
    omega
  have hneg : ¬ 0 ≤ -(p : ℤ) := by omega
  refine (dif_neg hn.ne').trans ?_
  refine (if_neg hhigh).trans ?_
  refine (if_neg hlow).trans ?_
  refine (if_neg hneg).trans ?_
  refine congrArg (UnpackedFloat.div _ _) (finite_congr rfl ?_ rfl)
  rw [neg_neg, Int.toNat_natCast]

/-- A decimal fraction is rounded, if it is too long for a table of powers of ten. -/
theorem rounds_ofScientific {n p : ℕ} (hp : 22 < p) (hp' : p ≤ 2048)
    (hlt : |(n / 10 ^ p : ℝ)| < 2 ^ 1023) : Rounds (Float.ofScientific n true p) (n / 10 ^ p) := by
  have hexponent : Int.negOfNat p = -(p : ℤ) := Int.negOfNat_eq
  unfold Float.ofScientific
  rw [dif_neg fun h => hp.not_ge h.2]
  refine rounds_of_pack (u := .ofScientific .binary64 n (Int.negOfNat p)) rfl ?_ hlt
  rw [hexponent]
  obtain rfl | hn := Nat.eq_zero_or_pos n
  · rw [Nat.cast_zero, zero_div]
    exact ⟨trivial, .zero⟩
  · have hvalue : unit .positive * ((n : ℝ) * 2 ^ (0 : ℤ)) /
        (unit .positive * (((10 ^ p : ℕ) : ℝ) * 2 ^ (0 : ℤ))) = n / 10 ^ p := by
      rw [unit, one_mul, one_mul, zpow_zero, mul_one, mul_one, Nat.cast_pow, Nat.cast_ofNat]
    rw [ofScientific_fraction hn (by omega) hp', ← hvalue]
    exact div_nearest .positive .positive 0 0 hn (Nat.pow_pos (Nat.succ_pos 9))

/-- The double nearest to a value with many places below one. -/
theorem rounds_toFloat {d : Dyadic} (hlow : -2048 ≤ d.exponent) (hhigh : d.exponent < -22)
    (hlt : |d.value| < 2 ^ 1023) : Rounds d.toFloat d.value := by
  obtain ⟨p, hp⟩ : ∃ p : ℕ, d.exponent = -p := ⟨(-d.exponent).toNat, by omega⟩
  have hbelow : ¬ 0 ≤ d.exponent := by omega
  have hplaces : (-d.exponent).toNat = p := by omega
  -- a negative power of two is a power of five over one of ten
  have hmagnitude : ((d.mantissa * Nat.pow 5 p : ℕ) : ℝ) / 10 ^ p = |d.value| := by
    have hten : (10 : ℝ) ^ p = 2 ^ p * 5 ^ p := by rw [← mul_pow]; norm_num
    rw [abs_value, hp, zpow_neg, zpow_natCast, Nat.cast_mul, Nat.pow_eq, Nat.cast_pow, hten,
      Nat.cast_ofNat, mul_div_mul_right _ _ (by positivity), div_eq_mul_inv]
  have hround : Rounds (Float.ofScientific (d.mantissa * Nat.pow 5 p) true p) |d.value| := by
    rw [← hmagnitude]
    exact rounds_ofScientific (by omega) (by omega) (by rwa [hmagnitude, abs_abs])
  have hvalue : d.value = (if d.negative then -1 else 1) * |d.value| := by rw [abs_value, value_eq]
  unfold toFloat
  rw [if_neg hbelow, hplaces, hvalue]
  dsimp only
  split_ifs with hneg
  · rw [neg_one_mul]
    exact hround.neg
  · rwa [one_mul]

end Dyadic

namespace Binary64

/-! ## The remainder of a small double -/

theorem isNaN_isInf_of_isFinite {x : Float} (hx : Scalar.isFinite x = true) :
    x.isNaN = false ∧ x.isInf = false := by
  have hx : x.toModel.unpack.isFinite = true := hx
  change x.toModel.unpack.isNaN = false ∧ x.toModel.unpack.isInf = false
  cases hu : x.toModel.unpack with
  | notANumber => rw [hu] at hx; cases hx
  | infinity s => rw [hu] at hx; cases hx
  | zero s => exact ⟨rfl, rfl⟩
  | finite s m e hm => exact ⟨rfl, rfl⟩

theorem value_of_isZero {x : Float} (h : IsZero x) : value x = 0 := by
  obtain ⟨s, hs⟩ := h
  rw [value, hs, valueOf_zero]

/-- The remainder of finite doubles. -/
theorem fmod_of_isFinite {x y : Float} (hx : Scalar.isFinite x = true)
    (hy : Scalar.isFinite y = true) (hne : value y ≠ 0) :
    fmod x y = ((Dyadic.ofFloat x).rem (Dyadic.ofFloat y)).toFloat := by
  have hxfinite : x.isFinite = true := hx
  obtain ⟨hnan, hinf⟩ := isNaN_isInf_of_isFinite hy
  have hzero : (y == 0.0) = false := Bool.eq_false_iff.2 fun h =>
    hne (value_of_isZero (isZero_iff.2 h))
  rw [fmod, hxfinite, hnan, hzero, hinf]
  rfl

/-- A double with places below one is far from the largest. -/
theorem abs_value_lt_of_places {x : Float} (hx : Scalar.isFinite x = true)
    (hplaces : (Dyadic.ofFloat x).exponent < -22) : |value x| < 2 ^ 1023 := by
  rw [← Dyadic.value_ofFloat hx, Dyadic.abs_value]
  have hmantissa : ((Dyadic.ofFloat x).mantissa : ℝ) ≤ 2 ^ 53 := by
    exact_mod_cast (Dyadic.mantissa_ofFloat_lt hx).le
  calc ((Dyadic.ofFloat x).mantissa : ℝ) * 2 ^ (Dyadic.ofFloat x).exponent
      ≤ 2 ^ 53 * 2 ^ (0 : ℤ) := by gcongr <;> [norm_num; omega]
    _ < 2 ^ 1023 := by
        rw [zpow_zero, mul_one]
        exact pow_lt_pow_right₀ one_lt_two (by norm_num)

section Small

variable {x y : Float} (hx : Scalar.isFinite x = true) (hy : Scalar.isFinite y = true)
  (hplaces : (Dyadic.ofFloat y).exponent < -22) (hlt : |value x| < |value y|)

include hx hy hplaces hlt

/-- What is smaller than a divisor with enough places is its own remainder. -/
theorem fmod_of_lt : Scalar.isFinite (fmod x y) = true ∧ value (fmod x y) = value x := by
  have hne : value y ≠ 0 := abs_pos.1 ((abs_nonneg _).trans_lt hlt)
  rw [fmod_of_isFinite hx hy hne]
  have hexponent : ((Dyadic.ofFloat x).rem (Dyadic.ofFloat y)).exponent =
      min (Dyadic.ofFloat x).exponent (Dyadic.ofFloat y).exponent := rfl
  have hlow := Dyadic.le_exponent_ofFloat hx
  have hlow' := Dyadic.le_exponent_ofFloat hy
  have hvalue : ((Dyadic.ofFloat x).rem (Dyadic.ofFloat y)).value = value x := by
    rw [Dyadic.value_rem_of_lt, Dyadic.value_ofFloat hx]
    rwa [Dyadic.value_ofFloat hx, Dyadic.value_ofFloat hy]
  have hround := Dyadic.rounds_toFloat (d := (Dyadic.ofFloat x).rem (Dyadic.ofFloat y))
    (by omega) (by omega) (by rw [hvalue]; exact hlt.trans (abs_value_lt_of_places hy hplaces))
  rw [hvalue] at hround
  obtain ⟨k, e, hgrid, hk, he⟩ := exists_grid hx
  exact ⟨hround.isFinite, hround.nearest.eq_of_grid hgrid hk he⟩

theorem value_modulo_of_nonneg (hnonneg : 0 ≤ value x) :
    Scalar.isFinite (Scalar.modulo x y) = true ∧ value (Scalar.modulo x y) = value x := by
  obtain ⟨hfinite, hvalue⟩ := fmod_of_lt hx hy hplaces hlt
  have hmodulo : Scalar.modulo x y = fmod x y := by
    refine if_neg (mt (lt_iff_value hfinite rfl).1 ?_)
    rw [hvalue]
    exact hnonneg.not_gt
  rw [hmodulo]
  exact ⟨hfinite, hvalue⟩

theorem modulo_of_neg (hneg : value x < 0) :
    Scalar.modulo x y = fmod x y + Scalar.abs y := by
  obtain ⟨hfinite, hvalue⟩ := fmod_of_lt hx hy hplaces hlt
  refine if_pos ((lt_iff_value hfinite rfl).2 ?_)
  rw [hvalue]
  exact hneg

theorem rounds_modulo_of_neg (hneg : value x < 0) :
    Rounds (Scalar.modulo x y) (value x + |value y|) := by
  obtain ⟨hfinite, hvalue⟩ := fmod_of_lt hx hy hplaces hlt
  have hsum : value (fmod x y) + value (Scalar.abs y) = value x + |value y| := by
    rw [hvalue, value_abs]
  rw [modulo_of_neg hx hy hplaces hlt hneg, ← hsum]
  refine rounds_add hfinite ((isFinite_abs y).trans hy) ?_
  rw [hsum, abs_of_pos (by linarith [neg_lt_of_abs_lt hlt])]
  exact (add_lt_of_neg_left _ hneg).trans (abs_value_lt_of_places hy hplaces)

end Small

end Binary64

end Multirotor
