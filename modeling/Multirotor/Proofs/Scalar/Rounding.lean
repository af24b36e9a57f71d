import Multirotor.Proofs.Scalar.Value

/-!
# Rounding

The result of an operation on doubles is the exact number rounded to 53 bits.  A mantissa is cut
with two further bits that say where the number lies above it (`Locates`); every cut halves the
number, and what is rounded at last is off by at most a half (`Locates.abs_sub_le`).  `Nearest x r`
says that of a result `r` for the exact number `x`, and `Rounds z x` of a double `z` as long as `x`
is small enough not to overflow: `rounds_mul`, `rounds_div`, `rounds_add`, `rounds_sub` and
`rounds_ofNat`.
-/

namespace Multirotor

namespace Binary64

open Float.Model UnpackedFloat

/-! ## The bits below a mantissa -/

/-- The number lies where a mantissa and its round and sticky bits say. -/
def Locates (em : ExtendedMantissa) (x : ℝ) : Prop :=
  match em.roundBit, em.stickyBit with
  | false, false => x = em.mantissa
  | false, true => em.mantissa < x ∧ x < em.mantissa + 1 / (2 : ℕ)
  | true, false => x = em.mantissa + 1 / (2 : ℕ)
  | true, true => em.mantissa + 1 / (2 : ℕ) < x ∧ x < em.mantissa + 1

namespace Locates

variable {em : ExtendedMantissa} {x : ℝ}

theorem le (h : Locates em x) : (em.mantissa : ℝ) ≤ x := by
  obtain ⟨m, r, s⟩ := em
  cases r <;> cases s <;> simp only [Locates] at h <;> linarith

theorem lt (h : Locates em x) : x < em.mantissa + 1 := by
  obtain ⟨m, r, s⟩ := em
  cases r <;> cases s <;> simp only [Locates] at h <;> linarith

theorem shiftRightOne (h : Locates em x) : Locates em.shiftRightOne (x / 2) := by
  obtain ⟨m, r, s⟩ := em
  have hdiv : (m : ℝ) = 2 * (m / 2 : ℕ) + (m % 2 : ℕ) := by
    exact_mod_cast (Nat.div_add_mod m 2).symm
  obtain heven | hodd := Nat.mod_two_eq_zero_or_one m
  · rw [heven, Nat.cast_zero, add_zero] at hdiv
    cases r <;> cases s <;>
      simp only [Locates, ExtendedMantissa.shiftRightOne, heven, bne_self_eq_false, Bool.or_false,
        Bool.or_true] at h ⊢ <;> first | linarith | exact ⟨by linarith, by linarith⟩
  · rw [hodd, Nat.cast_one] at hdiv
    have hbit : (1 != 0) = true := rfl
    cases r <;> cases s <;>
      simp only [Locates, ExtendedMantissa.shiftRightOne, hodd, hbit, Bool.or_false,
        Bool.or_true] at h ⊢ <;> first | linarith | exact ⟨by linarith, by linarith⟩

theorem shiftRight (h : Locates em x) (k : ℕ) : Locates (em >>> k) (x / 2 ^ k) := by
  induction k with
  | zero => rwa [pow_zero, div_one]
  | succ k ih =>
    rw [pow_succ, ← div_div]
    exact ih.shiftRightOne

/-- Rounding the mantissa is off by at most a half. -/
theorem abs_sub_le (h : Locates em x) : |(em.roundedMantissa : ℝ) - x| ≤ 1 / 2 := by
  obtain ⟨m, r, s⟩ := em
  rw [abs_sub_le_iff]
  cases r <;> cases s <;>
    simp only [Locates, ExtendedMantissa.roundedMantissa, ExtendedMantissa.accuracy,
      Accuracy.roundToNearestEven] at h ⊢
  · exact ⟨by linarith, by linarith⟩
  · exact ⟨by linarith, by linarith⟩
  · obtain heven | hodd := Nat.mod_two_eq_zero_or_one m
    · rw [heven, add_zero]
      exact ⟨by linarith, by linarith⟩
    · rw [hodd, Nat.cast_add_one]
      exact ⟨by linarith, by linarith⟩
  · rw [Nat.cast_add_one]
    exact ⟨by linarith, by linarith⟩

theorem ofMantissa (m : ℕ) : Locates (.ofMantissaAndAccuracy m .exact) m := rfl

end Locates

theorem le_roundedMantissa (em : ExtendedMantissa) : em.mantissa ≤ em.roundedMantissa := by
  obtain ⟨m, r, s⟩ := em
  cases r <;> cases s <;>
    simp [ExtendedMantissa.roundedMantissa, ExtendedMantissa.accuracy, Accuracy.roundToNearestEven]

theorem roundedMantissa_le (em : ExtendedMantissa) : em.roundedMantissa ≤ em.mantissa + 1 := by
  obtain ⟨m, r, s⟩ := em
  cases r <;> cases s <;>
    simp only [ExtendedMantissa.roundedMantissa, ExtendedMantissa.accuracy,
      Accuracy.roundToNearestEven] <;> omega

/-! ## Nearest numbers -/

/-- A number is off by at most half of the last of its 53 bits, or of the least bit there is. -/
inductive Nearest (x r : ℝ) : Prop where
  | intro (q t : ℤ) (eq : r = q * 2 ^ t) (near : |r - x| ≤ 2 ^ t / 2) (least : -1074 ≤ t)
    (full : t = -1074 ∨ 2 ^ (52 + t) ≤ |x|)

namespace Nearest

variable {x r : ℝ}

theorem zero : Nearest 0 0 :=
  ⟨0, -1074, by simp, by simp only [sub_self, abs_zero]; positivity, le_rfl, .inl rfl⟩

theorem unit_mul (h : Nearest x r) (s : Sign) : Nearest (unit s * x) (unit s * r) := by
  obtain ⟨q, t, hq, herr, ht, hbits⟩ := h
  refine ⟨s.apply q, t, ?_, ?_, ht, ?_⟩
  · rw [cast_apply, hq, mul_assoc]
  · rwa [← mul_sub, abs_mul, abs_unit, one_mul]
  · rwa [abs_mul, abs_unit, one_mul]

/-- A number is rounded no further than to what 53 bits hold above it. -/
theorem le_of_grid (h : Nearest x r) {n k : ℤ} (hx : x ≤ n * 2 ^ k) (hn : |n| < 2 ^ 53)
    (hk : -1074 ≤ k) : r ≤ n * 2 ^ k := by
  obtain ⟨q, t, rfl, herr, -, hbits⟩ := h
  have hpos : (0 : ℝ) < 2 ^ t := zpow_pos two_pos t
  have hmultiple (j : ℤ) (hj : x ≤ j * 2 ^ t) : (q * 2 ^ t : ℝ) ≤ j * 2 ^ t := by
    have hle : q ≤ j := by
      by_contra! hlt
      have hone : (j + 1 : ℝ) ≤ q := by exact_mod_cast hlt
      have := le_of_abs_le herr
      nlinarith
    exact mul_le_mul_of_nonneg_right (by exact_mod_cast hle) hpos.le
  obtain htk | hkt := le_or_gt t k
  · obtain ⟨d, rfl⟩ := Int.le.dest htk
    have hgrid : (n : ℝ) * 2 ^ (t + d) = ((n * 2 ^ d : ℤ) : ℝ) * 2 ^ t := by
      rw [zpow_add₀ two_ne_zero, zpow_natCast]
      push_cast
      ring
    rw [hgrid] at hx ⊢
    exact hmultiple _ hx
  · -- the unit of the number is too large for a positive number below the bound
    have hlarge : (2 : ℝ) ^ (52 + t) ≤ |x| := hbits.resolve_left (by omega)
    have hsmall : |(n * 2 ^ k : ℝ)| < 2 ^ (52 + t) := by
      rw [abs_mul, abs_of_pos (zpow_pos (two_pos (α := ℝ)) k)]
      calc |(n : ℝ)| * 2 ^ k < 2 ^ 53 * 2 ^ k :=
            mul_lt_mul_of_pos_right (by exact_mod_cast hn) (zpow_pos two_pos k)
        _ = 2 ^ (53 + k) := by rw [zpow_add₀ two_ne_zero]; rfl
        _ ≤ 2 ^ (52 + t) := zpow_le_zpow_right₀ one_le_two (by omega)
    obtain ⟨hlow, hhigh⟩ := abs_lt.1 hsmall
    obtain hnonneg | hneg := le_total 0 x
    · rw [abs_of_nonneg hnonneg] at hlarge
      linarith
    · rw [abs_of_nonpos hneg] at hlarge
      have hbound : (2 : ℝ) ^ (52 + t) = -((-2 ^ 52 : ℤ) * 2 ^ t) := by
        rw [zpow_add₀ two_ne_zero]
        push_cast
        norm_num
      have := hmultiple (-2 ^ 52) (by linarith)
      linarith

theorem ge_of_grid (h : Nearest x r) {n k : ℤ} (hx : n * 2 ^ k ≤ x) (hn : |n| < 2 ^ 53)
    (hk : -1074 ≤ k) : n * 2 ^ k ≤ r := by
  have hneg := h.unit_mul .negative
  rw [unit, neg_one_mul, neg_one_mul] at hneg
  have hle := hneg.le_of_grid (n := -n) (k := k) (by push_cast; linarith) (by rwa [abs_neg]) hk
  push_cast at hle
  linarith

/-- Rounding keeps within whole bounds. -/
theorem abs_le_natCast (h : Nearest x r) {n : ℕ} (hx : |x| ≤ n) (hn : n < 2 ^ 53) : |r| ≤ n := by
  have hcast (m : ℤ) : (m : ℝ) * 2 ^ (0 : ℤ) = m := by rw [zpow_zero, mul_one]
  obtain ⟨hlow, hhigh⟩ := abs_le.1 hx
  have hle := h.le_of_grid (n := n) (k := 0) (by rwa [hcast]) (by rw [Nat.abs_cast]; omega)
    (by norm_num)
  have hge := h.ge_of_grid (n := -n) (k := 0) (by rw [hcast]; push_cast; exact hlow)
    (by rw [abs_neg, Nat.abs_cast]; omega) (by norm_num)
  rw [hcast] at hle hge
  exact abs_le.2 ⟨by push_cast at hge; exact hge, hle⟩

/-- What 53 bits hold is not changed. -/
theorem eq_of_grid (h : Nearest x r) {n k : ℤ} (hx : x = n * 2 ^ k) (hn : |n| < 2 ^ 53)
    (hk : -1074 ≤ k) : r = x := by
  subst hx
  exact le_antisymm (h.le_of_grid le_rfl hn hk) (h.ge_of_grid le_rfl hn hk)

/-- The error is at most half of any unit in which the number has no more than 53 bits. -/
theorem abs_sub_le_half (h : Nearest x r) {k : ℤ} (hx : |x| < 2 ^ (53 + k)) (hk : -1074 ≤ k) :
    |r - x| ≤ 2 ^ k / 2 := by
  obtain ⟨q, t, -, herr, -, hbits⟩ := h
  have htk : t ≤ k := by
    obtain rfl | hlarge := hbits
    · exact hk
    · have := (zpow_lt_zpow_iff_right₀ (one_lt_two (α := ℝ))).1 (hlarge.trans_lt hx)
      omega
  exact herr.trans (div_le_div_of_nonneg_right (zpow_le_zpow_right₀ one_le_two htk) two_pos.le)

/-- The error is relative as long as all 53 bits are used. -/
theorem abs_sub_le (h : Nearest x r) (hx : 2 ^ (-1022 : ℤ) ≤ |x|) :
    |r - x| ≤ 2 ^ (-53 : ℤ) * |x| := by
  obtain ⟨q, t, -, herr, -, hbits⟩ := h
  have hlarge : (2 : ℝ) ^ (52 + t) ≤ |x| := by
    obtain rfl | hlarge := hbits
    · exact hx
    · exact hlarge
  calc |r - x| ≤ 2 ^ t / 2 := herr
    _ = 2 ^ (-53 : ℤ) * 2 ^ (52 + t) := by
      rw [← zpow_add₀ two_ne_zero, div_eq_mul_inv, ← zpow_sub_one₀ two_ne_zero]
      congr 1
      ring
    _ ≤ 2 ^ (-53 : ℤ) * |x| := by gcongr

/-- No rounding more than doubles a number. -/
theorem le_two_mul (h : Nearest x r) (hr : 0 < r) : r ≤ 2 * x := by
  obtain ⟨q, t, hq, herr, -, -⟩ := h
  have hpos : (0 : ℝ) < 2 ^ t := zpow_pos two_pos t
  have hone : 1 ≤ q := by
    rw [hq] at hr
    exact_mod_cast pos_of_mul_pos_left hr hpos.le
  have hunit : (2 : ℝ) ^ t ≤ r := by
    rw [hq]
    exact le_mul_of_one_le_left hpos.le (by exact_mod_cast hone)
  have := le_of_abs_le herr
  linarith

/-- Rounding keeps what is not negative. -/
theorem nonneg (h : Nearest x r) (hx : 0 ≤ x) : 0 ≤ r := by
  obtain ⟨q, t, rfl, herr, -, -⟩ := h
  have hpos : (0 : ℝ) < 2 ^ t := zpow_pos two_pos t
  by_contra! hneg
  have hq : q ≤ -1 := by
    by_contra! hq
    exact hneg.not_ge (mul_nonneg (by exact_mod_cast (by omega : 0 ≤ q)) hpos.le)
  have hle : (q : ℝ) ≤ -1 := by exact_mod_cast hq
  have := neg_le_of_abs_le herr
  nlinarith

end Nearest

/-! ## Rounding a mantissa -/

/-- An unpacked double as rounding makes it, whose exponent may still be too large. -/
def IsRounded : UnpackedFloat → Prop
  | .finite _ m e _ => Canonical m e
  | .zero _ => True
  | _ => False

/-- Packing keeps what was rounded, unless its exponent is too large; then it is infinite. -/
theorem IsRounded.unpack_pack {u : UnpackedFloat} (h : IsRounded u) :
    (Float.Model.pack u).unpack = u ∨
      ∃ s, (Float.Model.pack u).unpack = .infinity s ∧ 2 ^ 1024 ≤ unit s * valueOf u := by
  cases u with
  | notANumber => exact h.elim
  | infinity s => exact h.elim
  | zero s => exact .inl (unpack_pack_zero s)
  | finite s m e hm =>
    obtain hle | hgt := le_or_gt e 971
    · exact .inl (unpack_pack_finite ⟨h, hle⟩ s hm)
    · refine .inr ⟨s, ?_, ?_⟩
      · have hover : 2 ^ 11 ≤ (e + (1023 : ℕ) + (52 : ℕ)).toNat + 1 := by omega
        have hbitVec : UnpackedFloat.pack .binary64 (.finite s m e hm) =
            UnpackedFloat.pack .binary64 (.infinity s) := if_pos hover
        have hpack : Float.Model.pack (.finite s m e hm) = Float.Model.pack (.infinity s) :=
          (Float.Model.mk.injEq ..).mpr (congrArg UInt64.ofBitVec hbitVec)
        rw [hpack]
        cases s <;> rfl
      · have hbits := h.normal.resolve_right (by omega)
        have hunit : unit s * unit s = 1 := by cases s <;> norm_num [unit]
        rw [valueOf_finite, ← mul_assoc, hunit, one_mul]
        calc (2 : ℝ) ^ 1024 = 2 ^ 52 * 2 ^ (972 : ℤ) := by
              rw [show (2 : ℝ) ^ (972 : ℤ) = 2 ^ 972 from zpow_natCast 2 972, ← pow_add]
          _ ≤ (m : ℝ) * 2 ^ e := by
              gcongr
              · exact_mod_cast hbits
              · norm_num
              · omega

theorem targetExponent_eq (t : ℤ) : Format.binary64.targetExponent t = max (t - 53) (-1074) := rfl

/-- A mantissa of at most 53 bits is cut no further. -/
theorem shiftToTargetExponent_self {q : ℕ} {t : ℤ} (hq : q < 2 ^ 53) (ht : -1074 ≤ t) :
    shiftToTargetExponent .binary64 q t .exact = (⟨q, false, false⟩, t) := by
  have hlog : q.log2 ≤ 52 := by
    obtain rfl | hne := eq_or_ne q 0
    · decide
    · exact Nat.lt_succ_iff.1 ((Nat.log2_lt hne).2 hq)
  have hzero : (Format.binary64.targetExponent (totalExponent q t) - t).toNat = 0 := by
    rw [targetExponent_eq, totalExponent]
    omega
  simp only [shiftToTargetExponent, shiftToExponent, hzero, Nat.cast_zero, add_zero]
  rfl

/-- A mantissa that was rounded up to 54 bits loses the last of them, which is zero. -/
theorem shiftToTargetExponent_carry {t : ℤ} (ht : -1074 ≤ t) :
    shiftToTargetExponent .binary64 (2 ^ 53) t .exact = (⟨2 ^ 52, false, false⟩, t + 1) := by
  have hone : (Format.binary64.targetExponent (totalExponent (2 ^ 53) t) - t).toNat = 1 := by
    rw [targetExponent_eq, totalExponent, Nat.log2_two_pow]
    omega
  simp only [shiftToTargetExponent, shiftToExponent, hone, Nat.cast_one]
  rfl

/-- The mantissa of a number at its target exponent. -/
theorem roundWithAccuracy_of_rounded {s : Sign} {m q : ℕ} {e t : ℤ} {acc : Accuracy}
    {em : ExtendedMantissa} (hshift : shiftToTargetExponent .binary64 m e acc = (em, t))
    (hq : em.roundedMantissa = q) (hlt : q ≤ 2 ^ 53) (ht : -1074 ≤ t)
    (hbits : t = -1074 ∨ 2 ^ 52 ≤ q) :
    IsRounded (roundWithAccuracy .binary64 s m e acc) ∧
      valueOf (roundWithAccuracy .binary64 s m e acc) = unit s * (q * 2 ^ t) := by
  unfold roundWithAccuracy
  rw [hshift]
  dsimp only
  rw [hq]
  obtain hlt | rfl := hlt.lt_or_eq
  · rw [shiftToTargetExponent_self hlt ht]
    dsimp only
    by_cases hzero : q = 0
    · rw [dif_pos hzero]
      refine ⟨trivial, ?_⟩
      rw [hzero, Nat.cast_zero, zero_mul, mul_zero]
      rfl
    · rw [dif_neg hzero]
      exact ⟨⟨hlt, ht, hbits.symm⟩, valueOf_finite _ _ _ _⟩
  · rw [shiftToTargetExponent_carry ht]
    refine ⟨⟨by norm_num, by omega, .inl le_rfl⟩, ?_⟩
    refine (valueOf_finite _ _ _ (by norm_num)).trans ?_
    rw [zpow_add_one₀ two_ne_zero]
    push_cast
    ring

/-- The target exponent leaves 53 bits of a mantissa, or fewer if it is least. -/
theorem bits_of_targetExponent {m k : ℕ} {e : ℤ}
    (h : e + k = Format.binary64.targetExponent (totalExponent m e)) :
    m < 2 ^ (53 + k) ∧ (e + k = -1074 ∨ 2 ^ (52 + k) ≤ m) := by
  rw [targetExponent_eq, totalExponent] at h
  constructor
  · exact Nat.lt_log2_self.trans_le (Nat.pow_le_pow_right two_pos (by omega))
  · by_cases hmin : e + k = -1074
    · exact .inl hmin
    · have hlog : m.log2 = 52 + k := by omega
      have hne : m ≠ 0 := by
        rintro rfl
        rw [Nat.log2_zero] at hlog
        omega
      exact .inr (hlog ▸ Nat.log2_self_le hne)

theorem shiftToTargetExponent_eq {m k : ℕ} {e : ℤ} (acc : Accuracy)
    (h : e + k = Format.binary64.targetExponent (totalExponent m e)) :
    shiftToTargetExponent .binary64 m e acc =
      (ExtendedMantissa.ofMantissaAndAccuracy m acc >>> k, e + k) := by
  have hk : (Format.binary64.targetExponent (totalExponent m e) - e).toNat = k := by omega
  simp only [shiftToTargetExponent, shiftToExponent, hk]

/-- Rounding finds the nearest number, if it starts with enough bits. -/
theorem roundWithAccuracy_nearest {m : ℕ} {e : ℤ} {acc : Accuracy} {x : ℝ} (s : Sign)
    (hx : Locates (.ofMantissaAndAccuracy m acc) x)
    (he : e ≤ Format.binary64.targetExponent (totalExponent m e)) :
    IsRounded (roundWithAccuracy .binary64 s m e acc) ∧
      Nearest (unit s * (x * 2 ^ e)) (valueOf (roundWithAccuracy .binary64 s m e acc)) := by
  have hmantissa : (ExtendedMantissa.ofMantissaAndAccuracy m acc).mantissa = m := by
    obtain _ | o := acc
    · rfl
    · cases o <;> rfl
  have hle := hx.le
  have hlt := hx.lt
  rw [hmantissa] at hle hlt
  obtain ⟨k, hk⟩ := Int.le.dest he
  have hshift := shiftToTargetExponent_eq acc hk
  obtain ⟨hbits, hleast⟩ := bits_of_targetExponent hk
  have hcut := hx.shiftRight k
  have hvalue : x / 2 ^ k * 2 ^ (e + k) = x * 2 ^ e := by
    rw [zpow_add₀ two_ne_zero, zpow_natCast, mul_comm (2 ^ e : ℝ), ← mul_assoc,
      div_mul_cancel₀ _ (by positivity)]
  have hmin : -1074 ≤ e + k := by
    rw [hk, targetExponent_eq]
    exact le_max_right _ _
  generalize ExtendedMantissa.ofMantissaAndAccuracy m acc >>> k = em at hshift hcut
  generalize e + k = t at hshift hleast hvalue hmin
  -- the number in units of the target exponent
  have hupper : x / 2 ^ k < 2 ^ 53 := by
    rw [div_lt_iff₀ (by positivity), ← pow_add]
    exact hlt.trans_le (by exact_mod_cast hbits)
  have hlower : t = -1074 ∨ 2 ^ 52 ≤ x / 2 ^ k := by
    refine hleast.imp_right fun hbits => ?_
    rw [le_div_iff₀ (by positivity), ← pow_add]
    exact (by exact_mod_cast hbits : (2 : ℝ) ^ (52 + k) ≤ m).trans hle
  have hsmall : em.mantissa < 2 ^ 53 := by exact_mod_cast hcut.le.trans_lt hupper
  have hlarge : t = -1074 ∨ 2 ^ 52 ≤ em.roundedMantissa := by
    refine hlower.imp_right fun hlower => ?_
    have : (2 : ℝ) ^ 52 < em.mantissa + 1 := hlower.trans_lt hcut.lt
    have : 2 ^ 52 < em.mantissa + 1 := by exact_mod_cast this
    have := le_roundedMantissa em
    omega
  obtain ⟨hrounded, hq⟩ := roundWithAccuracy_of_rounded (s := s) hshift rfl
    (by have := roundedMantissa_le em; omega) hmin hlarge
  refine ⟨hrounded, ?_⟩
  rw [hq]
  refine Nearest.unit_mul ⟨em.roundedMantissa, t, by rw [Int.cast_natCast], ?_, hmin, ?_⟩ s
  · rw [← hvalue, ← sub_mul, abs_mul, abs_of_pos (zpow_pos (two_pos (α := ℝ)) t)]
    have := mul_le_mul_of_nonneg_right hcut.abs_sub_le (zpow_pos (two_pos (α := ℝ)) t).le
    linarith
  · refine hlower.imp_right fun hlower => ?_
    rw [← hvalue, zpow_add₀ two_ne_zero]
    exact (mul_le_mul_of_nonneg_right hlower (zpow_pos two_pos t).le).trans (le_abs_self _)

/-- Decreasing an exponent does not change the number. -/
theorem decreaseExponent_value (m : ℕ) (e t : ℤ) :
    ((decreaseExponent m e t).1 : ℝ) * 2 ^ (decreaseExponent m e t).2 = m * 2 ^ e := by
  rw [decreaseExponent, Nat.shiftLeft_eq, Nat.cast_mul, Nat.cast_pow, Nat.cast_two, mul_assoc,
    ← zpow_natCast, ← zpow_add₀ two_ne_zero]
  congr 2
  ring

theorem log2_shiftLeft {m : ℕ} (hm : m ≠ 0) (k : ℕ) : (m <<< k).log2 = m.log2 + k := by
  rw [Nat.shiftLeft_eq, Nat.log2_eq_iff (by positivity), pow_add, pow_succ, pow_add, mul_right_comm]
  exact ⟨Nat.mul_le_mul_right _ (Nat.log2_self_le hm),
    Nat.mul_lt_mul_of_pos_right (pow_succ 2 m.log2 ▸ Nat.lt_log2_self) (by positivity)⟩

theorem round_nearest (s : Sign) {m : ℕ} (hm : 0 < m) (e : ℤ) :
    IsRounded (UnpackedFloat.round .binary64 s m e) ∧
      Nearest (unit s * (m * 2 ^ e)) (valueOf (UnpackedFloat.round .binary64 s m e)) := by
  rw [← decreaseExponent_value m e (Format.binary64.targetExponent (totalExponent m e))]
  refine roundWithAccuracy_nearest s (.ofMantissa _) ?_
  have htotal (k : ℕ) : totalExponent (m <<< k) (e - k) = totalExponent m e := by
    rw [totalExponent, totalExponent, log2_shiftLeft hm.ne']
    push_cast
    ring
  rw [htotal]
  omega

theorem normalize_nearest (n e : ℤ) (zeroSign : Sign) :
    IsRounded (UnpackedFloat.normalize .binary64 n e zeroSign) ∧
      Nearest (n * 2 ^ e) (valueOf (UnpackedFloat.normalize .binary64 n e zeroSign)) := by
  unfold UnpackedFloat.normalize
  obtain hneg | rfl | hpos := lt_trichotomy n 0
  · rw [compare_lt_iff_lt.2 hneg]
    have hcast : (n : ℝ) = unit .negative * (-n).toNat := by
      rw [unit, neg_one_mul, ← Int.cast_natCast, Int.toNat_of_nonneg (by omega), Int.cast_neg,
        neg_neg]
    rw [hcast, mul_assoc]
    exact round_nearest .negative (Int.lt_toNat.2 (neg_pos.2 hneg)) e
  · rw [compare_eq_iff_eq.2 rfl, Int.cast_zero, zero_mul]
    exact ⟨trivial, .zero⟩
  · rw [compare_gt_iff_gt.2 hpos]
    have hcast : (n : ℝ) = unit .positive * n.toNat := by
      rw [unit, one_mul, ← Int.cast_natCast, Int.toNat_of_nonneg hpos.le]
    rw [hcast, mul_assoc]
    exact round_nearest .positive (Int.lt_toNat.2 hpos) e

/-! ## Operations -/

/-- A double is finite and nearest to a number. -/
structure Rounds (z : Float) (x : ℝ) : Prop where
  isFinite : Scalar.isFinite z = true
  nearest : Nearest x (value z)

/-- What is rounded and packed rounds the number, or is too large for a finite double. -/
theorem rounds_or_infinite {z : Float} {u : UnpackedFloat} {x : ℝ}
    (hz : z.toModel = Float.Model.pack u) (hu : IsRounded u ∧ Nearest x (valueOf u)) :
    Rounds z x ∨ ∃ s, z.toModel.unpack = .infinity s ∧ 2 ^ 1023 ≤ unit s * x := by
  obtain ⟨hrounded, hnear⟩ := hu
  obtain hunpack | ⟨s, hunpack, hlarge⟩ := hrounded.unpack_pack
  · rw [← hz] at hunpack
    refine .inl ⟨?_, by rwa [value, hunpack]⟩
    change z.toModel.unpack.isFinite = true
    rw [hunpack]
    cases u with
    | notANumber => exact hrounded.elim
    | infinity s => exact hrounded.elim
    | zero s => rfl
    | finite s m e hm => rfl
  · refine .inr ⟨s, by rw [hz, hunpack], ?_⟩
    have hpos := (pow_pos (two_pos (α := ℝ)) 1024).trans_le hlarge
    refine le_of_mul_le_mul_left ?_ (two_pos (α := ℝ))
    calc (2 : ℝ) * 2 ^ 1023 = 2 ^ 1024 := (pow_succ' 2 1023).symm
      _ ≤ unit s * valueOf u := hlarge
      _ ≤ 2 * (unit s * x) := (hnear.unit_mul s).le_two_mul hpos

theorem rounds_of_pack {z : Float} {u : UnpackedFloat} {x : ℝ}
    (hz : z.toModel = Float.Model.pack u) (hu : IsRounded u ∧ Nearest x (valueOf u))
    (hx : |x| < 2 ^ 1023) : Rounds z x := by
  refine (rounds_or_infinite hz hu).resolve_right ?_
  rintro ⟨s, -, hlarge⟩
  have hle := le_abs_self (unit s * x)
  rw [abs_mul, abs_unit, one_mul] at hle
  exact (hlarge.trans hle).not_gt hx

/-- The forms of a finite double. -/
theorem unpack_of_isFinite {x : Float} (hx : Scalar.isFinite x = true) :
    (∃ s, x.toModel.unpack = .zero s ∧ value x = 0) ∨
      ∃ s m e hm, x.toModel.unpack = .finite s m e hm ∧ Canonical m e ∧
        value x = unit s * (m * 2 ^ e) := by
  have hx : x.toModel.unpack.isFinite = true := hx
  unfold value
  cases h : x.toModel.unpack with
  | notANumber => rw [h] at hx; cases hx
  | infinity s => rw [h] at hx; cases hx
  | zero s => exact .inl ⟨s, rfl, rfl⟩
  | finite s m e hm =>
    exact .inr ⟨s, m, e, hm, rfl, (fits_of_unpack h).toCanonical, valueOf_finite s m e hm⟩

/-- There is one form of each number but zero. -/
theorem unpack_eq_of_value {x : Float} (hx : Scalar.isFinite x = true) {s : Sign} {m : ℕ} {e : ℤ}
    (hm : 0 < m) (h : Fits m e) (hv : value x = unit s * (m * 2 ^ e)) :
    x.toModel.unpack = .finite s m e hm := by
  have hvalues : valueOf x.toModel.unpack = valueOf (.finite s m e hm) :=
    hv.trans (valueOf_finite s m e hm).symm
  have hcompare := compare_valueOf (held_unpack x) (v := .finite s m e hm) h hx rfl
  rw [hvalues, compare_eq_iff_eq.2 rfl] at hcompare
  have habs := abs_eq_of_compare hcompare
  cases hu : x.toModel.unpack with
  | finite t n f hn =>
    rw [hu] at habs hvalues
    obtain ⟨-, rfl, rfl⟩ := UnpackedFloat.finite.inj habs
    have hpos := magnitude_pos hm f
    rw [valueOf_finite, valueOf_finite] at hvalues
    have hsign := mul_right_cancel₀ hpos.ne' hvalues
    cases s <;> cases t <;> first | rfl | norm_num [unit] at hsign
  | _ => rw [hu] at habs; cases habs

theorem unit_mul_unit (s t : Sign) : unit (s * t) = unit s * unit t := by
  cases s <;> cases t
  · exact (by norm_num [unit] : unit .positive = unit .negative * unit .negative)
  · exact (mul_one _).symm
  · exact (one_mul _).symm
  · exact (one_mul _).symm

theorem mul_exponent_le {m n : ℕ} {e f : ℤ} (hm : Canonical m e) (hn : Canonical n f)
    (hpos : 0 < m) (hpos' : 0 < n) :
    e + f ≤ Format.binary64.targetExponent (totalExponent (m * n) (e + f)) := by
  rw [targetExponent_eq, totalExponent]
  by_cases hbits : 2 ^ 52 ≤ m * n
  · have := (Nat.le_log2 (by positivity)).2 hbits
    omega
  · have hsmall : ¬ 2 ^ 52 ≤ m := fun h => hbits (h.trans (Nat.le_mul_of_pos_right m hpos'))
    have hsmall' : ¬ 2 ^ 52 ≤ n := fun h => hbits (h.trans (Nat.le_mul_of_pos_left n hpos))
    have := hm.normal.resolve_left hsmall
    have := hn.normal.resolve_left hsmall'
    omega

theorem toModel_sub (x y : Float) : (x - y).toModel =
    Float.Model.pack (.sub .binary64 x.toModel.unpack y.toModel.unpack) := rfl

theorem toModel_div (x y : Float) : (x / y).toModel =
    Float.Model.pack (.div .binary64 x.toModel.unpack y.toModel.unpack) := rfl

theorem unit_neg_mul (s : Sign) (a : ℝ) : unit (-s) * a = -(unit s * a) := by
  cases s
  · exact (by norm_num [unit] : unit .positive * a = -(unit .negative * a))
  · exact (by norm_num [unit] : unit .negative * a = -(unit .positive * a))

/-- A canonical number is nearest to itself. -/
theorem finite_nearest (s : Sign) {m : ℕ} {e : ℤ} (h : Canonical m e) (hm : 0 < m) :
    IsRounded (.finite s m e hm) ∧
      Nearest (unit s * (m * 2 ^ e)) (valueOf (.finite s m e hm)) := by
  rw [valueOf_finite]
  refine ⟨h, Nearest.unit_mul ⟨m, e, by rw [Int.cast_natCast], ?_, h.le_exponent, ?_⟩ s⟩
  · rw [sub_self, abs_zero]
    positivity
  · refine h.normal.symm.imp_right fun hbits => ?_
    rw [abs_of_pos (magnitude_pos hm e), zpow_add₀ two_ne_zero]
    exact mul_le_mul_of_nonneg_right (by exact_mod_cast hbits) (zpow_pos two_pos e).le

/-! ### Sums -/

/-- A signed mantissa at a smaller exponent. -/
theorem apply_decreaseExponent (s : Sign) (m : ℕ) {e t : ℤ} (h : t ≤ e) :
    ((s.apply (decreaseExponent m e t).1 : ℤ) : ℝ) * 2 ^ t = unit s * (m * 2 ^ e) := by
  have ht : (decreaseExponent m e t).2 = t := by
    simp only [decreaseExponent]
    omega
  rw [← decreaseExponent_value m e t, ht, cast_apply, Int.cast_natCast, mul_assoc]

theorem cast_sum (s t : Sign) (m n : ℕ) (e f : ℤ) :
    ((s.apply (decreaseExponent m e (min e f)).1 + t.apply (decreaseExponent n f (min e f)).1 :
      ℤ) : ℝ) * 2 ^ min e f = unit s * (m * 2 ^ e) + unit t * (n * 2 ^ f) := by
  rw [Int.cast_add, add_mul, apply_decreaseExponent s m (min_le_left e f),
    apply_decreaseExponent t n (min_le_right e f)]

theorem cast_difference (s t : Sign) (m n : ℕ) (e f : ℤ) :
    ((s.apply (decreaseExponent m e (min e f)).1 - t.apply (decreaseExponent n f (min e f)).1 :
      ℤ) : ℝ) * 2 ^ min e f = unit s * (m * 2 ^ e) - unit t * (n * 2 ^ f) := by
  rw [Int.cast_sub, sub_mul, apply_decreaseExponent s m (min_le_left e f),
    apply_decreaseExponent t n (min_le_right e f)]

/-! ### Quotients -/

theorem unit_div_unit (s t : Sign) : unit (s / t) = unit s / unit t := by
  cases s <;> cases t
  · exact (by norm_num [unit] : unit .positive = unit .negative / unit .negative)
  · exact (div_one _).symm
  · exact (by norm_num [unit] : unit .negative = unit .positive / unit .negative)
  · exact (div_one _).symm

/-- The remainder of a division says where the quotient lies. -/
theorem locates_div (m : ℕ) {n : ℕ} (hn : 0 < n) :
    Locates (.ofMantissaAndAccuracy (m / n) (accuracyOfFraction (m % n) n)) (m / n : ℝ) := by
  have hpos : (0 : ℝ) < n := Nat.cast_pos.2 hn
  have hsplit : (m / n : ℝ) = (m / n : ℕ) + (m % n : ℕ) / n := by
    have h : (n : ℝ) * (m / n : ℕ) + (m % n : ℕ) = m := by exact_mod_cast Nat.div_add_mod m n
    rw [← h, add_div, mul_div_cancel_left₀ _ hpos.ne']
  have hone : ((m % n : ℕ) / n : ℝ) < 1 :=
    (div_lt_one hpos).2 (Nat.cast_lt.2 (Nat.mod_lt m hn))
  rw [hsplit]
  generalize m / n = q
  generalize m % n = r at hone
  unfold accuracyOfFraction
  split_ifs with hr
  · rw [hr, Nat.cast_zero, zero_div, add_zero]
    exact .ofMantissa q
  · have hr : (0 : ℝ) < r / n := div_pos (Nat.cast_pos.2 (Nat.pos_of_ne_zero hr)) hpos
    obtain hlt | heq | hgt := lt_trichotomy (2 * r) n
    · have hhalf : (r / n : ℝ) < 1 / 2 := by
        rw [div_lt_div_iff₀ hpos two_pos, one_mul, mul_comm]
        exact_mod_cast hlt
      rw [compare_lt_iff_lt.2 hlt]
      exact ⟨lt_add_of_pos_right _ hr, add_lt_add_right hhalf _⟩
    · have hhalf : (r / n : ℝ) = 1 / 2 := by
        rw [div_eq_div_iff hpos.ne' two_ne_zero, one_mul, mul_comm]
        exact_mod_cast heq
      rw [compare_eq_iff_eq.2 heq, hhalf]
      rfl
    · have hhalf : (1 / 2 : ℝ) < r / n := by
        rw [div_lt_div_iff₀ two_pos hpos, one_mul, mul_comm _ (2 : ℝ)]
        exact_mod_cast hgt
      rw [compare_gt_iff_gt.2 hgt]
      exact ⟨add_lt_add_right hhalf _, add_lt_add_right hone _⟩

/-- The quotient is taken at an exponent that leaves it enough bits. -/
theorem le_targetExponent_div {m n k : ℕ} {e f t : ℤ} (hm : 0 < m) (hn : 0 < n)
    (ht : t ≤ Format.binary64.targetExponent (totalExponent m e - totalExponent n f))
    (hk : t + k = e - f) :
    t ≤ Format.binary64.targetExponent (totalExponent ((m <<< k) / n) t) := by
  rw [targetExponent_eq, totalExponent] at ht ⊢
  by_cases hleast : t ≤ -1074
  · omega
  · have hlog : 53 + n.log2 ≤ m.log2 + k := by
      rw [totalExponent] at ht
      omega
    have hbits : 2 ^ 52 ≤ (m <<< k) / n := by
      rw [Nat.le_div_iff_mul_le hn]
      calc 2 ^ 52 * n ≤ 2 ^ 52 * 2 ^ (n.log2 + 1) := Nat.mul_le_mul_left _ Nat.lt_log2_self.le
        _ = 2 ^ (53 + n.log2) := by rw [← pow_add]; congr 1; omega
        _ ≤ 2 ^ (m <<< k).log2 := Nat.pow_le_pow_right two_pos (by rwa [log2_shiftLeft hm.ne'])
        _ ≤ m <<< k := Nat.log2_self_le (by rw [Nat.shiftLeft_eq]; positivity)
    have := (Nat.le_log2 (by omega)).2 hbits
    omega

theorem div_finite (s t : Sign) {m n : ℕ} (e f : ℤ) (hm : 0 < m) (hn : 0 < n) :
    UnpackedFloat.div .binary64 (.finite s m e hm) (.finite t n f hn) =
      roundWithAccuracy .binary64 (s / t) (divCore .binary64 m e n f).1
        (divCore .binary64 m e n f).2.1 (divCore .binary64 m e n f).2.2 := rfl

theorem div_nearest (s t : Sign) {m n : ℕ} (e f : ℤ) (hm : 0 < m) (hn : 0 < n) :
    IsRounded (UnpackedFloat.div .binary64 (.finite s m e hm) (.finite t n f hn)) ∧
      Nearest (unit s * (m * 2 ^ e) / (unit t * (n * 2 ^ f)))
        (valueOf (UnpackedFloat.div .binary64 (.finite s m e hm) (.finite t n f hn))) := by
  obtain ⟨r, hr⟩ : ∃ r, r =
      min (e - f) (Format.binary64.targetExponent (totalExponent m e - totalExponent n f)) :=
    ⟨_, rfl⟩
  obtain ⟨k, hk⟩ := Int.le.dest (hr.trans_le (min_le_left _ _))
  have hcore : divCore .binary64 m e n f =
      ((m <<< k) / n, r, accuracyOfFraction ((m <<< k) % n) n) := by
    have hshift : (e - f - r).toNat = k := by omega
    rw [divCore, ← hr, hshift]
  have hvalue : unit s * (m * 2 ^ e) / (unit t * (n * 2 ^ f)) =
      unit (s / t) * ((m <<< k : ℕ) / n * 2 ^ r) := by
    have hexp : (2 : ℝ) ^ e / 2 ^ f = 2 ^ k * 2 ^ r := by
      rw [← zpow_sub₀ two_ne_zero, ← hk, zpow_add₀ two_ne_zero, zpow_natCast, mul_comm]
    rw [unit_div_unit, Nat.shiftLeft_eq, Nat.cast_mul, Nat.cast_pow, Nat.cast_two,
      mul_div_mul_comm, mul_div_mul_comm, hexp]
    ring
  rw [div_finite, hcore, hvalue]
  exact roundWithAccuracy_nearest (s / t) (locates_div _ hn)
    (le_targetExponent_div hm hn (hr.trans_le (min_le_right _ _)) hk)

section

variable {x y : Float} (hx : Scalar.isFinite x = true) (hy : Scalar.isFinite y = true)

include hx hy

theorem mul_nearest : IsRounded (.mul .binary64 x.toModel.unpack y.toModel.unpack) ∧
    Nearest (value x * value y) (valueOf (.mul .binary64 x.toModel.unpack y.toModel.unpack)) := by
  obtain ⟨s, hs, hv⟩ | ⟨s, m, e, hm, hs, hcan, hv⟩ := unpack_of_isFinite hx <;>
    obtain ⟨t, ht, hw⟩ | ⟨t, n, f, hn, ht, hcan', hw⟩ := unpack_of_isFinite hy <;>
    rw [hs, ht, hv, hw]
  · rw [zero_mul]
    exact ⟨trivial, .zero⟩
  · rw [zero_mul]
    exact ⟨trivial, .zero⟩
  · rw [mul_zero]
    exact ⟨trivial, .zero⟩
  · have hprod : unit s * (m * 2 ^ e) * (unit t * (n * 2 ^ f)) =
        unit (s * t) * ((m * n : ℕ) * 2 ^ (e + f)) := by
      rw [unit_mul_unit, zpow_add₀ two_ne_zero, Nat.cast_mul]
      ring
    rw [hprod]
    exact roundWithAccuracy_nearest (s * t) (.ofMantissa (m * n))
      (mul_exponent_le hcan hcan' hm hn)

theorem rounds_mul (hlt : |value x * value y| < 2 ^ 1023) : Rounds (x * y) (value x * value y) :=
  rounds_of_pack (toModel_mul x y) (mul_nearest hx hy) hlt

theorem rounds_div (hne : value y ≠ 0) (hlt : |value x / value y| < 2 ^ 1023) :
    Rounds (x / y) (value x / value y) := by
  refine rounds_of_pack (toModel_div x y) ?_ hlt
  obtain ⟨s, hs, hv⟩ | ⟨s, m, e, hm, hs, hcan, hv⟩ := unpack_of_isFinite hx <;>
    obtain ⟨t, ht, hw⟩ | ⟨t, n, f, hn, ht, hcan', hw⟩ := unpack_of_isFinite hy
  · exact absurd hw hne
  · rw [hs, ht, hv, zero_div]
    exact ⟨trivial, .zero⟩
  · exact absurd hw hne
  · rw [hs, ht, hv, hw]
    exact div_nearest s t e f hm hn

theorem rounds_add (hlt : |value x + value y| < 2 ^ 1023) : Rounds (x + y) (value x + value y) := by
  refine rounds_of_pack (toModel_add x y) ?_ hlt
  obtain ⟨s, hs, hv⟩ | ⟨s, m, e, hm, hs, hcan, hv⟩ := unpack_of_isFinite hx <;>
    obtain ⟨t, ht, hw⟩ | ⟨t, n, f, hn, ht, hcan', hw⟩ := unpack_of_isFinite hy <;>
    rw [hs, ht, hv, hw]
  · rw [zero_add]
    cases s <;> cases t <;> exact ⟨trivial, .zero⟩
  · rw [zero_add]
    exact finite_nearest t hcan' hn
  · rw [add_zero]
    exact finite_nearest s hcan hm
  · rw [← cast_sum]
    exact normalize_nearest _ _ _

theorem rounds_sub (hlt : |value x - value y| < 2 ^ 1023) : Rounds (x - y) (value x - value y) := by
  refine rounds_of_pack (toModel_sub x y) ?_ hlt
  obtain ⟨s, hs, hv⟩ | ⟨s, m, e, hm, hs, hcan, hv⟩ := unpack_of_isFinite hx <;>
    obtain ⟨t, ht, hw⟩ | ⟨t, n, f, hn, ht, hcan', hw⟩ := unpack_of_isFinite hy <;>
    rw [hs, ht, hv, hw]
  · rw [sub_zero]
    cases s <;> cases t <;> exact ⟨trivial, .zero⟩
  · rw [zero_sub, ← unit_neg_mul]
    exact finite_nearest (-t) hcan' hn
  · rw [sub_zero]
    exact finite_nearest s hcan hm
  · rw [← cast_difference]
    exact normalize_nearest _ _ _

end

end Binary64

end Multirotor
