import Mathlib.Algebra.Order.Field.Power
import Mathlib.Data.Real.Basic
import Mathlib.Tactic.Linarith
import Mathlib.Tactic.NormNum
import Mathlib.Tactic.Positivity
import Mathlib.Tactic.Ring
import Multirotor.Proofs.Scalar.Binary64
import Multirotor.Proofs.Scalar.Exact

/-!
# The numbers that doubles stand for

A finite double stands for `± m · 2 ^ e`, its `Binary64.value`, where the mantissa `m` has at most
53 bits and fewer only at the least exponent: `Binary64.Fits`.  Packing keeps what fits
(`unpack_pack`), and finite doubles compare as their values do (`le_iff_value`, `lt_iff_value`).
-/

namespace Multirotor

namespace Binary64

open Float.Model UnpackedFloat

/-- The real number of an unpacked double; zero for what is not finite. -/
noncomputable def valueOf : UnpackedFloat → ℝ
  | .finite s m e _ => (s.apply m : ℤ) * (2 : ℕ) ^ e
  | _ => 0

/-- The real number that a finite double stands for. -/
noncomputable def value (x : Float) : ℝ := valueOf x.toModel.unpack

/-- A mantissa and an exponent that no other pair of one value has: all 53 bits are used unless the
exponent is least. -/
structure Canonical (m : ℕ) (e : ℤ) : Prop where
  mantissa_lt : m < 2 ^ 53
  le_exponent : -1074 ≤ e
  normal : 2 ^ 52 ≤ m ∨ e = -1074

/-- A mantissa and an exponent as a double holds them. -/
structure Fits (m : ℕ) (e : ℤ) : Prop extends Canonical m e where
  exponent_le : e ≤ 971

theorem toNat_implicit (v : BitVec 52) : (1#1 ++ v).toNat = 2 ^ 52 + v.toNat := by
  rw [BitVec.toNat_append, ← Nat.shiftLeft_add_eq_or_of_lt v.isLt]
  rfl

theorem fits_of_unpack {x : Float} {s : Sign} {m : ℕ} {e : ℤ} {hm : 0 < m}
    (h : x.toModel.unpack = .finite s m e hm) : Fits m e := by
  have hexponent : (@unpackExponent .binary64 x.toModel.toBits.toBitVec).toNat < 2 ^ 11 :=
    BitVec.isLt _
  have hmantissa : (@unpackMantissa .binary64 x.toModel.toBits.toBitVec).toNat < 2 ^ 52 :=
    BitVec.isLt _
  have hbias : (Format.binary64.exponentBias : ℤ) = 1023 := rfl
  have hbits : (Format.binary64.mantissaBitsWithoutImplicit : ℤ) = 52 := rfl
  by_cases htop : @unpackExponent .binary64 x.toModel.toBits.toBitVec = -1#11
  · have h := (if_pos htop).symm.trans h
    by_cases hfraction : @unpackMantissa .binary64 x.toModel.toBits.toBitVec = 0#52
    · cases (if_pos hfraction).symm.trans h
    · cases (if_neg hfraction).symm.trans h
  have h := (if_neg htop).symm.trans h
  by_cases hbottom : @unpackExponent .binary64 x.toModel.toBits.toBitVec = 0#11
  · have h := (if_pos hbottom).symm.trans h
    by_cases hzero : @unpackMantissa .binary64 x.toModel.toBits.toBitVec = 0#52
    · cases (dif_pos hzero).symm.trans h
    obtain ⟨-, rfl, rfl⟩ := UnpackedFloat.finite.inj ((dif_neg hzero).symm.trans h)
    rw [hbottom, hbias]
    exact ⟨⟨by omega, by decide, .inr (by decide)⟩, by decide⟩
  · have hpos := fun h0 => hbottom (BitVec.eq_of_toNat_eq (y := 0#11) h0)
    have hne := fun h0 => htop (BitVec.eq_of_toNat_eq (y := -1#11) h0)
    obtain ⟨-, rfl, rfl⟩ := UnpackedFloat.finite.inj ((if_neg hbottom).symm.trans h)
    rw [toNat_implicit, hbias, hbits]
    change ¬ _ = 0 at hpos
    change ¬ _ = 2047 at hne
    exact ⟨⟨by omega, by omega, .inl (by omega)⟩, by omega⟩

theorem ofBitVec_unpackSign (s : Sign) (e : BitVec 11) (m : BitVec 52) :
    Sign.ofBitVec (unpackSign (packComponents .binary64 s e m)) = s := by
  have h : unpackSign (packComponents .binary64 s e m) = s.toBitVec := by
    change BitVec.extractLsb' 63 1 (s.toBitVec ++ e ++ m : BitVec (1 + 11 + 52)) = s.toBitVec
    rw [BitVec.extractLsb'_append_eq_of_le (by omega),
      BitVec.extractLsb'_append_eq_of_le (by omega)]
    exact BitVec.extractLsb'_eq_self
  rw [h]
  cases s <;> rfl

theorem finite_congr {s t : Sign} {m n : ℕ} {e f : ℤ} {hm : 0 < m} {hn : 0 < n} (hs : s = t)
    (hmn : m = n) (hef : e = f) : finite s m e hm = finite t n f hn := by
  subst hs hmn hef
  rfl

theorem unpack_normal {b m : ℕ} (hb : 0 < b) (hb' : b < 2047) (hl : 2 ^ 52 ≤ m) (hu : m < 2 ^ 53)
    (s : Sign) (hm : 0 < m) :
    UnpackedFloat.unpack .binary64
      (packComponents .binary64 s (BitVec.ofNat 11 b) (BitVec.ofNat 52 m)) =
      .finite s m (b - 1075) hm := by
  have hexponent : (BitVec.ofNat 11 b).toNat = b := by
    rw [BitVec.toNat_ofNat, Nat.mod_eq_of_lt (by omega)]
  have hmantissa : (1#1 ++ BitVec.ofNat 52 m).toNat = m := by
    rw [toNat_implicit, BitVec.toNat_ofNat]
    omega
  have htop : BitVec.ofNat 11 b ≠ -1#11 := fun h => by
    rw [h] at hexponent
    exact hb'.ne hexponent.symm
  have hbottom : BitVec.ofNat 11 b ≠ 0#11 := fun h => by
    rw [h] at hexponent
    exact hb.ne hexponent
  have he : @unpackExponent .binary64
      (packComponents .binary64 s (BitVec.ofNat 11 b) (BitVec.ofNat 52 m)) = BitVec.ofNat 11 b :=
    unpackExponent_packComponents
  have hv : @unpackMantissa .binary64
      (packComponents .binary64 s (BitVec.ofNat 11 b) (BitVec.ofNat 52 m)) = BitVec.ofNat 52 m :=
    unpackMantissa_packComponents
  refine (if_neg fun h => htop (he.symm.trans h)).trans ?_
  refine (if_neg fun h => hbottom (he.symm.trans h)).trans ?_
  refine finite_congr (ofBitVec_unpackSign s _ _) ?_ ?_
  · exact (congrArg (fun v : BitVec 52 => (1#1 ++ v).toNat) hv).trans hmantissa
  · refine (congrArg (fun v : BitVec 11 => (v.toNat : ℤ) - 1075) he).trans ?_
    rw [hexponent]

theorem unpack_subnormal {m : ℕ} (hu : m < 2 ^ 52) (s : Sign) (hm : 0 < m) :
    UnpackedFloat.unpack .binary64 (packComponents .binary64 s 0#11 (BitVec.ofNat 52 m)) =
      .finite s m (-1074) hm := by
  have hmantissa : (BitVec.ofNat 52 m).toNat = m := by
    rw [BitVec.toNat_ofNat, Nat.mod_eq_of_lt hu]
  have htop : 0#11 ≠ -1#11 := by decide
  have hzero : BitVec.ofNat 52 m ≠ 0#52 := fun h => by
    rw [h] at hmantissa
    exact hm.ne hmantissa
  have he : @unpackExponent .binary64
      (packComponents .binary64 s 0#11 (BitVec.ofNat 52 m)) = 0#11 := unpackExponent_packComponents
  have hv : @unpackMantissa .binary64
      (packComponents .binary64 s 0#11 (BitVec.ofNat 52 m)) = BitVec.ofNat 52 m :=
    unpackMantissa_packComponents
  refine (if_neg fun h => htop (he.symm.trans h)).trans ?_
  refine (if_pos he).trans ?_
  refine (dif_neg fun h => hzero (hv.symm.trans h)).trans ?_
  refine finite_congr (ofBitVec_unpackSign s _ _) ?_ ?_
  · exact (congrArg (fun v : BitVec 52 => v.toNat) hv).trans hmantissa
  · exact congrArg (fun v : BitVec 11 => (v.toNat : ℤ) - 1075 + 1) he

/-- A mantissa and an exponent that fit are not changed by packing. -/
theorem unpack_pack_finite {m : ℕ} {e : ℤ} (h : Fits m e) (s : Sign) (hm : 0 < m) :
    (Float.Model.pack (.finite s m e hm)).unpack = .finite s m e hm := by
  obtain ⟨b, rfl⟩ : ∃ b : ℕ, e = b - 1075 := ⟨(e + 1075).toNat, by have := h.le_exponent; omega⟩
  have hhigh := h.exponent_le
  have hlow := h.le_exponent
  have hbiased : ((b : ℤ) - 1075 + (1023 : ℕ) + (52 : ℕ)).toNat = b := by omega
  change UnpackedFloat.unpack .binary64
    (if 2 ^ 11 ≤ ((b : ℤ) - 1075 + (1023 : ℕ) + (52 : ℕ)).toNat + 1 then _
    else if m.log2 + 1 = 53 then packComponents .binary64 s
      (BitVec.ofNat 11 ((b : ℤ) - 1075 + (1023 : ℕ) + (52 : ℕ)).toNat) _ else _) = _
  rw [hbiased, if_neg (by omega)]
  by_cases hn : 2 ^ 52 ≤ m
  · rw [if_pos (by rw [(Nat.log2_eq_iff hm.ne').2 ⟨hn, h.mantissa_lt⟩])]
    exact unpack_normal (by omega) (by omega) hn h.mantissa_lt s hm
  · have hlog : m.log2 < 52 := (Nat.log2_lt hm.ne').2 (not_le.1 hn)
    obtain rfl : b = 1 := by have := h.normal.resolve_left hn; omega
    rw [if_neg (by omega)]
    exact unpack_subnormal (not_le.1 hn) s hm

/-- An unpacked double as packing keeps it. -/
def Held : UnpackedFloat → Prop
  | .finite _ m e _ => Fits m e
  | _ => True

theorem held_unpack (x : Float) : Held x.toModel.unpack := by
  cases h : x.toModel.unpack with
  | finite s m e hm => exact fits_of_unpack h
  | _ => trivial

theorem unpack_pack {u : UnpackedFloat} (h : Held u) : (Float.Model.pack u).unpack = u := by
  cases u with
  | notANumber => rfl
  | infinity s => cases s <;> rfl
  | zero s => exact unpack_pack_zero s
  | finite s m e hm => exact unpack_pack_finite h s hm

/-- What packing keeps is kept with any sign. -/
theorem Held.of_abs_eq {u v : UnpackedFloat} (h : Held u) (habs : v.abs = u.abs) : Held v := by
  cases v with
  | finite s m e hm =>
    cases u with
    | finite t n f hn =>
      obtain ⟨-, rfl, rfl⟩ := UnpackedFloat.finite.inj habs
      exact h
    | _ => cases habs
  | _ => trivial

/-! ## Order -/

/-- One with a sign. -/
def unit : Sign → ℝ
  | .negative => -1
  | .positive => 1

theorem cast_apply (s : Sign) (n : ℤ) : ((s.apply n : ℤ) : ℝ) = unit s * n := by
  cases s <;> simp [unit, Sign.apply]

theorem abs_unit (s : Sign) : |unit s| = 1 := by cases s <;> simp [unit]

theorem valueOf_zero (s : Sign) : valueOf (.zero s) = 0 := rfl

theorem valueOf_finite (s : Sign) (m : ℕ) (e : ℤ) (hm : 0 < m) :
    valueOf (.finite s m e hm) = unit s * (m * 2 ^ e) := by
  change ((s.apply m : ℤ) : ℝ) * (2 : ℕ) ^ e = _
  rw [Nat.cast_ofNat, cast_apply, Int.cast_natCast, mul_assoc]

theorem magnitude_pos {m : ℕ} (hm : 0 < m) (e : ℤ) : (0 : ℝ) < m * 2 ^ e :=
  mul_pos (Nat.cast_pos.2 hm) (zpow_pos two_pos e)

theorem magnitude_lt {m n : ℕ} {e f : ℤ} (hm : Canonical m e) (hn : Canonical n f) (h : e < f) :
    (m * 2 ^ e : ℝ) < n * 2 ^ f := by
  have hbits : (2 ^ 52 : ℝ) ≤ n := by
    have := hn.normal.resolve_right (by have := hm.le_exponent; omega)
    exact_mod_cast this
  have hm : (m : ℝ) < 2 ^ 53 := by exact_mod_cast hm.mantissa_lt
  calc (m * 2 ^ e : ℝ) < 2 ^ 53 * 2 ^ e := by gcongr
    _ = 2 ^ 52 * 2 ^ (e + 1) := by rw [zpow_add_one₀ two_ne_zero]; ring
    _ ≤ n * 2 ^ f := by gcongr <;> [norm_num; omega]

/-- Magnitudes compare by their exponents and then by their mantissas. -/
theorem compare_magnitude {m n : ℕ} {e f : ℤ} (hm : Canonical m e) (hn : Canonical n f) :
    (compare e f).then (compare m n) = compare (m * 2 ^ e : ℝ) (n * 2 ^ f) := by
  obtain hlt | rfl | hgt := lt_trichotomy e f
  · rw [compare_lt_iff_lt.2 hlt, compare_lt_iff_lt.2 (magnitude_lt hm hn hlt)]
    rfl
  · have hpos : (0 : ℝ) < 2 ^ e := zpow_pos two_pos e
    rw [compare_eq_iff_eq.2 rfl, Ordering.eq_then]
    obtain hlt | rfl | hgt := lt_trichotomy m n
    · rw [compare_lt_iff_lt.2 hlt, compare_lt_iff_lt.2]
      exact mul_lt_mul_of_pos_right (Nat.cast_lt.2 hlt) hpos
    · rw [compare_eq_iff_eq.2 rfl, compare_eq_iff_eq.2 rfl]
    · rw [compare_gt_iff_gt.2 hgt, compare_gt_iff_gt.2]
      exact mul_lt_mul_of_pos_right (Nat.cast_lt.2 hgt) hpos
  · rw [compare_gt_iff_gt.2 hgt, compare_gt_iff_gt.2 (magnitude_lt hn hm hgt)]
    rfl

theorem compare_neg (a b : ℝ) : compare (-a) (-b) = (compare a b).swap := by
  obtain hlt | rfl | hgt := lt_trichotomy a b
  · rw [compare_lt_iff_lt.2 hlt, compare_gt_iff_gt.2 (neg_lt_neg hlt)]
    rfl
  · rw [compare_eq_iff_eq.2 rfl, compare_eq_iff_eq.2 rfl]
    rfl
  · rw [compare_gt_iff_gt.2 hgt, compare_lt_iff_lt.2 (neg_lt_neg hgt)]
    rfl

/-- What is finite compares as the numbers that it stands for. -/
theorem compare_valueOf {u v : UnpackedFloat} (hu : Held u) (hv : Held v)
    (fu : u.isFinite = true) (fv : v.isFinite = true) :
    u.compare v = some (compare (valueOf u) (valueOf v)) := by
  cases u with
  | notANumber => cases fu
  | infinity s => cases fu
  | zero s =>
    cases v with
    | notANumber => cases fv
    | infinity t => cases fv
    | zero t => exact congrArg some (compare_eq_iff_eq.2 rfl).symm
    | finite t n f hn =>
      have hpos := magnitude_pos hn f
      rw [valueOf_finite]
      cases t with
      | negative =>
        exact congrArg some (compare_gt_iff_gt.2 (by simpa [unit, valueOf_zero] using hpos)).symm
      | positive =>
        exact congrArg some (compare_lt_iff_lt.2 (by simpa [unit, valueOf_zero] using hpos)).symm
  | finite s m e hm =>
    have hmag := magnitude_pos hm e
    rw [valueOf_finite]
    cases v with
    | notANumber => cases fv
    | infinity t => cases fv
    | zero t =>
      cases s with
      | negative =>
        exact congrArg some (compare_lt_iff_lt.2 (by simpa [unit, valueOf_zero] using hmag)).symm
      | positive =>
        exact congrArg some (compare_gt_iff_gt.2 (by simpa [unit, valueOf_zero] using hmag)).symm
    | finite t n f hn =>
      have hmag' := magnitude_pos hn f
      have hlex := compare_magnitude hu.toCanonical hv.toCanonical
      rw [valueOf_finite]
      cases s <;> cases t
      · refine (congrArg (fun o => some o.swap) hlex).trans ?_
        rw [unit, neg_one_mul, neg_one_mul, compare_neg]
      · exact congrArg some (compare_lt_iff_lt.2 (by rw [unit, unit]; linarith)).symm
      · exact congrArg some (compare_gt_iff_gt.2 (by rw [unit, unit]; linarith)).symm
      · rw [unit, one_mul, one_mul]
        exact congrArg some hlex

section Finite

variable {x y : Float} (hx : Scalar.isFinite x = true) (hy : Scalar.isFinite y = true)

include hx hy

theorem lt_iff_value : x < y ↔ value x < value y := by
  rw [lt_iff, compare_valueOf (held_unpack x) (held_unpack y) hx hy, Option.some_inj,
    compare_lt_iff_lt]
  rfl

theorem le_iff_value : x ≤ y ↔ value x ≤ value y := by
  rw [le_iff, compare_valueOf (held_unpack x) (held_unpack y) hx hy, Option.any_some,
    Ordering.isLE_iff_ne_gt]
  exact (not_congr compare_gt_iff_gt).trans not_lt

end Finite

end Binary64
end Multirotor
