import Mathlib.Tactic.ByContra
import Multirotor.Scalar.Binary64

/-!
# Doubles by their unpacked form

Comparisons of doubles, and their sums and products as far as zeros and NaN go, in terms of their
unpacked form.  A double that is not at most zero is positive or NaN, so that a check for zero or
less lets NaN through.  Zero times a finite double is zero, and times any other it is NaN, which no
sum or product loses again.
-/

namespace Multirotor

namespace Binary64

open Float.Model

theorem unpack_zero : (0 : Float).toModel.unpack = .zero .positive := rfl

theorem lt_iff {x y : Float} :
    x < y ↔ x.toModel.unpack.compare y.toModel.unpack = some .lt := by
  change Float.lt x y = true ↔ _
  unfold Float.lt
  rw [decide_eq_true_iff]
  exact beq_iff_eq

theorem le_iff {x y : Float} :
    x ≤ y ↔ (x.toModel.unpack.compare y.toModel.unpack).any (·.isLE) := by
  change Float.le x y = true ↔ _
  unfold Float.le
  rw [decide_eq_true_iff]
  rfl

/-- Whatever is a number equals itself. -/
theorem compare_self {u : UnpackedFloat} (h : u ≠ .notANumber) : u.compare u = some .eq := by
  cases u with
  | notANumber => exact absurd rfl h
  | infinity s => cases s <;> rfl
  | zero s => rfl
  | finite s m e hm =>
    have hself : (compare e e).then (compare m m) = .eq := by simp
    cases s with
    | positive => exact congrArg some hself
    | negative => exact congrArg (fun o => some o.swap) hself

theorem isNaN_iff {x : Float} : Scalar.isNaN x = true ↔ x.toModel.unpack = .notANumber := by
  have h : (x == x) = (x.toModel.unpack.compare x.toModel.unpack == some .eq) := rfl
  rw [Scalar.isNaN, h]
  constructor
  · intro hne
    by_contra hnumber
    rw [compare_self hnumber] at hne
    cases hne
  · intro hnan
    rw [hnan]
    rfl

theorem pos_or_isNaN {x : Float} (h : ¬ x ≤ 0) : 0 < x ∨ Scalar.isNaN x = true := by
  rw [le_iff, unpack_zero] at h
  rw [lt_iff, isNaN_iff, unpack_zero]
  cases hu : x.toModel.unpack with
  | notANumber => exact .inr rfl
  | zero s =>
    rw [hu] at h
    exact absurd rfl h
  | infinity s =>
    cases s with
    | positive => exact .inl rfl
    | negative =>
      rw [hu] at h
      exact absurd rfl h
  | finite s m e hm =>
    cases s with
    | positive => exact .inl rfl
    | negative =>
      rw [hu] at h
      exact absurd rfl h

/-! ## Equality -/

/-- Equal values differ at most in the sign of a zero. -/
theorem abs_eq_of_compare {u v : UnpackedFloat} (h : u.compare v = some .eq) : u.abs = v.abs := by
  cases u with
  | notANumber => cases h
  | infinity s =>
    cases v with
    | infinity t => rfl
    | _ => cases s <;> cases h
  | zero s =>
    cases v with
    | notANumber => cases h
    | zero t => rfl
    | _ t => cases t <;> cases h
  | finite s m e hm =>
    cases v with
    | finite t n f hn =>
      have hsame : (compare e f).then (compare m n) = .eq := by
        cases s <;> cases t
        · exact Ordering.swap_inj.1 (Option.some.inj h)
        · cases h
        · cases h
        · exact Option.some.inj h
      obtain ⟨he, hm⟩ := Ordering.then_eq_eq.1 hsame
      obtain rfl := Std.compare_eq_iff_eq.1 he
      obtain rfl := Std.compare_eq_iff_eq.1 hm
      rfl
    | infinity t => cases s <;> cases t <;> cases h
    | _ => cases s <;> cases h

theorem beq_iff {x y : Float} :
    (x == y) = true ↔ x.toModel.unpack.compare y.toModel.unpack = some .eq := by
  change (x.toModel.unpack.compare y.toModel.unpack == some .eq) = true ↔ _
  exact beq_iff_eq

theorem abs_eq_of_beq {x y : Float} (h : (x == y) = true) : Scalar.abs x = Scalar.abs y :=
  congrArg (fun u => Float.ofModel (pack u)) (abs_eq_of_compare (beq_iff.1 h))

theorem isFinite_eq_of_beq {x y : Float} (h : (x == y) = true) :
    Scalar.isFinite x = Scalar.isFinite y := by
  have habs (u : UnpackedFloat) : u.abs.isFinite = u.isFinite := by cases u <;> rfl
  calc Scalar.isFinite x = x.toModel.unpack.abs.isFinite := (habs _).symm
    _ = y.toModel.unpack.abs.isFinite := by rw [abs_eq_of_compare (beq_iff.1 h)]
    _ = Scalar.isFinite y := habs _

/-- Whatever is finite equals itself. -/
theorem beq_self {x : Float} (h : Scalar.isFinite x = true) : (x == x) = true := by
  refine beq_iff.2 (compare_self fun hnan => ?_)
  have hfinite : x.toModel.unpack.isFinite = true := h
  rw [hnan] at hfinite
  cases hfinite

/-! ## Zeros -/

/-- One of the two zeros. -/
def IsZero (x : Float) : Prop := ∃ s, x.toModel.unpack = .zero s

theorem isZero_iff {x : Float} : IsZero x ↔ (x == 0) = true := by
  rw [beq_iff, unpack_zero]
  constructor
  · rintro ⟨s, hs⟩
    rw [hs]
    rfl
  · intro h
    cases hu : x.toModel.unpack with
    | zero s => exact ⟨s, hu⟩
    | notANumber => rw [hu] at h; cases h
    | infinity s => rw [hu] at h; cases s <;> cases h
    | finite s m e hm => rw [hu] at h; cases s <;> cases h

theorem IsZero.isFinite {x : Float} (h : IsZero x) : Scalar.isFinite x = true := by
  obtain ⟨s, hs⟩ := h
  change x.toModel.unpack.isFinite = true
  rw [hs]
  rfl

theorem not_isFinite_of_isNaN {x : Float} (h : Scalar.isNaN x = true) :
    Scalar.isFinite x = false := by
  change x.toModel.unpack.isFinite = false
  rw [isNaN_iff.1 h]
  rfl

/-! ### Products and sums -/

section Operations

theorem unpack_pack_zero (s : UnpackedFloat.Sign) : (pack (.zero s)).unpack = .zero s := by
  cases s <;> rfl

theorem isZero_of_toModel {x : Float} {s : UnpackedFloat.Sign} (h : x.toModel = pack (.zero s)) :
    IsZero x := ⟨s, by rw [h, unpack_pack_zero]⟩

theorem isNaN_of_toModel {x : Float} (h : x.toModel = pack .notANumber) : Scalar.isNaN x = true :=
  isNaN_iff.2 (by rw [h]; rfl)

theorem toModel_mul (x y : Float) : (x * y).toModel =
    pack (.mul .binary64 x.toModel.unpack y.toModel.unpack) := rfl

theorem toModel_add (x y : Float) : (x + y).toModel =
    pack (.add .binary64 x.toModel.unpack y.toModel.unpack) := rfl

variable {x y : Float}

theorem isZero_mul (hx : Scalar.isFinite x = true) (hy : IsZero y) : IsZero (x * y) := by
  have hx : x.toModel.unpack.isFinite = true := hx
  obtain ⟨t, ht⟩ := hy
  have h := toModel_mul x y
  rw [ht] at h
  cases hu : x.toModel.unpack with
  | notANumber => rw [hu] at hx; cases hx
  | infinity s => rw [hu] at hx; cases hx
  | zero s => exact isZero_of_toModel (h.trans (by rw [hu]; rfl))
  | finite s m e hm => exact isZero_of_toModel (h.trans (by rw [hu]; rfl))

/-- Infinity times zero is not a number. -/
theorem isNaN_mul_zero (hx : Scalar.isFinite x = false) (hy : IsZero y) :
    Scalar.isNaN (x * y) = true := by
  have hx : x.toModel.unpack.isFinite = false := hx
  obtain ⟨t, ht⟩ := hy
  have h := toModel_mul x y
  rw [ht] at h
  cases hu : x.toModel.unpack with
  | notANumber => exact isNaN_of_toModel (h.trans (by rw [hu]; rfl))
  | infinity s => exact isNaN_of_toModel (h.trans (by rw [hu]; rfl))
  | zero s => rw [hu] at hx; cases hx
  | finite s m e hm => rw [hu] at hx; cases hx

theorem isNaN_mul_right (x : Float) (hy : Scalar.isNaN y = true) : Scalar.isNaN (x * y) = true := by
  have h := toModel_mul x y
  rw [isNaN_iff.1 hy] at h
  exact isNaN_of_toModel (h.trans (by cases x.toModel.unpack <;> rfl))

theorem isZero_add (hx : IsZero x) (hy : IsZero y) : IsZero (x + y) := by
  obtain ⟨s, hs⟩ := hx
  obtain ⟨t, ht⟩ := hy
  have h := toModel_add x y
  rw [hs, ht] at h
  cases s <;> cases t <;> exact isZero_of_toModel h

theorem isNaN_add_left (hx : Scalar.isNaN x = true) (y : Float) : Scalar.isNaN (x + y) = true := by
  have h := toModel_add x y
  rw [isNaN_iff.1 hx] at h
  exact isNaN_of_toModel h

theorem isNaN_add_right (x : Float) (hy : Scalar.isNaN y = true) : Scalar.isNaN (x + y) = true := by
  have h := toModel_add x y
  rw [isNaN_iff.1 hy] at h
  exact isNaN_of_toModel (h.trans (by cases x.toModel.unpack <;> rfl))

end Operations

end Binary64

end Multirotor
