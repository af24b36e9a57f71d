import Multirotor.Instrument.Gps
import Multirotor.Proofs.Scalar.Remainder

/-!
# The course over ground in doubles

A course is meant to be at least zero and less than a whole turn.  For a velocity to the west of
north it is the rounded sum of a negative angle and 360, and down to half a unit below 360 what is
nearest is 360: a course just to the west of north is shown as a whole turn.  `Gps.course_lt_iff`
has exactly when.

The angle of a point is computed outside of the library.  What is proved here holds for every
function in its place that keeps within half a turn.
-/

namespace Multirotor

namespace Binary64

open Float.Model UnpackedFloat

/-! ## Angles within half a turn -/

theorem value_pi : value Scalar.pi = 7074237752028440 * 2 ^ (-51 : ℤ) :=
  (value_eq 7074237752028440 (-51) (by decide) rfl).trans (by norm_num)

theorem value_degreesOfRadian : value (180.0 / Scalar.pi) = 8063664102031864 * 2 ^ (-47 : ℤ) :=
  (value_eq 8063664102031864 (-47) (by decide) rfl).trans (by norm_num)

theorem degrees_of_halfTurn {a : Float} (ha : Scalar.isFinite a = true)
    (hle : |value a| ≤ value Scalar.pi) :
    Scalar.isFinite (Scalar.degrees a) = true ∧ |value (Scalar.degrees a)| ≤ 181 := by
  have hprod : |value a * value (180.0 / Scalar.pi)| ≤ 181 := by
    rw [value_pi] at hle
    rw [abs_mul, value_degreesOfRadian]
    calc |value a| * |8063664102031864 * 2 ^ (-47 : ℤ)|
        ≤ 7074237752028440 * 2 ^ (-51 : ℤ) * |8063664102031864 * 2 ^ (-47 : ℤ)| := by gcongr
      _ ≤ 181 := by norm_num
  have hlarge : (181 : ℝ) < 2 ^ 1023 :=
    (by norm_num : (181 : ℝ) < 2 ^ 8).trans (pow_lt_pow_right₀ one_lt_two (by norm_num))
  have hround : Rounds (Scalar.degrees a) (value a * value (180.0 / Scalar.pi)) :=
    rounds_mul ha rfl (hprod.trans_lt hlarge)
  exact ⟨hround.isFinite, by
    exact_mod_cast hround.nearest.abs_le_natCast (n := 181) (by exact_mod_cast hprod) (by norm_num)⟩

/-! ## Within a whole turn -/

theorem value_turn : value 360.0 = 360 :=
  (value_eq (360 * 2 ^ 44) (-44) (by decide) rfl).trans (by norm_num)

theorem abs_value_turn : |value 360.0| = 360 := by
  rw [value_turn]
  norm_num

theorem exponent_turn : (Dyadic.ofFloat 360.0).exponent = -44 := rfl

section Turn

variable {d : Float} (hd : Scalar.isFinite d = true) (hlt : |value d| < 360)

include hd hlt

theorem modulo_turn_of_nonneg (hnonneg : 0 ≤ value d) :
    Scalar.isFinite (Scalar.modulo d 360.0) = true ∧ value (Scalar.modulo d 360.0) = value d :=
  value_modulo_of_nonneg hd rfl (by rw [exponent_turn]; norm_num)
    (by rwa [abs_value_turn]) hnonneg

variable (hneg : value d < 0)

include hneg

theorem rounds_modulo_turn : Rounds (Scalar.modulo d 360.0) (value d + 360) := by
  have hround := rounds_modulo_of_neg hd (y := 360.0) rfl (by rw [exponent_turn]; norm_num)
    (by rwa [abs_value_turn]) hneg
  rwa [abs_value_turn] at hround

theorem abs_value_modulo_turn_sub_le :
    |value (Scalar.modulo d 360.0) - (value d + 360)| ≤ 2 ^ (-45 : ℤ) := by
  have hlow := neg_lt_of_abs_lt hlt
  have hhalf := (rounds_modulo_turn hd hlt hneg).nearest.abs_sub_le_half (k := -44)
    (by rw [abs_of_pos (by linarith)]; norm_num; linarith) (by norm_num)
  refine hhalf.trans_eq ?_
  norm_num

theorem value_modulo_turn_mem_of_neg : value (Scalar.modulo d 360.0) ∈ Set.Icc 0 360 := by
  have hlow := neg_lt_of_abs_lt hlt
  have hround := rounds_modulo_turn hd hlt hneg
  refine ⟨hround.nearest.nonneg (by linarith), ?_⟩
  have habs := hround.nearest.abs_le_natCast (n := 360)
    (by rw [abs_of_pos (by linarith)]; push_cast; linarith) (by norm_num)
  exact_mod_cast (le_abs_self _).trans habs

/-- Half a unit below 360 is as far from 360 as from the number before it, which is odd. -/
theorem value_modulo_turn_of_tie (htie : value d = -2 ^ (-45 : ℤ)) :
    value (Scalar.modulo d 360.0) = 360 := by
  have hplaces : (Dyadic.ofFloat 360.0).exponent < -22 := by rw [exponent_turn]; norm_num
  have hturn : |value d| < |value 360.0| := by rwa [abs_value_turn]
  obtain ⟨hfinite, hvalue⟩ := fmod_of_lt hd rfl hplaces hturn
  have hunpack : (fmod d 360.0).toModel.unpack = .finite .negative (2 ^ 52) (-97) (by norm_num) :=
    unpack_eq_of_value hfinite (by norm_num) ⟨⟨by norm_num, by norm_num, .inl le_rfl⟩, by norm_num⟩
      (by rw [hvalue, htie, unit]; norm_num)
  have hsum : (fmod d 360.0 + Scalar.abs 360.0).toModel.unpack =
      .finite .positive (360 * 2 ^ 44) (-44) (by norm_num) := by
    rw [toModel_add, hunpack]
    rfl
  rw [modulo_of_neg hd rfl hplaces hturn hneg, Binary64.value_eq _ _ _ hsum]
  norm_num

/-- Down to half a unit below 360 what is nearest is 360. -/
theorem value_modulo_turn_eq (hnear : -2 ^ (-45 : ℤ) ≤ value d) :
    value (Scalar.modulo d 360.0) = 360 := by
  obtain htie | hnear := hnear.eq_or_lt
  · exact value_modulo_turn_of_tie hd hlt hneg htie.symm
  have herr := neg_le_of_abs_le (abs_value_modulo_turn_sub_le hd hlt hneg)
  have hgrid := exists_grid_of_le (rounds_modulo_turn hd hlt hneg).isFinite (k := -44)
  obtain ⟨hnonneg, hle⟩ := value_modulo_turn_mem_of_neg hd hlt hneg
  generalize value (Scalar.modulo d 360.0) = r at herr hgrid hnonneg hle
  have hunit : (2 : ℝ) ^ (-44 : ℤ) = 1 / 17592186044416 := by norm_num
  have hhalf : (2 : ℝ) ^ (-45 : ℤ) = 1 / 35184372088832 := by norm_num
  rw [hhalf] at hnear herr
  by_contra hne
  -- the number before 360 is a whole unit below it, and the sum less than half of one
  obtain ⟨j, hj⟩ := hgrid (by rw [abs_of_nonneg hnonneg]; norm_num; linarith)
  rw [hunit] at hj
  have hless : (j : ℝ) < 360 * 17592186044416 := by
    have := hle.lt_of_ne hne
    linarith
  have hbefore : j + 1 ≤ 360 * 17592186044416 := by exact_mod_cast hless
  have hbefore : (j + 1 : ℝ) ≤ 360 * 17592186044416 := by exact_mod_cast hbefore
  linarith

theorem value_modulo_turn_lt (hfar : value d < -2 ^ (-45 : ℤ)) :
    value (Scalar.modulo d 360.0) < 360 := by
  have herr := le_of_abs_le (abs_value_modulo_turn_sub_le hd hlt hneg)
  generalize value (Scalar.modulo d 360.0) = r at herr ⊢
  linarith

omit hneg

theorem isFinite_modulo_turn : Scalar.isFinite (Scalar.modulo d 360.0) = true := by
  obtain hnonneg | hneg := le_or_gt 0 (value d)
  · exact (modulo_turn_of_nonneg hd hlt hnonneg).1
  · exact (rounds_modulo_turn hd hlt hneg).isFinite

theorem value_modulo_turn_mem : value (Scalar.modulo d 360.0) ∈ Set.Icc 0 360 := by
  obtain hnonneg | hneg := le_or_gt 0 (value d)
  · rw [(modulo_turn_of_nonneg hd hlt hnonneg).2]
    exact ⟨hnonneg, (lt_of_abs_lt hlt).le⟩
  · exact value_modulo_turn_mem_of_neg hd hlt hneg

theorem value_modulo_turn_lt_iff : value (Scalar.modulo d 360.0) < 360 ↔
    ¬ (-2 ^ (-45 : ℤ) ≤ value d ∧ value d < 0) := by
  constructor
  · rintro hless ⟨hnear, hneg⟩
    exact hless.ne (value_modulo_turn_eq hd hlt hneg hnear)
  · intro hfar
    obtain hnonneg | hneg := le_or_gt 0 (value d)
    · rw [(modulo_turn_of_nonneg hd hlt hnonneg).2]
      exact lt_of_abs_lt hlt
    · exact value_modulo_turn_lt hd hlt hneg (not_le.1 fun hnear => hfar ⟨hnear, hneg⟩)

end Turn

end Binary64

/-! ## The course -/

open Binary64

/-- The doubles with a function for the angle of a point, given its ordinate and abscissa. -/
abbrev doublesWithAngle (angle : Float → Float → Float) : Scalar Float :=
  { (inferInstance : Scalar Float) with atan2 := angle }

theorem doublesWithAngle_atan2 : doublesWithAngle Float.atan2 = instScalarFloat := rfl

/-- The angle of a point whose coordinates are finite is half a turn at most to either side. -/
def WithinHalfTurn (angle : Float → Float → Float) : Prop :=
  ∀ y x, Scalar.isFinite y = true → Scalar.isFinite x = true →
    Scalar.isFinite (angle y x) = true ∧ |value (angle y x)| ≤ value Scalar.pi

namespace Gps

variable {angle : Float → Float → Float}

/-- The course is a number from zero to a whole turn: the bearing of the velocity if that is not
negative, and otherwise the bearing and a whole turn up to rounding.  It is less than a whole turn
unless the bearing is negative and no further from zero than half a unit of the doubles below 360. -/
theorem course_lt_iff (hangle : WithinHalfTurn angle) (reference : GeoReference Float)
    (position velocity : Vec3 Float) (hnorth : Scalar.isFinite velocity.x = true)
    (heast : Scalar.isFinite velocity.y = true) :
    let course := (@sample Float (doublesWithAngle angle) reference position velocity).course
    let bearing := Binary64.value (Scalar.degrees (angle velocity.y velocity.x))
    0 ≤ course ∧ course ≤ 360.0 ∧ (0 ≤ bearing → Binary64.value course = bearing) ∧
      (bearing < 0 → |Binary64.value course - (bearing + 360)| ≤ 2 ^ (-45 : ℤ)) ∧
      (course < 360.0 ↔ ¬ (-2 ^ (-45 : ℤ) ≤ bearing ∧ bearing < 0)) := by
  intro course bearing
  obtain ⟨hfinite, hhalf⟩ := hangle _ _ heast hnorth
  obtain ⟨hbearing, hbound⟩ := degrees_of_halfTurn hfinite hhalf
  have hturn : |bearing| < 360 := hbound.trans_lt (by norm_num)
  have hcourse : Scalar.isFinite course = true := isFinite_modulo_turn hbearing hturn
  have hmem : Binary64.value course ∈ Set.Icc 0 360 := value_modulo_turn_mem hbearing hturn
  refine ⟨(le_iff_value rfl hcourse).2 hmem.1, ?_, fun hnonneg => ?_, fun hneg => ?_, ?_⟩
  · rw [le_iff_value hcourse rfl, value_turn]
    exact hmem.2
  · exact (modulo_turn_of_nonneg hbearing hturn hnonneg).2
  · exact abs_value_modulo_turn_sub_le hbearing hturn hneg
  · rw [lt_iff_value hcourse rfl, value_turn]
    exact value_modulo_turn_lt_iff hbearing hturn

/-- For a point one ahead and so little aside that the tangent is its angle, this is the angle. -/
def angleAhead (y x : Float) : Float :=
  if (x == 1.0) = true ∧ Scalar.abs y ≤ 1e-8 then y else 0

theorem withinHalfTurn_angleAhead : WithinHalfTurn angleAhead := by
  intro y x hy hx
  unfold angleAhead
  split_ifs with hahead
  · have haside : |Binary64.value y| ≤ Binary64.value 1e-8 := by
      rw [← value_abs]
      exact (le_iff_value ((isFinite_abs y).trans hy) rfl).1 hahead.2
    have hsmall : (1e-8 : Float) ≤ Scalar.pi := by decide +kernel
    exact ⟨hy, haside.trans ((le_iff_value rfl rfl).1 hsmall)⟩
  · have hzero : Binary64.value 0 = 0 := valueOf_zero .positive
    have hpi : (0 : Float) ≤ Scalar.pi := by decide +kernel
    rw [hzero, abs_zero, ← hzero]
    exact ⟨rfl, (le_iff_value rfl rfl).1 hpi⟩

/-- One to the north and next to nothing to the west: the course is not less than a whole turn. -/
theorem not_course_lt_westOfNorth : ¬ (@sample Float (doublesWithAngle angleAhead) .standard 0
    { x := 1, y := -1e-20, z := 0 }).course < 360.0 := by
  decide +kernel

/-- A little more to the west the course is less than a whole turn. -/
theorem course_lt_iff_westOfNorth :
    let shown (west : Float) : Float :=
      (@sample Float (doublesWithAngle angleAhead) .standard 0 { x := 1, y := -west, z := 0 }).course
    (shown 1e-20 ≤ 360.0 ∧ ¬ shown 1e-20 < 360.0) ∧ 0 ≤ shown 1e-9 ∧ shown 1e-9 < 360.0 := by
  intro shown
  have hhalfUnit : Binary64.value (-2.842170943040401e-14) = -2 ^ (-45 : ℤ) := by
    rw [value_neg, Binary64.value_eq (2 ^ 52) (-97) (by decide) rfl]
    norm_num
  constructor
  · obtain ⟨-, hle, -, -, hless⟩ := course_lt_iff withinHalfTurn_angleAhead .standard 0
      { x := 1, y := -1e-20, z := 0 } rfl rfl
    have hfinite : Scalar.isFinite (Scalar.degrees (angleAhead (-1e-20) 1)) = true := by
      decide +kernel
    have hnear : (-2.842170943040401e-14 : Float) ≤ Scalar.degrees (angleAhead (-1e-20) 1) := by
      decide +kernel
    have hwest : Scalar.degrees (angleAhead (-1e-20) 1) < (0 : Float) := by decide +kernel
    refine ⟨hle, fun hlt => hless.1 hlt ⟨?_, ?_⟩⟩
    · rw [← hhalfUnit]
      exact (le_iff_value rfl hfinite).1 hnear
    · exact (lt_iff_value hfinite rfl).1 hwest
  · obtain ⟨hnonneg, -, -, -, hless⟩ := course_lt_iff withinHalfTurn_angleAhead .standard 0
      { x := 1, y := -1e-9, z := 0 } rfl rfl
    have hfinite : Scalar.isFinite (Scalar.degrees (angleAhead (-1e-9) 1)) = true := by
      decide +kernel
    have hfar : Scalar.degrees (angleAhead (-1e-9) 1) < (-2.842170943040401e-14 : Float) := by
      decide +kernel
    refine ⟨hnonneg, hless.2 fun hnear => hnear.1.not_gt ?_⟩
    rw [← hhalfUnit]
    exact (lt_iff_value hfinite rfl).1 hfar

end Gps

end Multirotor
