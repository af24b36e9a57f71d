import Mathlib.Analysis.Real.Pi.Bounds
import Multirotor.Proofs.Space.Rotation
import Multirotor.Space.Attitude

/-!
# Principal angles

A rotation that does not point the nose straight up or down has many Euler angles and exactly one
`Euler.IsPrincipal` triple among them: the pitch within a quarter turn, roll and yaw within a half.
These are the angles that are read off its matrix (`Mat3.isPrincipal_euler`), and reading off the
matrix of principal angles gives them back (`Euler.IsPrincipal.euler_rotation`).  The quaternion of
any angles has their matrix, so it gives back the principal ones as well.
-/

namespace Multirotor

theorem Scalar.arg_cos_sin {x : ℝ} (h : x ∈ Set.Ioc (-Real.pi) Real.pi) :
    Complex.arg ⟨Real.cos x, Real.sin x⟩ = x := by
  have hpoint : (⟨Real.cos x, Real.sin x⟩ : ℂ) =
      Complex.cos x + Complex.sin x * Complex.I := by
    apply Complex.ext <;> simp [Complex.cos_ofReal_re, Complex.sin_ofReal_re]
  rw [hpoint, Complex.arg_cos_add_sin_mul_I h]

/-- The pitch is less than a quarter turn from level, roll and yaw are within half a turn. -/
structure Euler.IsPrincipal (e : Euler ℝ) : Prop where
  roll : e.roll ∈ Set.Ioc (-Real.pi) Real.pi
  pitch : e.pitch ∈ Set.Ioo (-(Real.pi / 2)) (Real.pi / 2)
  yaw : e.yaw ∈ Set.Ioc (-Real.pi) Real.pi

/-- The angles that are read off a matrix which is not vertical are principal. -/
theorem Mat3.isPrincipal_euler {m : Mat3 ℝ} (h : |m.r3.x| < 1) : m.euler.IsPrincipal := by
  obtain ⟨hlow, hhigh⟩ := abs_lt.1 h
  have heuler : m.euler = _ := if_pos h
  rw [heuler]
  exact
    { roll := Complex.arg_mem_Ioc _
      pitch := ⟨neg_lt_neg (Real.arcsin_lt_pi_div_two.2 hhigh),
        neg_lt.1 (Real.neg_pi_div_two_lt_arcsin.2 hlow)⟩
      yaw := Complex.arg_mem_Ioc _ }

namespace Euler

variable {e : Euler ℝ}

theorem abs_down_lt_one (h : Real.cos e.pitch ≠ 0) : |e.rotation.r3.x| < 1 := by
  have hcos : 0 < Real.cos e.pitch ^ 2 := by positivity
  have hone := Real.sin_sq_add_cos_sq e.pitch
  show |-Real.sin e.pitch| < 1
  rw [abs_neg, ← sq_lt_one_iff_abs_lt_one]
  linarith

/-- Principal angles are read back from their matrix. -/
theorem IsPrincipal.euler_rotation (h : e.IsPrincipal) : e.rotation.euler = e := by
  have hcos : 0 < Real.cos e.pitch := Real.cos_pos_of_mem_Ioo h.pitch
  have hpitch : -Real.arcsin (-Real.sin e.pitch) = e.pitch := by
    rw [Real.arcsin_neg, neg_neg, Real.arcsin_sin h.pitch.1.le h.pitch.2.le]
  have heuler : e.rotation.euler = _ := if_pos (abs_down_lt_one hcos.ne')
  rw [heuler]
  simp only [rotation, Scalar.asin_real, Scalar.atan2_real, Scalar.sin_real, Scalar.cos_real,
    hpitch, mul_div_cancel_left₀ _ hcos.ne', mul_div_cancel_right₀ _ hcos.ne',
    Scalar.arg_cos_sin h.roll, Scalar.arg_cos_sin h.yaw]

end Euler

namespace Attitude

/-- Angles and quaternions describe the same rotation in either representation.  Principal angles
come back from the quaternion, and away from the vertical no others do. -/
theorem angles_round_trip (e : Euler ℝ) :
    (Quaternion.ofEuler e).normSq = 1 ∧ (Quaternion.ofEuler e).rotation = e.rotation ∧
      (e.IsPrincipal → (Quaternion.ofEuler e).euler = e) ∧
      (Real.cos e.pitch ≠ 0 → (Quaternion.ofEuler e).euler = e → e.IsPrincipal) ∧
      ∀ kind, (ofAngles kind e).rotation = e.rotation ∧
        (e.IsPrincipal → (ofAngles kind e).angles = e) := by
  have heuler : (Quaternion.ofEuler e).euler = e.rotation.euler := by
    rw [Quaternion.euler_eq, Quaternion.rotation_ofEuler]
  refine ⟨Quaternion.normSq_ofEuler e, Quaternion.rotation_ofEuler e, ?_, ?_, ?_⟩
  · intro h
    rw [heuler, h.euler_rotation]
  · intro hcos hsame
    rw [← hsame, heuler]
    exact Mat3.isPrincipal_euler (Euler.abs_down_lt_one hcos)
  · intro kind
    cases kind with
    | euler => exact ⟨rfl, fun _ => rfl⟩
    | quaternion => exact ⟨Quaternion.rotation_ofEuler e, fun h => heuler.trans h.euler_rotation⟩

/-- Upside down, nose up and heading backward. -/
theorem angles_round_trip_inverted :
    let e : Euler ℝ := ⟨Real.pi, 1, -3⟩
    e.IsPrincipal ∧ (Quaternion.ofEuler e).euler = e := by
  intro e
  have hpi := Real.pi_gt_three
  have he : e.IsPrincipal :=
    { roll := ⟨by linarith, le_refl _⟩
      pitch := ⟨by linarith, by linarith⟩
      yaw := ⟨by linarith, by linarith⟩ }
  exact ⟨he, (angles_round_trip e).2.2.1 he⟩

end Attitude

end Multirotor
