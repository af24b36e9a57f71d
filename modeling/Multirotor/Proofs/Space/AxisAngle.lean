import Mathlib.Analysis.SpecialFunctions.Trigonometric.Arctan
import Multirotor.Proofs.Space.Rotation

/-!
# Turns about an axis

`Mat3.turnAbout` is the rotation by an angle about any unit vector (`Mat3.apply_turnAbout`), and
`Quaternion.ofAxisAngle` its quaternion.  Turns about one axis add up.  A step of a quaternion under
an angular velocity `w` is such a turn: about the axis of `w`, by twice the angle whose tangent is
half of the way `w.norm * dt` (`Quaternion.step_eq_ofAxisAngle`).
-/

namespace Multirotor

/-! ## Matrices -/

namespace Mat3

/-- The rotation by `angle` about a unit vector. -/
def turnAbout {α : Type} [Scalar α] (axis : Vec3 α) (angle : α) : Mat3 α :=
  let s := Scalar.sin angle
  let c := Scalar.cos angle
  let v := 1 - c
  ⟨⟨axis.x * axis.x * v + c, axis.x * axis.y * v - axis.z * s, axis.x * axis.z * v + axis.y * s⟩,
   ⟨axis.x * axis.y * v + axis.z * s, axis.y * axis.y * v + c, axis.y * axis.z * v - axis.x * s⟩,
   ⟨axis.x * axis.z * v - axis.y * s, axis.y * axis.z * v + axis.x * s, axis.z * axis.z * v + c⟩⟩

/-- What is along the axis stays, and what is across it turns. -/
theorem apply_turnAbout (axis v : Vec3 ℝ) (angle : ℝ) : (turnAbout axis angle).apply v =
    v * Real.cos angle + axis.cross v * Real.sin angle +
      axis * (axis.dot v * (1 - Real.cos angle)) := by
  ext <;> simp [turnAbout, apply, Vec3.dot] <;> ring

/-- Any number of full turns. -/
theorem turnAbout_full (axis : Vec3 ℝ) (n : ℕ) :
    turnAbout axis (n * (2 * Real.pi)) = diagonal (.all 1) := by
  have hsin : Real.sin (n * (2 * Real.pi)) = 0 := by
    have hturn := Real.sin_add_nat_mul_two_pi 0 n
    rwa [zero_add, Real.sin_zero] at hturn
  ext <;> simp [turnAbout, diagonal, Vec3.all, hsin, Real.cos_nat_mul_two_pi]

end Mat3

/-! ## Quaternions -/

namespace Quaternion

/-- The quaternion of a turn by `angle` about a unit vector. -/
def ofAxisAngle {α : Type} [Scalar α] (axis : Vec3 α) (angle : α) : Quaternion α :=
  let s := Scalar.sin (angle * 0.5)
  let c := Scalar.cos (angle * 0.5)
  ⟨axis.x * s, axis.y * s, axis.z * s, c⟩

variable {axis : Vec3 ℝ}

theorem ofAxisAngle_zero (axis : Vec3 ℝ) : ofAxisAngle axis 0 = ⟨0, 0, 0, 1⟩ := by
  simp [ofAxisAngle]

theorem mul_ofAxisAngle_zero (q : Quaternion ℝ) (axis : Vec3 ℝ) : q * ofAxisAngle axis 0 = q := by
  rw [ofAxisAngle_zero]
  ext <;> simp [mul_eq, mul]

section Unit

variable (h : axis.dot axis = 1)

include h

/-- Turns about one axis add up. -/
theorem ofAxisAngle_add (x y : ℝ) :
    ofAxisAngle axis (x + y) = ofAxisAngle axis x * ofAxisAngle axis y := by
  simp only [Vec3.dot] at h
  ext <;> simp only [ofAxisAngle, mul_eq, mul, Scalar.half_real, Scalar.sin_real, Scalar.cos_real,
    add_mul, Real.sin_add, Real.cos_add]
  · ring
  · ring
  · ring
  · linear_combination Real.sin (x * (1 / 2)) * Real.sin (y * (1 / 2)) * h

theorem rotation_ofAxisAngle (angle : ℝ) :
    (ofAxisAngle axis angle).rotation = Mat3.turnAbout axis angle := by
  obtain ⟨half, rfl⟩ : ∃ half, angle = 2 * half := ⟨angle / 2, by ring⟩
  have hhalf : 2 * half * (1 / 2) = half := by ring
  have hone := Real.sin_sq_add_cos_sq half
  have hcos : Real.cos (2 * half) = 1 - 2 * Real.sin half ^ 2 := by
    rw [Real.cos_two_mul']
    linarith
  simp only [Vec3.dot] at h
  ext <;> simp only [ofAxisAngle, rotation, Mat3.turnAbout, Scalar.half_real, Scalar.two_real,
    Scalar.sin_real, Scalar.cos_real, hhalf, Real.sin_two_mul, hcos]
  · linear_combination hone - Real.sin half ^ 2 * h
  · ring
  · ring
  · ring
  · linear_combination hone - Real.sin half ^ 2 * h
  · ring
  · ring
  · ring
  · linear_combination hone - Real.sin half ^ 2 * h

end Unit

/-! ## Steps -/

/-- A step under an angular velocity is a turn about its axis. -/
theorem step_eq_ofAxisAngle {w : Vec3 ℝ} (hw : 0 < w.norm) (dt : ℝ) :
    step w dt = ofAxisAngle (w / w.norm) (2 * Real.arctan (w.norm * dt / 2)) := by
  have hlength : (⟨w.x * (dt * 0.5), w.y * (dt * 0.5), w.z * (dt * 0.5), 1⟩ : Quaternion ℝ).norm =
      √(1 + (w.norm * dt / 2) ^ 2) := by
    rw [norm_eq, normSq_unscaled]
  have hroot : 0 < √(1 + (w.norm * dt / 2) ^ 2) := Real.sqrt_pos.2 (by positivity)
  have hhalf : 2 * Real.arctan (w.norm * dt / 2) * (1 / 2) = Real.arctan (w.norm * dt / 2) := by
    ring
  simp only [step, normalize, hlength]
  simp only [ofAxisAngle, Scalar.half_real, Scalar.sin_real, Scalar.cos_real, hhalf,
    Real.sin_arctan, Real.cos_arctan]
  generalize √(1 + (w.norm * dt / 2) ^ 2) = root at hroot
  ext <;> simp only [Vec3.div_x, Vec3.div_y, Vec3.div_z] <;> field_simp

end Quaternion

end Multirotor
