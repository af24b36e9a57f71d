import Multirotor.Body.Motion
import Multirotor.Proofs.Space.Rotation

/-!
# Accelerations in two frames

`Forces.bodyAcceleration` and `Forces.groundAcceleration` are two readings of Newton's law.  Thrust,
weight, wind and external forces are the same vectors in both, and so is the linear part of the
drag.  The quadratic part acts on each axis by itself, in one law on the axes of the body and in the
other on those of the ground, and a rotation does not commute with squares
(`Drag.apply_force`).  The two accelerations differ by this and by nothing else
(`Forces.accelerations_agree_iff`).
-/

namespace Multirotor

/-! ## Drag and rotations -/

/-- The square of each component with the sign of the component. -/
def Vec3.signedSquare (v : Vec3 ℝ) : Vec3 ℝ := v.map fun x => x * |x|

namespace Drag

variable (d : Drag ℝ) (v : Vec3 ℝ)

theorem force_eq_add : d.force v = -(v * d.linear + v.signedSquare * d.quadratic) := by
  ext <;> simp only [force, Vec3.signedSquare, Vec3.map, Vec3.neg_x, Vec3.neg_y, Vec3.neg_z,
    Vec3.add_x, Vec3.add_y, Vec3.add_z, Vec3.scale_x, Vec3.scale_y, Vec3.scale_z,
    Scalar.abs_real] <;> ring

theorem zero_force : (0 : Drag ℝ).force v = 0 := by
  have hlinear : (0 : Drag ℝ).linear = 0 := rfl
  have hquadratic : (0 : Drag ℝ).quadratic = 0 := rfl
  rw [force_eq_add, hlinear, hquadratic]
  ext <;> simp

/-- The drag turned into another frame and the drag of the turned velocity. -/
theorem apply_force (m : Mat3 ℝ) : m.apply (d.force v) =
    d.force (m.apply v) + ((m.apply v).signedSquare - m.apply v.signedSquare) * d.quadratic := by
  rw [force_eq_add, force_eq_add, Mat3.apply_neg, Mat3.apply_add, Mat3.apply_scale,
    Mat3.apply_scale]
  ext <;> simp <;> ring

end Drag

/-! ## Newton's law -/

namespace Forces

variable (f : Forces ℝ) (e : Euler ℝ) (v w : Vec3 ℝ)

/-- The velocity of the body relative to the air, in its own frame. -/
noncomputable def airVelocity : Vec3 ℝ := v - e.rotation.transpose.apply f.wind

theorem apply_airVelocity : e.rotation.apply (f.airVelocity e v) = e.rotation.apply v - f.wind := by
  rw [airVelocity, Mat3.apply_sub, e.isRotation_rotation.apply_transpose_apply]

/-- Without the term for the turning frame the forces alone accelerate the body. -/
theorem bodyAcceleration_add_cross : f.bodyAcceleration e v w + w.cross v =
    (Vec3.vertical (-f.thrust) + e.rotation.transpose.apply (.vertical (f.mass * f.gravity)) +
      f.drag.force (f.airVelocity e v) + e.rotation.transpose.apply f.external) / f.mass := by
  ext <;> exact sub_add_cancel _ _

/-- How far the quadratic drag on the axes of the ground is from that on the axes of the body. -/
noncomputable def dragGap : Vec3 ℝ :=
  (e.rotation.apply (f.airVelocity e v)).signedSquare -
    e.rotation.apply (f.airVelocity e v).signedSquare

theorem apply_bodyAcceleration : e.rotation.apply (f.bodyAcceleration e v w + w.cross v) =
    f.groundAcceleration e (e.rotation.apply v) +
      f.dragGap e v * (f.drag.quadratic / f.mass) := by
  have hback := e.isRotation_rotation.apply_transpose_apply
  have hforces : e.rotation.apply (f.bodyAcceleration e v w + w.cross v) =
      (e.toGround (.vertical (-f.thrust)) + .vertical (f.mass * f.gravity) +
        (f.drag.force (e.rotation.apply v - f.wind) + f.dragGap e v * f.drag.quadratic) +
        f.external) / f.mass := by
    rw [bodyAcceleration_add_cross, Mat3.apply_div, Mat3.apply_add, Mat3.apply_add, Mat3.apply_add,
      hback, hback, Drag.apply_force, ← dragGap, apply_airVelocity]
    rfl
  rw [hforces]
  ext <;> simp [groundAcceleration] <;> ring

/-- Both laws give a body the same acceleration exactly if there is no quadratic drag, or the
rotation happens to take its squares to squares. -/
theorem accelerations_agree_iff (hm : 0 < f.mass) :
    e.rotation.apply (f.bodyAcceleration e v w + w.cross v) =
        f.groundAcceleration e (e.rotation.apply v) +
          f.dragGap e v * (f.drag.quadratic / f.mass) ∧
      (e.rotation.apply (f.bodyAcceleration e v w + w.cross v) =
          f.groundAcceleration e (e.rotation.apply v) ↔
        f.drag.quadratic = 0 ∨ f.dragGap e v = 0) := by
  refine ⟨apply_bodyAcceleration f e v w, ?_⟩
  rw [apply_bodyAcceleration, Vec3.add_eq_left, Vec3.scale_eq_zero_iff, div_eq_zero_iff,
    or_iff_left hm.ne', or_comm]

/-- A tumbling body in the wind, whose drag is linear. -/
theorem accelerations_agree_linear :
    let f : Forces ℝ :=
      { thrust := 10, mass := 2, gravity := 9.81, wind := ⟨1, 2, 3⟩
        drag := { linear := 0.1, quadratic := 0 }, external := ⟨4, 5, 6⟩ }
    let e : Euler ℝ := ⟨0.3, 1, -2⟩
    let v : Vec3 ℝ := ⟨1, -2, 3⟩
    let w : Vec3 ℝ := ⟨3, 2, 1⟩
    0 < f.mass ∧ e.rotation.apply (f.bodyAcceleration e v w + w.cross v) =
      f.groundAcceleration e (e.rotation.apply v) := by
  intro f e v w
  have hm : 0 < f.mass := two_pos
  exact ⟨hm, (accelerations_agree_iff f e v w hm).2.2 (.inl rfl)⟩

/-- A body that flies forward to the northeast: along its own axis the drag is the square of the
speed, along north and east it is the squares of the two components. -/
theorem accelerations_differ_northeast :
    let f : Forces ℝ :=
      { thrust := 0, mass := 1, gravity := 0, wind := 0
        drag := { linear := 0, quadratic := 1 }, external := 0 }
    let e : Euler ℝ := ⟨0, 0, Real.pi / 4⟩
    let v : Vec3 ℝ := ⟨1, 0, 0⟩
    e.rotation.apply (f.bodyAcceleration e v 0 + (0 : Vec3 ℝ).cross v) =
        ⟨-(√2 / 2), -(√2 / 2), 0⟩ ∧
      f.groundAcceleration e (e.rotation.apply v) = ⟨-(1 / 2), -(1 / 2), 0⟩ ∧
      e.rotation.apply (f.bodyAcceleration e v 0 + (0 : Vec3 ℝ).cross v) ≠
        f.groundAcceleration e (e.rotation.apply v) := by
  intro f e v
  have hbody : e.rotation.apply (f.bodyAcceleration e v 0 + (0 : Vec3 ℝ).cross v) =
      ⟨-(√2 / 2), -(√2 / 2), 0⟩ := by
    ext <;> simp [f, e, v, bodyAcceleration, Drag.force, Euler.rotation, Mat3.apply,
      Mat3.transpose, Vec3.dot, Vec3.map]
  have hsquare : √2 / 2 * |√2 / 2| = (1 / 2 : ℝ) := by
    rw [abs_of_nonneg (by positivity), div_mul_div_comm, Real.mul_self_sqrt zero_le_two]
    norm_num
  have hground : f.groundAcceleration e (e.rotation.apply v) = ⟨-(1 / 2), -(1 / 2), 0⟩ := by
    ext <;> simp [f, e, v, groundAcceleration, Drag.force, Euler.toGround, Euler.rotation,
      Mat3.apply, Vec3.dot, Vec3.map] <;> linarith [hsquare]
  refine ⟨hbody, hground, ?_⟩
  rw [hbody, hground]
  intro heq
  have hroot : √2 = 1 := by linarith [congrArg Vec3.x heq]
  have htwo := Real.mul_self_sqrt (zero_le_two (α := ℝ))
  rw [hroot] at htwo
  norm_num at htwo

end Forces

end Multirotor
