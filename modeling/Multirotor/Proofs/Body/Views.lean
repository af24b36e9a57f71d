import Multirotor.Proofs.Body.Stages
import Multirotor.Proofs.Space.Rotation

/-!
# Two views of an attitude

A body that keeps its attitude as a quaternion is asked for its angles by the forces and the
instruments, and for its matrix by the motion in the ground frame.  `Quaternion.rotation_euler` says
that the angles of a unit quaternion have the matrix of the quaternion, also straight up and
straight down.  Since nothing that is done to a body makes its quaternion leave the unit sphere,
both views are one rotation at any time (`RigidBody.views_agree`).
-/

namespace Multirotor

theorem Quaternion.rotation_euler {q : Quaternion ℝ} (h : q.normSq = 1) :
    q.euler.rotation = q.rotation := by
  rw [euler_eq]
  exact (isRotation_rotation h).rotation_euler

/-! ## Unit attitudes -/

namespace Attitude

/-- The attitude is kept as a unit quaternion. -/
def IsUnit (a : Attitude ℝ) : Prop := ∃ q : Quaternion ℝ, a = .quaternion q ∧ q.normSq = 1

variable {a : Attitude ℝ}

theorem isUnit_ofAngles (e : Euler ℝ) : (ofAngles .quaternion e).IsUnit :=
  ⟨_, rfl, Quaternion.normSq_ofEuler e⟩

theorem IsUnit.setAngles (h : a.IsUnit) (e : Euler ℝ) : (a.setAngles e).IsUnit := by
  obtain ⟨q, rfl, -⟩ := h
  exact isUnit_ofAngles e

theorem IsUnit.advance (h : a.IsUnit) (w : Vec3 ℝ) (dt : ℝ) : (a.advance w dt).IsUnit := by
  obtain ⟨q, rfl, hq⟩ := h
  exact ⟨_, rfl, Quaternion.normSq_advance hq w dt⟩

/-! ### Attitudes of either kind -/

/-- A quaternion is a unit one; Euler angles may be any. -/
def IsProper : Attitude ℝ → Prop
  | euler _ => True
  | quaternion q => q.normSq = 1

theorem IsUnit.isProper (h : a.IsUnit) : a.IsProper := by
  obtain ⟨q, rfl, hq⟩ := h
  exact hq

theorem isProper_ofAngles (kind : AttitudeKind) (e : Euler ℝ) : (ofAngles kind e).IsProper := by
  cases kind with
  | euler => trivial
  | quaternion => exact Quaternion.normSq_ofEuler e

theorem IsProper.advance (h : a.IsProper) (w : Vec3 ℝ) (dt : ℝ) : (a.advance w dt).IsProper := by
  cases a with
  | euler e =>
    simp only [Attitude.advance]
    split <;> trivial
  | quaternion q => exact Quaternion.normSq_advance h w dt

theorem IsProper.isRotation (h : a.IsProper) : a.rotation.IsRotation := by
  cases a with
  | euler e => exact Euler.isRotation_rotation e
  | quaternion q => exact Quaternion.isRotation_rotation h

theorem IsProper.rotation_angles (h : a.IsProper) : a.angles.rotation = a.rotation := by
  cases a with
  | euler e => rfl
  | quaternion q => exact Quaternion.rotation_euler h

theorem rotation_setAngles (a : Attitude ℝ) (e : Euler ℝ) :
    (a.setAngles e).rotation = e.rotation := by
  cases a with
  | euler _ => rfl
  | quaternion _ => exact Quaternion.rotation_ofEuler e

end Attitude

/-! ## Bodies with unit attitudes -/

namespace RigidBody

theorem isUnit_after {b : RigidBody ℝ} (h : b.attitude.IsUnit) (ops : List (BodyOperation ℝ)) :
    (b.after ops).attitude.IsUnit :=
  attitude_after (fun _ e h => h.setAngles e) (fun _ w dt h => h.advance w dt) h ops

theorem isProper_after {b : RigidBody ℝ} (h : b.attitude.IsProper) (ops : List (BodyOperation ℝ)) :
    (b.after ops).attitude.IsProper :=
  attitude_after (fun _ e _ => Attitude.isProper_ofAngles _ e) (fun _ w dt h => h.advance w dt) h ops

/-- Whatever is computed from the attitude of the body is computed from one rotation. -/
structure OrientedBy (b : RigidBody ℝ) (m : Mat3 ℝ) : Prop where
  isRotation : m.IsRotation
  /-- The matrix of the angles, which the forces and the instruments use. -/
  angles : b.angles.rotation = m
  /-- The matrix of the attitude, which the motion in the ground frame uses. -/
  rotation : b.attitude.rotation = m
  acceleration (f : Forces ℝ) (v w : Vec3 ℝ) : f.bodyAcceleration b.angles v w =
    (Vec3.vertical (-f.thrust) + m.transpose.apply (Vec3.vertical (f.mass * f.gravity)) +
      f.drag.force (v - m.transpose.apply f.wind) + m.transpose.apply f.external) / f.mass -
        w.cross v
  /-- How the accelerometer sees the weight and the magnetometer the field of the Earth. -/
  toBody (v : Vec3 ℝ) : b.angles.toBody v = m.transpose.apply v
  position (input : BodyInput ℝ) :
    (b.integrate input).position = b.position + m.apply (b.moving input) * b.dt
  groundVelocity : b.groundVelocity = m.apply b.velocity
  setGroundVelocity (v : Vec3 ℝ) : (b.setGroundVelocity v).velocity = m.transpose.apply v
  groundVelocity_setGroundVelocity (v : Vec3 ℝ) : (b.setGroundVelocity v).groundVelocity = v
  downwash (weather : Weather ℝ) (thrust : ℝ) (effect : GroundEffect ℝ) (surface : Surface ℝ) :
    b.options.groundEffect = some effect → weather.surface = some surface →
      b.surfaceForce weather thrust =
        effect.force surface b.position (m.apply (.vertical 1)) thrust b.airframe.rotorRadius

theorem orientedBy_rotation {b : RigidBody ℝ} (h : b.attitude.IsProper) :
    b.OrientedBy b.attitude.rotation where
  isRotation := h.isRotation
  angles := h.rotation_angles
  rotation := rfl
  acceleration f v w := by rw [Forces.bodyAcceleration, angles, h.rotation_angles]
  toBody v := by rw [Euler.toBody, angles, h.rotation_angles]
  position input := b.position_integrate input
  groundVelocity := rfl
  setGroundVelocity v := rfl
  groundVelocity_setGroundVelocity v := h.isRotation.apply_transpose_apply v
  downwash weather thrust effect surface he hs := by simp only [surfaceForce, he, hs]

/-- The angles of a unit quaternion have its matrix, gimbal lock included.  Whatever is done to a
body that keeps such an attitude, forces, instruments and motion go on to use one and the same
rotation. -/
theorem views_agree {q : Quaternion ℝ} (h : q.normSq = 1) :
    q.euler.rotation = q.rotation ∧
      ∀ b : RigidBody ℝ, b.attitude = .quaternion q → ∀ ops : List (BodyOperation ℝ),
        ∃ q' : Quaternion ℝ, q'.normSq = 1 ∧ (b.after ops).attitude = .quaternion q' ∧
          (b.after ops).OrientedBy q'.rotation := by
  refine ⟨Quaternion.rotation_euler h, fun b hb ops => ?_⟩
  have hunit := isUnit_after ⟨q, hb, h⟩ ops
  have horiented := orientedBy_rotation hunit.isProper
  obtain ⟨q', hq', hnorm⟩ := hunit
  refine ⟨q', hnorm, hq', ?_⟩
  rw [hq'] at horiented
  exact horiented

theorem views_agree_noseUp :
    let q : Quaternion ℝ := ⟨0, √(1 / 2), 0, √(1 / 2)⟩
    q.normSq = 1 ∧ q.rotation.r3.x = -1 ∧ q.euler.rotation = q.rotation := by
  intro q
  have hroot : √(1 / 2 : ℝ) * √(1 / 2) = 1 / 2 := Real.mul_self_sqrt (by norm_num)
  have hnorm : q.normSq = 1 := by
    simp only [q, Quaternion.normSq, hroot]
    norm_num
  refine ⟨hnorm, ?_, (views_agree hnorm).1⟩
  simp only [q, Quaternion.rotation, Scalar.two_real, hroot]
  norm_num

end RigidBody

end Multirotor
