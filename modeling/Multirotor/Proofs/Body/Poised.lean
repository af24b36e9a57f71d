import Multirotor.Proofs.Body.Views
import Multirotor.Proofs.Space.Angle

/-!
# A body in balance

A body that stands still and level under a thrust that equals its weight is `Poised`.  None of the
stages of a tick moves it: the forces cancel, neither attitude turns, the ground is not below it,
and its motion is within bounds.  Only the recorded acceleration is written, with zero.
-/

namespace Multirotor

/-! ## Attitudes that do not turn -/

namespace Quaternion

theorem advance_zero {q : Quaternion ℝ} (h : q.normSq = 1) (dt : ℝ) : q.advance 0 dt = q := by
  have hstill : q + q.rateOfTurn 0 * dt = q := by
    simp [rateOfTurn, ofVec3, mul_eq, mul, scale_eq, add_eq]
  rw [advance, hstill, normalize, norm_eq, h, Real.sqrt_one]
  simp

end Quaternion

theorem Euler.advance_zero {e : Euler ℝ} (hroll : e.roll = 0)
    (hyaw : -Real.pi < e.yaw ∧ e.yaw ≤ Real.pi) (dt : ℝ) : e.advance 0 dt = e := by
  obtain ⟨roll, pitch, yaw⟩ := e
  obtain rfl : roll = 0 := hroll
  have hzero : wrapAngle (0 : ℝ) = 0 :=
    wrapAngle_of_mem (neg_lt_zero.2 Real.pi_pos) Real.pi_pos.le
  change (⟨wrapAngle (0 + 0 * dt), pitch + 0 * dt, wrapAngle (yaw + 0 * dt)⟩ : Euler ℝ) = _
  rw [zero_mul, add_zero, add_zero, add_zero, hzero, wrapAngle_of_mem hyaw.1 hyaw.2]

namespace Attitude

theorem advance_zero {a : Attitude ℝ} (h : a.IsProper) (hroll : a.angles.roll = 0)
    (hpitch : a.angles.pitch = 0) (hyaw : -Real.pi < a.angles.yaw ∧ a.angles.yaw ≤ Real.pi)
    (dt : ℝ) : a.advance 0 dt = a := by
  cases a with
  | quaternion q => exact congrArg quaternion (q.advance_zero h dt)
  | euler e =>
    have hrate : e.rateOfTurn? 0 = some 0 := by
      have hpitch : e.pitch = 0 := hpitch
      have hsteep : ¬ (1 : ℝ) < Scalar.epsilon := by norm_num [Scalar.epsilon]
      simp [Euler.rateOfTurn?, hpitch, hsteep]
      rfl
    simp only [advance, hrate]
    exact congrArg euler (e.advance_zero hroll hyaw dt)

end Attitude

/-! ## Forces that cancel -/

theorem Forces.bodyAcceleration_balanced {f : Forces ℝ} (hthrust : f.thrust = f.mass * f.gravity)
    (hwind : f.wind = 0) (hexternal : f.external = 0) {e : Euler ℝ} (hroll : e.roll = 0)
    (hpitch : e.pitch = 0) : f.bodyAcceleration e 0 0 = 0 := by
  ext <;>
    simp [bodyAcceleration, hthrust, hwind, hexternal, Euler.rotation, hroll, hpitch,
      Mat3.transpose, Mat3.apply, Vec3.dot, Drag.force, Vec3.map]

theorem angularAcceleration_zero (inertia : Vec3 ℝ) : angularAcceleration 0 0 inertia = 0 := by
  ext <;> simp [angularAcceleration, Vec3.div, Vec3.zipWith]

/-! ## A tick without rotation -/

namespace RigidBody

section Still

variable {b : RigidBody ℝ} {input : BodyInput ℝ} (hstill : b.angularVelocity = 0)
  (htorque : input.wrench.torque = 0)

include hstill htorque

theorem angularVelocity_integrate_zero : (b.integrate input).angularVelocity = 0 := by
  have hturning :
      angularAcceleration b.angularVelocity input.wrench.torque b.airframe.inertia = 0 := by
    rw [hstill, htorque]
    exact angularAcceleration_zero _
  change b.angularVelocity + angularAcceleration _ _ _ * b.dt = 0
  rw [hturning, hstill]
  ext <;> simp

/-- Neither scheme turns a body that does not rotate. -/
theorem attitude_integrate_zero : (b.integrate input).attitude = b.attitude.advance 0 b.dt := by
  have hrate : b.turning input = 0 := by
    unfold turning
    split
    · exact hstill
    · exact angularVelocity_integrate_zero hstill htorque
  rw [attitude_integrate, hrate]

end Still

/-! ## The stages of a tick -/

/-- The body stands still and level, not below the ground and within its bounds. -/
structure Poised (b : RigidBody ℝ) : Prop where
  velocity : b.velocity = 0
  angularVelocity : b.angularVelocity = 0
  attitude : b.attitude.IsProper
  roll : b.angles.roll = 0
  pitch : b.angles.pitch = 0
  yaw : -Real.pi < b.angles.yaw ∧ b.angles.yaw ≤ Real.pi
  height : b.options.groundContact = true → b.position.z ≤ 0
  bounds : ∀ bounds ∈ b.options.bounds, bounds.isDiverged b.motion = false
  pending : b.pending = none

variable {b : RigidBody ℝ}

namespace Poised

theorem groundVelocity (h : b.Poised) : b.groundVelocity = 0 := by
  rw [RigidBody.groundVelocity, h.velocity, Mat3.apply_zero]

theorem integrate (h : b.Poised) {input : BodyInput ℝ} (hweather : input.weather = none)
    (hwrench : input.wrench = { thrust := b.airframe.mass * b.airframe.gravity, torque := 0 }) :
    b.integrate input = { b with acceleration := 0 } := by
  have hsurface (thrust : ℝ) : b.surfaceForce .standard thrust = 0 := by
    unfold surfaceForce
    cases b.options.groundEffect <;> rfl
  have hacceleration : (b.forces .standard input.wrench.thrust).bodyAcceleration b.angles b.velocity
      b.angularVelocity = 0 := by
    rw [h.velocity, h.angularVelocity, hwrench]
    exact Forces.bodyAcceleration_balanced rfl rfl (hsurface _) h.roll h.pitch
  have hturning :
      angularAcceleration b.angularVelocity input.wrench.torque b.airframe.inertia = 0 := by
    rw [h.angularVelocity, hwrench]
    exact angularAcceleration_zero _
  have hstay (v : Vec3 ℝ) : v + (0 : Vec3 ℝ) * b.dt = v := by ext <;> simp
  have hattitude := Attitude.advance_zero h.attitude h.roll h.pitch h.yaw b.dt
  unfold RigidBody.integrate
  rw [hweather]
  dsimp only [Option.getD_none]
  rw [hacceleration, hturning, hstay, hstay]
  cases b.options.integration <;>
    simp only [h.velocity, h.angularVelocity, Mat3.apply_zero, hstay, hattitude]

theorem held (h : b.Poised) : b.held = b := by
  unfold RigidBody.held holdAboveGround
  dsimp only
  split_ifs with hground hbelow hresting
  · rfl
  · rfl
  · refine absurd ⟨?_, ?_⟩ hresting
    · exact beq_iff_eq.2 (le_antisymm (h.height hground) (not_lt.1 hbelow))
    · rw [h.groundVelocity, Vec3.zero_z]
  · rfl

theorem hit (h : b.Poised) : (b.hit b.pending).1 = b := by
  rw [h.pending]
  rfl

theorem confined (h : b.Poised) : b.confined.1 = b := confined_of_within h.bounds

/-- Nothing that makes a body poised depends on its recorded acceleration. -/
theorem withAcceleration (h : b.Poised) (v : Vec3 ℝ) : Poised { b with acceleration := v } :=
  ⟨h.velocity, h.angularVelocity, h.attitude, h.roll, h.pitch, h.yaw, h.height, h.bounds, h.pending⟩

/-- Under its weight the body stays as it is. -/
theorem run (h : b.Poised) {input : BodyInput ℝ} (hplacement : b.placement input = none)
    (hweather : input.weather = none)
    (hwrench : input.wrench = { thrust := b.airframe.mass * b.airframe.gravity, torque := 0 }) :
    (b.run input).1 = { b with acceleration := 0 } := by
  have hreleased : b.released = b := by rw [released, ← h.pending]
  have hnext := h.withAcceleration 0
  rw [run_of_free hplacement, hreleased, h.integrate hweather hwrench, hnext.held, hnext.hit,
    hnext.confined]

end Poised

end RigidBody

end Multirotor
