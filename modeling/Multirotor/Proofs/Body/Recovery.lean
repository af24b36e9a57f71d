import Multirotor.Proofs.Aircraft.Reset
import Multirotor.Proofs.Scalar.Binary64

/-!
# Recovery from a diverged motion

Bounds that watch every axis put a diverged motion back to where the body started.  Position and
angular velocity are put back as they are.  The velocity is put back in the ground frame, but the
body keeps it in its own: it passes through the matrix of the attitude and back.  The attitude is
turned by the same rates that diverged and is not part of the motion, so that the velocity comes
back exactly when all entries of that matrix are finite (`isBack_run_iff`); otherwise zero times an
infinite or undefined entry leaves NaN behind.
-/

namespace Multirotor

open Binary64

/-! ## Vectors of doubles -/

namespace Vec3

/-- Every component is finite. -/
structure IsFinite (v : Vec3 Float) : Prop where
  x : Scalar.isFinite v.x = true
  y : Scalar.isFinite v.y = true
  z : Scalar.isFinite v.z = true

/-- Every component is a zero, of either sign. -/
structure IsZero (v : Vec3 Float) : Prop where
  x : Binary64.IsZero v.x
  y : Binary64.IsZero v.y
  z : Binary64.IsZero v.z

/-- Every component is finite and equal to where it started. -/
structure IsBack (v start : Vec3 Float) : Prop where
  isFinite : v.IsFinite
  x : (v.x == start.x) = true
  y : (v.y == start.y) = true
  z : (v.z == start.z) = true

variable {u v : Vec3 Float}

theorem isZero_iff_isBack : v.IsZero ↔ v.IsBack 0 :=
  ⟨fun h => ⟨⟨h.x.isFinite, h.y.isFinite, h.z.isFinite⟩, isZero_iff.1 h.x, isZero_iff.1 h.y,
      isZero_iff.1 h.z⟩,
    fun h => ⟨isZero_iff.2 h.x, isZero_iff.2 h.y, isZero_iff.2 h.z⟩⟩

theorem isZero_dot (hu : u.IsFinite) (hv : v.IsZero) : Binary64.IsZero (u.dot v) :=
  isZero_add (isZero_add (isZero_mul hu.x hv.x) (isZero_mul hu.y hv.y)) (isZero_mul hu.z hv.z)

theorem isNaN_dot_of_not_isFinite (hu : ¬ u.IsFinite) (hv : v.IsZero) :
    Scalar.isNaN (u.dot v) = true := by
  cases hx : Scalar.isFinite u.x with
  | false => exact isNaN_add_left (isNaN_add_left (isNaN_mul_zero hx hv.x) _) _
  | true =>
    cases hy : Scalar.isFinite u.y with
    | false => exact isNaN_add_left (isNaN_add_right _ (isNaN_mul_zero hy hv.y)) _
    | true =>
      cases hz : Scalar.isFinite u.z with
      | false => exact isNaN_add_right _ (isNaN_mul_zero hz hv.z)
      | true => exact absurd ⟨hx, hy, hz⟩ hu

theorem isNaN_dot_of_isNaN (u : Vec3 Float)
    (hv : Scalar.isNaN v.x = true ∨ Scalar.isNaN v.y = true ∨ Scalar.isNaN v.z = true) :
    Scalar.isNaN (u.dot v) = true := by
  rcases hv with hx | hy | hz
  · exact isNaN_add_left (isNaN_add_left (isNaN_mul_right _ hx) _) _
  · exact isNaN_add_left (isNaN_add_right _ (isNaN_mul_right _ hy)) _
  · exact isNaN_add_right _ (isNaN_mul_right _ hz)

end Vec3

namespace Mat3

/-- Every entry is finite. -/
structure IsFinite (m : Mat3 Float) : Prop where
  r1 : m.r1.IsFinite
  r2 : m.r2.IsFinite
  r3 : m.r3.IsFinite

variable {m : Mat3 Float} {v : Vec3 Float}

theorem IsFinite.transpose (h : m.IsFinite) : m.transpose.IsFinite :=
  ⟨⟨h.r1.x, h.r2.x, h.r3.x⟩, ⟨h.r1.y, h.r2.y, h.r3.y⟩, ⟨h.r1.z, h.r2.z, h.r3.z⟩⟩

theorem isFinite_transpose : m.transpose.IsFinite ↔ m.IsFinite :=
  ⟨fun h => h.transpose, fun h => h.transpose⟩

theorem IsFinite.isZero_apply (h : m.IsFinite) (hv : v.IsZero) : (m.apply v).IsZero :=
  ⟨Vec3.isZero_dot h.r1 hv, Vec3.isZero_dot h.r2 hv, Vec3.isZero_dot h.r3 hv⟩

/-- Zero is taken to the frame of the body and back to zero by a finite matrix and by no other. -/
theorem isZero_apply_transpose_apply (hv : v.IsZero) :
    (m.apply (m.transpose.apply v)).IsZero ↔ m.IsFinite := by
  refine ⟨fun h => ?_, fun h => h.isZero_apply (h.transpose.isZero_apply hv)⟩
  by_contra hm
  have hnan : Scalar.isNaN (m.transpose.apply v).x = true ∨
      Scalar.isNaN (m.transpose.apply v).y = true ∨
      Scalar.isNaN (m.transpose.apply v).z = true := by
    by_contra hnone
    push Not at hnone
    obtain ⟨hx, hy, hz⟩ := hnone
    have hrow {r : Vec3 Float} (hr : ¬ Scalar.isNaN (r.dot v) = true) : r.IsFinite :=
      Classical.not_not.1 fun h => hr (Vec3.isNaN_dot_of_not_isFinite h hv)
    exact hm (isFinite_transpose.1 ⟨hrow hx, hrow hy, hrow hz⟩)
  have hlost := not_isFinite_of_isNaN (Vec3.isNaN_dot_of_isNaN m.r1 hnan)
  exact Bool.false_ne_true (hlost.symm.trans h.x.isFinite)

end Mat3

/-! ## Bounds that watch every axis -/

namespace Bounds

/-- Every axis is flagged. -/
structure WatchesAll {α : Type} (b : Bounds α) : Prop where
  position : b.position = .all true
  velocity : b.velocity = .all true
  angularVelocity : b.angularVelocity = .all true

variable {limit : Float} {value start : Vec3 Float}

theorem isFinite_of_not_exceeds (h : exceeds limit start = false) : start.IsFinite := by
  simp only [exceeds, Vec3.toList, List.any_cons, List.any_nil, Bool.or_false,
    Bool.or_eq_false_iff, Bool.not_eq_false'] at h
  exact ⟨h.1.1, h.2.1.1, h.2.2.1⟩

theorem exceeds_congr (hx : (value.x == start.x) = true) (hy : (value.y == start.y) = true)
    (hz : (value.z == start.z) = true) : exceeds limit value = exceeds limit start := by
  simp only [exceeds, Vec3.toList, List.any_cons, List.any_nil, isFinite_eq_of_beq hx,
    isFinite_eq_of_beq hy, isFinite_eq_of_beq hz, abs_eq_of_beq hx, abs_eq_of_beq hy,
    abs_eq_of_beq hz]

/-- A value beyond the limit differs from a start within it. -/
theorem anyMoved_of_exceeds (hvalue : exceeds limit value = true)
    (hstart : exceeds limit start = false) : anyMoved (.all true) value start = true := by
  by_contra hstill
  have hstill : (!(value.x == start.x) || !(value.y == start.y) || !(value.z == start.z)) = false :=
    Bool.eq_false_iff.2 hstill
  simp only [Bool.or_eq_false_iff, Bool.not_eq_false'] at hstill
  obtain ⟨⟨hx, hy⟩, hz⟩ := hstill
  rw [exceeds_congr hx hy hz, hstart] at hvalue
  cases hvalue

/-- Where every axis is flagged, all of the value is put back. -/
theorem isBack_putBack (value : Vec3 Float) (h : start.IsFinite) :
    (putBack (.all true) value start).IsBack start := by
  have axis (x : Float) {s : Float} (hs : Scalar.isFinite s = true) :
      ((if moved true x s then s else x) == s) = true := by
    split_ifs with hmoved
    · exact beq_self hs
    · have hsame : (!(x == s)) = false := Bool.eq_false_iff.2 hmoved
      rwa [Bool.not_eq_false'] at hsame
  have hx := axis value.x h.x
  have hy := axis value.y h.y
  have hz := axis value.z h.z
  exact
    { isFinite := ⟨(isFinite_eq_of_beq hx).trans h.x, (isFinite_eq_of_beq hy).trans h.y,
        (isFinite_eq_of_beq hz).trans h.z⟩
      x := hx
      y := hy
      z := hz }

end Bounds

/-! ## A tick -/

namespace RigidBody

/-- The body after a tick, before its bounds are looked at. -/
def unconfined {α : Type} [Scalar α] (b : RigidBody α) (input : BodyInput α) : RigidBody α :=
  (((b.released.integrate input).held).hit b.pending).1

section Frame

variable {α : Type} [Scalar α] (b : RigidBody α) (input : BodyInput α)

theorem reset_unconfined : (b.unconfined input).reset = b.reset := by
  rw [unconfined, reset_hit, reset_held, reset_integrate]
  rfl

theorem start_unconfined : (b.unconfined input).start = b.start :=
  start_eq_of_reset (b.reset_unconfined input)

theorem options_unconfined : (b.unconfined input).options = b.options :=
  options_eq_of_reset (b.reset_unconfined input)

variable {b input} in
theorem run_eq_confined (hfree : b.placement input = none) :
    (b.run input).1 = (b.unconfined input).confined.1 :=
  run_of_free hfree

variable {b input} in
theorem run_eq_confine {bounds : Bounds α} (hbounds : b.options.bounds = some bounds)
    (hfree : b.placement input = none) :
    (b.run input).1 = ((b.unconfined input).confine bounds).1 := by
  rw [run_eq_confined hfree]
  simp only [confined, options_unconfined, hbounds]

end Frame

variable {b : RigidBody Float} {bounds : Bounds Float} {input : BodyInput Float}

/-- Bounds that watch every axis put all of a diverged motion back. -/
theorem confine_of_diverged (hall : bounds.WatchesAll) (hstart : bounds.isDiverged b.start = false)
    (hdiverged : bounds.isDiverged b.motion = true) :
    (b.confine bounds).1 = b.setMotion
      { position := Bounds.putBack (.all true) b.position b.start.position
        velocity := Bounds.putBack (.all true) b.groundVelocity b.start.velocity
        angularVelocity :=
          Bounds.putBack (.all true) b.angularVelocity b.start.angularVelocity } := by
  have hmoved : (bounds.restore b.motion b.start).2 = true := by
    simp only [Bounds.isDiverged, Bool.or_eq_false_iff, Bool.or_eq_true] at hstart hdiverged
    obtain ⟨⟨hp, hv⟩, hw⟩ := hstart
    simp only [Bounds.restore, hall.position, hall.velocity, hall.angularVelocity, Bool.or_eq_true]
    rcases hdiverged with (h | h) | h
    · exact .inl (.inl (Bounds.anyMoved_of_exceeds h hp))
    · exact .inl (.inr (Bounds.anyMoved_of_exceeds h hv))
    · exact .inr (Bounds.anyMoved_of_exceeds h hw)
  have hconfine : bounds.confine b.motion b.start =
      ((bounds.restore b.motion b.start).1, true) := by
    rw [Bounds.confine, if_pos hdiverged, ← hmoved]
  simp only [confine, hconfine, Bounds.restore, hall.position, hall.velocity, hall.angularVelocity]
  rfl

theorem isBack_confine_iff (hall : bounds.WatchesAll) (hrest : b.start.velocity = 0)
    (hstart : bounds.isDiverged b.start = false) (hdiverged : bounds.isDiverged b.motion = true) :
    (b.confine bounds).1.position.IsBack b.start.position ∧
      (b.confine bounds).1.angularVelocity.IsBack b.start.angularVelocity ∧
      ((b.confine bounds).1.groundVelocity.IsBack b.start.velocity ↔
        b.attitude.rotation.IsFinite) := by
  rw [confine_of_diverged hall hstart hdiverged]
  simp only [Bounds.isDiverged, Bool.or_eq_false_iff] at hstart
  obtain ⟨⟨hp, hv⟩, hw⟩ := hstart
  have hback := Bounds.isBack_putBack b.groundVelocity (Bounds.isFinite_of_not_exceeds hv)
  rw [hrest] at hback ⊢
  exact ⟨Bounds.isBack_putBack _ (Bounds.isFinite_of_not_exceeds hp),
    Bounds.isBack_putBack _ (Bounds.isFinite_of_not_exceeds hw),
    Vec3.isZero_iff_isBack.symm.trans
      (Mat3.isZero_apply_transpose_apply (Vec3.isZero_iff_isBack.2 hback))⟩

/-- After a tick that found the motion diverged, position and angular velocity are back where the
body started, and so is the velocity in the ground frame exactly when the matrix of the attitude is
finite. -/
theorem isBack_run_iff (hbounds : b.options.bounds = some bounds) (hall : bounds.WatchesAll)
    (hrest : b.start.velocity = 0) (hstart : bounds.isDiverged b.start = false)
    (hfree : b.placement input = none)
    (hdiverged : bounds.isDiverged (b.unconfined input).motion = true) :
    (b.run input).1.position.IsBack b.start.position ∧
      (b.run input).1.angularVelocity.IsBack b.start.angularVelocity ∧
      ((b.run input).1.groundVelocity.IsBack b.start.velocity ↔
        (b.run input).1.attitude.rotation.IsFinite) := by
  have hattitude : (b.run input).1.attitude = (b.unconfined input).attitude := by
    rw [run_of_free hfree, attitude_confined]
    rfl
  rw [hattitude, run_eq_confine hbounds hfree]
  rw [← b.start_unconfined input] at hrest hstart ⊢
  exact isBack_confine_iff hall hrest hstart hdiverged

/-! ### A tick that recovers and one that does not -/

/-- Wide limits, and every axis is flagged. -/
def watchful : Bounds Float :=
  { Bounds.standard with
    position := .all true
    velocity := .all true
    angularVelocity := .all true }

/-- A level body above the ground, with its attitude as a quaternion. -/
def watched : RigidBody Float :=
  { airframe :=
      { mass := 1, inertia := ⟨0.01, 0.01, 0.02⟩, gravity := 9.81, drag := 0, rotorRadius := 0.1 }
    options :=
      { BodyOptions.none with integration := .semiImplicitEuler, bounds := some watchful }
    dt := 0.001
    position := ⟨1, 2, -3⟩
    velocity := 0
    angularVelocity := 0
    acceleration := 0
    attitude := .quaternion ⟨0, 0, 0, 1⟩
    start := { position := ⟨1, 2, -3⟩, velocity := 0, angularVelocity := 0 }
    startAngles := 0
    pending := none }

/-- Nothing but a torque. -/
def twisted (torque : Vec3 Float) : BodyInput Float :=
  { wrench := { thrust := 0, torque }, manual := none, weather := none }

theorem watchesAll_watchful : watchful.WatchesAll := ⟨rfl, rfl, rfl⟩

/-- A body that was lost is put back at its start. -/
theorem isBack_run_lost :
    let lost := { watched with position := ⟨nan, infinity, 0⟩ }
    watchful.isDiverged (lost.unconfined (twisted 0)).motion = true ∧
      (lost.run (twisted 0)).1.position.IsBack ⟨1, 2, -3⟩ ∧
      (lost.run (twisted 0)).1.groundVelocity.IsBack 0 := by
  intro lost
  have hdiverged : watchful.isDiverged (lost.unconfined (twisted 0)).motion = true := by
    decide +kernel
  have hfinite : (lost.run (twisted 0)).1.attitude.rotation.IsFinite :=
    ⟨⟨by decide +kernel, by decide +kernel, by decide +kernel⟩,
      ⟨by decide +kernel, by decide +kernel, by decide +kernel⟩,
      ⟨by decide +kernel, by decide +kernel, by decide +kernel⟩⟩
  obtain ⟨hposition, -, hvelocity⟩ := @isBack_run_iff lost watchful (twisted 0) rfl
    watchesAll_watchful rfl (by decide +kernel) rfl hdiverged
  exact ⟨hdiverged, hposition, hvelocity.2 hfinite⟩

/-- A great torque makes the angular velocity infinite within the tick.  It is put back, but the
attitude was turned by it and leaves no velocity that is a number. -/
theorem not_isBack_run_twisted :
    let torque : Vec3 Float := ⟨1e308, 0, 0⟩
    watched.placement (twisted torque) = none ∧ watchful.isDiverged watched.start = false ∧
      watchful.isDiverged (watched.unconfined (twisted torque)).motion = true ∧
      ¬ (watched.run (twisted torque)).1.groundVelocity.IsBack watched.start.velocity := by
  intro torque
  have hstart : watchful.isDiverged watched.start = false := by decide +kernel
  have hdiverged : watchful.isDiverged (watched.unconfined (twisted torque)).motion = true := by
    have hw : Bounds.exceeds watchful.angularVelocityLimit
        (watched.unconfined (twisted torque)).motion.angularVelocity = true := by
      decide +kernel
    rw [Bounds.isDiverged, hw, Bool.or_true]
  refine ⟨rfl, hstart, hdiverged, fun hback => ?_⟩
  have hcorner : Scalar.isFinite (watched.unconfined (twisted torque)).attitude.rotation.r1.x =
      false := by
    decide +kernel
  have hstart' := watched.start_unconfined (twisted torque)
  rw [run_eq_confine rfl rfl, ← hstart'] at hback
  rw [← hstart'] at hstart
  have hrest : (watched.unconfined (twisted torque)).start.velocity = 0 := by rw [hstart']; rfl
  have hfinite := (isBack_confine_iff watchesAll_watchful hrest hstart hdiverged).2.2.1 hback
  exact Bool.false_ne_true (hcorner.symm.trans hfinite.r1.x)

end RigidBody

end Multirotor
