import Multirotor.Proofs.Body.Recovery
import Multirotor.Proofs.Body.Reflection

/-!
# Restored axes

Bounds put single axes of the motion back and leave the others as they are, position and velocity in
the ground frame and angular velocity in the frame of the body.  The body keeps its velocity in its
own frame, where putting back one axis of the ground changes all three components.  But the motion
and what the body keeps determine each other (`RigidBody.motion_setMotion`,
`RigidBody.setMotion_motion`) as long as its attitude is orthonormal, so that nothing is lost on the
way and a second restoration finds nothing to do (`RigidBody.restores_axes`).
-/

namespace Multirotor

/-! ## Components along the axes -/

namespace Vec3

/-- The component along an axis. -/
def along {α : Type} (v : Vec3 α) : Axis → α
  | .x => v.x
  | .y => v.y
  | .z => v.z

theorem eq_of_along {α : Type} {v w : Vec3 α} (h : ∀ axis, v.along axis = w.along axis) : v = w :=
  Vec3.ext (h .x) (h .y) (h .z)

end Vec3

theorem Axis.exists_iff {p : Axis → Prop} : (∃ axis, p axis) ↔ p .x ∨ p .y ∨ p .z := by
  constructor
  · rintro ⟨axis, h⟩
    cases axis with
    | x => exact .inl h
    | y => exact .inr (.inl h)
    | z => exact .inr (.inr h)
  · rintro (h | h | h)
    · exact ⟨_, h⟩
    · exact ⟨_, h⟩
    · exact ⟨_, h⟩

/-! ## Bounds on a motion -/

namespace Bounds

variable {bounds : Bounds ℝ} {m start : Motion ℝ}

/-- Some component of the motion is beyond its limit. -/
def Exceeded (bounds : Bounds ℝ) (m : Motion ℝ) : Prop :=
  ∃ axis, bounds.positionLimit < |m.position.along axis| ∨
    bounds.velocityLimit < |m.velocity.along axis| ∨
    bounds.angularVelocityLimit < |m.angularVelocity.along axis|

/-- Some flagged component is not where it started. -/
def Strayed (bounds : Bounds ℝ) (start m : Motion ℝ) : Prop :=
  ∃ axis,
    bounds.position.along axis = true ∧ m.position.along axis ≠ start.position.along axis ∨
    bounds.velocity.along axis = true ∧ m.velocity.along axis ≠ start.velocity.along axis ∨
    bounds.angularVelocity.along axis = true ∧
      m.angularVelocity.along axis ≠ start.angularVelocity.along axis

/-- Every flagged component is back at its start, and every other one is as it was. -/
structure Restores (bounds : Bounds ℝ) (start m restored : Motion ℝ) : Prop where
  position (axis : Axis) : restored.position.along axis =
    if bounds.position.along axis then start.position.along axis else m.position.along axis
  velocity (axis : Axis) : restored.velocity.along axis =
    if bounds.velocity.along axis then start.velocity.along axis else m.velocity.along axis
  angularVelocity (axis : Axis) : restored.angularVelocity.along axis =
    if bounds.angularVelocity.along axis then start.angularVelocity.along axis
    else m.angularVelocity.along axis

theorem exceeds_iff (limit : ℝ) (v : Vec3 ℝ) :
    exceeds limit v = true ↔ ∃ axis, limit < |v.along axis| := by
  simp [exceeds, Vec3.toList, Axis.exists_iff, Vec3.along]

theorem isDiverged_iff : bounds.isDiverged m = true ↔ bounds.Exceeded m := by
  simp only [isDiverged, Bool.or_eq_true, exceeds_iff, Exceeded, exists_or, or_assoc]

theorem anyMoved_iff (flags : Vec3 Bool) (value start : Vec3 ℝ) :
    anyMoved flags value start = true ↔
      ∃ axis, flags.along axis = true ∧ value.along axis ≠ start.along axis := by
  simp [anyMoved, moved, Axis.exists_iff, Vec3.along, or_assoc]

theorem along_putBack (flags : Vec3 Bool) (value start : Vec3 ℝ) (axis : Axis) :
    (putBack flags value start).along axis =
      if flags.along axis then start.along axis else value.along axis := by
  have hone (flag : Bool) (x s : ℝ) :
      (if moved flag x s then s else x) = if flag then s else x := by
    cases flag with
    | false => rfl
    | true =>
      by_cases h : x = s
      · simp [h]
      · simp [moved, h]
  cases axis with
  | x => exact hone _ _ _
  | y => exact hone _ _ _
  | z => exact hone _ _ _

theorem strayed_iff : (bounds.restore m start).2 = true ↔ bounds.Strayed start m := by
  simp only [restore, Bool.or_eq_true, anyMoved_iff, Strayed, exists_or, or_assoc]

theorem restores_restore (bounds : Bounds ℝ) (start m : Motion ℝ) :
    bounds.Restores start m (bounds.restore m start).1 :=
  ⟨along_putBack _ _ _, along_putBack _ _ _, along_putBack _ _ _⟩

namespace Restores

variable {restored restored' : Motion ℝ} (h : bounds.Restores start m restored)

include h

theorem eq (h' : bounds.Restores start m restored') : restored = restored' := by
  have hposition : restored.position = restored'.position :=
    Vec3.eq_of_along fun axis => (h.position axis).trans (h'.position axis).symm
  have hvelocity : restored.velocity = restored'.velocity :=
    Vec3.eq_of_along fun axis => (h.velocity axis).trans (h'.velocity axis).symm
  have hangular : restored.angularVelocity = restored'.angularVelocity :=
    Vec3.eq_of_along fun axis => (h.angularVelocity axis).trans (h'.angularVelocity axis).symm
  cases restored
  cases restored'
  cases hposition
  cases hvelocity
  cases hangular
  rfl

/-- Nothing is left to put back. -/
theorem self : bounds.Restores start restored restored where
  position axis := by
    split_ifs with hflag
    · rw [h.position, if_pos hflag]
    · rfl
  velocity axis := by
    split_ifs with hflag
    · rw [h.velocity, if_pos hflag]
    · rfl
  angularVelocity axis := by
    split_ifs with hflag
    · rw [h.angularVelocity, if_pos hflag]
    · rfl

end Restores

/-- A motion is its own restoration where nothing flagged has moved. -/
theorem restores_self_iff : bounds.Restores start m m ↔ ¬ bounds.Strayed start m := by
  have hkept {flag : Bool} {x s : ℝ} : x = (if flag then s else x) ↔ ¬ (flag = true ∧ x ≠ s) := by
    cases flag <;> simp
  constructor
  · rintro h ⟨axis, hp | hv | hw⟩
    · exact hkept.1 (h.position axis) hp
    · exact hkept.1 (h.velocity axis) hv
    · exact hkept.1 (h.angularVelocity axis) hw
  · intro h
    exact
      { position := fun axis => hkept.2 fun hp => h ⟨axis, .inl hp⟩
        velocity := fun axis => hkept.2 fun hv => h ⟨axis, .inr (.inl hv)⟩
        angularVelocity := fun axis => hkept.2 fun hw => h ⟨axis, .inr (.inr hw)⟩ }

theorem restore_eq_self_iff : (bounds.restore m start).1 = m ↔ ¬ bounds.Strayed start m := by
  rw [← restores_self_iff]
  constructor
  · intro h
    have hrestores := bounds.restores_restore start m
    rwa [h] at hrestores
  · exact (bounds.restores_restore start m).eq

theorem not_strayed_restore : ¬ bounds.Strayed start (bounds.restore m start).1 :=
  restores_self_iff.1 (bounds.restores_restore start m).self

end Bounds

/-! ## The motion of a body -/

/-- An attitude is proper when its matrix is orthonormal. -/
theorem Attitude.isProper_of_orthonormal {a : Attitude ℝ}
    (h : a.rotation.transpose * a.rotation = .diagonal (.all 1)) : a.IsProper := by
  cases a with
  | euler _ => trivial
  | quaternion q =>
    change q.rotation.transpose * q.rotation = .diagonal (.all 1) at h
    rw [q.transpose_mul_rotation] at h
    have hsquare : q.normSq * q.normSq = 1 := congrArg (·.r1.x) h
    have hnonneg : 0 ≤ q.normSq := by
      unfold Quaternion.normSq
      linarith [mul_self_nonneg q.i, mul_self_nonneg q.j, mul_self_nonneg q.k, mul_self_nonneg q.w]
    rcases mul_self_eq_one_iff.1 hsquare with hone | hneg
    · exact hone
    · linarith

namespace RigidBody

variable {b : RigidBody ℝ} {bounds : Bounds ℝ}

section Proper

variable (h : b.attitude.IsProper)

include h

theorem motion_setMotion (m : Motion ℝ) : (b.setMotion m).motion = m := by
  change ({ m with velocity := (b.setGroundVelocity m.velocity).groundVelocity } : Motion ℝ) = m
  rw [groundVelocity_setGroundVelocity h]

theorem setMotion_motion : b.setMotion b.motion = b :=
  setGroundVelocity_groundVelocity h

theorem setMotion_eq_self_iff {m : Motion ℝ} : b.setMotion m = b ↔ m = b.motion := by
  constructor
  · intro hm
    rw [← motion_setMotion h m, hm]
  · rintro rfl
    exact setMotion_motion h

end Proper

/-! ## Putting a body back -/

section Bounded

variable (hbounds : b.options.bounds = some bounds)

include hbounds

theorem forceRestore_eq : b.forceRestore = b.setMotion (bounds.restore b.motion b.start).1 := by
  simp only [forceRestore, hbounds]

open Classical in
/-- The last stage of a tick. -/
theorem confined_eq : b.confined =
    if bounds.Exceeded b.motion ∧ bounds.Strayed b.start b.motion then
      (b.forceRestore, [.restored (bounds.restore b.motion b.start).1])
    else (b, []) := by
  simp only [confined, hbounds, confine, Bounds.confine]
  by_cases hexceeded : bounds.Exceeded b.motion
  · rw [if_pos (Bounds.isDiverged_iff.2 hexceeded)]
    rcases hrestore : bounds.restore b.motion b.start with ⟨motion, moved⟩
    have hmoved : moved = true ↔ bounds.Strayed b.start b.motion := by
      rw [← Bounds.strayed_iff, hrestore]
    cases moved with
    | true => rw [if_pos ⟨hexceeded, hmoved.1 rfl⟩, forceRestore_eq hbounds, hrestore]
    | false => rw [if_neg fun h => Bool.false_ne_true (hmoved.2 h.2)]
  · rw [if_neg (mt Bounds.isDiverged_iff.1 hexceeded), if_neg fun h => hexceeded h.1]

variable (h : b.attitude.IsProper)

include h

theorem motion_forceRestore : b.forceRestore.motion = (bounds.restore b.motion b.start).1 := by
  rw [forceRestore_eq hbounds, motion_setMotion h]

theorem forceRestore_eq_self_iff : b.forceRestore = b ↔ ¬ bounds.Strayed b.start b.motion := by
  rw [forceRestore_eq hbounds, setMotion_eq_self_iff h, Bounds.restore_eq_self_iff]

end Bounded

/-- The stage of a tick that looks at the bounds acts on a body with an orthonormal attitude exactly
when some component of its motion is beyond a limit and some flagged one is not where it started.
It then does what `forceRestore` does in any case: every flagged axis is back at its start, every
other one as it was, and nothing but the motion is touched.  Another restoration, forced or in a
tick, finds nothing to do. -/
theorem restores_axes (hbounds : b.options.bounds = some bounds)
    (hattitude : b.attitude.rotation.transpose * b.attitude.rotation = .diagonal (.all 1)) :
    let restored := b.forceRestore
    (b.confined.1 ≠ b ↔ bounds.Exceeded b.motion ∧ bounds.Strayed b.start b.motion) ∧
    (b.confined.1 ≠ b → b.confined.1 = restored) ∧
    bounds.Restores b.start b.motion restored.motion ∧
    restored = { b with
      position := restored.position
      velocity := restored.velocity
      angularVelocity := restored.angularVelocity } ∧
    restored.forceRestore = restored ∧ restored.confined = (restored, []) ∧
    ∀ input, b.placement input = none →
      let settled := b.unconfined input
      (b.run input).1 = settled.confined.1 ∧
      settled.options.bounds = some bounds ∧ settled.start = b.start ∧
      settled.attitude.rotation.transpose * settled.attitude.rotation = .diagonal (.all 1) := by
  intro restored
  have hproper : b.attitude.IsProper := Attitude.isProper_of_orthonormal hattitude
  have hmotion : restored.motion = (bounds.restore b.motion b.start).1 :=
    motion_forceRestore hbounds hproper
  have hframe : restored = b.setMotion (bounds.restore b.motion b.start).1 :=
    forceRestore_eq hbounds
  have hbounds' : restored.options.bounds = some bounds := by rw [hframe]; exact hbounds
  have hproper' : restored.attitude.IsProper := by rw [hframe]; exact hproper
  have hsettled : ¬ bounds.Strayed restored.start restored.motion := by
    have hstart : restored.start = b.start := by rw [hframe]; rfl
    rw [hmotion, hstart]
    exact Bounds.not_strayed_restore
  have hchanged : b.confined.1 ≠ b ↔
      bounds.Exceeded b.motion ∧ bounds.Strayed b.start b.motion := by
    rw [confined_eq hbounds]
    split_ifs with hout
    · exact iff_of_true (fun h => (forceRestore_eq_self_iff hbounds hproper).1 h hout.2) hout
    · exact iff_of_false (not_not_intro rfl) hout
  refine ⟨hchanged, fun hne => ?_, ?_, ?_, (forceRestore_eq_self_iff hbounds' hproper').2 hsettled,
    ?_, fun input hfree => ⟨run_eq_confined hfree, ?_, b.start_unconfined input, ?_⟩⟩
  · rw [confined_eq hbounds, if_pos (hchanged.1 hne)]
  · rw [hmotion]
    exact bounds.restores_restore b.start b.motion
  · rw [hframe]
    rfl
  · rw [confined_eq hbounds', if_neg fun hout => hsettled hout.2]
  · rw [options_unconfined, hbounds]
  · have hrotation : (b.unconfined input).attitude.IsProper := by
      rw [unconfined, attitude_hit, attitude_held, attitude_integrate]
      exact hproper.advance _ _
    exact hrotation.isRotation.transpose_mul_self

/-- A body that is too high flies where its raised nose points.  Without its velocity along one axis
of the ground it goes straight up, as fast as before, and no longer along its nose. -/
theorem restores_axes_raised :
    let q : Quaternion ℝ := ⟨0, 3 / 5, 0, 4 / 5⟩
    let bounds : Bounds ℝ :=
      { position := ⟨false, true, false⟩
        velocity := ⟨true, false, false⟩
        angularVelocity := .all false
        positionLimit := 10
        velocityLimit := 100
        angularVelocityLimit := 100 }
    let b : RigidBody ℝ :=
      { airframe :=
          { mass := 1, inertia := ⟨1, 2, 3⟩, gravity := 9.81, drag := 0, rotorRadius := 0.05 }
        options := { BodyOptions.none with bounds := some bounds }
        dt := 0.01
        position := ⟨1, 2, -30⟩
        velocity := ⟨25, 0, 0⟩
        angularVelocity := ⟨3, 4, 5⟩
        acceleration := 0
        attitude := .quaternion q
        start := 0
        startAngles := 0
        pending := none }
    b.options.bounds = some bounds ∧
      b.attitude.rotation.transpose * b.attitude.rotation = .diagonal (.all 1) ∧
      b.motion =
        { position := ⟨1, 2, -30⟩, velocity := ⟨7, 0, -24⟩, angularVelocity := ⟨3, 4, 5⟩ } ∧
      b.confined.1.motion =
        { position := ⟨1, 0, -30⟩, velocity := ⟨0, 0, -24⟩, angularVelocity := ⟨3, 4, 5⟩ } ∧
      b.confined.1.velocity = ⟨576 / 25, 0, -(168 / 25)⟩ := by
  intro q bounds b
  have hq : q.normSq = 1 := by norm_num [q, Quaternion.normSq]
  have hproper : b.attitude.IsProper := hq
  have hrotation : b.attitude.rotation =
      ⟨⟨7 / 25, 0, 24 / 25⟩, ⟨0, 1, 0⟩, ⟨-(24 / 25), 0, 7 / 25⟩⟩ := by
    change q.rotation = _
    ext <;> norm_num [q, Quaternion.rotation]
  have hmotion : b.motion =
      { position := ⟨1, 2, -30⟩, velocity := ⟨7, 0, -24⟩, angularVelocity := ⟨3, 4, 5⟩ } := by
    have hvelocity : b.groundVelocity = ⟨7, 0, -24⟩ := by
      rw [groundVelocity, hrotation]
      ext <;> norm_num [b, Mat3.apply, Vec3.dot]
    rw [motion, hvelocity]
  have hexceeded : bounds.Exceeded b.motion := by
    rw [hmotion]
    exact ⟨.z, .inl (by norm_num [bounds, Vec3.along])⟩
  have hstrayed : bounds.Strayed b.start b.motion := by
    rw [hmotion]
    exact ⟨.y, .inl ⟨rfl, (two_ne_zero : (2 : ℝ) ≠ 0)⟩⟩
  have horthonormal := hproper.isRotation.transpose_mul_self
  obtain ⟨hchanged, hrestored, hrestores, -⟩ := @restores_axes b bounds rfl horthonormal
  have hconfined := hrestored (hchanged.2 ⟨hexceeded, hstrayed⟩)
  have hback : b.confined.1.motion =
      { position := ⟨1, 0, -30⟩, velocity := ⟨0, 0, -24⟩, angularVelocity := ⟨3, 4, 5⟩ } := by
    rw [hconfined]
    refine hrestores.eq ?_
    rw [hmotion]
    exact ⟨fun axis => by cases axis <;> rfl, fun axis => by cases axis <;> rfl,
      fun axis => by cases axis <;> rfl⟩
  refine ⟨rfl, horthonormal, hmotion, hback, ?_⟩
  have hvelocity : b.confined.1.velocity =
      b.attitude.rotation.transpose.apply ⟨0, 0, -24⟩ := by
    rw [hconfined, forceRestore_eq rfl, ← motion_forceRestore rfl hproper, ← hconfined, hback]
    rfl
  rw [hvelocity, hrotation]
  ext <;> norm_num [Mat3.apply, Mat3.transpose, Vec3.dot]

end RigidBody

end Multirotor
